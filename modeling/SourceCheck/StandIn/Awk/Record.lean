import SourceCheck.StandIn.Awk.Value
import SourceCheck.StandIn.Awk.Reader
import SourceCheck.StandIn.Regex.Matching

/-! # Records and fields

    A text is cut into records, and a record into fields, at separators: at blanks, at
    every character, or where a regular expression matches.  Fields and the text of
    their record follow one another: the one is made from the other when it is asked
    for.
-/

namespace SourceCheck.Awk

open SourceCheck SourceCheck.Shell

/-! ## Matches -/

def subjectOf (s : List Char) : Regex.Subject :=
  ⟨(Regex.toLetters false s).toArray, false, false, false⟩

/-- The first match from a place on, as its start and its end; `fuel` bounds the
    places. -/
def findFrom? (s : Regex.Subject) (r : Regex) : Nat → Nat → Option (Nat × Nat)
  | 0, _ => none
  | fuel + 1, start =>
    if s.size < start then none
    else match (Regex.reach s r [start]).getLast? with
      | some stop => some (start, stop)
      | none => findFrom? s r fuel (start + 1)

def find? (s : Regex.Subject) (r : Regex) (start : Nat) : Option (Nat × Nat) :=
  findFrom? s r (s.size + 1 - start) start

def hasMatch (r : Regex) (s : List Char) : Bool := (find? (subjectOf s) r 0).isSome

/-! ## Separators -/

/-- What separates fields. -/
inductive Separator where
  | blanks
  /-- Nothing: each character is a field. -/
  | nothing
  | found (r : Regex)
  deriving Repr

/-- The separator that a text writes: a single character stands for itself unless it
    is a space. -/
def separatorOf (s : List Char) : Except String Separator :=
  match s with
  | [' '] => .ok .blanks
  | [] => .ok .nothing
  | [c] => .ok (.found (.ofText (Regex.toLetters false [c])))
  | s => (readRegex s).map .found

def isFieldBlank (c : Char) : Bool := c == ' ' || c == '\t' || c == '\n'

/-- The parts of a text between blanks; `word` is the part before, if one has begun,
    the last character first. -/
def splitBlanks : Option (List Char) → List Char → List (List Char)
  | word, [] => (word.map List.reverse).toList
  | word, c :: rest =>
    if isFieldBlank c then (word.map List.reverse).toList ++ splitBlanks none rest
    else splitBlanks (some (c :: word.getD [])) rest

/-- The parts of a text between matches that are not empty, from a place on; `fuel`
    bounds them. -/
def splitFound (s : Regex.Subject) (r : Regex) : Nat → Nat → Nat → List (List Char)
  | 0, start, _ => [Regex.ofLetters (s.slice start s.size)]
  | fuel + 1, start, place =>
    match find? s r place with
    | none => [Regex.ofLetters (s.slice start s.size)]
    | some (i, j) =>
      if i = j then splitFound s r fuel start (j + 1)
      else Regex.ofLetters (s.slice start i) :: splitFound s r fuel j j

def Separator.split (sep : Separator) (s : List Char) : List (List Char) :=
  if s.isEmpty then []
  else match sep with
    | .blanks => splitBlanks none s
    | .nothing => s.map fun c => [c]
    | .found r =>
      let subject := subjectOf s
      splitFound subject r (subject.size + 1) 0 0

/-! ## Records -/

/-- A record with its fields. -/
structure Record where
  /-- Its text, unless it is made from the fields. -/
  text : List Char
  fields : Array Value
  isSplit : Bool
  isStale : Bool
  deriving Inhabited

namespace Record

def ofText (s : List Char) : Record := ⟨s, #[], false, false⟩

def split (sep : Separator) (r : Record) : Record :=
  if r.isSplit then r
  else { r with fields := ((sep.split r.text).map Value.input).toArray, isSplit := true }

def joined (template between : List Char) (r : Record) : Record :=
  if r.isStale then
    { r with
      text := between.intercalate (r.fields.toList.map (Value.toText template))
      isStale := false }
  else r

def resized (n : Nat) (fields : Array Value) : Array Value :=
  fields.extract 0 n ++ Array.replicate (n - fields.size) (.text [])

def setCount (n : Nat) (r : Record) : Record :=
  { r with fields := resized n r.fields, isStale := true }

/-- A field is set; those that are missing before it are empty. -/
def setField (n : Nat) (v : Value) (r : Record) : Record :=
  let fields := if r.fields.size < n then resized n r.fields else r.fields
  { r with fields := fields.setIfInBounds (n - 1) v, isStale := true }

end Record

/-! ## Streams -/

/-- A text that is read record by record. -/
structure Stream where
  letters : Array Char
  position : Nat
  deriving Inhabited

/-- What ends records. -/
inductive Ending where
  | letter (c : Char)
  | emptyLines
  | found (r : Regex)

def endingOf (s : List Char) : Except String Ending :=
  match s with
  | [] => .ok .emptyLines
  | [c] => .ok (.letter c)
  | s => (readRegex s).map .found

namespace Stream

def ofText (s : List Char) : Stream := ⟨s.toArray, 0⟩

/-- The first place from one on with a character; `fuel` bounds the places. -/
def placeOf (letters : Array Char) (c : Char) : Nat → Nat → Nat
  | 0, p => p
  | fuel + 1, p => if letters[p]?.all (· == c) then p else placeOf letters c fuel (p + 1)

/-- The first place from one on where a line feed does not stand. -/
def afterFeeds (letters : Array Char) : Nat → Nat → Nat
  | 0, p => p
  | fuel + 1, p => if letters[p]? == some '\n' then afterFeeds letters fuel (p + 1) else p

/-- The first place from one on where two line feeds stand; `fuel` bounds the
    places. -/
def emptyLine (letters : Array Char) : Nat → Nat → Nat
  | 0, p => p
  | fuel + 1, p =>
    if letters.size ≤ p then letters.size
    else if letters[p]? == some '\n' && letters[p + 1]?.all (· == '\n') then p
    else emptyLine letters fuel (p + 1)

def next? (ending : Ending) (s : Stream) : Option (List Char × Stream) :=
  let size := s.letters.size
  let left := size - s.position
  let record := fun (start stop after : Nat) =>
    ((s.letters.extract start stop).toList, { s with position := after })
  match ending with
  | .letter c =>
    if left = 0 then none
    else
      let stop := placeOf s.letters c left s.position
      some (record s.position stop (stop + 1))
  | .emptyLines =>
    let start := afterFeeds s.letters left s.position
    if size ≤ start then none
    else
      let stop := emptyLine s.letters left start
      some (record start stop (afterFeeds s.letters (size - stop) stop))
  | .found r =>
    if left = 0 then none
    else
      let rest := (s.letters.extract s.position size).toList
      match find? (subjectOf rest) r 0 with
      | some (i, j) =>
        if i = j then some (record s.position size size)
        else some (record s.position (s.position + i) (s.position + j))
      | none => some (record s.position size size)

end Stream

end SourceCheck.Awk
