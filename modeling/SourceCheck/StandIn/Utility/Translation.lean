import SourceCheck.StandIn.Shell.Pattern
import SourceCheck.StandIn.Shell.Printf
import SourceCheck.StandIn.Utility.Content

/-! # Translating characters

    Characters of one set are deleted, squeezed, or replaced by those of another
    one at the same place.
-/

namespace SourceCheck.Utility

open SourceCheck SourceCheck.Text SourceCheck.Shell

/-! ## Sets -/

/-- A part of a set of characters. -/
inductive SetPart where
  | chars (cs : List Char)
  /-- A class of characters. -/
  | named (name : String)
  /-- A character some times, or as often as needed. -/
  | repeated (c : Char) (times : Option Nat)

def allChars : List Char := (List.range 256).map Char.ofNat

def classChars? (name : String) : Option (List Char) :=
  (characterClasses.lookup name).map fun holds => allChars.filter holds

/-- A set with its escapes put in place; escaped characters have no other
    meaning.  `fuel` bounds the steps. -/
def setMarks : Nat → List Char → List Mark
  | 0, _ => []
  | fuel + 1, s =>
    match s with
    | [] => []
    | ['\\'] => [('\\', true)]
    | '\\' :: c :: rest =>
      if isOctalChar c then
        let ds := ((c :: rest).take 3).takeWhile isOctalChar
        let n := octalValue ds
        if n < 256 then (Char.ofNat n, true) :: setMarks fuel ((c :: rest).drop ds.length)
        else (Char.ofNat (n / 8), true) :: setMarks fuel ((c :: rest).drop 2)
      else ((letterEscape? c).getD c, true) :: setMarks fuel rest
    | c :: rest => (c, false) :: setMarks fuel rest

/-- The marks between an opening that was read and a closing of a mark and a
    bracket, and what follows. -/
def upToClosing (c : Char) : List Mark → Option (List Mark × List Mark)
  | [] => none
  | m :: rest =>
    match rest with
    | (']', false) :: after =>
      if m = (c, false) then some ([], after)
      else (upToClosing c rest).map fun (inside, after) => (m :: inside, after)
    | _ => (upToClosing c rest).map fun (inside, after) => (m :: inside, after)

/-- A character and how often it stands, after the bracket that opens this, and
    what follows. -/
def readRepeat (s : List Mark) : Option (Char × Option Nat × List Mark) :=
  match s with
  | (c, _) :: ('*', false) :: rest =>
    let ds := rest.takeWhile fun (d, q) => !q && isDigitChar d
    match rest.drop ds.length with
    | (']', false) :: after =>
      let text := ds.map (·.1)
      let n := (numberIn (if text.head? = some '0' then 8 else 10) text).getD 0
      some (c, if n = 0 then none else some n, after)
    | _ => none
  | _ => none

def shownMark (c : Char) : String := String.ofList (if c.toNat < 0x20 then controlEscape c else [c])

/-- What is wrong with a set. -/
inductive SetFault where
  /-- The ends of a range are in the wrong order. -/
  | reversed (low high : Char)
  | classMissing
  | classUnknown (name : String)
  /-- The character of an equivalence class is missing. -/
  | equivalentMissing
  /-- An equivalence class is named by more than a character. -/
  | equivalentLong (name : String)
  deriving DecidableEq, Repr

def SetFault.message (w : World) : SetFault → String
  | .reversed low high => "range-endpoints of '" ++ shownMark low ++ "-" ++ shownMark high
    ++ "' are in reverse collating sequence order"
  | .classMissing => "missing character class name '[::]'"
  | .classUnknown name => "invalid character class " ++ quotedWord w name
  | .equivalentMissing => "missing equivalence class character '[==]'"
  | .equivalentLong name => name ++ ": equivalence class operand must be a single character"

/-- The parts of a set; `fuel` bounds their number. -/
def setParts : Nat → List Mark → Except SetFault (List SetPart)
  | 0, _ => .ok []
  | fuel + 1, s =>
    let plain := fun (s : List Mark) =>
      match s with
      | [] => .ok []
      | (low, _) :: ('-', false) :: (high, _) :: rest =>
        if high < low then .error (.reversed low high)
        else
          (setParts fuel rest).map
            (.chars ((List.range (high.toNat + 1 - low.toNat)).map fun i =>
              Char.ofNat (low.toNat + i)) :: ·)
      | (c, _) :: rest => (setParts fuel rest).map (.chars [c] :: ·)
    match s with
    | ('[', false) :: (':', false) :: rest =>
      match upToClosing ':' rest with
      | some (inside, after) =>
        let name := String.ofList (inside.map (·.1))
        if name.isEmpty then .error .classMissing
        else if (classChars? name).isSome then (setParts fuel after).map (.named name :: ·)
        else .error (.classUnknown name)
      | none => plain s
    | ('[', false) :: ('=', false) :: rest =>
      match upToClosing '=' rest with
      | some ([(c, _)], after) => (setParts fuel after).map (.chars [c] :: ·)
      | some ([], _) => .error .equivalentMissing
      | some (inside, _) => .error (.equivalentLong (String.ofList (inside.map (·.1))))
      | none => plain s
    | ('[', false) :: rest =>
      match readRepeat rest with
      | some (c, times, after) => (setParts fuel after).map (.repeated c times :: ·)
      | none => plain s
    | s => plain s

def readSet (s : String) : Except SetFault (List SetPart) :=
  let marks := setMarks (s.length + 1) s.toList
  setParts (marks.length + 1) marks

/-- The characters of a set in order; one that stands as often as needed fills the
    set up to a length. -/
def charsOf (length : Nat) (parts : List SetPart) : List Char :=
  let known := (parts.map fun
    | .chars cs => cs.length
    | .named name => ((classChars? name).getD []).length
    | .repeated _ times => times.getD 0).foldl (· + ·) 0
  parts.flatMap fun
    | .chars cs => cs
    | .named name => (classChars? name).getD []
    | .repeated c times => List.replicate (times.getD (length - known)) c

def isFilling (parts : List SetPart) : Bool :=
  parts.any fun
    | .repeated _ none => true
    | _ => false

/-- The set has characters that stand several times. -/
def hasRepeats (parts : List SetPart) : Bool :=
  parts.any fun
    | .repeated _ _ => true
    | _ => false

/-- The set has a class with letters of one case only. -/
def hasCase (parts : List SetPart) : Bool :=
  parts.any fun
    | .named name => name == "upper" || name == "lower"
    | _ => false

def hasClass (parts : List SetPart) : Bool :=
  parts.any fun
    | .named _ => true
    | _ => false

/-! ## Changing a text -/

def squeezed (inSet : Char → Bool) (s : List Char) : List Char :=
  (s.foldl (fun (state : List Char × Option Char) c =>
    let (out, last) := state
    if last == some c && inSet c then (out, last) else (c :: out, some c)) ([], none)).1.reverse

/-- What the characters of one set become, given those of another one; the last
    one given for a character counts. -/
def replacement (first second : List Char) (c : Char) : Char :=
  ((first.zip second).reverse.lookup c).getD c

/-- What is wrong with the sets of a translation, or what its first and second set
    are. -/
def translationSets (complement truncates : Bool) (first second : List SetPart) :
    Except String (List Char × List Char) :=
  if hasRepeats first && isFilling first then
    .error "the [c*] repeat construct may not appear in string1"
  else
    let known := charsOf 0 first
    let a := if complement then allChars.filter fun c => !known.contains c else known
    let b := charsOf a.length second
    if hasClass second && !(parts second).all (fun n => n == "upper" || n == "lower") then
      .error ("when translating, the only character classes that may appear in\n"
        ++ "string2 are 'upper' and 'lower'")
    else if hasCase second && !complement && !hasClass first then
      .error "misaligned [:upper:] and/or [:lower:] construct"
    else if b.isEmpty && !a.isEmpty && !truncates then
      .error "when not truncating set1, string2 must be non-empty"
    else if truncates then .ok (a.take b.length, b)
    else
      let last := (b.getLast?).toList
      .ok (a, b ++ (List.replicate (a.length - b.length) last).flatten)
where
  /-- The names of the classes in a set. -/
  parts (s : List SetPart) : List String :=
    s.filterMap fun
      | .named name => some name
      | _ => none

/-- Replaces, squeezes or deletes characters. -/
def tr : Utility := fun name args w =>
  match readFrontOptions [(some 'c', "complement", .nothing), (some 'C', "", .nothing),
      flag 'd' "delete", flag 's' "squeeze-repeats", flag 't' "truncate-set1"] args with
  | .error message => complainUsage 1 name message w
  | .ok o =>
    let deletes := o.has "delete"
    let squeezes := o.has "squeeze-repeats"
    let complement := o.has "complement" || o.has "C"
    let needsTwo := deletes == squeezes
    match o.args with
    | [] => complainUsage 1 name "missing operand" w
    | first :: more =>
      let least := if needsTwo then 1 else 0
      if more.length < least then
        complainUsage 1 name ("missing operand after " ++ quotedWord w first ++ "\n"
          ++ if deletes then "Two strings must be given when both deleting and squeezing repeats."
            else "Two strings must be given when translating.") w
      else
        let most := if deletes && !squeezes then 0 else 1
        match more.drop most with
        | extra :: _ =>
          complainUsage 1 name ("extra operand " ++ quotedWord w extra
            ++ if most = 0 ∧ more.length = 1 then
                "\nOnly one string may be given when deleting without squeezing repeats."
              else "") w
        | [] =>
          match readSet first, (more.head?.getD "" |> readSet) with
          | .error e, _ => complain name (e.message w) w
          | _, .error e => complain name (e.message w) w
          | .ok a, .ok b =>
            let known := charsOf 0 a
            let inFirst := fun c => known.contains c != complement
            let inSecond := fun c => (charsOf 0 b).contains c
            let translates := !deletes && !more.isEmpty
            match if translates then translationSets complement (o.has "truncate-set1") a b
                else .ok ([], []) with
            | .error e => complain name e w
            | .ok (old, new) =>
              let table := allChars.map (replacement old new)
              let change := fun c => (table[c.toNat]?).getD c
              let (s, w) := w.readAll
              let out :=
                if deletes then
                  let kept := s.filter fun c => !inFirst c
                  if squeezes then squeezed inSecond kept else kept
                else if translates then
                  let changed := s.map change
                  if squeezes then squeezed (fun c => new.contains c) changed else changed
                else squeezed inFirst s
              (put out w).withStatus 0

end SourceCheck.Utility
