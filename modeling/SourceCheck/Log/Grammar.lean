import SourceCheck.Log.RaisedFault
import SourceCheck.Text.Blank

/-! # Faults in a program text

    A fault in a program text may say where it is: in which file, on which line
    and at which columns.  It is then told on lines of their own, the file and the
    line first, then the text of that line with marks below the columns, and what
    is wrong last.  The parts of a place are values of any kind; one that is of no
    use is found when it is told.
-/

namespace SourceCheck.Log

open SourceCheck.Number SourceCheck.Text

/-- A place in a program text. -/
structure Place where
  file : Value
  line : Value
  first : Value
  text : Value
  last : Value
  deriving Repr

namespace Place

def nowhere : Place := ⟨.null, .null, .null, .null, .null⟩

def ofParts : List Value → Except RaisedFault Place
  | [file, line, first, text] => .ok ⟨file, line, first, text, .null⟩
  | [_, _, _, _, _] => .error .noLastColumn
  | [file, line, first, text, _, last] => .ok ⟨file, line, first, text, last⟩
  | parts =>
    if parts.length < 4 then .error (.tooFewParts parts.length)
    else .error (.tooManyParts parts.length)

def ofValue (v : Value) : Except RaisedFault Place :=
  match v.items? with
  | some parts => ofParts parts
  | none => .error (.noParts v.kindName)

/-! ## Columns -/

/-- A column: an integer, or a number with a fraction. -/
inductive Column where
  | whole (n : Int)
  | broken (x : Double)
  deriving Repr

def column? : Value → Option Column
  | .bool b => some (.whole (if b then 1 else 0))
  | .int n => some (.whole n)
  | .double x => some (.broken x)
  | _ => none

def isInt (x : Double) (n : Int) : Bool := x.isIntegral && x.toInt? == some n

/-- A number is at least some column. -/
def reaches (n : Nat) : Double → Bool
  | .infinite negative => !negative
  | x => x.toInt?.any ((n : Int) ≤ ·)

def sameColumn : Value → Value → Bool
  | .text s, .text t => s == t
  | .text s, .severity t | .severity t, .text s => s == t.name
  | .severity s, .severity t => s == t
  | .path p, .path q => p == q
  | v, w =>
    match column? v, column? w with
    -- numbers compare by value: a whole number may equal a broken one
    | some (.whole n), some (.whole m) => n == m
    | some (.whole n), some (.broken x) | some (.broken x), some (.whole n) => isInt x n
    | some (.broken x), some (.broken y) => x.isIntegral && y.isIntegral && x.toInt? == y.toInt?
    | _, _ => false

def sumKind : Value → String
  | .severity _ => "str"
  | v => v.kindName

/-- The last column that counts: none if it is nothing or zero. -/
def last? (p : Place) : Except TellingFault (Option Value) :=
  match p.last with
  | .list _ | .map _ => .error (.noLookup p.last.kindName)
  | v => .ok (if v.isNull || sameColumn v (.int 0) then none else some v)

/-- The marks below a text from a whole column on: as far as the last column reaches, and
    at least one where it is missing, before the text or the same. -/
def marksFrom (n : Int) (last : Option Value) (shown : List Char) (cut : Nat) :
    Except TellingFault (List String) :=
  let start := n - 1 - cut
  -- blanks in front of the marks keep tabs, so that both lines stay aligned
  let lead := (shown.take start.toNat).map fun c => if isBlank c then c else ' '
  let line (count : Int) : Except TellingFault (List String) :=
    if start < 0 then .ok []
    else if count < -(Nat.pow 2 63) ∨ (Nat.pow 2 63 : Int) ≤ count then .error .tooOften
    else .ok ["    " ++ String.ofList (lead ++ List.replicate count.toNat '^')]
  match last with
  | none => line 1
  | some v =>
    -- an end column of -1 stands for none
    if sameColumn v (.int n) || sameColumn v (.int (-1)) then line 1
    else match column? v with
      | some (.whole m) => line (m - n)
      | some (.broken _) => if start < 0 then .ok [] else .error .repeatedByFraction
      | none => .error (.noDifference v.kindName)

/-- The line with the marks below a text that was cut at its start. -/
def marks (p : Place) (shown : List Char) (cut : Nat) : Except TellingFault (List String) :=
  if p.first.isNull then .ok []
  else match p.last? with
    | .error f => .error f
    | .ok last =>
      match column? p.first with
      | some (.whole n) => marksFrom n last shown cut
      -- a broken column cannot cut the line, and it fails only if it would have to
      | some (.broken x) =>
        match last.map column? with
        | some none => .error (.noDifference p.last.kindName)
        | _ => if reaches (1 + cut) x then .error .cutAtFraction else .ok []
      | none =>
        match last with
        | none => .error (.noSum (sumKind p.first))
        | some v =>
          if sameColumn p.first v || sameColumn v (.int (-1)) then
            .error (.noSum (sumKind p.first))
          else .error (.noDifference p.first.kindName)

/-! ## Lines -/

/-- The line that names the file, if the line in it is known. -/
def fileLines (p : Place) : List String :=
  if p.line.isNull then []
  else ["  File \"" ++ (if p.file.isTruthy then p.file.display else "<string>") ++ "\", line "
    ++ p.line.display]

/-- The file after what is wrong, if the line in it is not known. -/
def fileEnd (p : Place) : String :=
  if p.line.isNull && !p.file.isNull then " (" ++ p.file.display ++ ")" else ""

def textLines (p : Place) : Except TellingFault (List String) :=
  match p.text with
  | .null => .ok []
  | .text s => shownLines s.toList
  | .severity s => shownLines s.name.toList
  | v => .error (.lacks v.kindName "rstrip")
where
  /-- The line of a text, without blanks at its start, and the marks below it. -/
  shownLines (s : List Char) : Except TellingFault (List String) :=
    let whole := trimEnd (· == '\n') s
    let shown := trimStart (fun c => c == ' ' || c == '\n' || c.toNat == 0x0c) whole
    (p.marks shown (whole.length - shown.length)).map
      (("    " ++ String.ofList shown) :: ·)

def lines (p : Place) : Except TellingFault (List String) := p.textLines.map (p.fileLines ++ ·)

end Place

/-! ## The fault -/

/-- What is wrong, if anything is said. -/
def grammarText : List Value → String
  | v :: _ => if v.isTruthy then v.display else "<no detail available>"
  | [] => "<no detail available>"

/-- The place of a fault: the second of two arguments. -/
def placeOf : List Value → Except RaisedFault Place
  | [_, place] => Place.ofValue place
  | _ => .ok .nowhere

/-- The lines that tell a fault of some kind in a program text. -/
def grammarLines (kind : String) (args : List Value) (p : Place) :
    Except TellingFault (List String) :=
  p.lines.map (· ++ [kind ++ ": " ++ grammarText args ++ p.fileEnd])

end SourceCheck.Log
