import SourceCheck.Text.Field
import SourceCheck.Text.Radix
import SourceCheck.Value.Display

/-! # Message templates

    A template holds fields that start with a percent sign.  A field may name a
    member of a mapping; it has flags, a least width, a precision and a letter
    that says how the next argument is shown.  Every argument must be used, and
    there must be one for each field.
-/

namespace SourceCheck.Log.Template

open SourceCheck.Number SourceCheck.Text

/-! ## Faults -/

/-- Why a template cannot be filled. -/
inductive Fault where
  /-- There are fewer arguments than fields. -/
  | tooFew
  /-- There are more arguments than fields. -/
  | tooMany
  /-- A field names a member, and there is no mapping. -/
  | needsMapping
  /-- The template ends inside a field. -/
  | incomplete
  /-- The template ends inside the name of a member. -/
  | incompleteKey
  | noMember (key : String)
  /-- A field names a member, and there is a sequence. -/
  | noIndex
  /-- A width or precision taken from the arguments is no integer. -/
  | starNotInt
  /-- A width taken from the arguments is too large. -/
  | starWidth
  /-- A precision taken from the arguments is too large. -/
  | starPrecision
  | letter (c : Char) (index : Nat)
  | needsNumber (letter : Char) (kind : String)
  | needsInt (letter : Char) (kind : String)
  | needsReal (kind : String)
  | needsChar
  | charRange
  /-- NaN is no integer. -/
  | nanToInt
  | infiniteToInt
  /-- An integer is too large for a floating-point number. -/
  | tooLarge
  | width
  | precision
  deriving DecidableEq, Repr

/-- How a letter is shown in a message: only printable ASCII as itself. -/
def shownLetter (c : Char) : String :=
  if 31 ≤ c.toNat ∧ c.toNat ≤ 126 then String.ofList [c] else "?"

/-- A number in hexadecimal, without zeros in front. -/
def hexText (n : Nat) : String := String.ofList (Nat.toDigits 16 n)

def Fault.message : Fault → String
  | .tooFew => "not enough arguments for format string"
  | .tooMany => "not all arguments converted during string formatting"
  | .needsMapping => "format requires a mapping"
  | .incomplete => "incomplete format"
  | .incompleteKey => "incomplete format key"
  | .noMember key => quoted key
  | .noIndex => "list indices must be integers or slices, not str"
  | .starNotInt => "* wants int"
  | .starWidth => "Python int too large to convert to C ssize_t"
  | .starPrecision => "Python int too large to convert to C int"
  | .letter c index =>
    "unsupported format character '" ++ shownLetter c ++ "' (0x" ++ hexText c.toNat
      ++ ") at index " ++ natText index
  | .needsNumber c kind =>
    "%" ++ String.ofList [c] ++ " format: a real number is required, not " ++ kind
  | .needsInt c kind =>
    "%" ++ String.ofList [c] ++ " format: an integer is required, not " ++ kind
  | .needsReal kind => "must be real number, not " ++ kind
  | .needsChar => "%c requires int or char"
  | .charRange => "%c arg not in range(0x110000)"
  | .nanToInt => "cannot convert float NaN to integer"
  | .infiniteToInt => "cannot convert float infinity to integer"
  | .tooLarge => "int too large to convert to float"
  | .width => "width too big"
  | .precision => "precision too big"

/-! ## Arguments -/

/-- The arguments that are left. -/
inductive Arguments where
  /-- Arguments to be used in order. -/
  | row (left : List Value)
  /-- A mapping, which may also be used once as a whole. -/
  | mapping (members : List (String × Value)) (whole : Option Value)
  | sequence (whole : Option Value)
  deriving Repr

def Arguments.next : Arguments → Except Fault (Value × Arguments)
  | .row (v :: left) => .ok (v, .row left)
  | .row [] => .error .tooFew
  | .mapping members (some v) => .ok (v, .mapping members none)
  | .sequence (some v) => .ok (v, .sequence none)
  | .mapping _ none | .sequence none => .error .tooFew

def Arguments.areUsed : Arguments → Bool
  | .row left => left.isEmpty
  | .mapping _ _ | .sequence _ => true

/-! ## Fields -/

/-- The name of a member up to the closing parenthesis, and what follows; `depth`
    counts the parentheses that are open. -/
def readKey (depth : Nat) (key : List Char) : List Char → Option (List Char × List Char)
  | [] => none
  | '(' :: rest => readKey (depth + 1) ('(' :: key) rest
  | ')' :: rest =>
    match depth with
    | 0 => some (key.reverse, rest)
    | depth + 1 => readKey depth (')' :: key) rest
  | c :: rest => readKey depth (c :: key) rest

def widthLimit : Nat := Nat.pow 2 63 - 1

def precisionLimit : Nat := Nat.pow 2 31 - 1

/-- A width or precision up to a limit: digits, or an argument where a star
    stands.  The faults are those of digits and of an argument beyond the limit. -/
def readCount (limit : Nat) (fault starFault : Fault) (args : Arguments) (s : List Char) :
    Except Fault (Int × Arguments × List Char) :=
  match s with
  | '*' :: rest =>
    match args.next with
    | .error e => .error e
    | .ok (.int n, args) =>
      -- a count must fit the machine's integers, with one more below zero
      if n < -limit - 1 ∨ limit < n then .error starFault else .ok (n, args, rest)
    | .ok (.bool b, args) => .ok (if b then 1 else 0, args, rest)
    | .ok (_, _) => .error .starNotInt
  | s =>
    let ds := s.takeWhile fun c => '0' ≤ c && c ≤ '9'
    let n := decimalValue ds
    if limit < n then .error fault
    else .ok (n, args, s.dropWhile fun c => '0' ≤ c && c ≤ '9')

/-- The width of a field; a negative one fills on the right. -/
def readWidth (flags : Flags) (args : Arguments) (s : List Char) :
    Except Fault (Flags × Nat × Arguments × List Char) :=
  (readCount widthLimit .width .starWidth args s).map fun (n, args, rest) =>
    (if n < 0 then { flags with left := true } else flags, n.natAbs, args, rest)

/-- The precision of a field, if there is one; a negative one counts as zero. -/
def readPrecision (args : Arguments) (s : List Char) :
    Except Fault (Option Nat × Arguments × List Char) :=
  match s with
  | '.' :: rest =>
    (readCount precisionLimit .precision .starPrecision args rest).map fun (n, args, rest) =>
      (some n.toNat, args, rest)
  | s => .ok (none, args, s)

/-- A text without one letter for the size of a number. -/
def skipSize : List Char → List Char
  | c :: rest => if c = 'h' ∨ c = 'l' ∨ c = 'L' then rest else c :: rest
  | [] => []

/-! ## Showing an argument -/

/-- An integer for a letter that takes any number. -/
def toInt (letter : Char) : Value → Except Fault Int
  | .int n => .ok n
  | .bool b => .ok (if b then 1 else 0)
  | .double x =>
    match x with
    | .nan => .error .nanToInt
    | .infinite _ => .error .infiniteToInt
    | x => .ok (x.toInt?.getD 0)
  | v => .error (.needsNumber letter v.kindName)

/-- An integer for a letter that takes nothing else. -/
def toExactInt (letter : Char) : Value → Except Fault Int
  | .int n => .ok n
  | .bool b => .ok (if b then 1 else 0)
  | v => .error (.needsInt letter v.kindName)

/-- A floating-point number. -/
def toReal : Value → Except Fault Double
  | .int n =>
    let x := Double.ofInt n
    if x.isFinite then .ok x else .error .tooLarge
  | .bool b => .ok (Double.ofInt (if b then 1 else 0))
  | .double x => .ok x
  | v => .error (.needsReal v.kindName)

def toChar : Value → Except Fault Char
  | .text s =>
    match s.toList with
    | [c] => .ok c
    | _ => .error .needsChar
  | .int n => if 0 ≤ n ∧ n < 0x110000 then .ok (Char.ofNat n.toNat) else .error .charRange
  | .bool b => .ok (Char.ofNat (if b then 1 else 0))
  | _ => .error .needsChar

/-- The start of a text that the precision of a field leaves. -/
def cut (f : Field) (s : String) : List Char :=
  match f.precision with
  | some n => s.toList.take n
  | none => s.toList

/-- An argument as its field shows it; `index` is the place of the letter in the
    template. -/
def showValue (f : Field) (index : Nat) (v : Value) : Except Fault (List Char) :=
  let c := f.letter
  let text := fun (s : List Char) => fill f false ⟨none, [], s⟩
  -- texts take a precision as a cut, numbers take it as digits
  if c = 's' then .ok (text (cut f v.display))
  else if c = 'r' then .ok (text (cut f v.describe))
  else if c = 'a' then .ok (text (cut f (toAscii v.describe)))
  else if c = 'd' ∨ c = 'i' ∨ c = 'u' then
    (toInt c v).map fun n => fill f true (showInt f 10 [] n)
  else if c = 'o' then (toExactInt c v).map fun n => fill f true (showInt f 8 ['0', 'o'] n)
  else if c = 'x' then (toExactInt c v).map fun n => fill f true (showInt f 16 ['0', 'x'] n)
  else if c = 'X' then
    (toExactInt c v).map fun n => fill f true (showInt f 16 ['0', 'x'] n).inCapitals
  else if c = 'e' ∨ c = 'f' ∨ c = 'g' then (toReal v).map fun x => fill f true (showReal f x)
  else if c = 'E' ∨ c = 'F' ∨ c = 'G' then
    (toReal v).map fun x => fill f true (showReal f x).inCapitals
  else if c = 'c' then (toChar v).map fun c => text [c]
  else .error (.letter c index)

/-! ## Filling -/

/-- The arguments with the member of a name as the next one. -/
def Arguments.select (key : String) : Arguments → Except Fault Arguments
  | .row _ => .error .needsMapping
  | .sequence _ => .error .noIndex
  | .mapping members _ =>
    match Value.lookup key members with
    | none => .error (.noMember key)
    | some v => .ok (.mapping members (some v))

def Arguments.haveParts : Arguments → Bool
  | .row _ => false
  | .mapping _ _ | .sequence _ => true

/-- The arguments for a field that may name a member, and what follows the
    name. -/
def readMember (args : Arguments) (s : List Char) : Except Fault (Arguments × List Char) :=
  match s with
  | '(' :: rest =>
    if !args.haveParts then .error .needsMapping
    else match readKey 0 [] rest with
      | none => .error .incompleteKey
      | some (key, rest) => (args.select (String.ofList key)).map (·, rest)
  | s => .ok (args, s)

/-- A field after its percent sign: what it shows, the arguments left and what
    follows.  `length` is the length of the template. -/
def fillField (length : Nat) (args : Arguments) (s : List Char) :
    Except Fault (List Char × Arguments × List Char) :=
  match readMember args s with
  | .error e => .error e
  | .ok (args, s) =>
    let (flags, s) := readFlags ⟨false, false, false, false, false⟩ s
    match readWidth flags args s with
    | .error e => .error e
    | .ok (flags, width, args, s) =>
      match readPrecision args s with
      | .error e => .error e
      | .ok (precision, args, s) =>
        match skipSize s with
        | [] => .error .incomplete
        | letter :: rest =>
          match args.next with
          | .error e => .error e
          | .ok (v, args) =>
            (showValue ⟨flags, width, precision, letter⟩ (length - rest.length - 1) v).map
              fun shown => (shown, args, rest)

/-- The rest of a template; `out` is what was shown before, the last character
    first, and `fuel` bounds the number of steps. -/
def fillFrom (length : Nat) : Nat → List Char → Arguments → List Char → Except Fault String
  | 0, out, _, _ => .ok (String.ofList out.reverse)
  | fuel + 1, out, args, s =>
    match s with
    | [] => if args.areUsed then .ok (String.ofList out.reverse) else .error .tooMany
    | '%' :: '%' :: rest => fillFrom length fuel ('%' :: out) args rest
    | '%' :: rest =>
      match fillField length args rest with
      | .error e => .error e
      | .ok (shown, args, rest) => fillFrom length fuel (shown.reverse ++ out) args rest
    | c :: rest => fillFrom length fuel (c :: out) args rest

/-- A single value as the arguments of a message; one that does not count as true is
    none. -/
def argumentsOf (v : Value) : Option Arguments :=
  if !v.isTruthy then none
  else match v with
    | .map members => some (.mapping members (some v))
    | .list _ => some (.sequence (some v))
    | v => some (.row [v])

/-- Values in a row as the arguments of a message: a single mapping that is not empty
    is used by its members. -/
def argumentsIn : List Value → Option Arguments
  | [] => none
  | [.map (m :: rest)] => argumentsOf (.map (m :: rest))
  | vs => some (.row vs)

/-- A message: the template as it is if there are no arguments, else filled. -/
def message (template : String) (args : Option Arguments) : Except Fault String :=
  match args with
  | none => .ok template
  | some args =>
    let cs := template.toList
    fillFrom cs.length (cs.length + 1) [] args cs

end SourceCheck.Log.Template
