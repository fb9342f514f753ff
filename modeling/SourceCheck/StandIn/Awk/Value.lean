import SourceCheck.StandIn.Awk.Syntax
import SourceCheck.StandIn.Awk.Token
import SourceCheck.Number.Reading
import SourceCheck.StandIn.Shell.Numeral
import SourceCheck.StandIn.Shell.Octets
import SourceCheck.StandIn.Shell.Printf

/-! # Values

    A value is a number or a text.  Texts from outside count as numbers in comparisons
    if they look like one.  Numbers become texts by a template for one number.
-/

namespace SourceCheck.Awk

open SourceCheck SourceCheck.Number SourceCheck.Shell SourceCheck.Text

inductive Value where
  /-- Nothing was assigned: an empty text and zero. -/
  | nothing
  | number (x : Double)
  | text (s : List Char)
  | input (s : List Char)
  deriving Repr, Inhabited

/-! ## Numbers in texts -/

def leadingNumber (s : List Char) : Double := (readReal s).value

/-- The number that a text from outside looks like: between blanks it starts with a
    digit, a sign or a point and ends with a digit or a point. -/
def wholeNumber? (s : List Char) : Option Double :=
  let body := s.dropWhile isAsciiSpace
  let body := (body.reverse.dropWhile isAsciiSpace).reverse
  let starts := fun (s : List Char) => s.head?.any fun c => isDigitChar c || c == '.'
  let startsNumber := match body with
    | '+' :: rest | '-' :: rest => starts rest
    | rest => starts rest
  let endsNumber := body.getLast?.any fun c => isDigitChar c || c == '.'
  if startsNumber && endsNumber then
    let r := readReal body
    if r.isThere && r.rest.isEmpty then some r.value else none
  else none

/-- The integer that a number is cut to, in the range of 64 bits. -/
def machineInteger (x : Double) : Int :=
  match x with
  | .nan => -(Nat.pow 2 63 : Nat)
  | .infinite negative => if negative then -(Nat.pow 2 63 - 1 : Nat) else (Nat.pow 2 63 - 1 : Nat)
  | .finite negative m e =>
    let n : Int := min (Double.truncate m e) (Nat.pow 2 63 - 1)
    if negative then -n else n

/-! ## Templates -/

/-- What is wrong with a template. -/
inductive TemplateFault where
  | tooFew
  /-- The field of a number is none. -/
  | improper (n : Nat)
  deriving Repr

def Value.toNumber : Value → Double
  | .nothing => .zero false
  | .number x => x
  | .text s | .input s => leadingNumber s

/-- A value in a field; nothing if the letter of the field is none. -/
def showValue (toText : Value → List Char) (f : Field) (v : Value) : Option (List Char) :=
  let c := f.letter
  if c = 's' then some (textField f (cutText f (toText v)))
  else if c = 'c' then
    let letter : Char := match v with
      | .number x => Char.ofNat ((machineInteger x).toNat % 256)
      | .input s => match wholeNumber? s with
        | some x => Char.ofNat ((machineInteger x).toNat % 256)
        | none => s.head?.getD (Char.ofNat 0)
      | v => (toText v).head?.getD (Char.ofNat 0)
    some (textField f [letter])
  else if c = 'd' ∨ c = 'i' then some (integerField f (machineInteger v.toNumber) true)
  else if c = 'o' ∨ c = 'x' ∨ c = 'X' ∨ c = 'u' then
    let n := machineInteger v.toNumber
    some (integerField f (if n < 0 then n + (Nat.pow 2 64 : Nat) else n) false)
  else if c = 'e' ∨ c = 'E' ∨ c = 'f' ∨ c = 'F' ∨ c = 'g' ∨ c = 'G' then
    some (realField f v.toNumber)
  else none

/-- A width or a precision, which may be the next value. -/
def templateSize (values : List Value) (s : List Char) :
    Except TemplateFault (Option Int × List Value × List Char) :=
  match s with
  | '*' :: rest =>
    match values with
    | v :: values => .ok (some (machineInteger v.toNumber), values, rest)
    | [] => .error .tooFew
  | s =>
    let ds := s.takeWhile isDigitChar
    .ok (if ds.isEmpty then none else some (digitsValue ds), values, s.drop ds.length)

/-- The field after a percent sign, with the values that are left and the text from
    its letter on. -/
def templateField (values : List Value) (s : List Char) :
    Except TemplateFault (Field × List Value × List Char) := do
  let (flags, rest) := readFlags ⟨false, false, false, false, false⟩ s
  let (width, values, rest) ← templateSize values rest
  let (precision, values, rest) ← match rest with
    | '.' :: more => do
      let (p, values, rest) ← templateSize values more
      pure (some (p.getD 0), values, rest)
    | rest => pure (none, values, rest)
  let rest := rest.dropWhile fun c => c == 'l' || c == 'h' || c == 'L'
  let width := width.getD 0
  return (
    { flags := { flags with left := flags.left || width < 0 }
      width := width.natAbs
      precision := precision.bind fun p => if p < 0 then none else some p.toNat
      letter := rest.head?.getD ' ' }, values, rest)

/-- Values shown by a template, up to a fault if there is one; `n` is the number of the
    next field, and `fuel` bounds the characters. -/
def fillTemplate (toText : Value → List Char) : Nat → Nat → List Value → List Char →
    List Char × Option TemplateFault
  | 0, _, _, _ => ([], none)
  | fuel + 1, n, values, s =>
    match s with
    | [] => ([], none)
    | '%' :: '%' :: rest =>
      let (shown, fault) := fillTemplate toText fuel n values rest
      ('%' :: shown, fault)
    | ['%'] => (['%'], none)
    | '%' :: rest =>
      match templateField values rest with
      | .error fault => ([], some fault)
      | .ok (field, values, rest) =>
        match showValue toText field (values.head?.getD .nothing), values with
        | none, _ => ([], some (.improper n))
        | some _, [] => ([], some .tooFew)
        | some shown, _ :: values =>
          let (more, fault) := fillTemplate toText fuel (n + 1) values (rest.drop 1)
          (shown ++ more, fault)
    | c :: rest =>
      let (shown, fault) := fillTemplate toText fuel n values rest
      (c :: shown, fault)

/-! ## Texts of numbers -/

/-- A number as a text: an integer as it is, any other one by a template. -/
def numberText (template : List Char) (x : Double) : List Char :=
  let n := machineInteger x
  let isInteger := match Double.order? x (.ofInt n) with
    | some .eq => true
    | _ => false
  if isInteger then (intText n).toList
  else match x with
    | .nan => ['-', 'n', 'a', 'n']
    | x =>
      (fillTemplate (fun _ => []) (template.length + 1) 1 [.number x] template).1

def Value.toText (template : List Char) : Value → List Char
  | .nothing => []
  | .number x => numberText template x
  | .text s | .input s => s

/-- A value counts as true: a number if it is not zero, a text if it is not empty. -/
def Value.isTrue : Value → Bool
  | .nothing => false
  | .number x => !x.isZero
  | .text s => !s.isEmpty
  | .input s => match wholeNumber? s with
    | some x => !x.isZero
    | none => !s.isEmpty

def Value.number? : Value → Option Double
  | .nothing => some (.zero false)
  | .number x => some x
  | .text _ => none
  | .input s => wholeNumber? s

def Value.ofBool (b : Bool) : Value := .number (if b then .ofInt 1 else .ofInt 0)

def Value.ofInt (n : Int) : Value := .number (.ofInt n)

/-- A comparison holds for an order; without one only the difference holds. -/
def Relation.holds (rel : Relation) : Option Ordering → Bool
  | none => rel == .different
  | some o => match rel with
    | .less => o == .lt
    | .atMost => o != .gt
    | .equal => o == .eq
    | .different => o != .eq
    | .greater => o == .gt
    | .atLeast => o != .lt

def textOrder : List Char → List Char → Ordering
  | [], [] => .eq
  | [], _ :: _ => .lt
  | _ :: _, [] => .gt
  | c :: s, d :: t => if c = d then textOrder s t else if c.toNat < d.toNat then .lt else .gt

/-- The order of two values: as numbers if both are or look like numbers, otherwise
    as texts. -/
def Value.order? (template : List Char) (v w : Value) : Option Ordering :=
  match v, w with
  | .nothing, .text s => some (textOrder [] s)
  | .text s, .nothing => some (textOrder s [])
  | v, w =>
    match v.number?, w.number? with
    | some x, some y => Double.order? x y
    | _, _ => some (textOrder (v.toText template) (w.toText template))

def raise (x y : Double) : Double := Double.byMachine2 Float.pow x y

def Operation.apply (op : Operation) (x y : Double) : Double :=
  match op with
  | .add => .add x y
  | .subtract => .subtract x y
  | .multiply => .multiply x y
  | .divide => .divide x y
  | .remainder => .remainder x y
  | .power => raise x y

end SourceCheck.Awk
