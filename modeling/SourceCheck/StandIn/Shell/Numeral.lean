import SourceCheck.Number.Reading

/-! # Numerals in texts

    The integers of a shell have 64 bits.  A numeral may have blanks and a sign in
    front; one that is too great stands for the greatest integer there is.
-/

namespace SourceCheck.Shell

open SourceCheck.Number SourceCheck.Text

def digitIn (base : Nat) (c : Char) : Option Nat :=
  let d :=
    if '0' ≤ c ∧ c ≤ '9' then some (c.toNat - 0x30)
    else if 'a' ≤ c ∧ c ≤ 'z' then some (c.toNat - 0x57)
    else if 'A' ≤ c ∧ c ≤ 'Z' then some (c.toNat - 0x37)
    else none
  d.bind fun d => if d < base then some d else none

def numberIn (base : Nat) (s : List Char) : Option Nat :=
  if s.isEmpty then none
  else s.foldl (fun n c => n.bind fun n => (digitIn base c).map (base * n + ·)) (some 0)

def readNumberIn (base : Nat) (s : List Char) : Option (Nat × List Char) :=
  let isDigit := fun c => (digitIn base c).isSome
  (numberIn base (s.takeWhile isDigit)).map fun n => (n, s.dropWhile isDigit)

/-- The number that the numeral at the start of a text writes, and what follows:
    octal after a zero, hexadecimal after a zero and an x. -/
def readNumeral (s : List Char) : Option (Nat × List Char) :=
  match s with
  | '0' :: x :: ds =>
    let hexadecimal := if x = 'x' ∨ x = 'X' then readNumberIn 16 ds else none
    hexadecimal.or (readNumberIn 8 ('0' :: x :: ds))
  | ds => readNumberIn 10 ds

def greatestInteger : Nat := Nat.pow 2 63 - 1

def greatestNatural : Nat := Nat.pow 2 64 - 1

structure IntegerReading where
  value : Int
  rest : List Char
  isThere : Bool
  /-- The numeral writes more than an integer can hold. -/
  tooGreat : Bool
  deriving Repr

/-- An integer at the start of a text, in base ten or in the base that its start
    tells. -/
def readInteger (anyBase : Bool) (s : List Char) : IntegerReading :=
  let (negative, body) := readSign (s.dropWhile isAsciiSpace)
  match if anyBase then readNumeral body else readNumberIn 10 body with
  | none => ⟨0, s, false, false⟩
  | some (n, rest) =>
    let most := if negative then greatestInteger + 1 else greatestInteger
    let value : Int := min n most
    ⟨if negative then -value else value, rest, true, most < n⟩

/-- An integer without a sign at the start of a text; one with a minus sign counts
    down from the number after the greatest one. -/
def readNatural (s : List Char) : IntegerReading :=
  let (negative, body) := readSign (s.dropWhile isAsciiSpace)
  match readNumeral body with
  | none => ⟨0, s, false, false⟩
  | some (n, rest) =>
    if greatestNatural < n then ⟨greatestNatural, rest, true, true⟩
    else
      let value := if negative then (greatestNatural + 1 - n) % (greatestNatural + 1) else n
      ⟨value, rest, true, false⟩

/-- The integer that a text writes with nothing but blanks around it.  Where any
    base may be used, a text without digits writes zero. -/
def integer? (anyBase : Bool) (s : String) : Option Int :=
  let r := readInteger anyBase s.toList
  if r.tooGreat || (!r.isThere && !anyBase) || !r.rest.all isAsciiSpace then none
  else some r.value

def greatestCount : Nat := Nat.pow 2 31 - 1

def count? (s : String) : Option Nat :=
  match integer? false s with
  | some n => if 0 ≤ n && n ≤ greatestCount then some n.toNat else none
  | none => none

/-! ## Numbers with a fraction -/

/-- What is read of a number with a fraction. -/
structure RealReading where
  value : Double
  rest : List Char
  isThere : Bool
  /-- The numeral writes more than a number can hold, or less. -/
  outOfRange : Bool
  deriving Repr

def lowered (s : List Char) : List Char :=
  s.map fun c => if 'A' ≤ c ∧ c ≤ 'Z' then Char.ofNat (c.toNat + 0x20) else c

def dropWord (word : String) (s : List Char) : Option (List Char) :=
  let n := word.length
  if lowered (s.take n) == word.toList then some (s.drop n) else none

/-- The exponent at the start of a text after one of two letters; without digits
    there is none. -/
def exponentAt (small : Char) (s : List Char) : Int × List Char :=
  match s with
  | c :: rest =>
    if lowered [c] == [small] then
      let (negative, body) := readSign rest
      let (ds, after) := readDigits body
      if ds.isEmpty then (0, s)
      else
        let n : Int := digitsValue ds
        (if negative then -n else n, after)
    else (0, s)
  | [] => (0, s)

/-- The hexadecimal numeral at the start of a text, after its mark. -/
def readHexadecimal (negative : Bool) (s : List Char) : Option (Double × List Char) :=
  let isDigit := fun c => (digitIn 16 c).isSome
  let whole := s.takeWhile isDigit
  let rest := s.drop whole.length
  let (fraction, rest) := match rest with
    | '.' :: more => (more.takeWhile isDigit, more.dropWhile isDigit)
    | rest => ([], rest)
  if whole.isEmpty && fraction.isEmpty then none
  else
    let (e, rest) := exponentAt 'p' rest
    let n := (numberIn 16 (whole ++ fraction)).getD 0
    let e := max (-100000) (min 100000 e) - 4 * fraction.length
    some (if 0 ≤ e then .ofQuotient negative (n * Nat.pow 2 e.toNat) 1
      else .ofQuotient negative n (Nat.pow 2 (-e).toNat), rest)

/-- The decimal numeral at the start of a text: the digits, the power of ten of the
    last one, and what follows. -/
def readDecimal (s : List Char) : Option (Nat × Int × List Char) :=
  let (whole, rest) := readDigits s
  let (fraction, rest) := match rest with
    | '.' :: more => readDigits more
    | rest => ([], rest)
  if whole.isEmpty && fraction.isEmpty then none
  else
    let (e, rest) := exponentAt 'e' rest
    some (digitsValue (whole ++ fraction), e - fraction.length, rest)

def readReal (s : List Char) : RealReading :=
  let (negative, body) := readSign (s.dropWhile isAsciiSpace)
  let hexadecimal := match body with
    | '0' :: x :: rest => if x = 'x' ∨ x = 'X' then readHexadecimal negative rest else none
    | _ => none
  match hexadecimal with
  | some (x, rest) => ⟨x, rest, true, !x.isFinite⟩
  | none =>
    match readDecimal body with
    | some (n, e, rest) =>
      let x := Double.ofDecimal negative n e
      ⟨x, rest, true, !x.isFinite || (n != 0 && x.isZero)⟩
    | none =>
      match (dropWord "infinity" body).or (dropWord "inf" body), dropWord "nan" body with
      | some rest, _ => ⟨.infinite negative, rest, true, false⟩
      | none, some rest => ⟨.nan, rest, true, false⟩
      | none, none => ⟨.zero false, s, false, false⟩

end SourceCheck.Shell
