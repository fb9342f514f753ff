import SourceCheck.Number.Double

/-! # The shortest decimal text of a number

    Of the decimals that read back as a number, the text takes one with the
    fewest digits, and of those the nearest to the number.  Numbers from 10⁻⁴ to
    below 10¹⁶ are written positionally with at least one digit after the point,
    all others with an exponent of at least two digits.
-/

namespace SourceCheck.Number

/-! ## Digits -/

/-- The decimal digits of a natural number. -/
def natDigits (n : Nat) : List Char := Nat.toDigits 10 n

/-- The decimal text of a natural number. -/
def natText (n : Nat) : String := String.ofList (natDigits n)

def intText (n : Int) : String :=
  if n < 0 then "-" ++ natText n.natAbs else natText n.natAbs

/-- A decimal `digits · 10 ^ exponent`. -/
structure Decimal where
  digits : Nat
  /-- The power of ten of the last digit. -/
  exponent : Int
  deriving DecidableEq, Repr

/-- The quotient `num / den` divided by `10 ^ e`, as a quotient. -/
def perPower (num den : Nat) (e : Int) : Nat × Nat :=
  if 0 ≤ e then (num, den * Nat.pow 10 e.toNat) else (num * Nat.pow 10 (-e).toNat, den)

/-- The decimal exponent of a positive quotient: the greatest `e` with
    `10 ^ e ≤ num / den`, found by counting up or down from a guess. -/
def decimalExponent (num den : Nat) : Int :=
  let guess : Int := ((Nat.log2 num : Int) - (Nat.log2 den : Int)) * 30103 / 100000 - 1
  let fits := fun (e : Int) =>
    let (n, d) := perPower num den e
    d ≤ n
  if fits (guess + 3) then guess + 3
  else if fits (guess + 2) then guess + 2
  else if fits (guess + 1) then guess + 1
  else if fits guess then guess
  else guess - 1

/-- The decimals with `count` digits around a number, the nearer one first. -/
def neighbours (num den : Nat) (top : Int) (count : Nat) : List Decimal :=
  let e := top - (count : Int) + 1
  let (n, d) := perPower num den e
  let q := n / d
  let r := n % d
  let low : Decimal := ⟨q, e⟩
  let high : Decimal := ⟨q + 1, e⟩
  if 2 * r < d ∨ (2 * r = d ∧ q % 2 = 0) then [low, high] else [high, low]

def readsBack (m : Nat) (e : Int) (x : Decimal) : Bool :=
  Double.ofDecimal false x.digits x.exponent == .finite false m e

/-- The shortest decimal of a positive magnitude, with at most 17 digits. -/
def shortest (m : Nat) (e : Int) : Decimal :=
  let (num, den) := Double.quotient m e
  let top := decimalExponent num den
  let candidates := (List.range 17).flatMap fun i => neighbours num den top (i + 1)
  (candidates.find? (readsBack m e)).getD ⟨m, 0⟩

/-- The digits of a decimal without the zeros at its end, and the place of the
    decimal point counted from the first digit. -/
def significant (x : Decimal) : List Char × Int :=
  let ds := natDigits x.digits
  let kept := (ds.reverse.dropWhile (· == '0')).reverse
  (kept, (ds.length : Int) + x.exponent)

/-! ## Text -/

/-- The exponent of a number, with sign and at least two digits. -/
def exponentText (e : Int) : List Char :=
  let ds := natDigits e.natAbs
  (if e < 0 then '-' else '+') :: (if ds.length < 2 then '0' :: ds else ds)

/-- The text of digits with the decimal point after the first `point` of them. -/
def positional (ds : List Char) (point : Int) : List Char :=
  if point ≤ 0 then '0' :: '.' :: List.replicate (-point).toNat '0' ++ ds
  else if (ds.length : Int) ≤ point then
    ds ++ List.replicate (point - ds.length).toNat '0' ++ ['.', '0']
  else ds.take point.toNat ++ '.' :: ds.drop point.toNat

def scientific (ds : List Char) (point : Int) : List Char :=
  match ds with
  | [] => ['0']
  | [d] => d :: 'e' :: exponentText (point - 1)
  | d :: rest => d :: '.' :: rest ++ 'e' :: exponentText (point - 1)

def magnitudeText (m : Nat) (e : Int) : List Char :=
  if m = 0 then ['0', '.', '0']
  else
    let (ds, point) := significant (shortest m e)
    if -4 < point ∧ point ≤ 16 then positional ds point else scientific ds point

def Double.text : Double → String
  | .nan => "nan"
  | .infinite negative => if negative then "-inf" else "inf"
  | .finite negative m e =>
    String.ofList (if negative then '-' :: magnitudeText m e else magnitudeText m e)

end SourceCheck.Number
