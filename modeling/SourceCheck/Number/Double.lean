/-! # Binary floating-point numbers

    Numbers with 53 binary digits and an exponent, as in binary64, held as exact
    integers.  A finite number is `±mantissa · 2 ^ exponent`; it is normal when
    `2 ^ 52 ≤ mantissa < 2 ^ 53`, and below that only with the least exponent.
    Every operation that cannot be exact rounds to nearest, halves to even.
-/

namespace SourceCheck.Number

/-- A binary floating-point number. -/
inductive Double where
  | nan
  | infinite (negative : Bool)
  /-- The number `±mantissa · 2 ^ exponent`. -/
  | finite (negative : Bool) (mantissa : Nat) (exponent : Int)
  deriving DecidableEq, Repr, Inhabited

namespace Double

def leastExponent : Int := -1074

def greatestExponent : Int := 971

def zero (negative : Bool) : Double := .finite negative 0 leastExponent

/-! ## Rounding -/

/-- The integer nearest to `num / den`, a half going to the even neighbour. -/
def roundDiv (num den : Nat) : Nat :=
  let q := num / den
  let r := num % den
  if 2 * r < den then q
  else if den < 2 * r then q + 1
  else if q % 2 = 0 then q else q + 1

/-- The quotient `num / den` divided by `2 ^ e` and rounded. -/
def scaledRound (num den : Nat) (e : Int) : Nat :=
  if 0 ≤ e then roundDiv num (den * Nat.pow 2 e.toNat) else roundDiv (num * Nat.pow 2 (-e).toNat) den

/-- The quotient `num / den` divided by `2 ^ e` and cut to an integer. -/
def scaledFloor (num den : Nat) (e : Int) : Nat :=
  if 0 ≤ e then num / (den * Nat.pow 2 e.toNat) else num * Nat.pow 2 (-e).toNat / den

/-- The number nearest to `±num / den`. -/
def ofQuotient (negative : Bool) (num den : Nat) : Double :=
  if num = 0 ∨ den = 0 then zero negative
  else
    let guess : Int := (Nat.log2 num : Int) - (Nat.log2 den : Int) - 52
    let e := if scaledFloor num den guess < Nat.pow 2 52 then guess - 1 else guess
    let e := max e leastExponent
    let m := scaledRound num den e
    let (m, e) := if m = Nat.pow 2 53 then (Nat.pow 2 52, e + 1) else (m, e)
    if greatestExponent < e then .infinite negative else .finite negative m e

/-- The number nearest to `±mantissa · 10 ^ exponent`.  Far beyond the range the
    answer is known without the power. -/
def ofDecimal (negative : Bool) (mantissa : Nat) (exponent : Int) : Double :=
  if mantissa = 0 then zero negative
  else
    let size : Int := (Nat.log2 mantissa : Int) * 30103 / 100000
    if 400 < size + exponent then .infinite negative
    else if size + exponent < -400 then zero negative
    else if 0 ≤ exponent then ofQuotient negative (mantissa * Nat.pow 10 exponent.toNat) 1
    else ofQuotient negative mantissa (Nat.pow 10 (-exponent).toNat)

/-- The number nearest to an integer. -/
def ofInt (n : Int) : Double := ofQuotient (n < 0) n.natAbs 1

/-! ## Parts -/

/-- The number is neither infinite nor NaN. -/
def isFinite : Double → Bool
  | .finite _ _ _ => true
  | _ => false

/-- The number is zero of either sign. -/
def isZero : Double → Bool
  | .finite _ 0 _ => true
  | _ => false

/-- The number is at most zero; NaN is not. -/
def isAtMostZero : Double → Bool
  | .nan => false
  | .infinite negative => negative
  | .finite negative m _ => negative || m == 0

/-- The number counts as true where a truth value is wanted: it is not zero, and
    NaN is not zero either. -/
def isTruthy (x : Double) : Bool := !x.isZero

def quotient (m : Nat) (e : Int) : Nat × Nat :=
  if 0 ≤ e then (m * Nat.pow 2 e.toNat, 1) else (m, Nat.pow 2 (-e).toNat)

/-- A magnitude without its fraction. -/
def truncate (m : Nat) (e : Int) : Nat :=
  let (num, den) := quotient m e
  num / den

/-- A finite number without its fraction. -/
def toInt? : Double → Option Int
  | .finite negative m e =>
    let n : Int := truncate m e
    some (if negative then -n else n)
  | _ => none

def isIntegral : Double → Bool
  | .finite _ m e =>
    let (num, den) := quotient m e
    num % den == 0
  | _ => false

end Double

end SourceCheck.Number
