import SourceCheck.Number.Double

/-! # Reckoning with floating-point numbers

    Sums, products, quotients, remainders and square roots are found exactly and
    rounded once, to nearest with halves to even.  Functions whose values have no
    end are those of the machine.
-/

namespace SourceCheck.Number.Double

/-! ## Order -/

/-- A finite number as an integer, in units of a power of two that is not greater
    than its own. -/
def units (negative : Bool) (m : Nat) (e unit : Int) : Int :=
  let n : Int := m * Nat.pow 2 (e - unit).toNat
  if negative then -n else n

/-- The place of one number against another; NaN has none. -/
def order? : Double → Double → Option Ordering
  | .nan, _ | _, .nan => none
  | .infinite a, .infinite b => some (if a = b then .eq else if a then .lt else .gt)
  | .infinite a, .finite _ _ _ => some (if a then .lt else .gt)
  | .finite _ _ _, .infinite b => some (if b then .gt else .lt)
  | .finite na ma ea, .finite nb mb eb =>
    let unit := min ea eb
    some (compare (units na ma ea unit) (units nb mb eb unit))

/-- One number is below another. -/
def less (x y : Double) : Bool := order? x y == some .lt

/-! ## The four operations -/

def negate : Double → Double
  | .nan => .nan
  | .infinite negative => .infinite (!negative)
  | .finite negative m e => .finite (!negative) m e

/-- The number nearest to an integer count of units. -/
def ofUnits (zeroSign : Bool) (n unit : Int) : Double :=
  if n = 0 then zero zeroSign
  else
    let (num, den) := quotient n.natAbs unit
    ofQuotient (n < 0) num den

/-- The sum of two numbers. -/
def add : Double → Double → Double
  | .nan, _ | _, .nan => .nan
  | .infinite a, .infinite b => if a = b then .infinite a else .nan
  | .infinite a, .finite _ _ _ => .infinite a
  | .finite _ _ _, .infinite b => .infinite b
  | .finite na ma ea, .finite nb mb eb =>
    let unit := min ea eb
    ofUnits (na && nb) (units na ma ea unit + units nb mb eb unit) unit

/-- The difference of two numbers. -/
def subtract (x y : Double) : Double := add x (negate y)

/-- The product of two numbers. -/
def multiply : Double → Double → Double
  | .nan, _ | _, .nan => .nan
  | .infinite a, .infinite b => .infinite (a != b)
  | .infinite a, .finite b m _ => if m = 0 then .nan else .infinite (a != b)
  | .finite a m _, .infinite b => if m = 0 then .nan else .infinite (a != b)
  | .finite na ma ea, .finite nb mb eb =>
    let (num, den) := quotient (ma * mb) (ea + eb)
    ofQuotient (na != nb) num den

/-- The quotient of two numbers. -/
def divide : Double → Double → Double
  | .nan, _ | _, .nan => .nan
  | .infinite _, .infinite _ => .nan
  | .infinite a, .finite b _ _ => .infinite (a != b)
  | .finite a _ _, .infinite b => zero (a != b)
  | .finite na ma ea, .finite nb mb eb =>
    -- zero by zero is no number
    if mb = 0 then if ma = 0 then .nan else .infinite (na != nb)
    else
      let (numA, denA) := quotient ma ea
      let (numB, denB) := quotient mb eb
      ofQuotient (na != nb) (numA * denB) (denA * numB)

/-- The remainder of a division whose quotient is cut to an integer. -/
def remainder : Double → Double → Double
  | .nan, _ | _, .nan => .nan
  | .infinite _, _ => .nan
  | .finite a m e, .infinite _ => .finite a m e
  | .finite na ma ea, .finite _ mb eb =>
    if mb = 0 then .nan
    else
      let unit := min ea eb
      let r := (units false ma ea unit).natAbs % (units false mb eb unit).natAbs
      ofUnits na (if na then -(r : Int) else r) unit

/-- The number without its fraction. -/
def integerPart : Double → Double
  | .finite negative m e => ofQuotient negative (truncate m e) 1
  | x => x

/-! ## Values without an end -/

/-- The number in the format of the machine. -/
def toFloat : Double → Float
  | .nan => 0.0 / 0.0
  | .infinite negative => if negative then -1.0 / 0.0 else 1.0 / 0.0
  | .finite negative m e =>
    let size := Float.scaleB m.toFloat e
    if negative then -size else size

/-- The number that the machine holds. -/
def ofFloat (x : Float) : Double :=
  let bits := x.toBits.toNat
  let negative := bits / Nat.pow 2 63 == 1
  let top := bits / Nat.pow 2 52 % 2048
  let low := bits % Nat.pow 2 52
  if top = 2047 then if low = 0 then .infinite negative else .nan
  else if top = 0 then .finite negative low leastExponent
  else .finite negative (low + Nat.pow 2 52) ((top : Int) - 1075)

def byMachine (f : Float → Float) (x : Double) : Double := ofFloat (f x.toFloat)

/-- A function of the machine with two arguments. -/
def byMachine2 (f : Float → Float → Float) (x y : Double) : Double :=
  ofFloat (f x.toFloat y.toFloat)

end SourceCheck.Number.Double
