import SourceCheck.Number.Shortest

/-! # Numbers with a chosen count of digits

    A number is rounded to a count of places after the point, or to a count of
    digits in all; halves go to the even neighbour, decided on the exact value.
    The three forms are positional, with an exponent, and whichever of the two is
    shorter for a magnitude.
-/

namespace SourceCheck.Number

/-- Digits with zeros in front up to a count. -/
def zeroPadded (count : Nat) (ds : List Char) : List Char :=
  List.replicate (count - ds.length) '0' ++ ds

/-- The positional form of `num / den` with `places` digits after the point; the
    point of a number without such digits is shown if `keepPoint` says so. -/
def fixedDigits (keepPoint : Bool) (places num den : Nat) : List Char :=
  let n := Double.roundDiv (num * Nat.pow 10 places) den
  let ds := zeroPadded (places + 1) (natDigits n)
  let whole := ds.take (ds.length - places)
  let fraction := ds.drop (ds.length - places)
  if places = 0 then if keepPoint then whole ++ ['.'] else whole
  else whole ++ '.' :: fraction

/-- The `count` leading digits of `num / den`, rounded, and the power of ten of
    the first of them. -/
def leadingDigits (count num den : Nat) : List Char × Int :=
  if num = 0 then (List.replicate count '0', 0)
  else
    let top := decimalExponent num den
    let (n, d) := perPower num den (top - (count : Int) + 1)
    let rounded := Double.roundDiv n d
    if rounded = Nat.pow 10 count then (natDigits (Nat.pow 10 (count - 1)), top + 1)
    else (zeroPadded count (natDigits rounded), top)

def pointed (keepPoint : Bool) : List Char → List Char
  | [] => []
  | [d] => if keepPoint then [d, '.'] else [d]
  | d :: rest => d :: '.' :: rest

/-- The form of `num / den` with an exponent and `places` digits after the
    point. -/
def exponentDigits (keepPoint : Bool) (places num den : Nat) : List Char :=
  let (ds, top) := leadingDigits (places + 1) num den
  pointed keepPoint ds ++ 'e' :: exponentText top

/-- Digits without the zeros at their end, of which the first `least` stay. -/
def withoutEndZeros (least : Nat) (ds : List Char) : List Char :=
  ds.take least ++ ((ds.drop least).reverse.dropWhile (· == '0')).reverse

/-- The form of `num / den` with `count` digits: positional if the first digit
    stands for a power of ten from 10⁻⁴ to below `10 ^ count`, else with an
    exponent.  Zeros at the end are dropped unless `keepPoint` says to keep
    them. -/
def generalDigits (keepPoint : Bool) (count num den : Nat) : List Char :=
  let count := max count 1
  let (ds, top) := leadingDigits count num den
  -- out of these bounds the exponent is written
  if top < -4 ∨ (count : Int) ≤ top then
    let ds := if keepPoint then ds else withoutEndZeros 1 ds
    pointed keepPoint ds ++ 'e' :: exponentText top
  else if top < 0 then
    let ds := if keepPoint then ds else withoutEndZeros 1 ds
    '0' :: '.' :: List.replicate (-top - 1).toNat '0' ++ ds
  else
    let whole := top.toNat + 1
    let ds := if keepPoint then ds else withoutEndZeros whole ds
    let fraction := ds.drop whole
    if fraction.isEmpty && !keepPoint then ds.take whole else ds.take whole ++ '.' :: fraction

end SourceCheck.Number
