import SourceCheck.Number.Fixed

/-! # Fields of a template

    A field shows one argument.  Its flags, least width and precision say how the
    argument is written and how it is filled up to the width.
-/

namespace SourceCheck.Text

open SourceCheck.Number

/-- The flags of a field. -/
structure Flags where
  left : Bool
  plus : Bool
  /-- Show a blank for a plus sign. -/
  blank : Bool
  /-- The other form: a mark for the base, a point always. -/
  other : Bool
  zero : Bool
  deriving Repr

/-- A field. -/
structure Field where
  flags : Flags
  width : Nat
  precision : Option Nat
  letter : Char
  deriving Repr

def readFlags (f : Flags) : List Char → Flags × List Char
  | '-' :: rest => readFlags { f with left := true } rest
  | '+' :: rest => readFlags { f with plus := true } rest
  | ' ' :: rest => readFlags { f with blank := true } rest
  | '#' :: rest => readFlags { f with other := true } rest
  | '0' :: rest => readFlags { f with zero := true } rest
  | rest => (f, rest)

/-- An argument as a sign, a mark for the base and a body. -/
structure Shown where
  sign : Option Char
  mark : List Char
  body : List Char
  deriving Repr

/-- A shown number with its sign chosen by the flags. -/
def signOf (flags : Flags) (negative : Bool) : Option Char :=
  if negative then some '-'
  else if flags.plus then some '+'
  else if flags.blank then some ' '
  else none

/-- A shown argument filled up to the width of its field. -/
def fill (f : Field) (numeric : Bool) (s : Shown) : List Char :=
  let sign := s.sign.toList
  let missing := f.width - (sign.length + s.mark.length + s.body.length)
  let zeros := numeric && f.flags.zero
  if f.flags.left then sign ++ s.mark ++ s.body ++ List.replicate missing ' '
  else if zeros then sign ++ s.mark ++ List.replicate missing '0' ++ s.body
  else List.replicate missing ' ' ++ sign ++ s.mark ++ s.body

def capitals (s : List Char) : List Char :=
  s.map fun c => if 'a' ≤ c ∧ c ≤ 'z' then Char.ofNat (c.toNat - 0x20) else c

/-- An integer in a base, shown by the flags and precision of its field. -/
def showInt (f : Field) (base : Nat) (mark : List Char) (n : Int) : Shown :=
  ⟨signOf f.flags (n < 0), if f.flags.other then mark else [],
    zeroPadded (f.precision.getD 0) (Nat.toDigits base n.natAbs)⟩

/-- A floating-point number, shown by the letter, flags and precision of its
    field. -/
def showReal (f : Field) (x : Double) : Shown :=
  let places := f.precision.getD 6
  match x with
  | .nan => ⟨signOf f.flags false, [], ['n', 'a', 'n']⟩
  | .infinite negative => ⟨signOf f.flags negative, [], ['i', 'n', 'f']⟩
  | .finite negative m e =>
    let (num, den) := Double.quotient m e
    let body :=
      if f.letter = 'f' ∨ f.letter = 'F' then fixedDigits f.flags.other places num den
      else if f.letter = 'e' ∨ f.letter = 'E' then exponentDigits f.flags.other places num den
      else generalDigits f.flags.other places num den
    ⟨signOf f.flags negative, [], body⟩

def Shown.inCapitals (s : Shown) : Shown := ⟨s.sign, capitals s.mark, capitals s.body⟩

end SourceCheck.Text
