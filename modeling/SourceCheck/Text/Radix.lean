/-! # Numbers written in digits

    The numbers that digits of ASCII write, the most significant one first.
-/

namespace SourceCheck.Text

/-- The number that digits write in a base of ten or less. -/
def valueIn (base : Nat) (ds : List Char) : Nat :=
  ds.foldl (fun n c => base * n + (c.toNat - 0x30)) 0

/-- The number that decimal digits write. -/
def decimalValue (ds : List Char) : Nat := valueIn 10 ds

/-- The number that octal digits write. -/
def octalValue (ds : List Char) : Nat := valueIn 8 ds

end SourceCheck.Text
