import SourceCheck.Text.Utf8

/-! # Texts as rows of octets

    Scripts and their output are rows of octets.  They are kept as texts in which
    each character stands for the octet of its number.
-/

namespace SourceCheck.Shell

open SourceCheck.Text

def ofOctets (octets : List UInt8) : String :=
  String.ofList (octets.map fun b => Char.ofNat b.toNat)

def toOctets (s : String) : List UInt8 := s.toList.map fun c => c.toNat.toUInt8

def ofText (s : String) : String := ofOctets (Utf8.encode s)

def toText (s : String) : String := Utf8.decode (toOctets s)

/-- One row of octets comes before another one or is equal: the first difference
    decides, and a row comes before those it begins. -/
def inOrder : List Char → List Char → Bool
  | [], _ => true
  | _ :: _, [] => false
  | a :: as, b :: bs => if a = b then inOrder as bs else a < b

end SourceCheck.Shell
