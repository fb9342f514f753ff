/-! # Blank characters

    Three classes of white space are in use: the characters with the Unicode
    property White_Space, the same together with the four information
    separators, and the blanks that separate words of a command.
-/

namespace SourceCheck.Text

def isSpace (c : Char) : Bool :=
  let n := c.toNat
  (0x09 ≤ n && n ≤ 0x0D) || n == 0x20 || n == 0x85 || n == 0xA0 || n == 0x1680
    || (0x2000 ≤ n && n ≤ 0x200A) || n == 0x2028 || n == 0x2029 || n == 0x202F
    || n == 0x205F || n == 0x3000

/-- White space or an information separator (U+001C to U+001F). -/
def isBlank (c : Char) : Bool :=
  isSpace c || (0x1C ≤ c.toNat && c.toNat ≤ 0x1F)

/-! ## Trimming -/

def trimStart (blank : Char → Bool) (s : List Char) : List Char := s.dropWhile blank

def trimEnd (blank : Char → Bool) (s : List Char) : List Char :=
  (s.reverse.dropWhile blank).reverse

/-- A text without the characters of a class at either end. -/
def trim (blank : Char → Bool) (s : List Char) : List Char :=
  trimEnd blank (trimStart blank s)

/-- A text without blanks at either end. -/
def strip (s : String) : String := String.ofList (trim isBlank s.toList)

end SourceCheck.Text
