import SourceCheck.Number.Shortest
import SourceCheck.Text.Blank
import SourceCheck.Text.DecimalDigit

/-! # Reading numbers

    Several places read numbers from text, each with a grammar of its own; they
    share the parts below.  A floating-point numeral is a sign, digits with an
    optional point among or beside them, and an optional exponent, or a name of
    infinity or NaN.  Underscores may stand between two digits where a reader
    allows them.
-/

namespace SourceCheck.Number

open SourceCheck.Text

/-! ## Parts of a numeral -/

/-- The sign in front of a numeral: whether it is minus, and what follows. -/
def readSign : List Char → Bool × List Char
  | '-' :: rest => (true, rest)
  | '+' :: rest => (false, rest)
  | rest => (false, rest)

/-- The digits of ASCII at the start of a text, and what follows. -/
def readDigits (s : List Char) : List Char × List Char :=
  (s.takeWhile isAsciiDigit, s.dropWhile isAsciiDigit)

/-- The exponent at the start of a text: zero if there is none, and nothing if
    the mark has no digits after it. -/
def readExponent : List Char → Option (Int × List Char)
  | c :: rest =>
    if c = 'e' ∨ c = 'E' then
      let (negative, rest) := readSign rest
      let (ds, rest) := readDigits rest
      if ds.isEmpty then none
      else
        let n : Int := digitsValue ds
        some (if negative then -n else n, rest)
    else some (0, c :: rest)
  | [] => some (0, [])

/-- The names of infinity and NaN, in lower case. -/
def namedDouble? (negative : Bool) (word : List Char) : Option Double :=
  let w := String.ofList (word.map fun c => if 'A' ≤ c ∧ c ≤ 'Z' then Char.ofNat (c.toNat + 0x20) else c)
  if w = "inf" ∨ w = "infinity" then some (.infinite negative)
  else if w = "nan" then some .nan
  else none

/-- A floating-point numeral of ASCII that takes the whole text. -/
def readDouble? (s : List Char) : Option Double :=
  let (negative, body) := readSign s
  match namedDouble? negative body with
  | some x => some x
  | none =>
    let (whole, rest) := readDigits body
    let (fraction, rest) := match rest with
      | '.' :: rest => readDigits rest
      | rest => ([], rest)
    if whole.isEmpty && fraction.isEmpty then none
    else match readExponent rest with
      -- all of the text has to be read
      | some (e, []) =>
        some (Double.ofDecimal negative (digitsValue (whole ++ fraction)) (e - fraction.length))
      | _ => none

/-! ## Underscores and other scripts -/

/-- A numeral with its decimal digits and spaces, of any script, written in
    ASCII. -/
def asciiNumeral (s : List Char) : List Char :=
  s.map fun c =>
    if c.toNat < 0x80 then c
    else if isSpace c then ' '
    else match digitValue? c with
      | some d => Char.ofNat (0x30 + d)
      | none => c

/-- A numeral without its underscores, each of which must stand between two
    digits; `before` is the character in front of the text. -/
def dropUnderscores (before : Char) : List Char → Option (List Char)
  | [] => some []
  | '_' :: rest =>
    match rest with
    | next :: _ =>
      if isAsciiDigit before && isAsciiDigit next then dropUnderscores '_' rest else none
    | [] => none
  | c :: rest => (dropUnderscores c rest).map (c :: ·)

/-- The white space of ASCII, with the vertical tab and the form feed. -/
def isAsciiSpace (c : Char) : Bool :=
  c == ' ' || (0x09 ≤ c.toNat && c.toNat ≤ 0x0D)

/-- A floating-point numeral with white space around it, digits of any script
    and underscores between digits. -/
def readLenientDouble? (s : String) : Option Double :=
  let body := trim isAsciiSpace (asciiNumeral s.toList)
  if body.contains '_' then (dropUnderscores ' ' body).bind readDouble?
  else readDouble? body

/-- What is wrong with the text of an integer. -/
inductive IntFault where
  | malformed
  | tooLong (digits : Nat)
  deriving DecidableEq, Repr

/-- The greatest number of decimal digits that are read. -/
def digitLimit : Nat := 4300

/-- The wording for a numeral with more digits than are read. -/
def tooLongMessage (digits : Nat) : String :=
  "Exceeds the limit (" ++ natText digitLimit
    ++ " digits) for integer string conversion: value has " ++ natText digits
    ++ " digits; use sys.set_int_max_str_digits() to increase the limit"

/-- A character may stand in the digits of an integer. -/
def isDigitOrUnderscore (c : Char) : Bool := isAsciiDigit c || c == '_'

/-- An integer with white space around it, digits of any script and underscores
    between digits.  The digits are counted before what follows them is looked at. -/
def readLenientInt (s : String) : Except IntFault Int :=
  let (negative, body) := readSign ((asciiNumeral s.toList).dropWhile isAsciiSpace)
  match dropUnderscores ' ' (body.takeWhile isDigitOrUnderscore) with
  | none | some [] => .error .malformed
  | some ds =>
    if digitLimit < ds.length then .error (.tooLong ds.length)
    else if (body.dropWhile isDigitOrUnderscore).all isAsciiSpace then
      let n : Int := digitsValue ds
      .ok (if negative then -n else n)
    else .error .malformed

end SourceCheck.Number
