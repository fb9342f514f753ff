import SourceCheck.Value.Basic
import SourceCheck.Number.Reading

/-! # Reading JSON

    A JSON text of RFC 8259 is read into a value; numbers without fraction and
    exponent are integers.  Escapes of UTF-16 units are joined in pairs, and a
    unit that has no partner reads as U+FFFD.  Of members with equal keys the
    last one counts, at the place of the first.
-/

namespace SourceCheck.Json

open SourceCheck.Number SourceCheck.Text

/-- A text without white space at its start. -/
def skipSpace (s : List Char) : List Char :=
  s.dropWhile fun c => c == ' ' || c == '\n' || c == '\r' || c == '\t'

/-! ## Texts -/

def hexValue? (c : Char) : Option Nat :=
  if '0' ≤ c ∧ c ≤ '9' then some (c.toNat - 0x30)
  else if 'a' ≤ c ∧ c ≤ 'f' then some (c.toNat - 0x57)
  else if 'A' ≤ c ∧ c ≤ 'F' then some (c.toNat - 0x37)
  else none

/-- The value of a run of hexadecimal digits. -/
def hexRun? (ds : List Char) : Option Nat :=
  ds.foldl (fun n c => n.bind fun n => (hexValue? c).map (16 * n + ·)) (some 0)

def shortEscape? (c : Char) : Option Nat :=
  if c = '"' ∨ c = '\\' ∨ c = '/' then some c.toNat
  else if c = 'b' then some 0x08
  else if c = 'f' then some 0x0C
  else if c = 'n' then some 0x0A
  else if c = 'r' then some 0x0D
  else if c = 't' then some 0x09
  else none

/-- Code points and UTF-16 units as characters. -/
def joinUnits : List Nat → List Char
  | [] => []
  | [n] => [if 0xD800 ≤ n ∧ n ≤ 0xDFFF then Char.ofNat 0xFFFD else Char.ofNat n]
  | n :: m :: rest =>
    if 0xD800 ≤ n ∧ n ≤ 0xDBFF ∧ 0xDC00 ≤ m ∧ m ≤ 0xDFFF then
      Char.ofNat (0x10000 + (n - 0xD800) * 0x400 + (m - 0xDC00)) :: joinUnits rest
    else
      (if 0xD800 ≤ n ∧ n ≤ 0xDFFF then Char.ofNat 0xFFFD else Char.ofNat n)
        :: joinUnits (m :: rest)

/-- The code points and units up to the closing quote, and what follows it;
    `units` are those read before, the last one first. -/
def readUnits (units : List Nat) : List Char → Option (List Nat × List Char)
  | [] => none
  | '"' :: rest => some (units.reverse, rest)
  -- two units of a pair are read one by one and joined afterwards
  | '\\' :: 'u' :: a :: b :: c :: d :: rest =>
    match hexRun? [a, b, c, d] with
    | some n => readUnits (n :: units) rest
    | none => none
  | '\\' :: e :: rest =>
    match shortEscape? e with
    | some n => readUnits (n :: units) rest
    | none => none
  | c :: rest => if c.toNat < 0x20 then none else readUnits (c.toNat :: units) rest

/-- A text after its opening quote, and what follows the closing one. -/
def readString (s : List Char) : Option (String × List Char) :=
  (readUnits [] s).map fun (units, rest) => (String.ofList (joinUnits units), rest)

/-! ## Numbers -/

/-- A digit run without a zero in front of others. -/
def isPlainRun : List Char → Bool
  | [] => false
  | ['0'] => true
  | c :: _ => c != '0'

/-- The fraction at the start of a text, if a digit follows the point. -/
def readFraction : List Char → Option (List Char) × List Char
  | '.' :: c :: rest =>
    if isAsciiDigit c then
      let (ds, rest) := readDigits (c :: rest)
      (some ds, rest)
    else (none, '.' :: c :: rest)
  | rest => (none, rest)

def readNumber (s : List Char) : Option (Value × List Char) :=
  let (negative, body) := match s with
    | '-' :: rest => (true, rest)
    | rest => (false, rest)
  let (whole, rest) := readDigits body
  if !isPlainRun whole then none
  else
    let (fraction, rest) := readFraction rest
    let marked := match rest with
      | 'e' :: _ | 'E' :: _ => true
      | _ => false
    match readExponent rest with
    | none => none
    | some (e, rest) =>
      match fraction, marked with
      | none, false =>
        let n : Int := digitsValue whole
        some (.int (if negative then -n else n), rest)
      | _, _ =>
        -- digits behind the point lower the exponent
        let ds := fraction.getD []
        some (.double (Double.ofDecimal negative (digitsValue (whole ++ ds)) (e - ds.length)), rest)

/-! ## Values -/

def words : List (List Char × Value) :=
  [("null".toList, .null), ("true".toList, .bool true), ("false".toList, .bool false),
    ("NaN".toList, .double .nan), ("Infinity".toList, .double (.infinite false)),
    ("-Infinity".toList, .double (.infinite true))]

def readWord (s : List Char) : Option (Value × List Char) :=
  words.findSome? fun (w, v) => (w.isPrefixOf? s).map fun rest => (v, rest)

mutual

/-- A value at the start of a text, and what follows; `fuel` bounds the number
    of steps. -/
def readValue : Nat → List Char → Option (Value × List Char)
  | 0, _ => none
  | fuel + 1, s =>
    match skipSpace s with
    | '"' :: rest => (readString rest).map fun (t, rest) => (.text t, rest)
    | '[' :: rest =>
      match skipSpace rest with
      | ']' :: rest => some (.list [], rest)
      | rest => (readItems fuel [] rest).map fun (vs, rest) => (.list vs, rest)
    | '\x7b' :: rest =>
      match skipSpace rest with
      | '\x7d' :: rest => some (.map [], rest)
      | rest => (readMembers fuel [] rest).map fun (ms, rest) => (.map ms, rest)
    | body => match readWord body with
      | some found => some found
      | none => readNumber body

/-- Items up to the closing bracket; `items` are those read before, the last one
    first. -/
def readItems : Nat → List Value → List Char → Option (List Value × List Char)
  | 0, _, _ => none
  | fuel + 1, items, s =>
    match readValue fuel s with
    | none => none
    | some (v, rest) =>
      match skipSpace rest with
      | ',' :: rest => readItems fuel (v :: items) rest
      | ']' :: rest => some ((v :: items).reverse, rest)
      | _ => none

/-- Members up to the closing brace; `members` are those read before. -/
def readMembers : Nat → List (String × Value) → List Char →
    Option (List (String × Value) × List Char)
  | 0, _, _ => none
  | fuel + 1, members, s =>
    match skipSpace s with
    | '"' :: rest =>
      match readString rest with
      | none => none
      | some (key, rest) =>
        match skipSpace rest with
        | ':' :: rest =>
          match readValue fuel rest with
          | none => none
          | some (v, rest) =>
            match skipSpace rest with
            -- a later member of the same key replaces the earlier one
            | ',' :: rest => readMembers fuel (Value.insert key v members) rest
            | '\x7d' :: rest => some (Value.insert key v members, rest)
            | _ => none
        | _ => none
    | _ => none

end

def read (s : String) : Option Value :=
  let cs := s.toList
  match readValue (2 * cs.length + 2) cs with
  | some (v, rest) => if (skipSpace rest).isEmpty then some v else none
  | none => none

end SourceCheck.Json
