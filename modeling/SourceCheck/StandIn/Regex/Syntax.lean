import SourceCheck.StandIn.Shell.Pattern
import SourceCheck.Text.Alphanumeric
import SourceCheck.Text.Blank
import SourceCheck.Text.Lowercase
import SourceCheck.Text.Printable

/-! # Regular expressions

    A regular expression describes texts by characters, classes of characters,
    places, repetition and choice.  Texts are rows of letters; an octet that is no
    part of a letter is kept as a letter of its own beyond all others.
-/

namespace SourceCheck

open Text

namespace Regex

/-! ## Letters -/

/-- Where the letters start that stand for single octets. -/
def octetBase : Nat := 0x10FF00

def octetLetter (n : Nat) : Char := if n < 0x80 then Char.ofNat n else Char.ofNat (octetBase + n)

def isOctetLetter (c : Char) : Bool := octetBase ≤ c.toNat

/-- A text of octets as letters; `wide` tells that letters are read as UTF-8. -/
def toLetters (wide : Bool) (s : List Char) : List Char :=
  if s.all (·.toNat < 0x80) then s
  else if wide then
    (Utf8.pieces (s.map fun c => c.toNat.toUInt8)).flatMap fun
      | .scalar c => [c]
      | .illFormed octets _ => octets.map fun b => octetLetter b.toNat
  else s.map fun c => octetLetter c.toNat

def ofLetters (s : List Char) : List Char :=
  if s.all (·.toNat < 0x80) then s
  else s.flatMap fun c =>
    if isOctetLetter c then [Char.ofNat (c.toNat - octetBase)]
    else (Utf8.encodeChar c).map fun b => Char.ofNat b.toNat

def small (c : Char) : Char :=
  if c.toNat < 0x80 then if 'A' ≤ c && c ≤ 'Z' then Char.ofNat (c.toNat + 0x20) else c
  else match lowerChar c with
    | [d] => d
    | _ => c

/-- A letter of ASCII in upper case. -/
def large (c : Char) : Char :=
  if 'a' ≤ c && c ≤ 'z' then Char.ofNat (c.toNat - 0x20) else c

def isWordLetter (c : Char) : Bool :=
  if c.toNat < 0x80 then isAsciiAlphanumeric c || c == '_'
  else !isOctetLetter c && isAlphanumeric c

/-! ## Classes -/

/-- A named class of letters. -/
inductive Kind where
  | alnum
  | alpha
  | blank
  /-- Characters that are not shown and move something. -/
  | cntrl
  | digit
  | graph
  | lower
  | print
  /-- Characters with a picture that are no letters and digits. -/
  | punct
  | space
  | upper
  | xdigit
  | word
  deriving DecidableEq, Repr

def Kind.named? (name : String) : Option Kind :=
  [("alnum", Kind.alnum), ("alpha", .alpha), ("blank", .blank), ("cntrl", .cntrl),
    ("digit", .digit), ("graph", .graph), ("lower", .lower), ("print", .print), ("punct", .punct),
    ("space", .space), ("upper", .upper), ("xdigit", .xdigit)].lookup name

def Kind.holdsAscii (k : Kind) (c : Char) : Bool :=
  match k with
  | .alnum => isAsciiAlphanumeric c
  | .alpha => Shell.isLower c || Shell.isUpper c
  | .blank => c == ' ' || c == '\t'
  | .cntrl => c.toNat < 0x20 || c.toNat == 0x7F
  | .digit => Shell.isDecimal c
  | .graph => Shell.isGraphic c
  | .lower => Shell.isLower c
  | .print => Shell.isGraphic c || c == ' '
  | .punct => Shell.isGraphic c && !isAsciiAlphanumeric c
  | .space => c == ' ' || (0x09 ≤ c.toNat && c.toNat ≤ 0x0D)
  | .upper => Shell.isUpper c
  | .xdigit => Shell.isDecimal c || ('a' ≤ c && c ≤ 'f') || ('A' ≤ c && c ≤ 'F')
  | .word => isAsciiAlphanumeric c || c == '_'

def Kind.holds (k : Kind) (c : Char) : Bool :=
  if c.toNat < 0x80 then k.holdsAscii c
  else if isOctetLetter c then false
  else match k with
    | .alnum | .alpha | .word => isAlphanumeric c
    | .lower => isAlphanumeric c && lowerChar c == [c]
    | .upper => lowerChar c != [c]
    | .print => isPrintable c
    | .graph => isPrintable c && !Text.isSpace c
    | .punct => isPrintable c && !isAlphanumeric c && !Text.isSpace c
    | .space => Text.isSpace c && c.toNat != 0xA0
    | _ => false

/-- A member of a set of letters. -/
inductive Member where
  | range (low high : Char)
  | kind (k : Kind)
  deriving DecidableEq, Repr

def Member.holds (c : Char) : Member → Bool
  | .range low high => low ≤ c && c ≤ high
  | .kind k => k.holds c

/-! ## Expressions -/

/-- A place between letters. -/
inductive Anchor where
  | lineStart
  | lineEnd
  | textStart
  | textEnd
  | wordStart
  | wordEnd
  | wordEdge
  /-- Where no word starts or ends. -/
  | noEdge
  deriving DecidableEq, Repr

end Regex

/-- A regular expression. -/
inductive Regex where
  | empty
  | letter (c : Char)
  | any
  | oneOf (negated : Bool) (members : List Regex.Member)
  | place (a : Regex.Anchor)
  | row (first second : Regex)
  | choice (first second : Regex)
  | group (n : Nat) (inside : Regex)
  /-- A part again and again. -/
  | loop (least : Nat) (most : Option Nat) (inside : Regex)
  /-- What a part with a number stands for, again. -/
  | again (n : Nat)
  deriving DecidableEq, Repr

namespace Regex

def refersBack : Regex → Bool
  | .row a b | .choice a b => a.refersBack || b.refersBack
  | .group _ r | .loop _ _ r => r.refersBack
  | .again _ => true
  | _ => false

def groupCount : Regex → Nat
  | .row a b | .choice a b => max a.groupCount b.groupCount
  | .group n r => max n r.groupCount
  | .loop _ _ r => r.groupCount
  | _ => 0

def ofText : List Char → Regex
  | [] => .empty
  | [c] => .letter c
  | c :: rest => .row (.letter c) (ofText rest)

end Regex

end SourceCheck
