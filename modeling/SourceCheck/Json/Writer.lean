import SourceCheck.Value.Display

/-! # Writing JSON

    A value is written as a JSON text in one of two layouts: on one line, with a
    blank after each comma and colon, or spread over lines with an indentation.
    Characters outside ASCII are written as themselves or as escapes of UTF-16
    units.  Paths and severities are written as texts, members of enumerations
    as what they stand for, dates and times as texts.
-/

namespace SourceCheck.Json

open SourceCheck.Number SourceCheck.Text

/-- How a JSON text is laid out. -/
structure Style where
  /-- Characters outside ASCII are escaped. -/
  ascii : Bool
  /-- Blanks per level, or one line without them. -/
  indent : Option Nat
  deriving DecidableEq, Repr

/-! ## Texts -/

def unitEscape (n : Nat) : List Char := '\\' :: 'u' :: hexDigits 4 n

def escapedUnits (c : Char) : List Char :=
  let n := c.toNat
  if n < 0x10000 then unitEscape n
  else unitEscape (0xD800 + (n - 0x10000) / 0x400) ++ unitEscape (0xDC00 + (n - 0x10000) % 0x400)

def stringChar (ascii : Bool) (c : Char) : List Char :=
  if c = '"' then ['\\', '"']
  else if c = '\\' then ['\\', '\\']
  else if c = '\n' then ['\\', 'n']
  else if c = '\r' then ['\\', 'r']
  else if c = '\t' then ['\\', 't']
  else if c.toNat = 0x08 then ['\\', 'b']
  else if c.toNat = 0x0C then ['\\', 'f']
  else if c.toNat < 0x20 then unitEscape c.toNat
  -- the delete character is escaped as well, although it is ASCII
  else if ascii && 0x7F ≤ c.toNat then escapedUnits c
  else [c]

def stringText (ascii : Bool) (s : String) : String :=
  String.ofList ('"' :: s.toList.flatMap (stringChar ascii) ++ ['"'])

/-- The text of a floating-point number; what JSON has no number for is spelled
    out. -/
def doubleText : Double → String
  | .nan => "NaN"
  | .infinite negative => if negative then "-Infinity" else "Infinity"
  | x => x.text

/-! ## Layout -/

/-- The line break in front of an item, `depth` levels deep. -/
def lineBreak (style : Style) (depth : Nat) : String :=
  match style.indent with
  | none => ""
  | some n => String.ofList ('\n' :: List.replicate (n * depth) ' ')

/-- What stands between two items. -/
def itemSeparator (style : Style) (depth : Nat) : String :=
  match style.indent with
  | none => ", "
  | some _ => "," ++ lineBreak style depth

/-- Items between brackets; an empty sequence takes no line. -/
def bracketed (style : Style) (depth : Nat) (opening closing : String)
    (items : List String) : String :=
  if items.isEmpty then opening ++ closing
  else opening ++ lineBreak style (depth + 1)
    ++ joinWith (itemSeparator style (depth + 1)) items
    ++ lineBreak style depth ++ closing

mutual

/-- The JSON text of a value that stands `depth` levels deep. -/
def writeAt (style : Style) (depth : Nat) : Value → String
  | .null => "null"
  | .bool b => if b then "true" else "false"
  | .int n => intText n
  | .double x => doubleText x
  | .text s => stringText style.ascii s
  | .list items => bracketed style depth "[" "]" (writeItems style (depth + 1) items)
  | .map members =>
    bracketed style depth "\x7b" "\x7d" (writeMembers style (depth + 1) members)
  | .path p => stringText style.ascii p
  | .severity s => stringText style.ascii s.name
  | .member v => writeAt style depth v
  | .moment m => stringText style.ascii (m.textWith " ")

def writeItems (style : Style) (depth : Nat) : List Value → List String
  | [] => []
  | v :: rest => writeAt style depth v :: writeItems style depth rest

def writeMembers (style : Style) (depth : Nat) : List (String × Value) → List String
  | [] => []
  | (k, v) :: rest =>
    (stringText style.ascii k ++ ": " ++ writeAt style depth v)
      :: writeMembers style depth rest

end

def write (style : Style) (v : Value) : String := writeAt style 0 v

/-- One line, every character written as itself. -/
def plain : Style := ⟨false, none⟩

def oneLine : Style := ⟨true, none⟩

/-- Lines of ASCII with two blanks per level. -/
def spread : Style := ⟨true, some 2⟩

end SourceCheck.Json
