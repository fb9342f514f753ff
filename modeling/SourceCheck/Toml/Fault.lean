import SourceCheck.Number.Reading
import SourceCheck.Text.Lines
import SourceCheck.Text.Quoted

/-! # What can be wrong with a document

    A fault has a cause and a place.  The place is kept as the number of
    characters left from there to the end of the document, and is shown as line
    and column, both counted from one.
-/

namespace SourceCheck.Toml

open SourceCheck.Text SourceCheck.Number

/-- A dotted key, part by part. -/
abbrev Key := List String

def keyText : Key → String
  | [part] => "(" ++ quoted part ++ ",)"
  | parts => "(" ++ joinWith ", " (parts.map quoted) ++ ")"

/-- Why a text is no document. -/
inductive Cause where
  | statement
  /-- More stands on the line after a statement. -/
  | afterStatement
  | keyStart
  | equalsSign
  | value
  /-- The calendar has no such day. -/
  | moment
  | openArray
  | openInlineTable
  /-- A key comes twice in an inline table. -/
  | inlineKey (part : String)
  /-- The document ends inside a string. -/
  | openString
  | closing (mark : String)
  | escape
  /-- An escape without its hexadecimal digits. -/
  | hexDigits
  /-- An escape of no character. -/
  | scalarValue
  /-- A character that a string must not hold. -/
  | stringChar (c : Char)
  /-- A character that a comment or literal string must not hold. -/
  | invalidChar (c : Char)
  /-- A table is declared again. -/
  | declaredTwice (key : Key)
  /-- A table that is complete is changed. -/
  | immutable (key : Key)
  /-- A table is reopened by a dotted key. -/
  | redefined (key : Key)
  /-- A value stands there already. -/
  | overwrite
  /-- A table header is not closed. -/
  | tableEnd
  /-- The header of an array of tables is not closed. -/
  | arrayEnd
  deriving DecidableEq, Repr

def Cause.message : Cause → String
  | .statement => "Invalid statement"
  | .afterStatement => "Expected newline or end of document after a statement"
  | .keyStart => "Invalid initial character for a key part"
  | .equalsSign => "Expected '=' after a key in a key/value pair"
  | .value => "Invalid value"
  | .moment => "Invalid date or datetime"
  | .openArray => "Unclosed array"
  | .openInlineTable => "Unclosed inline table"
  | .inlineKey part => "Duplicate inline table key " ++ quoted part
  | .openString => "Unterminated string"
  | .closing mark => "Expected " ++ quoted mark
  | .escape => "Unescaped '\\' in a string"
  | .hexDigits => "Invalid hex value"
  | .scalarValue => "Escaped character is not a Unicode scalar value"
  | .stringChar c => "Illegal character " ++ quoted (String.ofList [c])
  | .invalidChar c => "Found invalid character " ++ quoted (String.ofList [c])
  | .declaredTwice key => "Cannot declare " ++ keyText key ++ " twice"
  | .immutable key => "Cannot mutate immutable namespace " ++ keyText key
  | .redefined key => "Cannot redefine namespace " ++ keyText key
  | .overwrite => "Cannot overwrite a value"
  | .tableEnd => "Expected ']' at the end of a table declaration"
  | .arrayEnd => "Expected ']]' at the end of an array declaration"

/-- What is wrong with a text. -/
inductive Fault where
  /-- It is no document; `left` characters follow the place. -/
  | malformed (cause : Cause) (left : Nat)
  /-- It holds an integer with more digits than are read. -/
  | tooLong (digits : Nat)
  deriving DecidableEq, Repr

def faultAt {α : Type} (cause : Cause) (rest : List Char) : Except Fault α :=
  .error (.malformed cause rest.length)

def placeText (document : List Char) (left : Nat) : String :=
  if left = 0 then "end of document"
  else
    let before := document.take (document.length - left)
    let line := before.count '\n' + 1
    let column := (before.reverse.takeWhile (· != '\n')).length + 1
    "line " ++ natText line ++ ", column " ++ natText column

end SourceCheck.Toml
