import SourceCheck.Value.Display

/-! # Faults of what was raised

    Some kinds cannot be raised with every list of arguments, and a few of those
    that can are raised with something that cannot be told later.  The two are
    found at different times: the first before a record is there, the second
    while it is put into words.
-/

namespace SourceCheck.Log

open SourceCheck.Number

/-! ## Raising -/

/-- Why something cannot be raised. -/
inductive RaisedFault where
  /-- The kind is raised with another number of arguments. -/
  | count (needed given : Nat)
  /-- The kind for groups is raised with two arguments. -/
  | groupCount (given : Nat)
  | groupMessage (kind : String)
  | groupNoSequence
  | groupEmpty
  | groupMember
  | notText (position : Nat) (kind : String)
  | notOctets (kind : String)
  | notInteger (kind : String)
  /-- A number needs more than sixty-four bits. -/
  | tooLarge
  | writtenTooLarge
  | noParts (kind : String)
  /-- A place in a program text has less than four parts. -/
  | tooFewParts (given : Nat)
  /-- A place in a program text has more than six parts. -/
  | tooManyParts (given : Nat)
  /-- A place in a program text has a last line and no last column. -/
  | noLastColumn
  deriving DecidableEq, Repr

def notTextWording (position : Nat) (kind : String) : String :=
  "argument " ++ natText position ++ " must be str, not "
    ++ (if kind = Value.kindName .null then Value.describe .null else kind)

def RaisedFault.message : RaisedFault → String
  | .count needed given =>
    "function takes exactly " ++ natText needed ++ " arguments (" ++ natText given ++ " given)"
  | .groupCount given =>
    "BaseExceptionGroup.__new__() takes exactly 2 arguments (" ++ natText given ++ " given)"
  | .groupMessage kind => "BaseExceptionGroup.__new__() " ++ notTextWording 1 kind
  | .groupNoSequence => "second argument (exceptions) must be a sequence"
  | .groupEmpty => "second argument (exceptions) must be a non-empty sequence"
  | .groupMember => "Item 0 of second argument (exceptions) is not an exception"
  | .notText position kind => notTextWording position kind
  | .notOctets kind => "a bytes-like object is required, not '" ++ kind ++ "'"
  | .notInteger kind => "'" ++ kind ++ "' object cannot be interpreted as an integer"
  | .tooLarge => "Python int too large to convert to C ssize_t"
  | .writtenTooLarge => "cannot fit 'int' into an index-sized integer"
  | .noParts kind => "'" ++ kind ++ "' object is not iterable"
  | .tooFewParts given =>
    "function takes at least 4 arguments (" ++ natText given ++ " given)"
  | .tooManyParts given =>
    "function takes at most 6 arguments (" ++ natText given ++ " given)"
  | .noLastColumn => "end_offset must be provided when end_lineno is provided"

/-! ## Telling -/

/-- Why what was raised cannot be told. -/
inductive TellingFault where
  | lacks (kind part : String)
  | noItems (kind : String)
  /-- A text ends before its third character. -/
  | textEnds
  /-- A sequence ends before its third item. -/
  | listEnds
  /-- A mapping has no member for the number two. -/
  | noMember
  /-- A value cannot be looked up. -/
  | noLookup (kind : String)
  /-- A value cannot be counted up. -/
  | noSum (kind : String)
  /-- A value cannot be counted down. -/
  | noDifference (kind : String)
  | cutAtFraction
  | repeatedByFraction
  | tooOften
  deriving DecidableEq, Repr

def TellingFault.message : TellingFault → String
  | .lacks kind part => Value.noAttributeWording part kind
  | .noItems kind => "'" ++ kind ++ "' object is not subscriptable"
  | .textEnds => "string index out of range"
  | .listEnds => "list index out of range"
  | .noMember => "2"
  | .noLookup kind => "unhashable type: '" ++ kind ++ "'"
  | .noSum kind =>
    if kind = "str" ∨ kind = "list" then
      "can only concatenate " ++ kind ++ " (not \"int\") to " ++ kind
    else "unsupported operand type(s) for +: '" ++ kind ++ "' and 'int'"
  | .noDifference kind => "unsupported operand type(s) for -: '" ++ kind ++ "' and 'int'"
  | .cutAtFraction => "slice indices must be integers or None or have an __index__ method"
  | .repeatedByFraction => "can't multiply sequence by non-int of type 'float'"
  | .tooOften => "cannot fit 'int' into an index-sized integer"

end SourceCheck.Log
