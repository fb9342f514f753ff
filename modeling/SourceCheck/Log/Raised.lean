import SourceCheck.Log.Coding
import SourceCheck.Log.Grammar

/-! # What was raised with a record

    A record may tell what was raised: its kind, and its text after a colon unless
    that is empty.  Most kinds show what they were raised with; a refusal by the
    system has a number, a wording and up to two files, and a kind of its own for
    the usual numbers.  A fault in a program text shows its place first.
-/

namespace SourceCheck.Log

open SourceCheck.Number SourceCheck.Text

/-- Something that was raised. -/
structure Raised where
  kind : String
  arguments : List Value
  deriving Repr

namespace Raised

/-! ## Refusals by the system -/

def systemKinds : List String := ["OSError", "IOError", "EnvironmentError"]

def kindOfCode (n : Int) : String :=
  if n = 1 ∨ n = 13 then "PermissionError"
  else if n = 2 then "FileNotFoundError"
  else if n = 3 then "ProcessLookupError"
  else if n = 4 then "InterruptedError"
  else if n = 10 then "ChildProcessError"
  else if n = 11 ∨ n = 114 ∨ n = 115 then "BlockingIOError"
  else if n = 17 then "FileExistsError"
  else if n = 20 then "NotADirectoryError"
  else if n = 21 then "IsADirectoryError"
  else if n = 32 ∨ n = 108 then "BrokenPipeError"
  else if n = 103 then "ConnectionAbortedError"
  else if n = 104 then "ConnectionResetError"
  else if n = 110 then "TimeoutError"
  else if n = 111 then "ConnectionRefusedError"
  else "OSError"

/-- The kinds of refusals by the system, the general ones included. -/
def isSystemKind (kind : String) : Bool :=
  systemKinds.contains kind || kind == "ConnectionError"
    || [1, 2, 3, 4, 10, 11, 17, 20, 21, 32, 103, 104, 110, 111].any fun n => kindOfCode n == kind

/-- The kind of a refusal of a general kind with some arguments: only between two and
    five arguments start with a number. -/
def systemKind : List Value → String
  | [code, _] | [code, _, _] | [code, _, _, _] | [code, _, _, _, _] =>
    match code with
    | .int n => kindOfCode n
    | .bool b => kindOfCode (if b then 1 else 0)
    | _ => "OSError"
  | _ => "OSError"

def shownKind (r : Raised) : String :=
  if systemKinds.contains r.kind then systemKind r.arguments else r.kind

/-- The text of a refusal with its number, its wording and its files. -/
def systemText (code wording file other : Value) : String :=
  let start := "[Errno " ++ code.display ++ "] " ++ wording.display
  if file.isNull then start
  else if other.isNull then start ++ ": " ++ file.describe
  else start ++ ": " ++ file.describe ++ " -> " ++ other.describe

/-- A value where a refusal for lack of data may have the number of characters that were
    written. -/
def isWritten : Value → Except RaisedFault Bool
  | .bool _ => .ok true
  | .int n =>
    if n < -(Nat.pow 2 63) ∨ (Nat.pow 2 63 : Int) ≤ n then .error .writtenTooLarge else .ok true
  | .double x => .error (.notInteger (Value.double x).kindName)
  | _ => .ok false

/-- The text of a refusal that may name files.  A number in place of the first file of a
    refusal for lack of data names none. -/
def fileText (r : Raised) (code wording file other : Value) : Except RaisedFault String :=
  if r.shownKind != "BlockingIOError" then .ok (systemText code wording file other)
  else match isWritten file with
    | .error e => .error e
    | .ok true => .ok (systemText code wording .null .null)
    | .ok false => .ok (systemText code wording file other)

/-! ## Texts -/

/-- The text of what was raised with some arguments, whatever its kind. -/
def plainText : List Value → String
  | [] => ""
  | [v] => v.display
  | vs => "(" ++ joinWith ", " (vs.map Value.describe) ++ ")"

/-- The text of a refusal by the system.  The fourth of its arguments is of no use. -/
def refusalText (r : Raised) : Except RaisedFault String :=
  match r.arguments with
  | [code, wording] => .ok (systemText code wording .null .null)
  | [code, wording, file] | [code, wording, file, _] => r.fileText code wording file .null
  | [code, wording, file, _, other] => r.fileText code wording file other
  | vs => .ok (plainText vs)

def isGrammarKind (kind : String) : Bool := ["SyntaxError", "IndentationError", "TabError"].contains kind

def isGroupKind (kind : String) : Bool := ["ExceptionGroup", "BaseExceptionGroup"].contains kind

/-- Why a group cannot be raised: no value was raised itself, so none can be its member. -/
def groupFault : List Value → RaisedFault
  | [message, members] =>
    match message with
    | .text _ | .severity _ =>
      match members with
      | .list [] | .text "" => .groupEmpty
      | .list _ | .text _ | .severity _ => .groupMember
      | _ => .groupNoSequence
    | message => .groupMessage message.kindName
  | given => .groupCount given.length

def message (r : Raised) : Except RaisedFault String :=
  if isSystemKind r.kind then r.refusalText
  else if isGroupKind r.kind then .error (groupFault r.arguments)
  else match r.kind, r.arguments with
    | "UnicodeEncodeError", args => Coding.encodeText args
    | "UnicodeTranslateError", args => Coding.translateText args
    | "UnicodeDecodeError", args => Coding.decodeText args
    | "KeyError", [v] => .ok v.describe
    | _, args => .ok (plainText args)

def told (r : Raised) : Except RaisedFault (Except TellingFault String) :=
  if isGrammarKind r.kind then
    (placeOf r.arguments).map fun p =>
      (grammarLines r.kind r.arguments p).map (joinWith "\n")
  else
    r.message.map fun message =>
      .ok (if message.isEmpty then r.shownKind else r.shownKind ++ ": " ++ message)

/-- What a value tells that was put in the place of what was raised: its third item would be
    where that was, and its second what. -/
def toldBy (v : Value) : Except TellingFault (Option String) :=
  if !v.isTruthy then .ok none
  else match v with
    | .text s => if s.length < 3 then .error .textEnds else .error (.lacks v.kindName "tb_frame")
    | .severity s => .error (.lacks (Value.text s.name).kindName "tb_frame")
    | .map _ => .error .noMember
    -- only the first three of the items are looked at
    | .list (_ :: what :: place :: _) =>
      if !place.isNull then .error (.lacks place.kindName "tb_frame")
      else if !what.isNull then .error (.lacks what.kindName "__suppress_context__")
      else .ok (some (Value.kindName .null ++ ": " ++ Value.describe .null))
    | .list _ => .error .listEnds
    | v => .error (.noItems v.kindName)

end Raised

end SourceCheck.Log
