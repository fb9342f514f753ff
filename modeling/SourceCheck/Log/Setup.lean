import SourceCheck.Host.Basic
import SourceCheck.Log.Record
import SourceCheck.Text.Blank
import SourceCheck.Value.Display

/-! # Setting the log up

    The format and the level of the log are the ones asked for, else those of the
    environment, else text and info.  An unknown format is refused, an unknown
    level means info.
-/

namespace SourceCheck.Log

open SourceCheck.Text

/-- How the log is set up. -/
structure Setup where
  format : Format
  level : Level
  deriving DecidableEq, Repr, Inhabited

/-- Why the log cannot be set up. -/
inductive SetupFault where
  | format (word : String)
  | level (kind : String)
  deriving DecidableEq, Repr

def SetupFault.message : SetupFault → String
  | .format word => "Unknown log format '" ++ word ++ "'"
  | .level kind => Value.noAttributeWording "strip" kind

def formatVariable : String := "GOCHECK_LOG_FORMAT"

def levelVariable : String := "GOCHECK_LOG_LEVEL"

def nonEmpty (s : Option String) : Option String :=
  match s with
  | some "" => none
  | s => s

def readFormat (word : String) : Except SetupFault Format :=
  match Format.read? word with
  | some f => .ok f
  | none => .error (.format word)

/-- Sets the log up. -/
def setup (vs : Variables) (format level : Option String) : Except SetupFault Setup :=
  let formatWord := (nonEmpty format <|> vs.nonEmpty? formatVariable).getD Format.text.name
  let levelWord := (nonEmpty level <|> vs.nonEmpty? levelVariable).getD Level.info.name
  (readFormat formatWord).map fun f => ⟨f, (Level.read? levelWord).getD .info⟩

/-- Sets the log up from values of any kind.  One that does not count as true asks
    for nothing; any other format is read as it is shown. -/
def setupFrom (vs : Variables) (format level : Value) : Except SetupFault Setup :=
  let formatWord := if format.isTruthy then some format.display else none
  match level with
  | .text word => setup vs formatWord (some word)
  | level =>
    match setup vs formatWord none with
    | .error e => .error e
    | .ok s => if level.isTruthy then .error (.level level.kindName) else .ok s

def Setup.line (s : Setup) (time : String) (r : Record) : String :=
  match s.format with
  | .text => r.text
  | .json => r.json time

/-- The lines that records make in the log; those below its level make none. -/
def Setup.lines (s : Setup) (time : String) (records : List Record) : List String :=
  (records.filter fun r => s.level.number ≤ r.level.number).map (s.line time)

end SourceCheck.Log
