import SourceCheck.Text.Lines

/-! # Run logs

    A run log tells its reader about a check, line by line.  One that is kept in
    memory can be cleared; one that is written to a stream cannot.
-/

namespace SourceCheck

open SourceCheck.Text

inductive RunLog where
  | memory (lines : List String)
  | stream (written : String)
  deriving DecidableEq, Repr

namespace RunLog

def append (line : String) : RunLog → RunLog
  | .memory lines => .memory (lines ++ [line])
  | .stream written => .stream (written ++ line ++ "\n")

def appendAll (lines : List String) (log : RunLog) : RunLog :=
  lines.foldl (fun log line => log.append line) log

def clear : RunLog → RunLog
  | .memory _ => .memory []
  | .stream written => .stream written

def text : RunLog → String
  | .memory lines => joinWith "\n" lines
  | .stream written => written

def lines : RunLog → List String
  | .memory lines => lines
  | .stream _ => []

end RunLog

end SourceCheck
