import SourceCheck.Text.Lines

/-! # Messages on the two outputs

    A message goes to the standard output or to the standard error, with a line
    feed after it unless it is told otherwise.
-/

namespace SourceCheck.CommandLine

open SourceCheck.Text

structure Message where
  text : String
  /-- A line feed follows. -/
  newline : Bool
  isError : Bool
  deriving DecidableEq, Repr

def Message.shown (m : Message) : String := if m.newline then m.text ++ "\n" else m.text

/-- The standard output and the standard error after some messages. -/
def echoed (ms : List Message) : String × String :=
  (joinWith "" ((ms.filter (!·.isError)).map Message.shown),
    joinWith "" ((ms.filter (·.isError)).map Message.shown))

end SourceCheck.CommandLine
