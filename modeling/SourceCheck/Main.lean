import SourceCheck.Command.Run
import SourceCheck.StandIn.Image
import SourceCheck.StandIn.Shell.Run
import SourceCheck.Log.Record

/-! # The program

    Answers one command line on a host that is described on the standard input: a
    mapping with the files, the working directory and the environment, all as in
    descriptions of hosts, and the number of seconds since 1970 as `now`.
-/

namespace SourceCheck.Main

open SourceCheck

/-- The directory below which the described files are made. -/
def base : Path := Path.ofText "/tmp/source"

def timeOf (description : Value) : String :=
  let seconds := match description.get? "now" with
    | some (.int n) => n
    | _ => 0
  match (Log.Instant.ofInt seconds).text with
  | .ok s => s
  | .error e => e.message

/-- The answer to a command line on a described host, or what went wrong. -/
def answer (description : Value) (args : List String) :
    Except CommandLine.Failure CommandLine.Answer :=
  CommandLine.run Shell.runProcess (Image.addRequest base (Image.plainHost base) description)
    (timeOf description) args

end SourceCheck.Main

open SourceCheck in
/-- Reads the description of a host and answers the command line. -/
def main (args : List String) : IO UInt32 := do
  let text ← (← IO.getStdin).readToEnd
  -- a description that is no JSON reads as null, and `answer` then says what is missing
  let description := (Json.read text).getD .null
  match Main.answer description args with
  | .ok a =>
    (← IO.getStdout).putStr a.output
    (← IO.getStderr).putStr a.errors
    return a.status.toUInt32
  | .error e =>
    (← IO.getStderr).putStrLn e.message
    return 1
