import SourceCheck.Host.FileSystem

/-! # Hosts

    A host is what a run finds around it: a file system, a working directory and
    environment variables.
-/

namespace SourceCheck

open SourceCheck.Text

/-- Environment variables with their values, each name once. -/
abbrev Variables := List (String × String)

namespace Variables

def get? (vs : Variables) (name : String) : Option String := vs.lookup name

def value (vs : Variables) (name : String) : String := (vs.get? name).getD ""

def nonEmpty? (vs : Variables) (name : String) : Option String :=
  match vs.get? name with
  | some "" => none
  | v => v

def set (name v : String) : Variables → Variables
  | [] => [(name, v)]
  | (n, w) :: rest => if n = name then (n, v) :: rest else (n, w) :: set name v rest

end Variables

/-- What a run finds around it. -/
structure Host where
  files : FileSystem
  cwd : Place
  environment : Variables
  deriving Inhabited

namespace Host

def workingPath (h : Host) : Path := placePath h.cwd

/-- What a path leads to from the working directory.  A path with a NUL character
    leads nowhere. -/
def stat (h : Host) (s : String) : Except SystemError Entry := h.files.stat h.cwd s

/-- A path cannot be passed to the system. -/
def hasNul (s : String) : Bool := holds s (Char.ofNat 0)

/-- Whether an answer about a path fails, as a "no": nothing there, no directory
    on the way, or links in a circle. -/
def isAbsence : SystemError → Bool
  | .notFound | .notDirectory | .linkLoop => true
  | _ => false

/-- Asks a question about what is at a path.  Where nothing is, the answer is no;
    any other failure is reported. -/
def ask (h : Host) (question : Entry → Bool) (s : String) : Except SystemError Bool :=
  if hasNul s then .ok false
  else match h.stat s with
    | .ok e => .ok (question e)
    | .error e => if isAbsence e then .ok false else .error e

def isFile (h : Host) (s : String) : Except SystemError Bool := h.ask Entry.isFile s

def isDirectory (h : Host) (s : String) : Except SystemError Bool := h.ask Entry.isDirectory s

def isThere (h : Host) (s : String) : Except SystemError Bool := h.ask (fun _ => true) s

end Host

end SourceCheck
