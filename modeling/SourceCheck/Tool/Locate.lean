import SourceCheck.Tool.Effect
import SourceCheck.Tool.Invocation

/-! # Finding the program of a tool

    A tool is looked for at four kinds of places, and the first file found is its
    binary:

    1. the name itself, if it holds a slash and names a regular file,
    2. for `go`, the folder `bin` of the directory in `GOROOT`,
    3. for any other tool, the folders `bin` of the directories in `GOPATH`,
    4. the directories of the search path, where the file must be a program.
-/

namespace SourceCheck

open SourceCheck.Text

/-- The system refuses to look at a file. -/
structure LookupFailure where
  cause : SystemError
  file : String
  deriving DecidableEq, Repr

def LookupFailure.message (f : LookupFailure) : String := f.cause.message f.file

/-! ## Candidates -/

/-- The directory in `GOROOT`, if it is set and not empty. -/
def goRoot (vs : Variables) : Option String := vs.nonEmpty? "GOROOT"

/-- The file of a name in the folder `bin` of a directory. -/
def binaryIn (directory name : String) : Path := ((Path.ofText directory).child "bin").child name

/-- The files that may be the binary of a tool without being on the search path. -/
def binaryCandidates (vs : Variables) (tool : String) : List Path :=
  if tool = goTool then ((goRoot vs).map (binaryIn · goTool)).toList
  else ((splitAt ':' (vs.value "GOPATH")).filter (· ≠ "")).map (binaryIn · tool)

def firstFile (h : Host) : List Path → Except LookupFailure (Option String)
  | [] => .ok none
  | p :: rest =>
    match h.isFile p.text with
    | .error e => .error ⟨e, p.text⟩
    | .ok true => .ok (some p.text)
    | .ok false => firstFile h rest

/-! ## The search path -/

def plainSearchPath : String := "/bin:/usr/bin"

def firsts : List String → List String → List String
  | _, [] => []
  | seen, a :: rest => if seen.contains a then firsts seen rest else a :: firsts (a :: seen) rest

/-- A program can be run from a path. -/
def isRunnable (h : Host) (path : String) : Bool :=
  !Host.hasNul path && h.files.isProgram h.cwd path

/-- The program of a name on a search path.  A name with a slash is not searched
    for. -/
def onSearchPath (h : Host) (searchPath name : String) : Option String :=
  if holds name '/' then if isRunnable h name then some name else none
  else if searchPath.isEmpty then none
  else ((firsts [] (splitAt ':' searchPath)).map (joinText · name)).find? (isRunnable h)

def searchPath (h : Host) (vs : Variables) : String :=
  ((vs.get? "PATH") <|> (h.environment.get? "PATH")).getD plainSearchPath

/-! ## Locating -/

def isOwnFile (h : Host) (tool : String) : Except LookupFailure Bool :=
  if !holds tool '/' then .ok false
  else match h.isFile (Path.ofText tool).text with
    | .ok found => .ok found
    | .error e => .error ⟨e, (Path.ofText tool).text⟩

def locate (h : Host) (vs : Variables) (tool : String) :
    Except LookupFailure (Option String) :=
  match isOwnFile h tool with
  | .error e => .error e
  | .ok true => .ok (some tool)
  | .ok false =>
    match firstFile h (binaryCandidates vs tool) with
    | .error e => .error e
    | .ok (some path) => .ok (some path)
    | .ok none => .ok (onSearchPath h (searchPath h vs) tool)

/-! ## Resolvers -/

/-- What tells the binary of a tool. -/
inductive Resolver where
  /-- Fixed answers; a tool without one is missing. -/
  | fixed (answers : List (String × String))
  | search (environment : Variables)
  deriving Repr

/-- What the log is told about a tool that was searched for. -/
def searchRecords (tool : String) (found : Option String) : List Effect :=
  match found with
  | some _ => []
  | none =>
    [.record (Log.record .debug "services" ("No executable found for " ++ tool)
      { Log.Fields.only .services with tool := some tool })]

/-- The binary of a tool, with what the log is told. -/
def Resolver.resolve (h : Host) (tool : String) :
    Resolver → Except LookupFailure (Option String × List Effect)
  | .fixed answers => .ok (answers.lookup tool, [])
  | .search vs => (locate h vs tool).map fun found => (found, searchRecords tool found)

end SourceCheck
