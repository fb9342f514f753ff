import SourceCheck.Number.Shortest
import SourceCheck.Path.Basic
import SourceCheck.Text.Quoted
import SourceCheck.Text.Utf8

/-! # The file system of a host

    Files, directories and symbolic links, each at a place: the list of names on
    the way from the root directory.  Looking a path up follows links, at most
    forty of them, and fails for one of the causes a system reports.

    A file system is seen by one user, to whom all that is in it belongs: of the
    rights in a mode those of the owner count.  A file must be readable to be read
    and writable to be written, a directory must be writable for a new entry, and
    no name is looked up in a directory that may not be entered.  A privileged user
    may do all this whatever the modes are, and runs a file that anybody may run.

    Other rights that a system may ask for are left out: those of a removal and of
    the list of the entries of a directory, and the special bits of a mode.
-/

namespace SourceCheck

open SourceCheck.Text

/-! ## Causes of failure -/

/-- Why the system refuses a request. -/
inductive SystemError where
  | notFound
  | notExecutable
  | notPermitted
  | alreadyExists
  | notDirectory
  | isDirectory
  /-- The request makes no sense. -/
  | invalidArgument
  | nameTooLong
  /-- The directory still has entries. -/
  | notEmpty
  /-- Links lead round in a circle. -/
  | linkLoop
  deriving DecidableEq, Repr, Inhabited

def SystemError.code : SystemError → Nat
  | .notFound => 2
  | .notExecutable => 8
  | .notPermitted => 13
  | .alreadyExists => 17
  | .notDirectory => 20
  | .isDirectory => 21
  | .invalidArgument => 22
  | .nameTooLong => 36
  | .notEmpty => 39
  | .linkLoop => 40

def SystemError.wording : SystemError → String
  | .notFound => "No such file or directory"
  | .notExecutable => "Exec format error"
  | .notPermitted => "Permission denied"
  | .alreadyExists => "File exists"
  | .notDirectory => "Not a directory"
  | .isDirectory => "Is a directory"
  | .invalidArgument => "Invalid argument"
  | .nameTooLong => "File name too long"
  | .notEmpty => "Directory not empty"
  | .linkLoop => "Too many levels of symbolic links"

/-- A refusal, told with its number and the file it is about. -/
def SystemError.message (e : SystemError) (file : String) : String :=
  "[Errno " ++ Number.natText e.code ++ "] " ++ e.wording ++ ": " ++ quoted file

/-! ## Entries -/

/-- A place in the file system: the names from the root directory down. -/
abbrev Place := List String

/-- The devices of a host. -/
inductive Device where
  /-- Always at its end; takes everything. -/
  | null
  | zero
  deriving DecidableEq, Repr

/-- What stands at a place. -/
inductive Entry where
  | file (content : List UInt8) (mode : Nat)
  | directory (mode : Nat)
  | link (target : String)
  | program (name : String)
  | device (d : Device)
  deriving DecidableEq, Repr

namespace Entry

def isFile : Entry → Bool
  | .file _ _ => true
  | .program _ => true
  | _ => false

def isDirectory : Entry → Bool
  | .directory _ => true
  | _ => false

/-- The rights to an entry.  Links have all of them: what counts is where they lead. -/
def mode : Entry → Nat
  | .file _ mode | .directory mode => mode
  | .link _ => 0o777
  | .program _ => 0o755
  | .device _ => 0o666

def hasRunBit (e : Entry) : Bool := [0o100, 0o010, 0o001].any fun bit => e.mode / bit % 2 == 1

end Entry

/-- What a user may do with a file or a directory. -/
inductive Right where
  | read
  | write
  /-- Run a file, look names up in a directory. -/
  | enter
  deriving DecidableEq, Repr

/-- The bit of a mode that gives the owner a right. -/
def Right.bit : Right → Nat
  | .read => 0o400
  | .write => 0o200
  | .enter => 0o100

/-- The entries of a file system, as one user sees them. -/
structure FileSystem where
  /-- Places and what stands there, each place once; the root directory has none. -/
  entries : List (Place × Entry)
  /-- The rights to the root directory. -/
  rootMode : Nat := 0o755
  /-- The user has all rights, whatever the modes are. -/
  isPrivileged : Bool := false
  deriving Inhabited

namespace FileSystem

/-- What stands at a place, links not followed. -/
def entry? (fs : FileSystem) (place : Place) : Option Entry :=
  if place = [] then some (.directory fs.rootMode) else fs.entries.lookup place

/-! ## Rights -/

/-- The user has a right to an entry. -/
def allows (fs : FileSystem) (r : Right) (e : Entry) : Bool :=
  fs.isPrivileged || e.mode / r.bit % 2 == 1

/-- The user may run a file, or enter a directory.  There is one thing that a privileged
    user may not do: run a file that nobody may run. -/
def mayRun (fs : FileSystem) (e : Entry) : Bool :=
  if fs.isPrivileged then e.isDirectory || e.hasRunBit else fs.allows .enter e

/-- The user may add an entry at a place, to the directory that is above it. -/
def mayAdd (fs : FileSystem) (place : Place) : Bool :=
  (fs.entry? place.dropLast).any (fs.allows .write)

/-! ## Changes -/

def put (fs : FileSystem) (place : Place) (e : Entry) : FileSystem :=
  { fs with entries := go fs.entries }
where
  /-- Replaces the entry of the place, or adds one at the end. -/
  go : List (Place × Entry) → List (Place × Entry)
    | [] => [(place, e)]
    | (p, old) :: rest => if p = place then (p, e) :: rest else (p, old) :: go rest

def remove (fs : FileSystem) (place : Place) : FileSystem :=
  { fs with entries := fs.entries.filter fun (p, _) => !place.isPrefixOf p }

def names (fs : FileSystem) (place : Place) : List String :=
  fs.entries.filterMap fun (p, _) =>
    if p.length = place.length + 1 && place.isPrefixOf p then p.getLast? else none

/-! ## Walking a path -/

/-- The greatest number of octets in a name. -/
def nameLimit : Nat := 255

/-- The greatest number of octets in a path. -/
def pathLimit : Nat := 4095

def octets (s : String) : Nat := s.utf8ByteSize

/-- The names of a path's text, empty ones included. -/
def steps (s : String) : List String := splitAt '/' s

/-- The place and entry a walk ends at; without an entry the place is free and
    its directory exists. -/
structure Found where
  place : Place
  entry : Option Entry

/-- Walks down from a place.  `onLink` goes on after a link, `follow` tells
    whether a link at the very end is followed. -/
def advance (fs : FileSystem) (follow : Bool)
    (onLink : Place → List String → Except SystemError Found) :
    Place → List String → Except SystemError Found
  | place, [] => .ok ⟨place, fs.entry? place⟩
  | place, step :: rest =>
    match fs.entry? place with
    | none => .error .notFound
    | some (.directory mode) =>
      -- a slash at the end of a path asks for nothing that is in the directory
      if step ≠ "" ∧ fs.allows .enter (.directory mode) = false then .error .notPermitted
      else if step = "" ∨ step = "." then advance fs follow onLink place rest
      else if step = ".." then advance fs follow onLink place.dropLast rest
      else if nameLimit < octets step then .error .nameTooLong
      else
        let next := place ++ [step]
        match fs.entry? next with
        | some (.link target) =>
          if rest.isEmpty && !follow then .ok ⟨next, some (.link target)⟩
          else
            onLink (if startsWith target "/" then [] else place) (steps target ++ rest)
        | _ => advance fs follow onLink next rest
    | some _ => .error .notDirectory

/-- Walks down from a place through at most `links` links. -/
def walk (fs : FileSystem) (follow : Bool) : Nat → Place → List String → Except SystemError Found
  | 0 => advance fs follow fun _ _ => .error .linkLoop
  | links + 1 => advance fs follow (walk fs follow links)

/-- How many links one walk may follow. -/
def linkLimit : Nat := 40

/-- Finds a path's text from a working directory; a link at the end is followed
    if wanted. -/
def find (fs : FileSystem) (cwd : Place) (follow : Bool) (s : String) :
    Except SystemError Found :=
  if s.isEmpty then .error .notFound
  else if pathLimit < octets s then .error .nameTooLong
  else fs.walk follow linkLimit (if startsWith s "/" then [] else cwd) (steps s)

def stat (fs : FileSystem) (cwd : Place) (s : String) : Except SystemError Entry :=
  match fs.find cwd true s with
  | .error e => .error e
  | .ok ⟨_, some e⟩ => .ok e
  | .ok ⟨_, none⟩ => .error .notFound

def isProgram (fs : FileSystem) (cwd : Place) (s : String) : Bool :=
  match fs.stat cwd s with
  | .ok e => fs.mayRun e && !e.isDirectory
  | .error _ => false

def isDirectory (fs : FileSystem) (cwd : Place) (s : String) : Bool :=
  match fs.stat cwd s with
  | .ok e => e.isDirectory
  | .error _ => false

/-- The place that a process comes to when it enters the directory at a path. -/
def enter (fs : FileSystem) (cwd : Place) (s : String) : Except SystemError Place :=
  match fs.find cwd true s with
  | .error e => .error e
  | .ok ⟨_, none⟩ => .error .notFound
  | .ok ⟨place, some (.directory mode)⟩ =>
    if fs.allows .enter (.directory mode) = false then .error .notPermitted else .ok place
  | .ok ⟨_, some _⟩ => .error .notDirectory

/-! ## Reading and writing -/

/-- The octets of the file at a path. -/
def read (fs : FileSystem) (cwd : Place) (s : String) : Except SystemError (List UInt8) :=
  match fs.stat cwd s with
  | .error e => .error e
  | .ok e =>
    if fs.allows .read e = false then .error .notPermitted
    else match e with
      | .file content _ => .ok content
      | .directory _ => .error .isDirectory
      | _ => .ok []

def withoutSlashes (s : String) : String :=
  let trimmed := String.ofList (s.toList.reverse.dropWhile (· == '/')).reverse
  if trimmed.isEmpty then s else trimmed

/-- A path, or the target of a link it ends in, ends in a slash, so that only a
    directory can stand there. -/
def namesFolder (fs : FileSystem) : Nat → Place → String → Bool
  | 0, _, _ => false
  | links + 1, cwd, s =>
    match fs.find cwd false (withoutSlashes s) with
    | .error _ => false
    | .ok ⟨place, entry⟩ =>
      if s.toList.getLast? = some '/' then true
      else match entry with
        | some (.link target) => fs.namesFolder links place.dropLast target
        | _ => false

def newFileMode : Nat := 0o644

def newDirectoryMode : Nat := 0o755

/-- Puts octets into the file at a path, which is made if there is none. -/
def write (fs : FileSystem) (cwd : Place) (s : String) (content : List UInt8) :
    Except SystemError FileSystem :=
  -- a trailing slash asks for a directory before anything is opened
  if fs.namesFolder linkLimit cwd s then .error .isDirectory
  else match fs.find cwd true s with
  | .error e => .error e
  | .ok ⟨_, some (.directory _)⟩ => .error .isDirectory
  | .ok ⟨place, some e⟩ =>
    if fs.allows .write e = false then .error .notPermitted
    else match e with
      -- a device takes what is written and keeps nothing
      | .device _ => .ok fs
      | e => .ok (fs.put place (.file content e.mode))
  | .ok ⟨place, none⟩ =>
    -- a new file needs a directory that may be written and searched
    if fs.mayAdd place = false then .error .notPermitted
    else .ok (fs.put place (.file content newFileMode))

def makeDirectory (fs : FileSystem) (cwd : Place) (s : String) : Except SystemError FileSystem :=
  match fs.find cwd false (withoutSlashes s) with
  | .error e => .error e
  | .ok ⟨_, some _⟩ => .error .alreadyExists
  | .ok ⟨place, none⟩ =>
    if fs.mayAdd place = false then .error .notPermitted
    else .ok (fs.put place (.directory newDirectoryMode))

end FileSystem

def placePath (place : Place) : Path := ⟨.slash, place⟩

end SourceCheck
