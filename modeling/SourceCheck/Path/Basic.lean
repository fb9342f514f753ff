import SourceCheck.Text.Lines

/-! # Paths

    A path is a root and the names below it.  Reading a text drops empty names
    and single dots and keeps double dots; a text that starts with exactly two
    slashes has a root of its own, any other number of slashes is one root.  The
    relative path without names is written as a dot.
-/

namespace SourceCheck

open SourceCheck.Text

/-- Where a path starts. -/
inductive Root where
  | relative
  | slash
  /-- At the root directory, written with two slashes. -/
  | doubleSlash
  deriving DecidableEq, Repr, Inhabited

def Root.text : Root → String
  | .relative => ""
  | .slash => "/"
  | .doubleSlash => "//"

/-- A path. -/
structure Path where
  root : Root
  parts : List String
  deriving DecidableEq, Repr, Inhabited

namespace Path

/-! ## Reading and writing -/

def rootOf : List Char → Root
  | '/' :: '/' :: '/' :: _ => .slash
  | '/' :: '/' :: _ => .doubleSlash
  | '/' :: _ => .slash
  | _ => .relative

/-- The names between slashes, without empty ones and single dots. -/
def partsOf (s : List Char) : List String :=
  ((cutAt '/' s).filter fun p => p ≠ [] && p ≠ ['.']).map String.ofList

def ofText (s : String) : Path := ⟨rootOf s.toList, partsOf s.toList⟩

def text (p : Path) : String :=
  match p.root, p.parts with
  | .relative, [] => "."
  | root, parts => root.text ++ joinWith "/" parts

/-! ## Parts -/

def isAbsolute (p : Path) : Bool := p.root != .relative

/-- The last name, empty if there is none. -/
def name (p : Path) : String := p.parts.getLast?.getD ""

def parent (p : Path) : Path := { p with parts := p.parts.dropLast }

def parents (p : Path) : List Path :=
  (List.range p.parts.length).map fun i => { p with parts := p.parts.take (p.parts.length - 1 - i) }

/-- One path read from another: an absolute path stands for itself. -/
def join (p q : Path) : Path :=
  if q.isAbsolute then q else { p with parts := p.parts ++ q.parts }

/-- A path with one name added below. -/
def child (p : Path) (part : String) : Path := p.join (ofText part)

/-- The path read from a working directory. -/
def absolute (p cwd : Path) : Path := if p.isAbsolute then p else cwd.join p

theorem absolute_isAbsolute {cwd p : Path} (h : cwd.isAbsolute = true) :
    (p.absolute cwd).isAbsolute = true := by
  cases hp : p.isAbsolute
  · simp only [absolute, join, hp, Bool.false_eq_true, if_false]
    exact h
  · simp [absolute, hp]

/-! ## Collapsing double dots -/

/-- Names with each double dot taken together with the name before it; `kept`
    are the names so far, the last one first.  Above a root a double dot is
    dropped. -/
def collapse (rooted : Bool) (kept : List String) : List String → List String
  | [] => kept.reverse
  | part :: rest =>
    if part = ".." then
      match kept with
      | [] => if rooted then collapse rooted [] rest else collapse rooted [".."] rest
      | last :: before =>
        if last = ".." then collapse rooted (".." :: kept) rest
        else collapse rooted before rest
    else collapse rooted (part :: kept) rest

/-- A path without double dots, read as names alone. -/
def normal (p : Path) : Path := { p with parts := collapse p.isAbsolute [] p.parts }

end Path

/-! ## Joining texts -/

/-- A file name put after the text of a directory: a slash stands between the two
    unless the directory is empty or ends in one, and a name that starts with a
    slash stands for itself. -/
def joinText (directory file : String) : String :=
  if startsWith file "/" then file
  else if directory.isEmpty || directory.toList.getLast? == some '/' then directory ++ file
  else directory ++ "/" ++ file

end SourceCheck
