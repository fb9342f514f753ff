import SourceCheck.Host.Basic

/-! # Canonical paths

    The canonical form of a path has no links, no dots and no double dots.  Names
    that lead nowhere stay as they are, a double dot after them takes the last
    one away.  A link that leads back to itself ends the search: what is left of
    the path stays, and such a path has no canonical form.
-/

namespace SourceCheck

open SourceCheck.Text

namespace Canonical

/-- A place as a path writes it.  One place written in two ways counts as two. -/
structure Spot where
  /-- The path starts at the working directory. -/
  isRelative : Bool
  place : Place
  deriving DecidableEq, Repr

def Spot.below (s : Spot) (names : List String) : Spot := ⟨s.isRelative, s.place ++ names⟩

def Spot.above (s : Spot) : Spot := ⟨s.isRelative, s.place.dropLast⟩

/-- Links met on the way, with the spot each leads to once that is known. -/
abbrev Seen := List (Spot × Option Spot)

/-- How far a search came: the spot, whether it was free of circles, and the
    links met. -/
structure Progress where
  spot : Spot
  /-- No link led back to itself. -/
  sound : Bool
  seen : Seen

def linkAt? (fs : FileSystem) (place : Place) : Option String :=
  match fs.find [] false (placePath place).text with
  | .ok ⟨_, some (.link target)⟩ => some target
  | _ => none

def top : Spot := ⟨false, []⟩

/-- Follows names from a spot; `onLink` follows the target of a link. -/
def follow (fs : FileSystem) (onLink : Seen → Spot → List String → Progress) :
    Seen → Spot → List String → Progress
  | seen, spot, [] => ⟨spot, true, seen⟩
  | seen, spot, name :: rest =>
    if name = "" ∨ name = "." then follow fs onLink seen spot rest
    else if name = ".." then follow fs onLink seen spot.above rest
    else
      let next := spot.below [name]
      match linkAt? fs next.place with
      | none => follow fs onLink seen next rest
      | some target =>
        -- a link seen before is known, or it is being followed just now and closes a circle
        match seen.lookup next with
        | some (some known) => follow fs onLink seen known rest
        | some none => ⟨next.below rest, false, seen⟩
        | none =>
          let start := if startsWith target "/" then top else spot
          let reached := onLink ((next, none) :: seen) start (FileSystem.steps target)
          if reached.sound then
            follow fs onLink ((next, some reached.spot) :: reached.seen) reached.spot rest
          -- the rest of the names stays as it is behind a circle
          else ⟨reached.spot.below rest, false, reached.seen⟩

/-- Follows names from a spot through at most `depth` links inside each other. -/
def search (fs : FileSystem) : Nat → Seen → Spot → List String → Progress
  | 0 => follow fs fun seen spot rest => ⟨spot.below rest, false, seen⟩
  | depth + 1 => follow fs (search fs depth)

end Canonical

/-- A path has no canonical form because links lead round in a circle. -/
structure LinkCircle where
  /-- How far the path could be followed. -/
  path : Path
  deriving DecidableEq, Repr

def Host.canonical (h : Host) (p : Path) : Except LinkCircle Path :=
  let reached := Canonical.search h.files (2 * h.files.entries.length + 2) []
    (if p.isAbsolute then Canonical.top else ⟨true, h.cwd⟩) p.parts
  let result := (Path.ofText (placePath reached.spot.place).text).normal
  match h.stat result.text with
  | .error .linkLoop => .error ⟨result⟩
  | _ => .ok result

end SourceCheck
