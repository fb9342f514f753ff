import SourceCheck.StandIn.Shell.Pattern
import SourceCheck.StandIn.Shell.World

/-! # Fields

    A word whose parts were put in place is a row of pieces.  Within values that
    came from outside quotes it is cut into fields at separators; a field that is
    a pattern gives way to the names of the files it matches.
-/

namespace SourceCheck.Shell

open SourceCheck SourceCheck.Text

/-! ## Pieces -/

/-- A piece of a word whose parts were put in place. -/
inductive Piece where
  | char (c : Char) (isQuoted : Bool)
  /-- Quotes stood here, so the field is there even if it is empty. -/
  | quotes
  /-- The word may be cut from here on, perhaps only between arguments. -/
  | start (argumentsOnly : Bool)
  /-- The word may be cut up to here. -/
  | stop
  deriving DecidableEq, Repr

def argumentEnd : Char := Char.ofNat 0

def marksOf (pieces : List Piece) : List Mark :=
  pieces.filterMap fun
    | .char c q => some (c, q)
    | _ => none

def markText (ms : List Mark) : String := String.ofList (ms.map (·.1))

def textOf (pieces : List Piece) : String := markText (marksOf pieces)

/-! ## Cutting -/

/-- What was cut so far.  Quotes stand as nothing among the marks. -/
structure Cutting where
  done : List (List (Option Mark))
  /-- The field that is being read, its last mark first. -/
  current : List (Option Mark)
  /-- The word may be cut here. -/
  isOpen : Bool
  /-- It may be cut only between arguments. -/
  argumentsOnly : Bool
  /-- Before this stretch it could be cut only between arguments. -/
  afterArguments : Bool
  /-- The last field was ended by a blank. -/
  afterBlank : Bool
  /-- How many fields may still be there, if that is limited. -/
  left : Option Nat
  /-- The last field as it is when the separators at its end are dropped. -/
  trimmed : Option (List (Option Mark))

namespace Cutting

def initial (left : Option Nat) : Cutting := ⟨[], [], false, false, false, false, left, none⟩

def take (m : Option Mark) (k : Cutting) : Cutting := { k with current := m :: k.current }

def finish (k : Cutting) : Cutting := { k with done := k.current.reverse :: k.done, current := [] }

def takeLast (m : Mark) (isSeparator isBlank : Bool) (k : Cutting) : Cutting :=
  if isBlank then
    { k with trimmed := some (k.trimmed.getD k.current) }.take (some m)
  else
    let trimmed := if isSeparator && k.afterBlank then k.trimmed else none
    { k with trimmed := trimmed, afterBlank := false }.take (some m)

/-- A separator that ends a field, unless it is a blank at its start. -/
def cut (m : Mark) (isBlank : Bool) (k : Cutting) : Cutting :=
  let k := if k.afterArguments || k.argumentsOnly then k else { k with afterBlank := isBlank }
  if k.current.isEmpty && k.afterBlank then { k with afterBlank := false }
  else match k.left with
    | some 1 => { k with left := some 0, trimmed := some k.current }.take (some m)
    | left => { k with left := left.map (· - 1) }.finish

/-- A character is read where the word may be cut. -/
def takeOpen (separators : List Char) (m : Mark) (k : Cutting) : Cutting :=
  let c := m.1
  let isSeparator := c == argumentEnd || (!k.argumentsOnly && separators.contains c)
  let isBlank := isSeparator && (c == argumentEnd || isBlankSeparator c)
  if k.left == some 0 then k.takeLast m isSeparator isBlank
  else if k.afterBlank then
    let k := { k with current := [] }
    if isBlank then k
    else
      let k := { k with afterBlank := false }
      if isSeparator then k else k.take (some m)
  else if isSeparator then k.cut m isBlank
  else k.take (some m)

def step (separators : List Char) (k : Cutting) : Piece → Cutting
  | .char c q => if k.isOpen then k.takeOpen separators (c, q) else k.take (some (c, q))
  | .quotes => k.take none
  | .start argumentsOnly =>
    { k with
      isOpen := true
      argumentsOnly := argumentsOnly
      afterArguments := k.argumentsOnly
      afterBlank := false }
  | .stop => { k with isOpen := false }

def fields (k : Cutting) : List (List (Option Mark)) :=
  let k := match k.trimmed with
    | some current => { k with current := current }
    | none => k
  (if k.argumentsOnly || !k.current.isEmpty then k.finish else k).done.reverse

end Cutting

/-- The fields that pieces make, at most as many as are asked for. -/
def cutPieces (separators : List Char) (most : Option Nat) (pieces : List Piece) :
    List (List Mark) :=
  let k := pieces.foldl (Cutting.step separators) (.initial most)
  k.fields.map fun field => field.filterMap id

/-! ## File names -/

def markSteps (ms : List Mark) : List (List Mark) :=
  ms.foldr (fun m steps =>
    if m.1 = '/' then [] :: steps
    else match steps with
      | [] => [[m]]
      | step :: rest => (m :: step) :: rest) [[]]

def matchingPaths (fs : FileSystem) (cwd : Place) (above : String) :
    List (List Mark) → List String
  | [] => [above]
  | step :: rest =>
    let last := rest.isEmpty
    let after := fun name => above ++ name ++ (if last then "" else "/")
    if !isPattern step then
      let path := after (markText step)
      if last && !(fs.find cwd false (toText path)).toOption.any (·.entry.isSome) then []
      else matchingPaths fs cwd path rest
    else
      match fs.find cwd true (toText (if above.isEmpty then "." else above)) with
      | .ok ⟨place, some (.directory _)⟩ =>
        let names := ([".", ".."] ++ (fs.names place).map ofText).filter fun name =>
          matchesPattern step name.toList
            && (!startsWith name "." || step.head?.any (·.1 == '.'))
        names.flatMap fun name => matchingPaths fs cwd (after name) rest
      | _ => []

/-- A field, or the files it matches if it is a pattern that matches some. -/
def fileNames (w : World) (field : List Mark) : List String :=
  let pattern := unescapeMarks field
  if w.hasOption "noglob" || !(markSteps pattern).any isPattern then [markText field]
  else
    match matchingPaths w.machine.files w.shell.cwd "" (markSteps pattern) with
    | [] => [markText field]
    | paths => paths.mergeSort fun a b => inOrder a.toList b.toList

end SourceCheck.Shell
