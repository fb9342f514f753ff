import SourceCheck.StandIn.Utility.Content
import SourceCheck.StandIn.Utility.DiffChanges

/-! # Two texts side by side

    Each line of a comparison shows a line of the old text at its left and one of the new
    text at its right, cut to the width of their columns.  A mark between them tells how
    they differ.
-/

namespace SourceCheck.Utility.Diff

/-- A line, with whether a line feed ends it. -/
abbrev Line := List Char × Bool

/-- How two texts are shown side by side. -/
structure Columns where
  lineLength : Nat
  /-- The distance of the stops that tabs lead to. -/
  tabSize : Nat
  /-- Tabs are shown as blanks. -/
  expands : Bool
  /-- Lines that both texts have are left out. -/
  leavesOut : Bool
  /-- Lines that both texts have are shown at the left only. -/
  leftOnly : Bool
  deriving Repr

namespace Columns

/-- How much room there is between the columns at least. -/
def leastGap : Nat := 3

/-- The width of a column, and where the right one starts. -/
def layout (k : Columns) : Nat × Nat :=
  let tab := if k.expands then 1 else k.tabSize
  let gap := tab + leastGap
  let middle := k.lineLength / 2 + gap / 2 + (if k.lineLength % 2 = 1 ∧ gap % 2 = 1 then 1 else 0)
  let start := middle - middle % tab
  let half := min (start - leastGap) (k.lineLength - start)
  (half, if half = 0 then k.lineLength else start)

/-- Tabs and blanks from one column to another; `fuel` bounds the tabs. -/
def gapTo (k : Columns) : Nat → Nat → Nat → List Char
  | 0, _, _ => []
  | fuel + 1, column, stop =>
    let next := column + k.tabSize - column % k.tabSize
    if !k.expands && next ≤ stop then '\t' :: k.gapTo fuel next stop
    else List.replicate (stop - column) ' '

def gap (k : Columns) (column stop : Nat) : List Char := k.gapTo (stop + 1) column stop

/-- The characters of a line that a column has room for, and the column behind them; `place` is
    the column in the line as a whole, and `shown` that of what is shown. -/
def cut (k : Columns) (room start : Nat) : Nat → Nat → List Char → List Char × Nat
  | _, shown, [] => ([], shown)
  | place, shown, c :: rest =>
    let after := fun (text : List Char) (place shown : Nat) =>
      let (more, last) := k.cut room start place shown rest
      (text ++ more, last)
    match c with
    | '\t' =>
      let next := place + k.tabSize - place % k.tabSize
      if place ≠ shown then after [] next shown
      else if k.expands then after (List.replicate (min next room - shown) ' ') next (min next room)
      else if next < room then after ['\t'] next next
      else after [] next shown
    | '\r' => after ('\r' :: k.gap 0 start) 0 0
    | c =>
      let width := if isContinuation c || c.toNat < 0x20 then 0 else 1
      if place + width ≤ room then after [c] (place + width) (place + width)
      else after [] (place + width) shown

def line (k : Columns) (old : Option Line) (mark : Char) (new : Option Line) : List Char :=
  let (half, start) := k.layout
  let ends := fun (l : Option Line) => l.any (·.2)
  let (left, column) := match old with
    | some l => k.cut half 0 0 0 l.1
    | none => ([], 0)
  let mark := if mark == '|' && ends old != ends new then (if ends old then '/' else '\\') else mark
  let place := (half + start - 1) / 2
  let (between, column) :=
    if mark = ' ' then ([], column) else (k.gap column place ++ [mark], max column place + 1)
  let right := match new with
    | some ([], _) | none => []
    | some l => k.gap column start ++ (k.cut half start 0 0 l.1).1
  left ++ between ++ right ++ (if ends old || ends new then ['\n'] else [])

/-- Lines that both texts have; there may be more on one side. -/
def common (k : Columns) : List Line → List Line → List Char
  | [], [] => []
  | a :: old, b :: new =>
    if k.leavesOut then []
    else if k.leftOnly then k.line (some a) '(' none ++ k.common old new
    else k.line (some a) ' ' (some b) ++ k.common old new
  | [], b :: new =>
    if k.leavesOut || k.leftOnly then [] else k.line none ')' (some b) ++ k.common [] new
  | a :: old, [] =>
    if k.leavesOut then [] else k.line (some a) '(' none ++ k.common old []

/-- Lines that differ: those that both sides have, and then the rest of one side. -/
def changed (k : Columns) : List Line → List Line → List Char
  | [], [] => []
  | a :: old, b :: new => k.line (some a) '|' (some b) ++ k.changed old new
  | [], b :: new => k.line none '>' (some b) ++ k.changed [] new
  | a :: old, [] => k.line (some a) '<' none ++ k.changed old []

/-- Two texts side by side from some lines on, with the hunks in which they differ. -/
def lines (k : Columns) (old new : Array Line) (i j : Nat) : List Hunk → List Char
  | [] => k.common (old.toList.drop i) (new.toList.drop j)
  | h :: rest =>
    let part := fun (ls : Array Line) (start stop : Nat) => (ls.extract start stop).toList
    k.common (part old i h.oldStart) (part new j h.newStart)
      ++ k.changed (part old h.oldStart h.oldStop) (part new h.newStart h.newStop)
      ++ k.lines old new h.oldStop h.newStop rest

end Columns

end SourceCheck.Utility.Diff
