import Std.Data.HashMap

/-! # Changes between two texts

    The lines of two texts are compared by their keys.  Lines at the start and at the end
    that both have, and lines that only one of them has, are set aside; of the rest the
    fewest are marked as changed, found by going forward and backward at once along
    diagonals until both ways meet.  Runs of changed lines are then moved forward as far
    as possible, or to where they meet a run in the other text.
-/

namespace SourceCheck.Utility.Diff

/-! ## The shortest way -/

/-- Two rows of keys, and which of each are marked. -/
structure Pair where
  old : Array Nat
  new : Array Nat

/-- The keys at two places are the same. -/
def Pair.same (p : Pair) (x y : Int) : Bool :=
  0 ≤ x && 0 ≤ y && match p.old[x.toNat]?, p.new[y.toNat]? with
    | some a, some b => a == b
    | _, _ => false

/-- A part of both rows: from where to before where it goes in each. -/
structure Area where
  /-- Where it starts in the old row. -/
  xLow : Int
  /-- Before where it ends in the old row. -/
  xHigh : Int
  /-- Where it starts in the new row. -/
  yLow : Int
  /-- Before where it ends in the new row. -/
  yHigh : Int

/-- How far each diagonal has been gone; `base` is added to the number of a diagonal. -/
structure Front where
  /-- The places in the old row. -/
  reached : Array Int
  /-- What is added to the number of a diagonal. -/
  base : Int
  low : Int
  high : Int

namespace Front

/-- How far a diagonal has been gone. -/
def reach (f : Front) (d : Int) : Int := f.reached[(d + f.base).toNat]?.getD 0

/-- A diagonal has been gone to a place. -/
def set (f : Front) (d x : Int) : Front :=
  { f with reached := f.reached.setIfInBounds (d + f.base).toNat x }

/-- One diagonal more on each side, or one less where the area ends; `outside` is what
    stands for diagonals that were not gone. -/
def widen (f : Front) (dLow dHigh outside : Int) : Front :=
  let f := if dLow < f.low then { f.set (f.low - 2) outside with low := f.low - 1 }
    else { f with low := f.low + 1 }
  if f.high < dHigh then { f.set (f.high + 2) outside with high := f.high + 1 }
  else { f with high := f.high - 1 }

end Front

/-- The place behind equal keys from one place on; `fuel` bounds their number. -/
def slideOn (p : Pair) (a : Area) : Nat → Int → Int → Int
  | 0, x, _ => x
  | fuel + 1, x, y =>
    if x < a.xHigh && y < a.yHigh && p.same x y then slideOn p a fuel (x + 1) (y + 1) else x

/-- The place before equal keys up to one place; `fuel` bounds their number. -/
def slideBack (p : Pair) (a : Area) : Nat → Int → Int → Int
  | 0, x, _ => x
  | fuel + 1, x, y =>
    if a.xLow < x && a.yLow < y && p.same (x - 1) (y - 1) then slideBack p a fuel (x - 1) (y - 1)
    else x

/-- One step forward on each second diagonal from one down; the meeting point, if the
    way back has been met.  `fuel` bounds the diagonals. -/
def stepOn (p : Pair) (a : Area) (odd : Bool) (back : Front) :
    Nat → Int → Front → Front × Option (Int × Int)
  | 0, _, f => (f, none)
  | fuel + 1, d, f =>
    if d < f.low then (f, none)
    else
      let below := f.reach (d - 1)
      let above := f.reach (d + 1)
      let x := slideOn p a (p.old.size + 1) (if below < above then above else below + 1)
        ((if below < above then above else below + 1) - d)
      let f := f.set d x
      if odd && back.low ≤ d && d ≤ back.high && back.reach d ≤ x then (f, some (x, x - d))
      else stepOn p a odd back fuel (d - 2) f

/-- One step backward on each second diagonal from one down; the meeting point, if the
    way forward has been met.  `fuel` bounds the diagonals. -/
def stepBack (p : Pair) (a : Area) (odd : Bool) (ahead : Front) :
    Nat → Int → Front → Front × Option (Int × Int)
  | 0, _, f => (f, none)
  | fuel + 1, d, f =>
    if d < f.low then (f, none)
    else
      let below := f.reach (d - 1)
      let above := f.reach (d + 1)
      let x := slideBack p a (p.old.size + 1) (if below < above then below else above - 1)
        ((if below < above then below else above - 1) - d)
      let f := f.set d x
      if !odd && ahead.low ≤ d && d ≤ ahead.high && x ≤ ahead.reach d then (f, some (x, x - d))
      else stepBack p a odd ahead fuel (d - 2) f

/-- Steps forward and backward in turn until both ways meet; `fuel` bounds the steps. -/
def meet (p : Pair) (a : Area) (odd : Bool) : Nat → Front → Front → Option (Int × Int)
  | 0, _, _ => none
  | fuel + 1, ahead, back =>
    let dLow := a.xLow - a.yHigh
    let dHigh := a.xHigh - a.yLow
    let count := p.old.size + p.new.size + 3
    let ahead := ahead.widen dLow dHigh (-1)
    match stepOn p a odd back count ahead.high ahead with
    | (_, some found) => some found
    | (ahead, none) =>
      let back := back.widen dLow dHigh (p.old.size + p.new.size + 2 : Nat)
      match stepBack p a odd ahead count back.high back with
      | (_, some found) => some found
      | (back, none) => meet p a odd fuel ahead back

/-- A point in the middle of a shortest way through an area. -/
def middle (p : Pair) (a : Area) : Option (Int × Int) :=
  let base : Int := p.new.size + 2
  let start := a.xLow - a.yLow
  let stop := a.xHigh - a.yHigh
  let empty : Array Int := Array.replicate (p.old.size + p.new.size + 5) 0
  let ahead := (⟨empty, base, start, start⟩ : Front).set start a.xLow
  let back := (⟨empty, base, stop, stop⟩ : Front).set stop a.xHigh
  meet p a ((start - stop) % 2 != 0) (p.old.size + p.new.size + 2) ahead back

/-- Which lines of both texts are changed. -/
structure Marks where
  old : Array Bool
  new : Array Bool

/-- All places from one to before another are marked. -/
def markAll (marks : Array Bool) (low high : Int) : Array Bool :=
  (List.range (high - low).toNat).foldl (fun m i => m.setIfInBounds (low.toNat + i) true) marks

/-- Marks the changes in an area; `fuel` bounds its size. -/
def markArea (p : Pair) : Nat → Area → Marks → Marks
  | 0, _, m => m
  | fuel + 1, a, m =>
    let x := slideOn p a (p.old.size + 1) a.xLow a.yLow
    let a : Area := { a with xLow := x, yLow := a.yLow + (x - a.xLow) }
    let x := slideBack p a (p.old.size + 1) a.xHigh a.yHigh
    let a : Area := { a with xHigh := x, yHigh := a.yHigh - (a.xHigh - x) }
    if a.xLow = a.xHigh then { m with new := markAll m.new a.yLow a.yHigh }
    else if a.yLow = a.yHigh then { m with old := markAll m.old a.xLow a.xHigh }
    else match middle p a with
      | none => m
      | some (x, y) =>
        markArea p fuel { a with xLow := x, yLow := y }
          (markArea p fuel { a with xHigh := x, yHigh := y } m)

/-- The fewest marks that tell two rows apart. -/
def fewestMarks (p : Pair) : Marks :=
  markArea p (p.old.size + p.new.size + 2) ⟨0, p.old.size, 0, p.new.size⟩
    ⟨Array.replicate p.old.size false, Array.replicate p.new.size false⟩

/-! ## Lines that only one text has -/

/-- How often each key occurs. -/
def countKeys (keys : Array Nat) : Std.HashMap Nat Nat :=
  keys.foldl (fun m k => m.insert k (m.getD k 0 + 1)) {}

def sharedPlaces (keys : Array Nat) (other : Std.HashMap Nat Nat) : Array Nat :=
  (List.range keys.size).foldl (fun places i =>
    if other.contains (keys[i]?.getD 0) then places.push i else places) #[]

/-- Marks all places but some, and among those the ones that are marked. -/
def spreadMarks (size : Nat) (places : Array Nat) (marks : Array Bool) : Array Bool :=
  (List.range places.size).foldl
    (fun m i => m.setIfInBounds (places[i]?.getD 0) (marks[i]?.getD false))
    (Array.replicate size true)

/-- The marks of two rows: keys that the other row does not have are marked, and the
    fewest of the others. -/
def marksOf (p : Pair) : Marks :=
  let oldPlaces := sharedPlaces p.old (countKeys p.new)
  let newPlaces := sharedPlaces p.new (countKeys p.old)
  let reach := fun (keys places : Array Nat) => places.map fun i => keys[i]?.getD 0
  let m := fewestMarks ⟨reach p.old oldPlaces, reach p.new newPlaces⟩
  ⟨spreadMarks p.old.size oldPlaces m.old, spreadMarks p.new.size newPlaces m.new⟩

/-! ## Moving runs -/

/-- A run of marked lines in one text.  Lines are counted from one. -/
structure Run where
  /-- The marks of the text; nothing is marked before the first and after the last. -/
  marks : Array Bool
  start : Nat
  /-- The line after the run. -/
  stop : Nat
  /-- The line of the other text that answers to the line after the run. -/
  other : Nat
  /-- The last end of the run at which it met a run in the other text. -/
  met : Nat

def isMarked (marks : Array Bool) (i : Nat) : Bool := marks[i]?.getD false

/-- The first line from one on that is not marked; `fuel` bounds the lines. -/
def skipMarked (marks : Array Bool) : Nat → Nat → Nat
  | 0, i => i
  | fuel + 1, i => if isMarked marks i then skipMarked marks fuel (i + 1) else i

/-- The first line of the marked ones before one; `fuel` bounds the lines. -/
def skipMarkedBack (marks : Array Bool) : Nat → Nat → Nat
  | 0, i => i
  | fuel + 1, i => if isMarked marks (i - 1) then skipMarkedBack marks fuel (i - 1) else i

/-- The last line before one that is not marked; `fuel` bounds the lines. -/
def lastUnmarked (marks : Array Bool) : Nat → Nat → Nat
  | 0, i => i
  | fuel + 1, i => if isMarked marks (i - 1) then lastUnmarked marks fuel (i - 1) else i - 1

/-- The text that a run lies in, and the marks of the other text. -/
structure Sides where
  keys : Array Nat
  others : Array Bool

namespace Sides

def same (s : Sides) (i j : Nat) : Bool := s.keys[i - 1]? == s.keys[j - 1]?

/-- More than the number of lines of both texts. -/
def bound (s : Sides) : Nat := s.keys.size + s.others.size + 2

def back (s : Sides) (r : Run) : Run :=
  let marks := (r.marks.setIfInBounds (r.start - 1) true).setIfInBounds (r.stop - 1) false
  { r with marks := marks, start := r.start - 1, stop := r.stop - 1,
           other := lastUnmarked s.others s.bound r.other }

/-- The run goes back as long as the line before it is the same as its last one, and joins
    runs it meets; `fuel` bounds the steps. -/
def pullBack (s : Sides) : Nat → Run → Run
  | 0, r => r
  | fuel + 1, r =>
    if 1 < r.start && s.same (r.start - 1) (r.stop - 1) then
      let r := s.back r
      pullBack s fuel { r with start := skipMarkedBack r.marks s.bound r.start }
    else r

/-- The run goes forward as long as the line after it is the same as its first one, and
    joins runs it meets; `fuel` bounds the steps. -/
def pushOn (s : Sides) : Nat → Run → Run
  | 0, r => r
  | fuel + 1, r =>
    if r.stop ≤ s.keys.size && s.same r.start r.stop then
      let marks := (r.marks.setIfInBounds r.start false).setIfInBounds r.stop true
      let stop := skipMarked marks s.bound (r.stop + 1)
      let other := skipMarked s.others s.bound (r.other + 1)
      pushOn s fuel ⟨marks, r.start + 1, stop, other, if other = r.other + 1 then r.met else stop⟩
    else r

/-- The run goes back to where it met a run in the other text; `fuel` bounds the steps. -/
def settle (s : Sides) : Nat → Run → Run
  | 0, r => r
  | fuel + 1, r => if r.met < r.stop then settle s fuel (s.back r) else r

/-- The run goes back and forward until it grows no more; `fuel` bounds the turns. -/
def grow (s : Sides) : Nat → Run → Run
  | 0, r => r
  | fuel + 1, r =>
    let length := r.stop - r.start
    let r := s.pullBack s.bound r
    let r := { r with met := if isMarked s.others (r.other - 1) then r.stop else s.keys.size + 1 }
    let r := s.pushOn s.bound r
    if r.stop - r.start = length then r else grow s fuel r

/-- Moves the runs from a line on; `other` is the line of the other text that answers to
    it, and `fuel` bounds the lines and runs, some of which are met again. -/
def moveRuns (s : Sides) : Nat → Nat → Nat → Array Bool → Array Bool
  | 0, _, _, marks => marks
  | fuel + 1, i, other, marks =>
    if s.keys.size < i then marks
    else if !isMarked marks i then
      moveRuns s fuel (i + 1) (skipMarked s.others s.bound other + 1) marks
    else
      let stop := skipMarked marks s.bound i
      let r := s.grow s.bound ⟨marks, i, stop, skipMarked s.others s.bound other, 0⟩
      let r := s.settle s.bound r
      moveRuns s fuel r.stop r.other r.marks

end Sides

/-- Marks with one before the first and one after the last line. -/
def guarded (marks : Array Bool) : Array Bool := #[false] ++ marks ++ #[false]

def unguarded (marks : Array Bool) : Array Bool := marks.extract 1 (marks.size - 1)

/-- Moves the runs of both texts, those of the old one first. -/
def moved (p : Pair) (m : Marks) : Marks :=
  let old := guarded m.old
  let new := guarded m.new
  let turns := fun (n : Nat) => (n + 2) * (n + 2)
  let old := (⟨p.old, new⟩ : Sides).moveRuns (turns p.old.size) 1 1 old
  let new := (⟨p.new, old⟩ : Sides).moveRuns (turns p.new.size) 1 1 new
  ⟨unguarded old, unguarded new⟩

/-! ## Hunks -/

/-- Lines of the old text that give way to lines of the new text; lines are counted from
    zero, and the ends are not part of it. -/
structure Hunk where
  oldStart : Nat
  oldStop : Nat
  newStart : Nat
  newStop : Nat
  deriving DecidableEq, Repr

/-- The hunks that marks make from two lines on; `fuel` bounds the lines. -/
def hunksFrom (m : Marks) : Nat → Nat → Nat → List Hunk
  | 0, _, _ => []
  | fuel + 1, i, j =>
    let count := m.old.size + m.new.size + 1
    if m.old.size ≤ i && m.new.size ≤ j then []
    else
      let i' := skipMarked m.old count i
      let j' := skipMarked m.new count j
      if i' = i && j' = j then hunksFrom m fuel (i + 1) (j + 1)
      else ⟨i, i', j, j'⟩ :: hunksFrom m fuel i' j'

/-- The hunks between the rows of keys of two texts.  So many lines as `kept` of those
    that both have at their starts and ends take part; `endsAlike` tells that lines at
    the ends can be the same. -/
def hunks (p : Pair) (kept : Nat) (endsAlike : Bool) : List Hunk :=
  let count := fun (a b : List Nat) => ((a.zip b).takeWhile fun (x, y) => x == y).length
  let before := count p.old.toList p.new.toList - kept
  let old := p.old.toList.drop before
  let new := p.new.toList.drop before
  let after := if endsAlike then count old.reverse new.reverse - kept else 0
  let inner : Pair := ⟨(old.take (old.length - after)).toArray, (new.take (new.length - after)).toArray⟩
  let m := moved inner (marksOf inner)
  (hunksFrom m (inner.old.size + inner.new.size + 2) 0 0).map fun h =>
    ⟨h.oldStart + before, h.oldStop + before, h.newStart + before, h.newStop + before⟩

end SourceCheck.Utility.Diff
