import SourceCheck.StandIn.Regex.Syntax

/-! # Matching

    A match starts as early as it can and from there is as long as it can be.  Its
    end is found by following all ways through the expression at once, as the set of
    places they have come to.  What the numbered parts stand for is read off the first
    way that leads to that end, where a way takes each repetition as often and each
    choice as early as it can.
-/

namespace SourceCheck.Regex

open SourceCheck SourceCheck.Text

/-- A text that is searched, and how. -/
structure Subject where
  letters : Array Char
  /-- Small and large letters are the same. -/
  folds : Bool
  /-- Lines inside the text have starts and ends of their own. -/
  hasLines : Bool
  /-- Octets that are no letters are no letters. -/
  wide : Bool

namespace Subject

def size (s : Subject) : Nat := s.letters.size

def after (s : Subject) (p : Nat) : Option Char := s.letters[p]?

def before (s : Subject) (p : Nat) : Option Char := if p = 0 then none else s.letters[p - 1]?

def same (s : Subject) (c d : Char) : Bool := c == d || (s.folds && small c == small d)

def isIn (s : Subject) (members : List Member) (c : Char) : Bool :=
  members.any (·.holds c)
    || (s.folds && (members.any (·.holds (small c)) || members.any (·.holds (large c))))

/-- One letter of the text is described by an expression for single letters; nothing
    if the expression is none. -/
def test? (s : Subject) : Regex → Option (Char → Bool)
  | .letter c => some fun d => s.same c d
  | .any => some fun d => !(s.wide && isOctetLetter d) && !(s.hasLines && d == '\n')
  | .oneOf false members => some fun d => s.isIn members d
  | .oneOf true members => some fun d =>
    !s.isIn members d && !(s.wide && isOctetLetter d) && !(s.hasLines && d == '\n')
  | _ => none

def isAt (s : Subject) (p : Nat) : Anchor → Bool
  | .lineStart => p == 0 || (s.hasLines && s.before p == some '\n')
  | .lineEnd => p == s.size || (s.hasLines && s.after p == some '\n')
  | .textStart => p == 0
  | .textEnd => p == s.size
  | .wordStart => !(s.before p).any isWordLetter && (s.after p).any isWordLetter
  | .wordEnd => (s.before p).any isWordLetter && !(s.after p).any isWordLetter
  | .wordEdge => (s.before p).any isWordLetter != (s.after p).any isWordLetter
  | .noEdge => (s.before p).any isWordLetter == (s.after p).any isWordLetter

end Subject

/-! ## All ways at once -/

/-- Two rows of places in order, put together in order. -/
def mergePlaces : List Nat → List Nat → List Nat
  | [], ys => ys
  | xs, [] => xs
  | x :: xs, y :: ys =>
    if x < y then x :: mergePlaces xs (y :: ys)
    else if y < x then y :: mergePlaces (x :: xs) ys
    else x :: mergePlaces xs ys
termination_by xs ys => xs.length + ys.length

/-- Places in order, without those that are in another row in order. -/
def withoutPlaces : List Nat → List Nat → List Nat
  | [], _ => []
  | xs, [] => xs
  | x :: xs, y :: ys =>
    if x < y then x :: withoutPlaces xs (y :: ys)
    else if y < x then withoutPlaces (x :: xs) ys
    else withoutPlaces xs ys
termination_by xs ys => xs.length + ys.length

/-- The places that are reached by steps of one letter from some places in order;
    `fuel` bounds the places. -/
def runPlaces (s : Subject) (test : Char → Bool) : Nat → List Nat → List Nat
  | 0, _ => []
  | _, [] => []
  | fuel + 1, p :: rest =>
    let isFollowed := rest.head? == some (p + 1)
    let rest := if (s.after p).any test && !isFollowed then (p + 1) :: rest else rest
    p :: runPlaces s test fuel rest

/-- The places that are reached by any number of steps; `fuel` bounds the steps. -/
def closePlaces (step : List Nat → List Nat) : Nat → List Nat → List Nat → List Nat
  | 0, seen, _ => seen
  | fuel + 1, seen, frontier =>
    let new := withoutPlaces (step frontier) seen
    if new.isEmpty then seen else closePlaces step fuel (mergePlaces seen new) new

def spreadPlaces (step : List Nat → List Nat) : Nat → List Nat → List Nat → List Nat
  | 0, seen, _ => seen
  | n + 1, seen, frontier =>
    let new := step frontier
    if new.isEmpty then seen else spreadPlaces step n (mergePlaces seen new) new

def repeatStep (step : List Nat → List Nat) : Nat → List Nat → List Nat
  | 0, ps => ps
  | n + 1, ps => if ps.isEmpty then [] else repeatStep step n (step ps)

/-- The places to which an expression leads from some places in order.  A part that
    refers back leads nowhere here. -/
def reach (s : Subject) : Regex → List Nat → List Nat
  | .empty, ps => ps
  | .letter c, ps => (ps.filter fun p => (s.after p).any (s.same c)).map (· + 1)
  | .any, ps => (ps.filter fun p => (s.after p).any ((s.test? .any).getD fun _ => false)).map (· + 1)
  | .oneOf negated members, ps =>
    (ps.filter fun p => (s.after p).any ((s.test? (.oneOf negated members)).getD fun _ => false)).map
      (· + 1)
  | .place a, ps => ps.filter fun p => s.isAt p a
  -- the second part is not tried from nowhere
  | .row a b, ps => let mid := reach s a ps; if mid.isEmpty then [] else reach s b mid
  | .choice a b, ps => mergePlaces (reach s a ps) (reach s b ps)
  | .group _ r, ps => reach s r ps
  | .loop least most r, ps =>
    let start := repeatStep (reach s r) least ps
    match most with
    | some n => spreadPlaces (reach s r) (n - least) start start
    | none =>
      match s.test? r with
      -- one letter repeated is run through without going through the parts again
      | some test => runPlaces s test (s.size + 1) start
      | none => closePlaces (reach s r) (s.size + 1) start start
  -- what a group matched is not known here, so `wayThrough` decides
  | .again _, _ => []

/-! ## One way after the other -/

/-- A place on a way, and what numbered parts stand for there, each with its start
    and its end. -/
structure Way where
  place : Nat
  parts : List (Nat × Nat × Nat)

/-- A numbered part stands for what is between two places. -/
def Way.bind (n start : Nat) (w : Way) : Way :=
  ⟨w.place, (n, start, w.place) :: w.parts.filter (·.1 != n)⟩

/-- A step is taken as often as it can be, up to some number of times; a step that
    goes nowhere ends the row. -/
def repeatWay (once : (Way → Option Way) → Way → Option Way) (goal : Way → Option Way) :
    Nat → Way → Option Way
  | 0, w => goal w
  | n + 1, w =>
    (once (fun w' => if w'.place = w.place then none else repeatWay once goal n w') w).or (goal w)

/-- A step is taken some number of times, and then more often. -/
def requireWay (once : (Way → Option Way) → Way → Option Way) (more : Way → Option Way) :
    Nat → Way → Option Way
  | 0, w => more w
  | n + 1, w => once (requireWay once more n) w

def foundAgain (s : Subject) (start : Nat) : Nat → Nat → Bool
  | 0, _ => true
  | n + 1, p =>
    (match s.after start, s.after p with
      | some c, some d => s.same c d
      | _, _ => false) && foundAgain s (start + 1) n (p + 1)

def wayThrough (s : Subject) : Regex → (Way → Option Way) → Way → Option Way
  | .empty, goal, w => goal w
  | .letter c, goal, w =>
    if (s.after w.place).any (s.same c) then goal { w with place := w.place + 1 } else none
  | .any, goal, w =>
    if (s.after w.place).any ((s.test? .any).getD fun _ => false) then
      goal { w with place := w.place + 1 }
    else none
  | .oneOf negated members, goal, w =>
    if (s.after w.place).any ((s.test? (.oneOf negated members)).getD fun _ => false) then
      goal { w with place := w.place + 1 }
    else none
  | .place a, goal, w => if s.isAt w.place a then goal w else none
  | .row a b, goal, w => wayThrough s a (fun w => wayThrough s b goal w) w
  | .choice a b, goal, w => (wayThrough s a goal w).or (wayThrough s b goal w)
  | .group n r, goal, w =>
    let start := w.place
    wayThrough s r (fun w => goal (w.bind n start)) w
  | .loop least most r, goal, w =>
    -- a loop without an end cannot take more steps than there are letters
    let more := match most with
      | some n => n - least
      | none => s.size + 1
    requireWay (wayThrough s r) (repeatWay (wayThrough s r) goal more) least w
  | .again n, goal, w =>
    match w.parts.find? (·.1 == n) with
    | none => none
    | some (_, start, stop) =>
      let count := stop - start
      if foundAgain s start count w.place then goal { w with place := w.place + count } else none

/-! ## Matches -/

/-- A match: its start, its end, and what the numbered parts stand for. -/
structure Match where
  start : Nat
  stop : Nat
  /-- The parts, each with its number, its start and its end. -/
  parts : List (Nat × Nat × Nat)
  deriving Repr

/-- The end of the longest way from a place that refers back, below a bound that
    falls with each attempt; `fuel` bounds the attempts. -/
def longestBack (s : Subject) (r : Regex) (start : Nat) : Nat → Nat → Option Way
  | 0, _ => none
  | fuel + 1, stop =>
    match wayThrough s r (fun w => if w.place = stop then some w else none) ⟨start, []⟩ with
    | some w => some w
    | none => if stop ≤ start then none else longestBack s r start fuel (stop - 1)

/-- The places where matches from a place may end. -/
def endsFrom (s : Subject) (r : Regex) (start : Nat) : List Nat :=
  if r.refersBack then
    (List.range (s.size + 1 - start)).map (start + ·) |>.filter fun stop =>
      (wayThrough s r (fun w => if w.place = stop then some w else none) ⟨start, []⟩).isSome
  else reach s r [start]

def matchFrom? (s : Subject) (r : Regex) (start bound : Nat) : Option Match :=
  if r.refersBack then
    (longestBack s r start (s.size + 2) (min bound s.size)).map fun w => ⟨start, w.place, w.parts⟩
  else match ((reach s r [start]).filter (· ≤ bound)).getLast? with
    | none => none
    | some stop =>
      if r.groupCount = 0 then some ⟨start, stop, []⟩
      else
        let way := wayThrough s r (fun w => if w.place = stop then some w else none) ⟨start, []⟩
        some ⟨start, stop, (way.map (·.parts)).getD []⟩

/-- The first match from a place on; `fuel` bounds the places. -/
def searchFrom? (s : Subject) (r : Regex) : Nat → Nat → Option Match
  | 0, _ => none
  | fuel + 1, start =>
    if s.size < start then none
    else match matchFrom? s r start s.size with
      | some m => some m
      | none => searchFrom? s r fuel (start + 1)

def search? (s : Subject) (r : Regex) (start : Nat) : Option Match :=
  searchFrom? s r (s.size + 2 - start) start

/-- What a numbered part of a match stands for; the part zero is all of it. -/
def Match.part (m : Match) (n : Nat) : Option (Nat × Nat) :=
  if n = 0 then some (m.start, m.stop) else (m.parts.find? (·.1 == n)).map (·.2)

/-- The letters between two places. -/
def Subject.slice (s : Subject) (start stop : Nat) : List Char :=
  (s.letters.extract start stop).toList

/-- What a numbered part of a match stands for, as letters. -/
def Match.text (m : Match) (s : Subject) (n : Nat) : List Char :=
  match m.part n with
  | some (start, stop) => s.slice start stop
  | none => []

end SourceCheck.Regex
