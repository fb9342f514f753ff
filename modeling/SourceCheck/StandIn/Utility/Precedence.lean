import SourceCheck.StandIn.Utility.Content

/-! # Orders of precedence

    Pairs of names tell which of two comes first.  The names are put into a row that
    keeps to all pairs; where names come before one another in a circle, a pair of the
    circle is given up.
-/

namespace SourceCheck.Utility

open SourceCheck SourceCheck.Text SourceCheck.Shell

namespace Precedence

/-- A name among others, which are known by their numbers. -/
structure Item where
  name : List Char
  /-- How many pairs put others before it that are not yet in the row. -/
  waiting : Nat
  /-- What comes after it, the last pair first. -/
  after : List Nat
  isPlaced : Bool
  /-- The next one on the way that a search for a circle has found. -/
  next : Option Nat
  deriving Inhabited

/-- Names by their numbers, in the order of the alphabet. -/
abbrev Items := Array Item

/-- The pairs that words make in turn. -/
def pairsOf {α : Type} : List α → List (α × α)
  | a :: b :: rest => (a, b) :: pairsOf rest
  | _ => []

/-- The names of some pairs; a name paired with itself is bound to nothing. -/
def itemsOf (pairs : List (List Char × List Char)) : Items :=
  let names := ((pairs.flatMap fun (a, b) => [a, b]).mergeSort inOrder).eraseReps
  let start : Items := (names.map fun n => (⟨n, 0, [], false, none⟩ : Item)).toArray
  pairs.foldl (fun items (a, b) =>
    if a = b then items
    else
      let (i, j) := (names.idxOf a, names.idxOf b)
      (items.modify i fun k => { k with after := j :: k.after }).modify j fun k =>
        { k with waiting := k.waiting + 1 }) start

/-- The row goes on with the names in a queue, and with those that wait for nothing else once
    these are placed; `fuel` bounds the names. -/
def place : Nat → List Nat → Items → List Nat × Items
  | 0, _, items => ([], items)
  | _, [], items => ([], items)
  | fuel + 1, i :: queue, items =>
    let items := items.modify i ({ · with isPlaced := true })
    let (queue, items) := (items[i]?.getD default).after.foldl (fun (queue, items) j =>
      let items := items.modify j fun k => { k with waiting := k.waiting - 1 }
      (if (items[j]?.getD default).waiting = 0 then queue ++ [j] else queue, items)) (queue, items)
    let (more, items) := place fuel queue items
    (i :: more, items)

/-- The names on a way up to one of them; `fuel` bounds them. -/
def wayTo (items : Items) (last : Nat) : Nat → Nat → List Nat
  | 0, _ => []
  | fuel + 1, i =>
    if i = last then [i]
    else i :: ((items[i]?.getD default).next.map (wayTo items last fuel)).getD []

/-- One walk through the names in search of a circle: the way so far starts with `way?`.  A
    name from which a pair leads to that start becomes the start; if it is on the way already,
    the circle is found, and the pair that closes it is given up. -/
def walk (count : Nat) : List Nat → Option Nat → Items → Option (List Nat) × Option Nat × Items
  | [], way?, items => (none, way?, items)
  | i :: rest, way?, items =>
    let item := items[i]?.getD default
    match way? with
    | none => walk count rest (if 0 < item.waiting then some i else none) items
    | some start =>
      if item.waiting = 0 || !item.after.contains start then walk count rest way? items
      else if item.next.isSome then
        let circle := wayTo items i (count + 1) start
        let items := items.modify i fun k => { k with after := k.after.erase start }
        let items := items.modify start fun k => { k with waiting := k.waiting - 1 }
        (some circle, none, items.map ({ · with next := none }))
      else walk count rest (some i) (items.modify i ({ · with next := some start }))

/-- Walks until a circle is found; `fuel` bounds the walks. -/
def circle (count : Nat) : Nat → Option Nat → Items → List Nat × Items
  | 0, _, items => ([], items)
  | fuel + 1, way?, items =>
    match walk count (List.range count) way? items with
    | (some found, _, items) => (found, items)
    | (none, way?, items) => circle count fuel way? items

/-- The row of all names, and the circles on the way; `fuel` bounds the circles. -/
def rows : Nat → Items → List (List Nat × List Nat)
  | 0, _ => []
  | fuel + 1, items =>
    let ready := (List.range items.size).filter fun i =>
      match items[i]? with
      | some k => k.waiting = 0 && !k.isPlaced
      | none => false
    let (row, items) := place (items.size + 1) ready items
    if items.all (·.isPlaced) then [(row, [])]
    else
      let (found, items) := circle items.size (items.size * items.size + 2) none items
      (row, found) :: rows fuel items

end Precedence

/-- Puts names into a row by pairs of them. -/
def tsort : Utility := withOptions [] fun name o w =>
  match o.args with
  | _ :: extra :: _ => complainExtra name extra w
  | args =>
    let path := args.head?.getD "-"
    let (content, w) := readSource path (w.withStatus 0)
    let shown := shellQuotedIfNeeded path
    match content with
    | .error e => complain name (shown ++ (if e == .isDirectory then ": read error: " else ": ")
        ++ e.wording) w
    | .ok s =>
      let words := wordsOf s
      if words.length % 2 = 1 then
        complain name (shown ++ ": input contains an odd number of tokens") w
      else
        let pairs := Precedence.pairsOf words
        let items := Precedence.itemsOf pairs
        let nameOf := fun (i : Nat) => (items[i]?.getD default).name
        (Precedence.rows (pairs.length + 1) items).foldl (fun w (row, found) =>
          let w := putLines (row.map nameOf) w
          if found.isEmpty then w
          else
            let w := complain name (shown ++ ": input contains a loop:") w
            found.foldl (fun w i => complain name (String.ofList (nameOf i)) w) w) w

end SourceCheck.Utility
