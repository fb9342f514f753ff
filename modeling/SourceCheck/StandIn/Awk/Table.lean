import SourceCheck.StandIn.Awk.Value
import Std.Data.HashMap

/-! # Tables

    A table holds values by keys and gives its keys back in an order of its own.  Keys
    lie in rows: those that were used as integers by the integer, and all others by a
    mark of the text.  What is looked up moves to the front of its row.  Before a text
    is looked up, or the keys are given back, the integers are put in rows by their
    texts too.
-/

namespace SourceCheck.Awk

open SourceCheck SourceCheck.Number

structure Table where
  values : Std.HashMap String Value
  integers : Array (List Int)
  texts : Array (List (List Char))
  /-- All keys are in rows by their texts. -/
  hasTexts : Bool
  deriving Inhabited

namespace Table

def firstRows : Nat := 64

/-- How many keys a row has at most in the mean. -/
def rowLimit : Nat := 12

def empty : Table :=
  ⟨∅, Array.replicate firstRows [], Array.replicate firstRows [], false⟩

def size (t : Table) : Nat := t.values.size

/-- The mark of a text: a product of 32 bits that each octet changes. -/
def markOf (s : List Char) : Nat :=
  s.foldl (fun h c => Nat.xor h c.toNat * 16777619 % Nat.pow 2 32) 2166136261

def textRow (rows : Nat) (s : List Char) : Nat := markOf s % rows

def integerRow (rows : Nat) (n : Int) : Nat := (n % (rows : Int)).toNat

def toFront {α : Type} [BEq α] (rows : Array (List α)) (row : Nat) (a : α) : Array (List α) :=
  rows.modify row fun keys => a :: keys.filter (· != a)

def integerText (n : Int) : List Char := (intText n).toList

/-- All keys are put in rows by their texts. -/
def withTexts (t : Table) : Table :=
  if t.hasTexts then t
  else
    let all := t.integers.toList.flatten.map integerText
    let texts := all.foldl (fun texts s =>
      texts.modify (textRow t.texts.size s) (s :: ·)) t.texts
    { t with texts := texts, hasTexts := true }

/-- The rows are made twice as many when they have become too long. -/
def grown (t : Table) : Table :=
  let n := t.texts.size
  if t.size ≤ rowLimit * n then t
  else
    let split {α : Type} (rowOf : α → Nat) (rows : Array (List α)) : Array (List α) :=
      (rows.map fun keys => keys.filter fun a => rowOf a < n)
        ++ rows.map fun keys => keys.filter fun a => n ≤ rowOf a
    { t with
      integers := split (integerRow (2 * n)) t.integers
      texts := split (textRow (2 * n)) t.texts }

/-- A key: a text, or a number that is one of the integers of a machine. -/
inductive Key where
  | integer (n : Int)
  | text (s : List Char)

def Key.toText : Key → List Char
  | .integer n => integerText n
  | .text s => s

def Key.name (k : Key) : String := String.ofList k.toText

def Key.ofValue (template : List Char) : Value → Key
  | .number x =>
    let n := machineInteger x
    match Double.order? x (.ofInt n) with
    | some .eq => .integer n
    | _ => .text (numberText template x)
  | v => .text (v.toText template)

def touch (k : Key) (t : Table) : Table :=
  match k with
  | .text s =>
    let t := t.withTexts
    { t with texts := toFront t.texts (textRow t.texts.size s) s }
  | .integer n =>
    let row := integerRow t.integers.size n
    let isKnown := (t.integers[row]?.getD []).contains n
    let t := { t with integers := toFront t.integers row n }
    if isKnown || !t.hasTexts then t
    else
      let s := integerText n
      { t with texts := toFront t.texts (textRow t.texts.size s) s }

/-- A table whose rows are looked through for a key. -/
def seek (k : Key) (t : Table) : Table :=
  if t.values.contains k.name then t.touch k
  else match k with
    | .text _ => t.withTexts
    | .integer _ => t

def contains (k : Key) (t : Table) : Bool := t.values.contains k.name

def get? (k : Key) (t : Table) : Option Value := t.values[k.name]?

def insert (k : Key) (v : Value) (t : Table) : Table :=
  let isNew := !t.contains k
  let t := { t.touch k with values := t.values.insert k.name v }
  if isNew then t.grown else t

def erase (k : Key) (t : Table) : Table :=
  let t := t.seek k
  let s := k.toText
  { t with
    values := t.values.erase k.name
    integers := t.integers.map fun keys => keys.filter fun n => integerText n != s
    texts := t.texts.modify (textRow t.texts.size s) fun keys => keys.filter (· != s) }

def keys (t : Table) : List (List Char) := t.withTexts.texts.toList.flatten

def ofList (vs : List Value) : Table :=
  let numbered := (List.range vs.length).zip vs
  numbered.foldl (fun t (i, v) => t.insert (.integer (i + 1)) v) empty

end Table

end SourceCheck.Awk
