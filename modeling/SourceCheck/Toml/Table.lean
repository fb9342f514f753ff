import SourceCheck.Toml.Fault
import SourceCheck.Value.Basic

/-! # Tables of a document

    A document builds one table of tables step by step.  Marks remember which
    tables were declared, so that none is declared twice, and which values are
    complete, so that nothing is added to them.
-/

namespace SourceCheck.Toml

/-- The members of a table. -/
abbrev Members := List (String × Value)

/-! ## Reaching a table -/

/-- Changes the table under a key, which is made where it is missing.  An array
    of tables stands for its last table if `throughArrays` says so. -/
def changeTable (throughArrays : Bool) (change : Members → Option Members) :
    Key → Members → Option Members
  | [], ms => change ms
  | part :: rest, ms =>
    match Value.lookup part ms with
    | none =>
      (changeTable throughArrays change rest []).map fun inner => ms ++ [(part, .map inner)]
    | some (.map inner) =>
      (changeTable throughArrays change rest inner).map fun inner =>
        Value.insert part (.map inner) ms
    | some (.list items) =>
      -- through an array the last of its tables is the one that is meant
      match throughArrays, items.getLast? with
      | true, some (.map inner) =>
        (changeTable throughArrays change rest inner).map fun inner =>
          Value.insert part (.list (items.dropLast ++ [.map inner])) ms
      | _, _ => none
    | some _ => none

def openTable (key : Key) (ms : Members) : Option Members := changeTable true some key ms

/-- Adds an empty table to the array of tables under a key. -/
def appendTable (key : Key) (ms : Members) : Option Members :=
  match key.getLast? with
  | none => none
  | some part =>
    changeTable true (fun ms =>
      match Value.lookup part ms with
      | none => some (ms ++ [(part, .list [.map []])])
      | some (.list items) => some (Value.insert part (.list (items ++ [.map []])) ms)
      | some _ => none) key.dropLast ms

/-- Adds a value to the table under a key; the name must be new there. -/
def addValue (throughArrays : Bool) (key : Key) (part : String) (v : Value) (ms : Members) :
    Option Members :=
  changeTable throughArrays (fun ms =>
    match Value.lookup part ms with
    | none => some (ms ++ [(part, v)])
    | some _ => none) key ms

/-! ## Marks -/

/-- What is remembered about the keys of a document. -/
structure Marks where
  /-- Tables that must not be declared again. -/
  declared : List Key
  /-- Values that are complete, with all below them. -/
  complete : List Key
  /-- Tables made by dotted keys since the last header; they count as declared
      from the next header on. -/
  pending : List Key
  deriving Repr

namespace Marks

def none : Marks := ⟨[], [], []⟩

def isDeclared (m : Marks) (key : Key) : Bool := m.declared.contains key

/-- A value is complete, or lies below one that is. -/
def isComplete (m : Marks) (key : Key) : Bool := m.complete.any (·.isPrefixOf key)

def declare (m : Marks) (key : Key) : Marks := { m with declared := key :: m.declared }

def finish (m : Marks) (key : Key) : Marks := { m with complete := key :: m.complete }

/-- Remembers a table for the next header. -/
def defer (m : Marks) (key : Key) : Marks := { m with pending := key :: m.pending }

def settle (m : Marks) : Marks := ⟨m.pending ++ m.declared, m.complete, []⟩

def forget (m : Marks) (key : Key) : Marks :=
  ⟨m.declared.filter (!key.isPrefixOf ·), m.complete.filter (!key.isPrefixOf ·), m.pending⟩

end Marks

end SourceCheck.Toml
