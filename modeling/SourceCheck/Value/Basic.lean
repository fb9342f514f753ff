import SourceCheck.Calendar.Moment
import SourceCheck.Finding.Severity

/-! # Values

    What an option, a field of a log record or a member of a document may hold.
    Mappings keep the order of their members; where a key comes twice, the
    reader of the document decides.
-/

namespace SourceCheck

open SourceCheck.Number SourceCheck.Calendar

/-- A value of any kind. -/
inductive Value where
  | null
  /-- A truth value. -/
  | bool (b : Bool)
  | int (n : Int)
  /-- A floating-point number. -/
  | double (x : Double)
  | text (s : String)
  | list (items : List Value)
  | map (members : List (String × Value))
  | path (p : String)
  | severity (s : Severity)
  /-- A member of some enumeration, by what it stands for. -/
  | member (value : Value)
  /-- A date or time. -/
  | moment (m : Moment)
  deriving Repr, Inhabited

namespace Value

def lookup (key : String) : List (String × Value) → Option Value
  | [] => none
  | (k, v) :: rest => if k = key then some v else lookup key rest

theorem lookup_cons_self (key : String) (v : Value) (rest : List (String × Value)) :
    lookup key ((key, v) :: rest) = some v := by simp [lookup]

theorem lookup_cons_of_ne {key k : String} (h : k ≠ key) (v : Value)
    (rest : List (String × Value)) : lookup key ((k, v) :: rest) = lookup key rest := by
  simp [lookup, h]

theorem lookup_eq_none {key : String} {members : List (String × Value)}
    (h : key ∉ members.map Prod.fst) : lookup key members = none := by
  induction members with
  | nil => rfl
  | cons m rest ih =>
    rw [List.map_cons, List.mem_cons, not_or] at h
    rw [lookup_cons_of_ne (Ne.symm h.1), ih h.2]

/-- The members with one replaced, or put at the end if the key is new. -/
def insert (key : String) (v : Value) : List (String × Value) → List (String × Value)
  | [] => [(key, v)]
  | (k, w) :: rest => if k = key then (k, v) :: rest else (k, w) :: insert key v rest

theorem lookup_insert_of_ne {key other : String} (h : other ≠ key) (v : Value)
    (members : List (String × Value)) :
    lookup other (insert key v members) = lookup other members := by
  induction members with
  | nil => simp [insert, lookup, Ne.symm h]
  | cons m rest ih =>
    obtain ⟨k, w⟩ := m
    by_cases hk : k = key
    · subst hk; simp [insert, lookup, Ne.symm h]
    · by_cases ho : k = other
      · simp [insert, lookup, ho, h]
      · simp [insert, lookup, hk, ho, ih]

/-- The member of a value with a key; only mappings have any. -/
def get? (key : String) : Value → Option Value
  | .map members => lookup key members
  | _ => none

def isNull : Value → Bool
  | .null => true
  | _ => false

/-- The value counts as true: neither nothing, false, zero nor empty. -/
def isTruthy : Value → Bool
  | .null => false
  | .bool b => b
  | .int n => n != 0
  | .double x => x.isTruthy
  | .text s => !s.isEmpty
  | .list items => !items.isEmpty
  | .map members => !members.isEmpty
  | .path _ | .severity _ | .member _ | .moment _ => true

/-- The text that a value is.  A severity is a text too, that of its name. -/
def text? : Value → Option String
  | .text s => some s
  | .severity s => some s.name
  | _ => none

@[simp] theorem text?_text (s : String) : (Value.text s).text? = some s := rfl

@[simp] theorem text?_severity (s : Severity) : (Value.severity s).text? = some s.name := rfl

/-- The items of a value, one after the other: those of a sequence, the characters of
    a text, the keys of a mapping; other values have none. -/
def items? : Value → Option (List Value)
  | .list items => some items
  | .map members => some (members.map fun (k, _) => .text k)
  | v => v.text?.map fun s => s.toList.map fun c => .text (String.ofList [c])

def kindName : Value → String
  | .null => "NoneType"
  | .bool _ => "bool"
  | .int _ => "int"
  | .double _ => "float"
  | .text _ => "str"
  | .list _ => "list"
  | .map _ => "dict"
  | .path _ => "PosixPath"
  | .severity _ => "SeverityLevel"
  | .member _ => "Enum"
  | .moment m => m.kindName

end Value

end SourceCheck
