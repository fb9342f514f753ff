import SourceCheck.Log.Record
import SourceCheck.Number.Reading
import SourceCheck.Value.Display

/-! # Normalising the fields of a record

    Fields of any kind are brought to their own kind: a tool to a text, a check to
    one of the four, a duration to a floating-point number, an exit code to an
    integer, a path to a text.  What is null is left out, and so are details that
    are no mapping or an empty one.
-/

namespace SourceCheck.Log

open SourceCheck.Text SourceCheck.Number

/-- Why a field cannot be normalised. -/
inductive FieldFault where
  | check (word : String)
  | notNumber (shown : String)
  /-- The value is neither a text nor a number. -/
  | needsNumber (kind : String)
  /-- The integer is too large for a floating-point number. -/
  | tooLarge
  | notInt (shown : String)
  /-- The integer has more digits than are read. -/
  | tooLong (digits : Nat)
  /-- The value is no text and no number to make an integer of. -/
  | needsInt (kind : String)
  /-- NaN is no integer. -/
  | nanToInt
  | infiniteToInt
  | needsPath (kind : String)
  deriving DecidableEq, Repr

def FieldFault.message : FieldFault → String
  | .check word => CheckKind.unknownWording word
  | .notNumber shown => "could not convert string to float: " ++ shown
  | .needsNumber kind => "float() argument must be a string or a real number, not '" ++ kind ++ "'"
  | .tooLarge => "int too large to convert to float"
  | .notInt shown =>
    "invalid literal for int() with base 10: " ++ String.ofList (shown.toList.take 200)
  | .tooLong digits => tooLongMessage digits
  | .needsInt kind =>
    "int() argument must be a string, a bytes-like object or a real number, not '" ++ kind ++ "'"
  | .nanToInt => "cannot convert float NaN to integer"
  | .infiniteToInt => "cannot convert float infinity to integer"
  | .needsPath kind => "expected str, bytes or os.PathLike object, not " ++ kind

def normalCheck (v : Value) : Except FieldFault Value :=
  match CheckKind.read? v.display with
  | some k => .ok (.text k.name)
  | none => .error (.check v.display)

/-- A text as a floating-point number. -/
def doubleOfText (s shown : String) : Except FieldFault Value :=
  match readLenientDouble? s with
  | some x => .ok (.double x)
  | none => .error (.notNumber shown)

/-- A value as a floating-point number. -/
def normalDouble (v : Value) : Except FieldFault Value :=
  match v with
  | .bool b => .ok (.double (Double.ofInt (if b then 1 else 0)))
  | .int n =>
    let x := Double.ofInt n
    if x.isFinite then .ok (.double x) else .error .tooLarge
  | .double x => .ok (.double x)
  | .text s => doubleOfText s v.describe
  | .severity s => doubleOfText s.name v.describe
  | v => .error (.needsNumber v.kindName)

def intOfText (s shown : String) : Except FieldFault Value :=
  match readLenientInt s with
  | .ok n => .ok (.int n)
  | .error .malformed => .error (.notInt shown)
  | .error (.tooLong digits) => .error (.tooLong digits)

def normalInt (v : Value) : Except FieldFault Value :=
  match v with
  | .bool b => .ok (.int (if b then 1 else 0))
  | .int n => .ok (.int n)
  | .double .nan => .error .nanToInt
  | .double (.infinite _) => .error .infiniteToInt
  | .double x => .ok (.int (x.toInt?.getD 0))
  | .text s => intOfText s v.describe
  | .severity s => intOfText s.name v.describe
  | v => .error (.needsInt v.kindName)

def normalPath (v : Value) : Except FieldFault Value :=
  match v with
  | .text s => .ok (.text s)
  | .path p => .ok (.text p)
  | .severity s => .ok (.text s.name)
  | v => .error (.needsPath v.kindName)

def normalisers : List (String × (Value → Except FieldFault Value)) := [
  ("tool", fun v => .ok (.text v.display)),
  ("check", normalCheck),
  ("duration_ms", normalDouble),
  ("exit_code", normalInt),
  ("path", normalPath)]

/-- Normalises the fields that are there and not null, in order; the first that
    cannot be normalised spoils all. -/
def normaliseWith (fields : List (String × Value)) :
    List (String × (Value → Except FieldFault Value)) →
      Except FieldFault (List (String × Value))
  | [] => .ok []
  | (name, normal) :: rest =>
    match Value.lookup name fields with
    -- a field that is null counts as one that was not passed
    | none | some .null => normaliseWith fields rest
    | some v =>
      match normal v with
      | .error e => .error e
      | .ok v => (normaliseWith fields rest).map ((name, v) :: ·)

/-- The details among some fields, if they are a mapping that is not empty. -/
def detailsOf (fields : List (String × Value)) : List (String × Value) :=
  match Value.lookup "details" fields with
  | some (.map (m :: rest)) => [("details", .map (m :: rest))]
  | _ => []

def normalise (c : Component) (fields : List (String × Value)) :
    Except FieldFault (List (String × Value)) :=
  (normaliseWith fields normalisers).map fun normal =>
    ("component", .text c.name) :: normal ++ detailsOf fields

end SourceCheck.Log
