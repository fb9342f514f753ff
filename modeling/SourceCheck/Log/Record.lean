import SourceCheck.Calendar.Moment
import SourceCheck.Finding.CheckKind
import SourceCheck.Json.Writer
import SourceCheck.Log.Level

/-! # Log records

    A record has a time, a level, the name of the logger that wrote it, a message
    and attributes.  The text form shows level and message; the JSON form shows
    all of these and those attributes that have a meaning, in a fixed order.
-/

namespace SourceCheck.Log

open SourceCheck.Number SourceCheck.Calendar

/-! ## Time -/

/-- A point in time. -/
structure Instant where
  /-- Microseconds since the start of 1970, universal time. -/
  micros : Int
  deriving DecidableEq, Repr, Inhabited

/-- The number nearest to a product of two positive magnitudes. -/
def product (negative : Bool) (m n : Nat) (e f : Int) : Double :=
  let e := e + f
  if 0 ≤ e then Double.ofQuotient negative (m * n * Nat.pow 2 e.toNat) 1
  else Double.ofQuotient negative (m * n) (Nat.pow 2 (-e).toNat)

/-- A finite number rounded to an integer, halves to even. -/
def roundToInt (negative : Bool) (m : Nat) (e : Int) : Int :=
  let (num, den) := Double.quotient m e
  let n : Int := Double.roundDiv num den
  if negative then -n else n

/-- A finite number of seconds as a point in time.  The seconds are split at the
    point; the fraction is multiplied by a million, the product rounded to a
    floating-point number, and that rounded to full microseconds. -/
def Instant.ofSeconds (negative : Bool) (m : Nat) (e : Int) : Instant :=
  let (num, den) := Double.quotient m e
  let whole : Int := num / den
  let fraction := num % den
  -- the fraction is rounded to microseconds on its own, half to even
  let micros := match Double.ofQuotient negative fraction den with
    | .finite neg m e =>
      -- 15625 times 2 to the 6 is a million
      match product neg m 15625 e 6 with
      | .finite neg m e => roundToInt neg m e
      | _ => 0
    | _ => 0
  ⟨(if negative then -whole else whole) * 1000000 + micros⟩

/-- Why a number of seconds is no point in time. -/
inductive InstantFault where
  | notANumber
  /-- It needs more than 64 bits. -/
  | outOfRange
  /-- Its year needs more than 32 bits. -/
  | tooLarge
  | year (n : Int)
  | notNumber (kind : String)
  deriving DecidableEq, Repr

/-- The wording of a fault; a year is told as a number of 32 bits. -/
def InstantFault.message : InstantFault → String
  | .notANumber => "Invalid value NaN (not a number)"
  | .outOfRange => "timestamp out of range for platform time_t"
  | .tooLarge => "[Errno 75] Value too large for defined data type"
  | .notNumber kind => "'" ++ kind ++ "' object cannot be interpreted as an integer"
  | .year n => "year " ++ intText (n.bmod (Nat.pow 2 32)) ++ " is out of range"

/-- A whole number of seconds as a point in time. -/
def Instant.ofInt (n : Int) : Instant := ⟨n * 1000000⟩

/-- The first number of seconds that needs more than 64 bits. -/
def secondsLimit : Int := Nat.pow 2 63

/-- A number of seconds as a point in time.  The limit itself is too large rather than
    out of range here, since the greatest number below it is rounded to it. -/
def Instant.ofDouble : Double → Except InstantFault Instant
  | .nan => .error .notANumber
  | .infinite _ => .error .outOfRange
  | .finite negative m e =>
    let i := Instant.ofSeconds negative m e
    if i = .ofInt secondsLimit then .error .tooLarge else .ok i

/-- The point in time that a value stands for, as a number of seconds. -/
def Instant.ofValue : Value → Except InstantFault Instant
  | .double x => Instant.ofDouble x
  | .int n => .ok (.ofInt n)
  | .bool b => .ok (.ofInt (if b then 1 else 0))
  | v => .error (.notNumber v.kindName)

/-- A number is written with 32 bits, counted from the year 1900. -/
def isYearOfHost (year : Int) : Bool := -(Nat.pow 2 31) ≤ year - 1900 && year - 1900 < Nat.pow 2 31

/-- The text of a point in time, in universal time. -/
def Instant.text (i : Instant) : Except InstantFault String :=
  let seconds := i.micros.fdiv 1000000
  let micro := (i.micros.fmod 1000000).toNat
  let (year, month, day) := civilFromDays (seconds.fdiv 86400)
  let ofDay := (seconds.fmod 86400).toNat
  -- the bounds are asked in the order in which the clock's functions check them
  if seconds < -secondsLimit ∨ secondsLimit ≤ seconds then .error .outOfRange
  else if !isYearOfHost year then .error .tooLarge
  else if year < 1 ∨ 9999 < year then .error (.year year)
  else
    .ok ((Moment.both ⟨year.toNat, month, day⟩
      ⟨ofDay / 3600, ofDay / 60 % 60, ofDay % 60, micro⟩ (some 0)).textWith "T")

/-! ## Records -/

/-- A record of the log. -/
structure Record where
  level : Level
  logger : String
  message : String
  attributes : List (String × Value)
  deriving Repr, Inhabited

/-- The attributes that the JSON form shows, in this order. -/
def shownAttributes : List String :=
  ["component", "tool", "check", "duration_ms", "exit_code", "path", "details"]

def shownOf (attributes : List (String × Value)) : List (String × Value) :=
  shownAttributes.filterMap fun name => (Value.lookup name attributes).map (name, ·)

def Record.shown (r : Record) : List (String × Value) := shownOf r.attributes

def textLine (label message : String) : String := "[" ++ label ++ "] " ++ message

def Record.text (r : Record) : String := textLine r.level.label r.message

def Record.members (time : String) (r : Record) : List (String × Value) :=
  [("timestamp", .text time), ("level", .text r.level.name), ("logger", .text r.logger),
    ("message", .text r.message)] ++ r.shown

def Record.json (time : String) (r : Record) : String :=
  Json.write Json.plain (.map (r.members time))

/-! ## Fields of the program's own records -/

/-- What a part of the program tells about a record. -/
structure Fields where
  component : Component
  tool : Option String
  check : Option CheckKind
  /-- How long something took, in milliseconds. -/
  duration : Option Double
  exitCode : Option Int
  path : Option String
  details : List (String × Value)
  deriving Repr

def Fields.only (c : Component) : Fields := ⟨c, none, none, none, none, none, []⟩

def given (name : String) (v : Option Value) : List (String × Value) :=
  match v with
  | some v => [(name, v)]
  | none => []

/-- Fields as attributes; what is missing or empty is left out. -/
def Fields.toAttributes (f : Fields) : List (String × Value) :=
  ("component", .text f.component.name)
    :: given "tool" (f.tool.map Value.text)
    ++ given "check" (f.check.map fun k => Value.text k.name)
    ++ given "duration_ms" (f.duration.map Value.double)
    ++ given "exit_code" (f.exitCode.map Value.int)
    ++ given "path" (f.path.map Value.text)
    ++ (if f.details.isEmpty then [] else [("details", .map f.details)])

/-- The name of a logger below the program's own. -/
def loggerName (below : String) : String := "gocheck." ++ below

def record (level : Level) (logger message : String) (fields : Fields) : Record :=
  ⟨level, loggerName logger, message, fields.toAttributes⟩

end SourceCheck.Log
