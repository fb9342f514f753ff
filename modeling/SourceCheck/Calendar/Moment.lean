import SourceCheck.Number.Shortest

/-! # Dates and times

    Dates of the Gregorian calendar, times of day to the microsecond, and both
    together with or without a distance to universal time.  Each has an ISO 8601
    text and a descriptive one that names its parts.
-/

namespace SourceCheck.Calendar

open SourceCheck.Number

/-- A day of the calendar. -/
structure Date where
  year : Nat
  month : Nat
  day : Nat
  deriving DecidableEq, Repr, Inhabited

/-- A time of day. -/
structure Time where
  hour : Nat
  minute : Nat
  second : Nat
  micro : Nat
  deriving DecidableEq, Repr, Inhabited

/-- A date, a time, or both; `offset` is the distance to universal time in
    minutes, where one is given. -/
inductive Moment where
  | day (d : Date)
  | clock (t : Time)
  | both (d : Date) (t : Time) (offset : Option Int)
  deriving DecidableEq, Repr

/-! ## The calendar -/

/-- Every fourth year has a leap day, of the full centuries every fourth. -/
def isLeapYear (year : Nat) : Bool :=
  year % 4 == 0 && (year % 100 != 0 || year % 400 == 0)

def daysInMonth (year month : Nat) : Nat :=
  if month = 2 then if isLeapYear year then 29 else 28
  else if month = 4 ∨ month = 6 ∨ month = 9 ∨ month = 11 then 30
  else 31

def Date.isValid (d : Date) : Bool :=
  1 ≤ d.year && d.year ≤ 9999 && 1 ≤ d.month && d.month ≤ 12 && 1 ≤ d.day
    && d.day ≤ daysInMonth d.year d.month

/-- The date that lies the given number of days after 1970-01-01, with its year
    as an integer.  Years are counted from March, so that the leap day comes
    last, in cycles of 400 years. -/
def civilFromDays (days : Int) : Int × Nat × Nat :=
  -- years are counted from March, so that the leap day is the last
  let shifted := days + 719468
  let era := shifted.fdiv 146097
  let ofEra := (shifted.fmod 146097).toNat
  let yearOfEra := (ofEra - ofEra / 1460 + ofEra / 36524 - ofEra / 146096) / 365
  let ofYear := ofEra - (365 * yearOfEra + yearOfEra / 4 - yearOfEra / 100)
  let marchMonth := (5 * ofYear + 2) / 153
  let day := ofYear - (153 * marchMonth + 2) / 5 + 1
  let month := if marchMonth < 10 then marchMonth + 3 else marchMonth - 9
  -- January and February belong to the year that follows
  let year : Int := (yearOfEra : Int) + era * 400 + (if month ≤ 2 then 1 else 0)
  (year, month, day)

/-! ## Text -/

/-- A number with zeros in front up to a width. -/
def padded (width n : Nat) : String :=
  let ds := natDigits n
  String.ofList (List.replicate (width - ds.length) '0' ++ ds)

/-- A date as `YYYY-MM-DD`. -/
def Date.text (d : Date) : String :=
  padded 4 d.year ++ "-" ++ padded 2 d.month ++ "-" ++ padded 2 d.day

/-- A time as `HH:MM:SS`, with six more digits unless they are zeros. -/
def Time.text (t : Time) : String :=
  padded 2 t.hour ++ ":" ++ padded 2 t.minute ++ ":" ++ padded 2 t.second
    ++ (if t.micro = 0 then "" else "." ++ padded 6 t.micro)

/-- A distance to universal time as `±HH:MM`. -/
def offsetText (minutes : Int) : String :=
  (if minutes < 0 then "-" else "+") ++ padded 2 (minutes.natAbs / 60) ++ ":"
    ++ padded 2 (minutes.natAbs % 60)

def Moment.textWith (separator : String) : Moment → String
  | .day d => d.text
  | .clock t => t.text
  | .both d t offset =>
    d.text ++ separator ++ t.text ++ (match offset with
      | some minutes => offsetText minutes
      | none => "")

/-- The parts of a time, without seconds and microseconds when these are zero. -/
def Time.parts (t : Time) : List Nat :=
  [t.hour, t.minute] ++
    (if t.micro = 0 then if t.second = 0 then [] else [t.second] else [t.second, t.micro])

def listed : List Nat → String
  | [] => ""
  | [n] => natText n
  | n :: rest => natText n ++ ", " ++ listed rest

/-- The description of a distance to universal time: whole days, rounded down,
    and the seconds that are left. -/
def describeOffset (minutes : Int) : String :=
  let days := minutes.fdiv 1440
  let seconds := (minutes.fmod 1440).toNat * 60
  let daysText := if days = 0 then "" else "days=" ++ intText days
  let secondsText := if seconds = 0 then "" else "seconds=" ++ natText seconds
  let sep := if days = 0 ∨ seconds = 0 then "" else ", "
  if minutes = 0 then "datetime.timezone.utc"
  else "datetime.timezone(datetime.timedelta(" ++ daysText ++ sep ++ secondsText ++ "))"

def Moment.describe : Moment → String
  | .day d => "datetime.date(" ++ listed [d.year, d.month, d.day] ++ ")"
  | .clock t => "datetime.time(" ++ listed t.parts ++ ")"
  | .both d t offset =>
    "datetime.datetime(" ++ listed ([d.year, d.month, d.day] ++ t.parts)
      ++ (match offset with
        | some minutes => ", tzinfo=" ++ describeOffset minutes
        | none => "") ++ ")"

def Moment.kindName : Moment → String
  | .day _ => "date"
  | .clock _ => "time"
  | .both _ _ _ => "datetime"

end SourceCheck.Calendar
