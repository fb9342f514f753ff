import SourceCheck.Calendar.Moment
import SourceCheck.Number.Reading
import SourceCheck.StandIn.Utility.Content

/-! # Dates

    A date is shown by a template, in which letters after percent signs stand for its
    parts.  A text that names a date is made of items in any order: a day, a time of
    day, a day of the week, and distances to go from there.
-/

namespace SourceCheck.Utility

open SourceCheck SourceCheck.Calendar SourceCheck.Number SourceCheck.Shell SourceCheck.Text

/-! ## The calendar -/

def daysFromCivil (year : Int) (month day : Nat) : Int :=
  let y := if month ≤ 2 then year - 1 else year
  let era := y.fdiv 400
  let ofEra := (y.fmod 400).toNat
  let ofYear := (153 * (if 2 < month then month - 3 else month + 9) + 2) / 5 + day - 1
  let days := ofEra * 365 + ofEra / 4 - ofEra / 100 + ofYear
  era * 146097 + days - 719468

def monthNames : List String := ["January", "February", "March", "April", "May", "June", "July",
  "August", "September", "October", "November", "December"]

def dayNames : List String :=
  ["Sunday", "Monday", "Tuesday", "Wednesday", "Thursday", "Friday", "Saturday"]

/-- An instant, in seconds from the start of 1970. -/
structure Instant where
  seconds : Int
  deriving Repr

namespace Instant

def days (t : Instant) : Int := t.seconds.fdiv 86400

def ofDay (t : Instant) : Nat := (t.seconds.fmod 86400).toNat

def civil (t : Instant) : Int × Nat × Nat := civilFromDays t.days

/-- Its day of the week; Sunday is zero. -/
def weekday (t : Instant) : Nat := ((t.days + 4).fmod 7).toNat

def ofYear (t : Instant) : Nat := (t.days - daysFromCivil t.civil.1 1 1).toNat

/-- The number of its week in the year, when weeks begin on a day and those before the
    first such day are week zero. -/
def weekFrom (t : Instant) (first : Nat) : Nat := (t.ofYear + 7 - (t.weekday + 7 - first) % 7) / 7

/-- The year its week belongs to, and the number of the week there: weeks begin on
    Monday and belong to the year of their Thursday. -/
def calendarWeek (t : Instant) : Int × Nat :=
  let thursday : Instant := ⟨(t.days - ((t.weekday + 6) % 7 : Nat) + 3) * 86400⟩
  (thursday.civil.1, thursday.ofYear / 7 + 1)

end Instant

/-! ## Templates -/

/-- A part of a date. -/
inductive DatePart where
  | number (n : Int) (fill : Char) (width : Nat)
  | text (s : String)
  | template (s : String)

def datePart? (t : Instant) (c : Char) : Option DatePart :=
  let (year, month, day) := t.civil
  let hour := t.ofDay / 3600
  let hour12 := if hour % 12 = 0 then 12 else hour % 12
  let dayName := (dayNames[t.weekday]?).getD ""
  let monthName := (monthNames[month - 1]?).getD ""
  let short := fun (s : String) => String.ofList (s.toList.take 3)
  let two := fun (n : Nat) => some (.number n '0' 2)
  let blank := fun (n : Nat) => some (.number n ' ' 2)
  match c with
  | 'Y' => some (.number year '0' 4)
  | 'C' => two (year.fdiv 100).toNat
  | 'y' => two (year.fmod 100).toNat
  | 'G' => some (.number t.calendarWeek.1 '0' 4)
  | 'g' => two (t.calendarWeek.1.fmod 100).toNat
  | 'V' => two t.calendarWeek.2
  | 'U' => two (t.weekFrom 0)
  | 'W' => two (t.weekFrom 1)
  | 'q' => some (.number ((month + 2) / 3 : Nat) '0' 1)
  | 'm' => two month
  | 'd' => two day
  | 'e' => blank day
  | 'H' => two hour
  | 'k' => blank hour
  | 'I' => two hour12
  | 'l' => blank hour12
  | 'M' => two (t.ofDay / 60 % 60)
  | 'S' => two (t.ofDay % 60)
  | 's' => some (.number t.seconds '0' 1)
  | 'j' => some (.number (t.ofYear + 1 : Nat) '0' 3)
  | 'a' => some (.text (short dayName))
  | 'A' => some (.text dayName)
  | 'b' | 'h' => some (.text (short monthName))
  | 'B' => some (.text monthName)
  | 'p' => some (.text (if hour < 12 then "AM" else "PM"))
  | 'P' => some (.text (if hour < 12 then "am" else "pm"))
  | 'u' => some (.number ((t.weekday + 6) % 7 + 1 : Nat) '0' 1)
  | 'w' => some (.number t.weekday '0' 1)
  | 'z' => some (.text "+0000")
  | 'Z' => some (.text "UTC")
  | 'n' => some (.text "\n")
  | 't' => some (.text "\t")
  | '%' => some (.text "%")
  | 'F' => some (.template "%Y-%m-%d")
  | 'T' | 'X' => some (.template "%H:%M:%S")
  | 'R' => some (.template "%H:%M")
  | 'r' => some (.template "%I:%M:%S %p")
  | 'D' | 'x' => some (.template "%m/%d/%y")
  | 'c' => some (.template "%a %b %e %H:%M:%S %Y")
  | _ => none

/-- How a part is asked to be shown. -/
structure DateStyle where
  marks : List Char
  width : Nat

namespace DateStyle

/-- What fills a part up, if it is filled up. -/
def fill (s : DateStyle) (usual : Char) : Option Char :=
  match (s.marks.filter fun c => c == '-' || c == '_' || c == '0').getLast? with
  | some '-' => none
  | some '_' => some ' '
  | some _ => some '0'
  | none => some usual

def cased (s : DateStyle) (text : List Char) : List Char :=
  if s.marks.contains '^' then text.map toCapital
  else if s.marks.contains '#' then
    if text.any fun c => 'a' ≤ c && c ≤ 'z' then text.map toCapital else text.map toSmall
  else text

def filled (s : DateStyle) (usual : Char) (width : Nat) (text : List Char) : List Char :=
  match s.fill usual with
  | some c => List.replicate ((if s.width = 0 then width else s.width) - text.length) c ++ text
  | none => text

/-- A number filled up in front, its sign before what fills it up. -/
def number (s : DateStyle) (n : Int) (usual : Char) (width : Nat) : List Char :=
  if n < 0 then '-' :: s.filled usual (width - 1) (natDigits n.natAbs)
  else s.filled usual width (natDigits n.natAbs)

end DateStyle

/-- The distance to universal time, with as many colons as asked for. -/
def zoneText : Nat → List Char
  | 0 => "+0000".toList
  | 1 => "+00:00".toList
  | 2 => "+00:00:00".toList
  | _ => "+00".toList

/-- An instant shown by a template; `fuel` bounds its characters and those of the
    templates in it. -/
def showDateWith (t : Instant) : Nat → List Char → List Char
  | 0, _ => []
  | fuel + 1, template =>
    match template with
    | '%' :: body =>
      -- marks, width, and a modifier that changes nothing stand in front of the letter
      let marks := body.takeWhile ("_-0^#+".toList.contains ·)
      let rest := body.drop marks.length
      let width := rest.takeWhile isDigitChar
      let rest := rest.drop width.length
      let colons := rest.takeWhile (· == ':')
      let rest := rest.drop colons.length
      let rest := match rest with
        | 'E' :: c :: more => c :: more
        | 'O' :: c :: more => c :: more
        | rest => rest
      let style : DateStyle := ⟨marks, digitsValue width⟩
      match rest with
      | [] => template
      | c :: rest =>
        if c = 'N' then
          List.replicate (if style.width = 0 then 9 else style.width) '0' ++ showDateWith t fuel rest
        else if c = 'z' then
          style.filled '0' 0 (zoneText colons.length) ++ showDateWith t fuel rest
        else match datePart? t c with
          | some (.number n fill width) => style.number n fill width ++ showDateWith t fuel rest
          | some (.text s) =>
            style.filled ' ' 0 (style.cased s.toList) ++ showDateWith t fuel rest
          | some (.template s) =>
            if c = 'F' && 6 < style.width then
              { style with width := style.width - 6 }.number t.civil.1 '0' 4
                ++ showDateWith t fuel "-%m-%d".toList ++ showDateWith t fuel rest
            else style.filled ' ' 0 (style.cased (showDateWith t fuel s.toList)) ++ showDateWith t fuel rest
          -- an unknown letter is written as it stands
          | none => '%' :: showDateWith t fuel body
    | c :: rest => c :: showDateWith t fuel rest
    | [] => []

def showDate (t : Instant) (template : List Char) : List Char :=
  showDateWith t (template.length + 30) template

/-! ## Reading -/

/-- What the items of a text have told. -/
structure DateItems where
  /-- The day: its year, if it was told, its month and its number. -/
  day : Option (Option Int × Nat × Nat)
  time : Option Nat
  /-- The distance to universal time in minutes. -/
  zone : Int
  /-- The day of the week, and by how many weeks to go on. -/
  weekday : Option (Nat × Int)
  exact : Option Int
  months : Int
  days : Int
  seconds : Int
  /-- Days or times were told, or distances. -/
  told : Bool

/-- Nothing has been told. -/
def DateItems.untold : DateItems := ⟨none, none, 0, none, none, 0, 0, 0, false⟩

/-- A word stands for a name, in full or cut to three letters. -/
def isNamed (word name : List Char) : Bool :=
  word == name.map toSmall || word == (name.map toSmall).take 3
    || (word == "sept".toList && name == "September".toList)

def monthNamed? (word : List Char) : Option Nat :=
  (monthNames.findIdx? fun n => isNamed word n.toList).map (· + 1)

def dayNamed? (word : List Char) : Option Nat := dayNames.findIdx? fun n => isNamed word n.toList

/-- Distances to go, by the names of their units: months, days and seconds. -/
def timeUnits : List (String × Int × Int × Int) := [
  ("year", 12, 0, 0), ("month", 1, 0, 0), ("fortnight", 0, 14, 0), ("week", 0, 7, 0),
  ("day", 0, 1, 0), ("hour", 0, 0, 3600), ("minute", 0, 0, 60), ("min", 0, 0, 60),
  ("second", 0, 0, 1), ("sec", 0, 0, 1)]

/-- The distance that a unit names; there may be many of it. -/
def timeUnit? (word : List Char) : Option (Int × Int × Int) :=
  let find := fun (w : List Char) => timeUnits.lookup (String.ofList w)
  (find word).orElse fun _ =>
    if word.getLast? == some 's' then find word.dropLast else none

/-- Goes some times as far as a unit says. -/
def DateItems.go (k : DateItems) (n : Int) (unit : Int × Int × Int) : DateItems :=
  { k with months := k.months + n * unit.1, days := k.days + n * unit.2.1,
           seconds := k.seconds + n * unit.2.2, told := true }

/-- A year with two digits is one near the present. -/
def fullYear (ds : List Char) : Int :=
  let n := digitsValue ds
  if 2 < ds.length then n else if n < 69 then 2000 + n else 1900 + n

/-- The first word of a text in small letters, and what follows. -/
def firstWord (s : List Char) : List Char × List Char :=
  let isLetter := fun (c : Char) => ('a' ≤ c && c ≤ 'z') || ('A' ≤ c && c ≤ 'Z')
  let word := s.takeWhile isLetter
  (word.map toSmall, s.drop word.length)

def firstNumber (s : List Char) : List Char × List Char :=
  let ds := s.takeWhile isDigitChar
  (ds, s.drop ds.length)

/-- A text without the blanks and commas in front. -/
def skipBlanks (s : List Char) : List Char := s.dropWhile fun c => isSpace c || c == ','

/-- A word that turns a distance round, and what follows. -/
def readAgo (s : List Char) : Int × List Char :=
  match firstWord (skipBlanks s) with
  | (['a', 'g', 'o'], rest) => (-1, rest)
  | _ => (1, s)

/-- The zone after a time of day. -/
def readZone (s : List Char) : Int × List Char :=
  let (word, rest) := firstWord (skipBlanks s)
  if word == ['z'] || word == "utc".toList || word == "gmt".toList then (0, rest)
  else
    let signed := fun (sign : Int) (more : List Char) =>
      let (ds, rest) := firstNumber more
      match ds.length, rest with
      | 0, _ => (0, s)
      | 4, rest => (sign * (digitsValue (ds.take 2) * 60 + digitsValue (ds.drop 2) : Nat), rest)
      | _, ':' :: rest =>
        let (minutes, rest) := firstNumber rest
        (sign * (digitsValue ds * 60 + digitsValue minutes : Nat), rest)
      | _, rest => (sign * (digitsValue ds * 60 : Nat), rest)
    match skipBlanks s with
    | '+' :: more => signed 1 more
    | '-' :: more => signed (-1) more
    | _ => (0, s)

/-- The hour with the half of the day that may follow, and what follows. -/
def readHalf (hour : Nat) (s : List Char) : Option (Nat × List Char) :=
  let (word, rest) := firstWord (skipBlanks s)
  if word == "am".toList then
    if 1 ≤ hour && hour ≤ 12 then some (hour % 12, rest) else none
  else if word == "pm".toList then
    if 1 ≤ hour && hour ≤ 12 then some (hour % 12 + 12, rest) else none
  else if hour < 24 then some (hour, s) else none

/-- A time of day whose hour has been read. -/
def readTime (k : DateItems) (hour : List Char) (s : List Char) : Option (DateItems × List Char) :=
  let (minute, rest) := firstNumber s
  let (second, rest) := match rest with
    | ':' :: more => firstNumber more
    | rest => ([], rest)
  let rest := match rest with
    | '.' :: more => if second.isEmpty then rest else more.dropWhile isDigitChar
    | rest => rest
  match readHalf (digitsValue hour) rest with
  | none => none
  | some (h, rest) =>
    let (zone, rest) := readZone rest
    if 59 < digitsValue minute || 59 < digitsValue second || minute.isEmpty || k.time.isSome then none
    else
      some ({ k with
        time := some (h * 3600 + digitsValue minute * 60 + digitsValue second), zone := zone
        told := true }, rest)

def DateItems.onDay (k : DateItems) (year : Option Int) (month day : Nat) : Option DateItems :=
  if k.day.isSome then none else some { k with day := some (year, month, day), told := true }

def readNumberItem (k : DateItems) (s : List Char) : Option (DateItems × List Char) :=
  let (ds, rest) := firstNumber s
  let n := digitsValue ds
  let (word, afterWord) := firstWord (skipBlanks rest)
  match rest with
  | ':' :: more => readTime k ds more
  | '/' :: more =>
    let (b, rest) := firstNumber more
    match rest with
    | '/' :: more =>
      let (c, rest) := firstNumber more
      -- a year of more than two digits goes in front
      if 2 < ds.length then (k.onDay (some n) (digitsValue b) (digitsValue c)).map (·, rest)
      else (k.onDay (some (fullYear c)) n (digitsValue b)).map (·, rest)
    | rest => (k.onDay none n (digitsValue b)).map (·, rest)
  | '-' :: more =>
    let (b, rest) := firstNumber more
    match b, rest with
    | [], _ =>
      let (name, rest) := firstWord more
      match monthNamed? name, rest with
      | some m, '-' :: more =>
        let (c, rest) := firstNumber more
        (k.onDay (some (fullYear c)) m n).map (·, rest)
      | _, _ => none
    | b, '-' :: more =>
      let (c, rest) := firstNumber more
      if c.isEmpty then none
      else (k.onDay (some (fullYear ds)) (digitsValue b) (digitsValue c)).map (·, rest)
    | _, _ => none
  | _ =>
    match monthNamed? word, timeUnit? word with
    | some m, _ =>
      let (c, rest) := firstNumber (skipBlanks afterWord)
      if c.isEmpty || rest.head? == some ':' then (k.onDay none m n).map (·, afterWord)
      else (k.onDay (some (fullYear c)) m n).map (·, rest)
    | none, some unit =>
      let (sign, rest) := readAgo afterWord
      some (k.go (sign * n) unit, rest)
    | none, none =>
      if word == "am".toList || word == "pm".toList then
        (readHalf n rest).map fun (h, rest) => ({ k with time := some (h * 3600), told := true }, rest)
      else match k.day with
        -- a number behind a day without a year is that year
        | some (none, m, d) =>
          if k.time.isSome || 2 < ds.length then
            some ({ k with day := some (some (fullYear ds), m, d) }, rest)
          else none
        | _ =>
          if 4 < ds.length then
            (k.onDay (some (n / 10000 : Nat)) (n / 100 % 100) (n % 100)).map (·, rest)
          else
            let (h, minute) := if 2 < ds.length then (n / 100, n % 100) else (n, 0)
            if k.time.isSome || 23 < h || 59 < minute then none
            else some ({ k with time := some (h * 3600 + minute * 60), told := true }, rest)

/-- The distance to universal time in minutes that a single letter stands for. -/
def letterZone? (c : Char) : Option Int :=
  let east := "abcdefghiklm".toList
  let west := "nopqrstuvwxy".toList
  match east.findIdx? (· == c), west.findIdx? (· == c) with
  | some i, _ => some ((i + 1 : Nat) * 60)
  | none, some i => some (-((i + 1 : Nat) * 60))
  | none, none => if c = 'z' then some 0 else none

def readWordItem (k : DateItems) (s : List Char) : Option (DateItems × List Char) :=
  let (word, rest) := firstWord s
  let isWord := fun (name : String) => word == name.toList
  let far := fun (n : Int) =>
    let (unit, after) := firstWord (skipBlanks rest)
    match timeUnit? unit, dayNamed? unit with
    | some u, _ => some (k.go n u, after)
    | none, some d => some ({ k with weekday := some (d, n), told := true }, after)
    | none, none => none
  if isWord "now" || isWord "today" then some ({ k with told := true }, rest)
  else if isWord "yesterday" then some (k.go (-1) (0, 1, 0), rest)
  else if isWord "tomorrow" then some (k.go 1 (0, 1, 0), rest)
  else if isWord "next" then far 1
  else if isWord "last" then far (-1)
  else if isWord "this" then far 0
  else if isWord "utc" || isWord "gmt" then some (k, rest)
  else if isWord "t" && (rest.head?.map isDigitChar).getD false then some (k, rest)
  else if let [c] := word then (letterZone? c).map fun zone => ({ k with zone := zone, told := true }, rest)
  -- months, days of the week and units are the words that remain
  else match monthNamed? word, dayNamed? word, timeUnit? word with
    | some m, _, _ =>
      let (d, afterDay) := firstNumber (skipBlanks rest)
      let (y, afterYear) := firstNumber (skipBlanks afterDay)
      if d.isEmpty then none
      else if y.isEmpty || afterYear.head? == some ':' || y.length < 3 then
        (k.onDay none m (digitsValue d)).map (·, afterDay)
      else (k.onDay (some (fullYear y)) m (digitsValue d)).map (·, afterYear)
    | none, some d, _ => some ({ k with weekday := some (d, 0), told := true }, rest)
    | none, none, some unit =>
      let (sign, rest) := readAgo rest
      some (k.go sign unit, rest)
    | none, none, none => none

/-- Reads the items of a text; `fuel` bounds its characters. -/
def readItems : Nat → DateItems → List Char → Option DateItems
  | 0, _, _ => none
  | fuel + 1, k, s =>
    let signed := fun (sign : Int) (more : List Char) =>
      let (ds, rest) := firstNumber (skipBlanks more)
      let (word, after) := firstWord (skipBlanks rest)
      -- a signed number needs a unit behind it
      match timeUnit? word with
      | some unit =>
        if ds.isEmpty then none
        else
          let (back, after) := readAgo after
          readItems fuel (k.go (sign * back * digitsValue ds) unit) after
      | none => none
    match skipBlanks s with
    | [] => some k
    | '@' :: rest =>
      let (negative, rest) := readSign rest
      let (ds, rest) := firstNumber rest
      let n : Int := digitsValue ds
      let rest := match rest with
        | '.' :: more => more.dropWhile isDigitChar
        | rest => rest
      -- an instant stands alone
      if ds.isEmpty || k.told then none
      else readItems fuel { k with exact := some (if negative then -n else n), told := true } rest
    | '+' :: rest => signed 1 rest
    | '-' :: rest => signed (-1) rest
    | c :: rest =>
      let read := if isDigitChar c then readNumberItem k (c :: rest) else readWordItem k (c :: rest)
      match read with
      | some (k, rest) => readItems fuel k rest
      | none => none

def DateItems.instant? (k : DateItems) (now : Instant) : Option Instant :=
  match k.exact with
  | some n => some ⟨n + k.seconds + 86400 * k.days⟩
  | none =>
    let (thisYear, thisMonth, thisDay) := now.civil
    let (year, month, day) := match k.day with
      | some (y, m, d) => (y.getD thisYear, m, d)
      | none => (thisYear, thisMonth, thisDay)
    if month = 0 || 12 < month || day = 0 || daysInMonth year.toNat month < day then none
    else
      let months := year * 12 + (month - 1 : Nat) + k.months
      let first := daysFromCivil (months.fdiv 12) ((months.fmod 12).toNat + 1) 1
      let days := first + (day - 1 : Nat) + k.days
      -- a day of the week counts only when no day was given
      let days := match k.day, k.weekday with
        | some _, _ | _, none => days
        | none, some (d, n) =>
          let here := (⟨days * 86400⟩ : Instant).weekday
          let ahead := (d + 7 - here) % 7
          let weeks := if 0 < n && ahead != 0 then n - 1 else n
          days + ahead + 7 * weeks
      let isDated := k.day.isSome || k.weekday.isSome
      -- a day without a time starts at midnight
      let time := k.time.getD (if isDated then 0 else now.ofDay)
      some ⟨days * 86400 + time - 60 * k.zone + k.seconds⟩

def instant? (now : Instant) (s : String) : Option Instant :=
  let k? := if s.isEmpty then some { DateItems.untold with time := some 0 }
    else readItems (s.length + 2) DateItems.untold s.toList
  k?.bind (·.instant? now)

/-! ## The utility -/

def presentOf (w : World) : Instant := ⟨w.now / 1000000⟩

def isoTemplate? (separator : String) (part : String) : Option String :=
  let all := [("date", ""), ("hours", "%H"), ("minutes", "%H:%M"), ("seconds", "%H:%M:%S"),
    ("ns", "%H:%M:%S,%N")]
  match all.filter fun (name, _) => startsWith name part with
  | (_, time) :: _ =>
    some ("%Y-%m-%d" ++ (if time.isEmpty then "" else separator ++ time ++ "%:z"))
  | [] => none

def date : Utility := withOptions
  [flag 'u' "utc", wordFlag "universal", taking 'd' "date", taking 'f' "file", taking 'r' "reference",
    taking 's' "set", (some 'I', "iso-8601", .perhaps), flag 'R' "rfc-email",
    wordTaking "rfc-3339", wordFlag "debug"]
  fun name o w =>
    let now := presentOf w
    let template : Except String String :=
      if o.has "rfc-email" then .ok "%a, %d %b %Y %H:%M:%S %z"
      else if o.has "iso-8601" then
        let part := (o.last? "iso-8601").getD "date"
        match isoTemplate? "T" part with
        | some t => .ok t
        | none =>
          .error (wrongChoice w "iso-8601" part
            [["hours"], ["minutes"], ["date"], ["seconds"], ["ns"]])
      else match o.last? "rfc-3339" with
        | some part =>
          match isoTemplate? " " part with
          | some t => .ok t
          | none => .error (wrongChoice w "rfc-3339" part [["date"], ["seconds"], ["ns"]])
        | none => .ok "%a %b %e %H:%M:%S %Z %Y"
    -- an instant that is given goes before the change of a file
    let chosen : Except String Instant := match o.last? "date", o.last? "reference" with
      | some s, _ =>
        match instant? now s with
        | some t => .ok t
        | none => .error ("invalid date " ++ quotedWord w s)
      | none, some path =>
        match w.placeOf path with
        | .ok ⟨place, some _⟩ => .ok ⟨w.changedAt place / 1000000⟩
        | .ok ⟨_, none⟩ => .error (shellQuotedIfNeeded path ++ ": " ++ SystemError.notFound.wording)
        | .error e => .error (shellQuotedIfNeeded path ++ ": " ++ e.wording)
      | none, none => .ok now
    match o.args with
    | _ :: extra :: _ => complainExtra name extra w
    | args =>
      let own? := match args.head?.map String.toList with
        | some ('+' :: template) => some (String.ofList template)
        | _ => none
      match args, own? with
      | a :: _, none => complain name ("invalid date " ++ quotedWord w a) w
      | _, _ =>
        if own?.isSome && (o.has "rfc-email" || o.has "iso-8601" || o.has "rfc-3339") then
          complain name "multiple output formats specified" w
        else match template, chosen with
          | .error message, _ => complainUsage 1 name message w
          | _, .error message => complain name message w
          | .ok template, .ok t =>
            (put (showDate t (own?.getD template).toList ++ ['\n']) w).withStatus 0

end SourceCheck.Utility
