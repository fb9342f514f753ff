import SourceCheck.Json.Reader
import SourceCheck.Toml.Fault

/-! # Strings, numbers and moments

    The parts of a document that hold no other parts.  Each reader takes what
    stands at the start of a text and gives back what follows.
-/

namespace SourceCheck.Toml

open SourceCheck.Text SourceCheck.Number SourceCheck.Calendar

/-! ## Blanks and comments -/

def isGap (c : Char) : Bool := c == ' ' || c == '\t'

def isGapOrFeed (c : Char) : Bool := isGap c || c == '\n'

def isControl (c : Char) : Bool := (c.toNat < 0x20 && c != '\t') || c.toNat == 0x7F

/-- A control character other than tab and line feed. -/
def isControlInLines (c : Char) : Bool := isControl c && c != '\n'

/-- A text without the blanks at its start. -/
def skipGaps (s : List Char) : List Char := s.dropWhile isGap

def after? (mark s : List Char) : Option (List Char) := mark.isPrefixOf? s

def upTo (mark : List Char) (before : List Char) : List Char → Option (List Char × List Char)
  | [] => if mark.isEmpty then some (before, []) else none
  | c :: rest =>
    match after? mark (c :: rest) with
    | some rest => some (before, rest)
    | none => upTo mark (c :: before) rest

/-- Refuses a text with a forbidden character before a length, telling where. -/
def checkChars (forbidden : Char → Bool) (length : Nat) (s : List Char) : Except Fault Unit :=
  match length, s with
  | n + 1, c :: rest =>
    if forbidden c then faultAt (.invalidChar c) (c :: rest) else checkChars forbidden n rest
  | _, _ => .ok ()

def skipComment : List Char → Except Fault (List Char)
  | '#' :: rest =>
    let body := rest.takeWhile (· != '\n')
    (checkChars isControl body.length rest).map fun _ => rest.dropWhile (· != '\n')
  | rest => .ok rest

/-- What follows blanks, line feeds and comments; `fuel` bounds the number of
    comments. -/
def skipCommentsWith : Nat → List Char → Except Fault (List Char)
  | 0, s => .ok s
  | fuel + 1, s =>
    match s.dropWhile isGapOrFeed with
    | '#' :: rest =>
      match skipComment ('#' :: rest) with
      | .error e => .error e
      | .ok s => skipCommentsWith fuel s
    | s => .ok s

/-- What follows blanks, line feeds and comments. -/
def skipComments (s : List Char) : Except Fault (List Char) :=
  match s.dropWhile isGapOrFeed with
  | '#' :: rest => skipCommentsWith (rest.length + 2) ('#' :: rest)
  | rest => .ok rest

/-! ## Strings -/

/-- A string without escapes, after its opening mark. -/
def readLiteral (mark : List Char) (forbidden : Char → Bool) (s : List Char) :
    Except Fault (String × List Char) :=
  match upTo mark [] s with
  | none => faultAt (.closing (String.ofList mark)) []
  | some (before, rest) =>
    (checkChars forbidden before.length s).map fun _ => (String.ofList before.reverse, rest)

def escaped? (c : Char) : Option Char :=
  if c = 'b' then some (Char.ofNat 0x08)
  else if c = 't' then some '\t'
  else if c = 'n' then some '\n'
  else if c = 'f' then some (Char.ofNat 0x0C)
  else if c = 'r' then some '\r'
  else if c = '"' then some '"'
  else if c = '\\' then some '\\'
  else none

/-- The character that hexadecimal digits name. -/
def readHexChar (width : Nat) (s : List Char) : Except Fault (Char × List Char) :=
  let ds := s.take width
  match ds.length == width, Json.hexRun? ds with
  | true, some n =>
    if n < 0xD800 ∨ (0xDFFF < n ∧ n < 0x110000) then .ok (Char.ofNat n, s.drop width)
    else faultAt .scalarValue (s.drop width)
  | _, _ => faultAt .hexDigits s

/-- What follows a backslash: the characters it makes, and the rest. -/
def readEscape (lines : Bool) (s : List Char) : Except Fault (List Char × List Char) :=
  match s with
  | [] => faultAt .escape []
  | c :: rest =>
    if lines && isGapOrFeed c then
      if c = '\n' then .ok ([], rest.dropWhile isGapOrFeed)
      -- a backslash at the end of a line takes the blanks that follow with it
      else match skipGaps rest with
        | [] => .ok ([], [])
        | '\n' :: rest => .ok ([], rest.dropWhile isGapOrFeed)
        | rest => faultAt .escape rest
    else if c = 'u' then (readHexChar 4 rest).map fun (c, rest) => ([c], rest)
    else if c = 'U' then (readHexChar 8 rest).map fun (c, rest) => ([c], rest)
    else match escaped? c with
      | some c => .ok ([c], rest)
      | none => faultAt .escape rest

/-- A character named by its digits takes them from the start of the text. -/
theorem length_le_of_readHexChar {width : Nat} {s : List Char} {r : Char × List Char}
    (h : readHexChar width s = .ok r) : r.2.length ≤ s.length := by
  unfold readHexChar at h
  grind [faultAt]

theorem length_le_of_readEscape {lines : Bool} {s : List Char} {r : List Char × List Char}
    (h : readEscape lines s = .ok r) : r.2.length ≤ s.length := by
  have drop (p : Char → Bool) (l : List Char) : (l.dropWhile p).length ≤ l.length :=
    (List.dropWhile_sublist p).length_le
  have hex {width : Nat} {l : List Char}
      (h : (readHexChar width l).map (fun (c, rest) => ([c], rest)) = .ok r) :
      r.2.length ≤ l.length := by
    cases hx : readHexChar width l with
    | error e => simp [hx, Except.map] at h
    | ok x =>
      simp only [hx, Except.map, Except.ok.injEq] at h
      subst h
      exact length_le_of_readHexChar hx
  cases s with
  | nil => simp [readEscape, faultAt] at h
  | cons c rest =>
    simp only [readEscape] at h
    have tail := drop isGap rest
    have feeds := drop isGapOrFeed rest
    have after (l : List Char) (hl : rest.dropWhile isGap = '\n' :: l) :
        (l.dropWhile isGapOrFeed).length ≤ rest.length := by
      have := drop isGapOrFeed l
      rw [hl] at tail
      simp at tail
      omega
    simp only [skipGaps, List.length_cons] at *
    split at h
    · split at h
      · cases h; simp; omega
      · split at h
        · cases h; simp
        · rename_i l hl
          cases h
          have := after l hl
          simp; omega
        · simp [faultAt] at h
    · split at h
      · have := hex h; omega
      · split at h
        · have := hex h; omega
        · split at h
          · cases h; simp
          · simp [faultAt] at h

/-- A string with escapes, after its opening mark; `read` are the characters read
    before, the last one first. -/
def readBasicFrom (lines : Bool) (read s : List Char) : Except Fault (List Char × List Char) :=
  match s with
  | [] => faultAt .openString []
  | '"' :: rest =>
    -- one or two quotation marks may stand in a text of several lines
    if lines then
      match after? ['"', '"'] rest with
      | some rest => .ok (read.reverse, rest)
      | none => readBasicFrom lines ('"' :: read) rest
    else .ok (read.reverse, rest)
  | '\\' :: rest =>
    match _read : readEscape lines rest with
    | .error e => .error e
    | .ok (cs, after) => readBasicFrom lines (cs.reverse ++ read) after
  | c :: rest =>
    if (if lines then isControlInLines c else isControl c) then
      faultAt (.stringChar c) (c :: rest)
    else readBasicFrom lines (c :: read) rest
termination_by s.length
decreasing_by
  · simp
  · exact Nat.lt_succ_of_le (length_le_of_readEscape ‹_›)
  · simp

/-- A string with escapes, after its opening mark. -/
def readBasic (lines : Bool) (s : List Char) : Except Fault (String × List Char) :=
  (readBasicFrom lines [] s).map fun (cs, rest) => (String.ofList cs, rest)

/-- One or two more quotation marks that belong to a string of several lines,
    since only the last three of four or five close it. -/
def moreQuotes (quote : Char) (s : String) (rest : List Char) : String × List Char :=
  match after? [quote, quote] rest, after? [quote] rest with
  | some rest, _ => (s ++ String.ofList [quote, quote], rest)
  | none, some rest => (s ++ String.ofList [quote], rest)
  | none, none => (s, rest)

/-- A text without one line feed at its start. -/
def skipFeed : List Char → List Char
  | '\n' :: rest => rest
  | rest => rest

/-- A string of several lines, after its opening mark. -/
def readLines (quote : Char) (s : List Char) : Except Fault (String × List Char) :=
  let s := skipFeed s
  let body :=
    if quote = '"' then readBasic true s
    else readLiteral [quote, quote, quote] isControlInLines s
  body.map fun (t, rest) => moreQuotes quote t rest

/-! ## Numbers -/

/-- Digits of a class with single underscores between them: the digits, and what
    follows; `digits` are those read before, the last one first. -/
def readRun (isDigit : Char → Bool) (digits : List Char) : List Char → List Char × List Char
  | '_' :: c :: rest =>
    if isDigit c && !digits.isEmpty then readRun isDigit (c :: digits) rest
    else (digits.reverse, '_' :: c :: rest)
  | c :: rest =>
    if isDigit c then readRun isDigit (c :: digits) rest else (digits.reverse, c :: rest)
  | [] => (digits.reverse, [])

/-- A run of digits in base 2, 8 or 16 after its mark. -/
def readBased (base : Nat) (s : List Char) : Option (Value × List Char) :=
  let isDigit := fun c => match Json.hexValue? c with
    | some d => d < base
    | none => false
  match readRun isDigit [] s with
  | ([], _) => none
  | (ds, rest) =>
    some (.int (ds.foldl (fun n c => n * base + (Json.hexValue? c).getD 0) 0 : Nat), rest)

def readBasedInt : List Char → Option (Value × List Char)
  | '0' :: 'x' :: rest => readBased 16 rest
  | '0' :: 'b' :: rest => readBased 2 rest
  | '0' :: 'o' :: rest => readBased 8 rest
  | _ => none

/-- The whole part of a decimal number: a zero, or digits that start with none. -/
def readWhole : List Char → List Char × List Char
  | '0' :: rest => (['0'], rest)
  | rest => readRun isAsciiDigit [] rest

/-- A fraction, if digits follow the point. -/
def readFractionPart : List Char → Option (List Char) × List Char
  | '.' :: rest =>
    match readRun isAsciiDigit [] rest with
    | ([], _) => (none, '.' :: rest)
    | (ds, rest) => (some ds, rest)
  | rest => (none, rest)

/-- An exponent, if digits follow the mark. -/
def readExponentPart : List Char → Option Int × List Char
  | c :: rest =>
    if c = 'e' ∨ c = 'E' then
      let (negative, body) := readSign rest
      match readRun isAsciiDigit [] body with
      | ([], _) => (none, c :: rest)
      | (ds, after) =>
        let n : Int := digitsValue ds
        (some (if negative then -n else n), after)
    else (none, c :: rest)
  | [] => (none, [])

/-- A decimal number: an integer, or a floating-point number if it has a fraction
    or an exponent. -/
def readDecimal (s : List Char) : Option (Except Fault (Value × List Char)) :=
  let (negative, body) := readSign s
  match readWhole body with
  | ([], _) => none
  | (whole, rest) =>
    let (fraction, rest) := readFractionPart rest
    let (exponent, rest) := readExponentPart rest
    match fraction, exponent with
    -- only an integer is bounded in its digits
    | none, none =>
      if digitLimit < whole.length then some (.error (.tooLong whole.length))
      else
        let n : Int := digitsValue whole
        some (.ok (.int (if negative then -n else n), rest))
    | _, _ =>
      let ds := fraction.getD []
      some (.ok (.double (Double.ofDecimal negative (digitsValue (whole ++ ds))
        (exponent.getD 0 - ds.length)), rest))

/-- The names of infinity and NaN, with or without a sign. -/
def specialNumbers : List (List Char × Double) := [
  ("inf".toList, .infinite false), ("nan".toList, .nan),
  ("-inf".toList, .infinite true), ("+inf".toList, .infinite false),
  ("-nan".toList, .nan), ("+nan".toList, .nan)]

def readSpecial (s : List Char) : Option (Value × List Char) :=
  specialNumbers.findSome? fun (name, x) => (after? name s).map fun rest => (.double x, rest)

/-! ## Moments -/

/-- Exactly `count` digits, as a number. -/
def readFixed (count : Nat) (s : List Char) : Option (Nat × List Char) :=
  let ds := s.take count
  if ds.length == count && ds.all isAsciiDigit then some (digitsValue ds, s.drop count) else none

/-- Two digits that write a number of a range. -/
def readTwo (low high : Nat) (s : List Char) : Option (Nat × List Char) :=
  match readFixed 2 s with
  | some (n, rest) => if low ≤ n && n ≤ high then some (n, rest) else none
  | none => none

/-- Parts of a second: up to six digits count, more are skipped. -/
def readMicros : List Char → Nat × List Char
  | '.' :: rest =>
    match readDigits rest with
    | ([], _) => (0, '.' :: rest)
    | (ds, after) =>
      let kept := ds.take 6
      (digitsValue kept * Nat.pow 10 (6 - kept.length), after)
  | rest => (0, rest)

def readTime (s : List Char) : Option (Time × List Char) :=
  match readTwo 0 23 s with
  | some (hour, ':' :: rest) =>
    match readTwo 0 59 rest with
    | some (minute, ':' :: rest) =>
      match readTwo 0 59 rest with
      | some (second, rest) =>
        let (micro, rest) := readMicros rest
        some (⟨hour, minute, second, micro⟩, rest)
      | none => none
    | _ => none
  | _ => none

/-- A distance to universal time, if there is one. -/
def readOffset (s : List Char) : Option Int × List Char :=
  match s with
  | [] => (none, [])
  | c :: rest =>
    if c = 'Z' ∨ c = 'z' then (some 0, rest)
    else if c = '+' ∨ c = '-' then
      match readTwo 0 23 rest with
      | some (hours, ':' :: rest) =>
        match readTwo 0 59 rest with
        | some (minutes, rest) =>
          let n : Int := (hours * 60 + minutes : Nat)
          (some (if c = '-' then -n else n), rest)
        | none => (none, s)
      | _ => (none, s)
    else (none, s)

def readDate (s : List Char) : Option (Date × List Char) :=
  match readFixed 4 s with
  | some (year, '-' :: rest) =>
    match readTwo 1 12 rest with
    | some (month, '-' :: rest) =>
      match readTwo 1 31 rest with
      | some (day, rest) => some (⟨year, month, day⟩, rest)
      | none => none
    | _ => none
  | _ => none

def readTimeAfterDate : List Char → Option (Time × List Char)
  | c :: rest => if c = 'T' ∨ c = 't' ∨ c = ' ' then readTime rest else none
  | [] => none

/-- A date, a time, or both. -/
def readMoment (s : List Char) : Option (Except Fault (Value × List Char)) :=
  match readDate s with
  | some (date, rest) =>
    -- digits of the form of a date are refused when there is no such day
    if !date.isValid then some (faultAt .moment s)
    else match readTimeAfterDate rest with
      | some (time, rest) =>
        let (offset, rest) := readOffset rest
        some (.ok (.moment (.both date time offset), rest))
      -- a date alone, when no time follows it
      | none => some (.ok (.moment (.day date), rest))
  | none =>
    match readTime s with
    | some (time, rest) => some (.ok (.moment (.clock time), rest))
    | none => none

end SourceCheck.Toml
