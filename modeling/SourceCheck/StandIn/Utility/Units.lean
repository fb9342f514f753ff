import SourceCheck.StandIn.Utility.Fields

/-! # Numbers with units

    Numbers are read with units that stand for powers of a base, and written with others.
    They are kept as quotients, so that nothing but the last digit shown is rounded.
-/

namespace SourceCheck.Utility

open SourceCheck SourceCheck.Text SourceCheck.Shell

namespace Units

/-! ## Scales -/

/-- What units stand for. -/
inductive Scale where
  | plain
  /-- Powers of 1000, or of 1024 if they are marked. -/
  | either
  | thousands
  | binary
  | markedBinary
  deriving DecidableEq, Repr

def Scale.base : Scale → Nat
  | .binary | .markedBinary => 1024
  | _ => 1000

def scaleNames : List (String × Scale) :=
  [("none", .plain), ("auto", .either), ("si", .thousands), ("iec", .binary),
    ("iec-i", .markedBinary)]

def unitLetters : List Char := "KMGTPEZY".toList

def unitLetter (power : Nat) : List Char := if power = 0 then [] else (unitLetters.drop (power - 1)).take 1

/-! ## Reading -/

/-- A quotient. -/
structure Quantity where
  num : Int
  den : Nat

/-- Why a text is no number with a unit. -/
inductive Fault where
  | number
  /-- What follows the number is no unit. -/
  | unit
  /-- There is a unit where none is taken. -/
  | unwanted
  /-- The mark of the unit is missing. -/
  | unmarked
  /-- Something follows the unit. -/
  | trailing (rest : List Char)

def Fault.message (w : World) (text : List Char) (f : Fault) : String :=
  let shown := quotedWord w (String.ofList text)
  match f with
  | .number => "invalid number: " ++ shown
  | .unit => "invalid suffix in input: " ++ shown
  | .unwanted => "rejecting suffix in input: " ++ shown ++ " (consider using --from)"
  | .unmarked => "missing 'i' suffix in input: " ++ shown ++ " (e.g Ki/Mi/Gi)"
  | .trailing rest => "invalid suffix in input " ++ shown ++ ": " ++ quotedWord w (String.ofList rest)

/-- A number with a unit, and how many decimals it has. -/
def read (scale : Scale) (s : List Char) : Except Fault (Quantity × Nat) := do
  let (isNegative, body) := match s with
    | '-' :: rest => (true, rest)
    | rest => (false, rest)
  let whole := body.takeWhile isDigitChar
  let rest := body.drop whole.length
  let (fraction, rest) := match rest with
    | '.' :: more => (some (more.takeWhile isDigitChar), more.dropWhile isDigitChar)
    | rest => (none, rest)
  if (whole.isEmpty && fraction.isNone) || fraction == some [] then throw .number
  let decimals := fraction.getD []
  let digits := decimalValue (whole ++ decimals)
  let quantity := fun (factor : Nat) =>
    (⟨(if isNegative then -1 else 1) * (digits * factor : Nat), Nat.pow 10 decimals.length⟩ : Quantity)
  let marked := fun (rest : List Char) => match scale, rest with
    | .markedBinary, 'i' :: rest => Except.ok (false, rest)
    | .markedBinary, _ => .error Fault.unmarked
    | .either, 'i' :: rest => .ok (true, rest)
    | _, rest => .ok (false, rest)
  match rest.dropWhile isBlank with
  | [] =>
    if rest.isEmpty && scale != .markedBinary then return (quantity 1, decimals.length)
    else throw (if rest.isEmpty then .unmarked else .unit)
  | c :: rest =>
    let power := unitLetters.idxOf c + 1
    if unitLetters.length < power then throw .unit
    if scale = .plain then throw .unwanted
    let (isBinary, rest) ← marked rest
    if !rest.isEmpty then throw (.trailing rest)
    return (quantity (Nat.pow (if isBinary then 1024 else scale.base) power), 0)

/-! ## Rounding -/

/-- Which way numbers are rounded. -/
inductive Rounding where
  | up
  | down
  | fromZero
  | towardsZero
  /-- To the nearest one, and of two the one away from zero. -/
  | nearest
  deriving DecidableEq, Repr

/-- The ways of rounding by their names. -/
def roundings : List (String × Rounding) :=
  [("up", .up), ("down", .down), ("from-zero", .fromZero), ("towards-zero", .towardsZero),
    ("nearest", .nearest)]

/-- A quotient times a power of ten as a whole number. -/
def Quantity.rounded (q : Quantity) (way : Rounding) (places : Nat) : Int :=
  let num := q.num * (Nat.pow 10 places : Nat)
  let size := num.natAbs
  let sign : Int := if num < 0 then -1 else 1
  let ceiling : Int := ((size + q.den - 1) / q.den : Nat)
  let floor : Int := (size / q.den : Nat)
  match way with
  | .fromZero => sign * ceiling
  | .towardsZero => sign * floor
  | .nearest => sign * ((2 * size + q.den) / (2 * q.den) : Nat)
  | .up => if num < 0 then -floor else ceiling
  | .down => if num < 0 then -ceiling else floor

/-- A quotient with some decimals, rounded to the nearest one and of two to the even one. -/
def Quantity.shown (q : Quantity) (places : Nat) : List Char :=
  let size := q.num.natAbs * Nat.pow 10 places
  let floor := size / q.den
  let left := size % q.den
  let n := if 2 * left < q.den || (2 * left = q.den && floor % 2 = 0) then floor else floor + 1
  let ds := digits n
  let ds := List.replicate (places + 1 - ds.length) '0' ++ ds
  let whole := ds.take (ds.length - places)
  (if q.num < 0 then ['-'] else []) ++ whole
    ++ (if places = 0 then [] else '.' :: ds.drop whole.length)

/-! ## Writing -/

/-- How numbers are written. -/
structure Style where
  scale : Scale
  rounding : Rounding
  /-- How many decimals are asked for. -/
  places : Option Nat
  /-- How many digits there are at least, filled up with zeros. -/
  zeros : Nat
  deriving Repr

/-- A text filled up with zeros behind its sign. -/
def zeroFilled (width : Nat) : List Char → List Char
  | '-' :: ds => '-' :: List.replicate (width - 1 - ds.length) '0' ++ ds
  | ds => List.replicate (width - ds.length) '0' ++ ds

/-- The power of a base by which a quotient is divided until it is smaller than the base;
    `fuel` bounds it. -/
def powerOf (base : Nat) : Nat → Quantity → Nat × Quantity
  | 0, q => (0, q)
  | fuel + 1, q =>
    if q.num.natAbs < base * q.den then (0, q)
    else
      let (power, q) := powerOf base fuel ⟨q.num, q.den * base⟩
      (power + 1, q)

/-- A quotient as it is written; `decimals` is how many decimals it was read with. -/
def Style.write (k : Style) (decimals : Nat) (q : Quantity) : List Char :=
  match k.scale with
  | .plain =>
    let places := k.places.getD decimals
    zeroFilled k.zeros (Quantity.shown ⟨q.rounded k.rounding places, Nat.pow 10 places⟩ places)
  | scale =>
    let base := scale.base
    let (power, q) := powerOf base 20 q
    let places := match k.places with
      | some n => min (power * 3) n
      | none => if q.num.natAbs < 10 * q.den then 1 else 0
    let n := q.rounded k.rounding places
    let (power, q) : Nat × Quantity :=
      if base * Nat.pow 10 places ≤ n.natAbs then (power + 1, ⟨n, Nat.pow 10 places * base⟩)
      else (power, ⟨n, Nat.pow 10 places⟩)
    let hasPoint := q.num != 0 && q.num.natAbs < 10 * q.den && 0 < power
    let body := q.shown (k.places.getD (if hasPoint then 1 else 0))
    zeroFilled k.zeros body ++ unitLetter power
      ++ (if scale = .markedBinary && 0 < power then ['i'] else [])

/-! ## Templates -/

/-- A template for numbers: texts around a field, and how the field is filled. -/
structure Template where
  before : List Char
  after : List Char
  /-- How long the field is at least; negative if it is filled up behind. -/
  width : Int
  /-- Zeros fill it up. -/
  zeros : Bool
  /-- How many decimals are shown. -/
  places : Option Nat

def template? (s : List Char) : Option Template :=
  let before := s.takeWhile (· != '%')
  match s.drop before.length with
  | [] => none
  | _ :: rest =>
    let flags := rest.takeWhile "'0- ".toList.contains
    let rest := rest.drop flags.length
    let width := rest.takeWhile isDigitChar
    let rest := rest.drop width.length
    let (places, rest) := match rest with
      | '.' :: more => (some (decimalValue (more.takeWhile isDigitChar)), more.dropWhile isDigitChar)
      | rest => (none, rest)
    match rest with
    | 'f' :: after =>
      let n : Int := decimalValue width
      some ⟨before, after, if flags.contains '-' then -n else n, flags.contains '0', places⟩
    | _ => none

/-! ## Lines -/

/-- What is done to numbers. -/
structure Task where
  name : String
  /-- The units of the numbers read. -/
  source : Scale
  style : Style
  factor : Nat
  divisor : Nat
  /-- What stands behind them. -/
  suffix : List Char
  /-- How long they are made; negative if they are filled up behind. -/
  width : Int
  around : List Char × List Char
  /-- What separates fields, if it is no blank space. -/
  separator : Option Char
  /-- The fields that hold numbers. -/
  fields : List Span
  /-- What is done with a text that is no number. -/
  invalid : String

def fitted (width : Int) (s : List Char) : List Char :=
  let blanks := List.replicate (width.natAbs - s.length) ' '
  if width < 0 then s ++ blanks else blanks ++ s

def Task.field (t : Task) (number : Nat) (s : List Char) : Except Fault (List Char) := do
  let text := s.dropWhile isBlank
  let text := if t.suffix.length < text.length && t.suffix.isSuffixOf text then
      text.take (text.length - t.suffix.length) else text
  let (q, decimals) ← read t.source text
  let q : Quantity := ⟨q.num * t.factor, q.den * t.divisor⟩
  let body := t.style.write decimals q ++ t.suffix
  let isAutomatic := t.width = 0 && t.separator.isNone
  let width : Int := if !isAutomatic then t.width
    else if text.length < s.length || 1 < number then s.length else 0
  return t.around.1 ++ fitted width body ++ t.around.2

/-- The fields of a line: each with the separator behind it if it has one. -/
def Task.fieldsOf (t : Task) (line : List Char) : List (List Char) :=
  match t.separator with
  | some c => line.splitOnP (· == c)
  | none =>
    let rec go : Nat → List Char → List (List Char)
      | 0, _ => []
      | fuel + 1, s =>
        let blank := s.takeWhile isBlank
        let word := (s.drop blank.length).takeWhile (!isBlank ·)
        match s.drop (blank.length + word.length) with
        | [] => [blank ++ word]
        | _ :: rest => (blank ++ word) :: go fuel rest
    go (line.length + 1) line

/-- A line with its numbers rewritten; the faults come with it, and nothing but them if a fault
    ends all. -/
def Task.line (t : Task) (line : List Char) : List Char × List (List Char × Fault) :=
  let between := [t.separator.getD ' ']
  let fields := t.fieldsOf line
  let numbered := (List.range fields.length).zip fields
  let parts := numbered.map fun (i, s) =>
    if t.fields.any (·.holds (i + 1)) then
      match t.field (i + 1) s with
      | .ok text => (text, none)
      | .error f => (s, some (s.dropWhile isBlank, f))
    else (s, none)
  (between.intercalate (parts.map (·.1)), parts.filterMap (·.2))

/-- Rewrites lines, and tells whether all of them could be; a fault ends them if that is asked
    for. -/
def Task.run (t : Task) (ending : Char) : List (List Char) → Bool → World → World
  | [], isWhole, w => if isWhole then w else w.withStatus 2
  | line :: rest, isWhole, w =>
    let (text, faults) := t.line line
    match faults with
    | [] => t.run ending rest isWhole (put (text ++ [ending]) w)
    | (s, f) :: _ =>
      if t.invalid = "abort" then complainWith 2 t.name (f.message w s) w
      else
        let w := if t.invalid = "ignore" then w
          else faults.foldl (fun w (s, f) => w.write 2 (t.name ++ ": " ++ f.message w s ++ "\n")) w
        t.run ending rest (isWhole && t.invalid != "fail") (put (text ++ [ending]) w)

def choice {α : Type} (o : Options) (w : World) (key : String) (names : List (String × α))
    (usual : α) : Except String α :=
  match o.last? key with
  | none => .ok usual
  | some s =>
    match names.filter fun (n, _) => startsWith n s with
    | (_, a) :: _ => .ok ((names.lookup s).getD a)
    | [] => .error (wrongChoice w key s (names.map fun (n, _) => [n]))

end Units

/-- Writes numbers with other units. -/
def numfmt : Utility := withOptions
  [wordTaking "from", wordTaking "to", wordTaking "from-unit", wordTaking "to-unit",
    wordTaking "round", wordTaking "suffix", wordTaking "padding", wordFlag "grouping",
    wordTaking "format", wordTaking "field", (none, "header", .perhaps), taking 'd' "delimiter",
    wordTaking "invalid", flag 'z' "zero-terminated", wordFlag "debug"]
  fun name o w =>
    let count := fun (key : String) => match o.last? key with
      | none => Except.ok 1
      | some s => match (countWithUnit? s.toList).filter (0 < ·) with
        | some n => .ok n
        | none => .error ("invalid unit size: " ++ quotedWord w s)
    let asked : Except (Bool × String) Units.Task := do
      let usage := fun {α : Type} (r : Except String α) => r.mapError fun m => (true, m)
      let plain := fun {α : Type} (r : Except String α) => r.mapError fun m => (false, m)
      let source ← usage (Units.choice o w "from" Units.scaleNames .plain)
      let scale ← usage (Units.choice o w "to" (Units.scaleNames.filter (·.1 != "auto")) .plain)
      let rounding ← usage (Units.choice o w "round" Units.roundings .fromZero)
      let modes := ["abort", "fail", "warn", "ignore"].map fun m => (m, m)
      let invalid ← usage (Units.choice o w "invalid" modes "abort")
      let factor ← plain (count "from-unit")
      let divisor ← plain (count "to-unit")
      let template ← plain (match o.last? "format" with
        | none => .ok none
        | some s => match Units.template? s.toList with
          | some t => .ok (some t)
          | none => .error ("format " ++ quotedWord w s ++ " has no % directive"))
      let padding ← plain (match o.last? "padding" with
        | none => .ok (0 : Int)
        | some s =>
          match s.toList with
          | '-' :: ds => (match plainCount? (String.ofList ds) with
            | some n => if n = 0 then .error ("invalid padding value " ++ quotedWord w s)
              else .ok (-(n : Int))
            | none => .error ("invalid padding value " ++ quotedWord w s))
          | _ => match plainCount? s with
            | some n => if n = 0 then .error ("invalid padding value " ++ quotedWord w s)
              else .ok (n : Int)
            | none => .error ("invalid padding value " ++ quotedWord w s))
      let fields ← plain (match o.last? "field" with
        | none => .ok [⟨1, some 1⟩]
        | some "-" => .ok [⟨1, none⟩]
        | some s => (spans? s).mapError fun _ => "invalid field value " ++ quotedWord w s)
      let width := match template with
        | some t => if t.zeros then 0 else t.width
        | none => 0
      let zeros := match template with
        | some t => if t.zeros then t.width.natAbs else 0
        | none => 0
      return {
        name := name
        source := source
        style := ⟨scale, rounding, template.bind (·.places), zeros⟩
        factor := factor
        divisor := divisor
        suffix := ((o.last? "suffix").getD "").toList
        width := if width = 0 then padding else width
        around := ((template.map (·.before)).getD [], (template.map (·.after)).getD [])
        separator := (o.last? "delimiter").bind (·.toList.head?)
        fields := fields
        invalid := invalid }
    match asked with
    | .error (true, message) => complainUsage 1 name message w
    | .error (false, message) => complain name message w
    | .ok t =>
      let ending := if o.has "zero-terminated" then Char.ofNat 0 else '\n'
      if !o.args.isEmpty then t.run ending (o.args.map String.toList) true (w.withStatus 0)
      else
        let (s, w) := (w.withStatus 0).readAll
        let lines := endedBy ending s
        let skipped := if o.has "header" then ((o.last? "header").bind plainCount?).getD 1 else 0
        let w := put ((lines.take skipped).flatMap (· ++ [ending])) w
        t.run ending (lines.drop skipped) true w

end SourceCheck.Utility
