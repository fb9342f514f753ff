import SourceCheck.StandIn.Shell.Printf
import SourceCheck.StandIn.Utility.Content

/-! # Rows of numbers

    Numbers from a first to a last one with equal steps between them, and the prime
    factors of numbers.  Decimals are exact integers in units of a power of ten.
-/

namespace SourceCheck.Utility

open SourceCheck SourceCheck.Text SourceCheck.Shell SourceCheck.Number

/-! ## Rows -/

/-- A number as an argument writes it. -/
structure Operand where
  /-- The value in units of `10 ^ exponent`; nothing stands for infinity. -/
  mantissa : Option Int
  /-- The power of ten of the unit. -/
  exponent : Int
  /-- The number of places after the point, if they are known. -/
  places : Option Nat
  width : Int
  deriving Repr

/-- The number of places and the width of a numeral without blanks and plus sign. -/
def numeralShape (s : List Char) : Nat × Int :=
  let isMark := fun c => c == 'e' || c == 'E'
  let point := s.findIdx? (· == '.')
  let fraction := match point with
    | some i => ((s.drop (i + 1)).takeWhile (!isMark ·)).length
    | none => 0
  let width : Int := s.length
  let width := match point with
    | some i =>
      let before := if i = 0 then none else s[i - 1]?
      width + (if fraction = 0 then -1
        else if before.any isDigitChar then 0 else 1)
    | none => width
  match s.findIdx? isMark with
  | none => (fraction, width)
  | some mark =>
    let (negative, ds) := readSign (s.drop (mark + 1))
    let e := digitsValue (ds.takeWhile isDigitChar)
    let places := if negative then fraction + e else fraction - min fraction e
    -- the exponent is not written, so its width goes
    let width := width - (s.length - mark : Nat)
    if negative then
      let width := match point with
        | some i => if mark = i + 1 then width + 1 else width
        | none => width + 1
      (places, width + e)
    else
      let width := if point.isSome && places = 0 && fraction != 0 then width - 1 else width
      (places, width + (e - min fraction e : Nat))

/-- The number that an argument writes, or what it is no argument of. -/
def readOperand (s : String) : Except String Operand :=
  let body := s.toList.dropWhile isSpace
  let r := readReal body
  let shown := (body.dropWhile fun c => isSpace c || c == '+')
  if !r.isThere || !r.rest.isEmpty then .error "floating point"
  else match r.value with
  | .nan => .error "not-a-number"
  | .infinite negative => .ok ⟨none, if negative then -1 else 1, none, 0⟩
  | .finite negative m e =>
    let (sign, digits) := readSign body
    let isHexadecimal := body.any fun c => c == 'x' || c == 'X'
    let sized := fun (n : Nat) => some (if sign then -(n : Int) else n)
    if isHexadecimal then
      let (num, den) := Double.quotient m e
      let whole : Int := num / den
      .ok ⟨some (if negative then -whole else whole), 0, none, 0⟩
    else match readDecimal digits with
      | some (n, e, _) =>
        let (places, width) := numeralShape shown
        .ok ⟨sized n, e, some places, width⟩
      | none => .error "floating point"

/-- The value of a number in units of a smaller power of ten. -/
def Operand.inUnits (unit : Int) (o : Operand) : Option Int :=
  o.mantissa.map fun n => n * (Nat.pow 10 (o.exponent - unit).toNat : Nat)

/-- A field of a template among plain text. -/
structure Template where
  before : List Char
  field : Field
  behind : List Char

/-- Text in which a mark for a field stands for itself if it stands twice, up to the
    first single one. -/
def plainPart : List Char → List Char × List Char
  | '%' :: '%' :: rest =>
    let (s, rest) := plainPart rest
    ('%' :: s, rest)
  | '%' :: rest => ([], '%' :: rest)
  | c :: rest =>
    let (s, rest) := plainPart rest
    (c :: s, rest)
  | [] => ([], [])

def readTemplate (s : List Char) : Except String Template :=
  let (before, rest) := plainPart s
  match rest with
  | [] => .error " has no % directive"
  | _ :: rest =>
    let (flags, rest) := readFlags ⟨false, false, false, false, false⟩ rest
    let width := rest.takeWhile isDigitChar
    let rest := rest.drop width.length
    let (precision, rest) := match rest with
      | '.' :: rest =>
        let ds := rest.takeWhile isDigitChar
        (some (digitsValue ds), rest.drop ds.length)
      | rest => (none, rest)
    match rest with
    | [] => .error " ends in %"
    | c :: rest =>
      if !"aefgAEFG".toList.contains c then
        .error (" has unknown %" ++ String.singleton c ++ " directive")
      else
        let (behind, more) := plainPart rest
        if more.isEmpty then .ok ⟨before, ⟨flags, digitsValue width, precision, c⟩, behind⟩
        else .error " has too many % directives"

/-- The values of a row, in units of a power of ten; `fuel` bounds their number. -/
def rowValues (step : Int) (last : Option Int) : Nat → Int → List Int
  | 0, _ => []
  | fuel + 1, x =>
    let isOver : Bool := match last with
      | some l => if step < 0 then decide (x < l) else decide (l < x)
      | none => false
    if isOver then [] else x :: rowValues step last fuel (x + step)

/-- How many numbers are written of a row that has no end: more than any reader
    takes. -/
def rowLimit : Nat := 400000

/-- The arguments of a row: options in front, of which a negative number is none. -/
def rowArguments : List String → List String × List String
  | [] => ([], [])
  | a :: rest =>
    match a.toList with
    | ['-', '-'] => ([], rest)
    | '-' :: c :: _ =>
      if c == '.' || isDigitChar c then ([], a :: rest)
      else if a == "-f" || a == "-s" || a == "--format" || a == "--separator" then
        match rest with
        | value :: more =>
          let (options, others) := rowArguments more
          (a :: value :: options, others)
        | [] => ([a], [])
      else
        let (options, others) := rowArguments rest
        (a :: options, others)
    | _ => ([], a :: rest)

def showRowValue (o : Options) (template : Option Template) (unit : Int)
    (first step last : Operand) (x : Int) : List Char :=
  let (num, den) : Nat × Nat :=
    if unit < 0 then (x.natAbs, Nat.pow 10 (-unit).toNat) else (x.natAbs * Nat.pow 10 unit.toNat, 1)
  match template with
  | some t => t.before ++ realField t.field (Double.ofQuotient (x < 0) num den) ++ t.behind
  | none =>
    match first.places, step.places with
    | some p, some q =>
      let places := max p q
      let body := fixedDigits false places num den
      let sign := if x < 0 then ['-'] else []
      match last.places with
      | some r =>
        if o.has "equal-width" then
          let w1 := first.width + (places - p : Nat) + (if p = 0 && places != 0 then 1 else 0)
          let w2 := last.width + ((places : Int) - r) + (if r != 0 && places = 0 then -1 else 0)
            + (if r = 0 && places != 0 then 1 else 0)
          let width := (max w1 w2).toNat
          sign ++ zeroPadded (width - sign.length) body
        else sign ++ body
      | none => sign ++ body
    | _, _ => realField ⟨⟨false, false, false, false, false⟩, 0, none, 'g'⟩
        (Double.ofQuotient (x < 0) num den)

/-- Writes a row of numbers. -/
def seq : Utility := fun name args w =>
  let (options, operands) := rowArguments args
  match Utility.readOptions [taking 'f' "format", taking 's' "separator", flag 'w' "equal-width"] options with
  | .error message => complainUsage 1 name message w
  | .ok o =>
    let template := (o.last? "format").map fun f => (f, readTemplate f.toList)
    match operands with
    | [] => complainUsage 1 name "missing operand" w
    | _ :: _ :: _ :: extra :: _ => complainExtra name extra w
    | operands =>
      match template with
      | some (f, .error message) => complain name ("format " ++ quotedWord w f ++ message) w
      | _ =>
        let bad := operands.findSome? fun a => match readOperand a with
          | .error "not-a-number" =>
            some ("invalid " ++ quotedWord w "not-a-number" ++ " argument: " ++ quotedWord w a)
          | .error what => some ("invalid " ++ what ++ " argument: " ++ quotedWord w a)
          | .ok _ => none
        let one : Operand := ⟨some 1, 0, some 0, 1⟩
        let read := fun a => (readOperand a).toOption.getD one
        match bad, operands.map read with
        | some message, _ => complainUsage 1 name message w
        | none, numbers =>
          let (first, step, last) := match numbers with
            | [l] => (one, one, l)
            | [f, l] => (f, one, l)
            | [f, s, l] => (f, s, l)
            | _ => (one, one, one)
          if step.mantissa == some 0 then
            complainUsage 1 name
              ("invalid Zero increment value: " ++ quotedWord w ((operands.drop 1).head?.getD "")) w
          else if template.isSome && o.has "equal-width" then
            complainUsage 1 name
              "format string may not be specified when printing equal width strings" w
          else
            -- all numbers are counted in the smallest unit of the three
            let unit := min first.exponent (min step.exponent (if last.mantissa.isSome then last.exponent else 0))
            let start := (first.inUnits unit).getD 0
            let stride := (step.inUnits unit).getD 1
            -- a row without an end has none only in the direction of its steps
            let isEmpty := last.mantissa.isNone && ((last.exponent < 0) != (stride < 0))
            let values := if isEmpty then [] else rowValues stride (last.inUnits unit) rowLimit start
            let format := match template with
              | some (_, .ok t) => some t
              | _ => none
            let texts := values.map (showRowValue o format unit first step last)
            let separator := ((o.last? "separator").getD "\n").toList
            let w := w.withStatus 0
            if texts.isEmpty then w
            else put ((texts.intersperse separator).flatten ++ ['\n']) w

/-! ## Factors -/

/-- The prime factors of a number from a divisor on; `fuel` bounds the divisors. -/
def primeFactors : Nat → Nat → Nat → List Nat
  | 0, _, n => [n]
  | fuel + 1, d, n =>
    if n < 2 then []
    else if n < d * d then [n]
    else if n % d = 0 then d :: primeFactors fuel d (n / d)
    else primeFactors fuel (if d = 2 then 3 else d + 2) n

/-- Writes the prime factors of numbers. -/
def factor : Utility := withOptions [flag 'h' "exponents"] fun name o w =>
  let (words, w) :=
    if o.args.isEmpty then
      let (s, w) := w.readAll
      (wordsOf s, w)
    else (o.args.map String.toList, w)
  words.foldl (fun w word =>
    let body := match word.dropWhile isBlank with
      | '+' :: rest => rest
      | rest => rest
    if body.isEmpty || !body.all isDigitChar then
      complain name (quotedWord w (String.ofList word) ++ " is not a valid positive integer") w
    else
      let n := digitsValue body
      let factors := primeFactors (2000000) 2 n
      put (digits n ++ ':' :: factors.flatMap (fun p => ' ' :: digits p) ++ ['\n']) w)
    (w.withStatus 0)

end SourceCheck.Utility
