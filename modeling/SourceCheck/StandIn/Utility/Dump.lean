import SourceCheck.StandIn.Utility.Content

/-! # Showing octets

    A text is shown by its octets: block by block after the place of the block, in one or
    more ways.  What stands in one column in all ways belongs to the same octets.  Blocks
    that repeat the one before are left out.
-/

namespace SourceCheck.Utility

open SourceCheck SourceCheck.Shell SourceCheck.Text

namespace Dump

/-- How values are written. -/
inductive Look where
  | signed
  /-- As numbers without a sign. -/
  | unsigned
  | octal
  | hexadecimal
  | character
  | named
  deriving DecidableEq, Repr

/-- A way to show octets. -/
structure Way where
  look : Look
  /-- How many octets make a value. -/
  size : Nat
  /-- The octets stand behind as text. -/
  hasText : Bool
  deriving Repr

/-- How many digits the greatest number of some octets has. -/
def digitCount (base size : Nat) : Nat := (Nat.toDigits base (Nat.pow 256 size - 1)).length

def Way.width (k : Way) : Nat :=
  match k.look with
  | .signed => (Nat.toDigits 10 (Nat.pow 256 k.size / 2)).length + 1
  | .unsigned => digitCount 10 k.size
  | .octal => digitCount 8 k.size
  | .hexadecimal => 2 * k.size
  | .character | .named => 3

def controlNames : List String := ["nul", "soh", "stx", "etx", "eot", "enq", "ack", "bel", "bs",
  "ht", "nl", "vt", "ff", "cr", "so", "si", "dle", "dc1", "dc2", "dc3", "dc4", "nak", "syn", "etb",
  "can", "em", "sub", "esc", "fs", "gs", "rs", "us", "sp"]

/-- A number with zeros in front. -/
def filled (base width n : Nat) : List Char :=
  let ds := Nat.toDigits base n
  List.replicate (width - ds.length) '0' ++ ds

def characterEscapes : List (Nat × Char) :=
  [(0, '0'), (7, 'a'), (8, 'b'), (9, 't'), (10, 'n'), (11, 'v'), (12, 'f'), (13, 'r')]

def Way.shown (k : Way) (n : Nat) : List Char :=
  match k.look with
  | .signed =>
    if n < Nat.pow 256 k.size / 2 then digits n else '-' :: digits (Nat.pow 256 k.size - n)
  | .unsigned => digits n
  | .octal => filled 8 k.width n
  | .hexadecimal => filled 16 k.width n
  | .character =>
    match characterEscapes.lookup n with
    | some e => ['\\', e]
    | none => if 32 ≤ n && n < 127 then [Char.ofNat n] else filled 8 3 n
  | .named =>
    let n := n % 128
    if n = 127 then "del".toList
    else match controlNames[n]? with
      | some name => name.toList
      | none => [Char.ofNat n]

/-- The values that octets make, the lowest octet of each first. -/
def values (size : Nat) : Nat → List Nat → List Nat
  | 0, _ => []
  | count + 1, octets =>
    (octets.take size).reverse.foldl (fun n b => 256 * n + b) 0
      :: values size count (octets.drop size)

/-- Values side by side, each with its share of the blanks that fill the block; `left` is
    how many columns of the whole block are still to come. -/
def columns (width blanks all : Nat) : Nat → Nat → List (List Char) → List Char
  | _, _, [] => []
  | left, spare, v :: rest =>
    let next := blanks * (left - 1) / all
    padLeft (spare - next + width) v ++ columns width blanks all (left - 1) next rest

def isShown (n : Nat) : Bool := 32 ≤ n && n < 127

/-- How a dump is made. -/
structure Style where
  ways : List Way
  /-- How many octets make a block. -/
  block : Nat
  /-- The base of places and how many digits they have; without it they are not shown. -/
  places : Option (Nat × Nat)
  showsAll : Bool

/-- The width of the columns of a block, the same in all ways. -/
def Style.blockWidth (s : Style) : Nat :=
  s.ways.foldl (fun n k => max n ((k.width + 1) * (s.block / k.size))) 0

def Style.place (s : Style) (n : Nat) : List Char :=
  match s.places with
  | some (base, width) => filled base width n
  | none => []

def Style.blockLines (s : Style) (start : Nat) (octets : List Nat) : List Char :=
  let lines := s.ways.map fun k =>
    let all := s.block / k.size
    let count := (octets.length + k.size - 1) / k.size
    let blanks := s.blockWidth - all * k.width
    let cells := (values k.size count octets).map k.shown
    let body := columns k.width blanks all all blanks cells
    let text := octets.map fun n => if isShown n then Char.ofNat n else '.'
    let gap := List.replicate (s.blockWidth - body.length) ' '
    body ++ (if k.hasText then gap ++ "  >".toList ++ text ++ ['<'] else [])
  let head := s.place start
  let indent := List.replicate head.length ' '
  match lines with
  | [] => []
  | first :: rest => head ++ first ++ ['\n'] ++ rest.flatMap fun l => indent ++ l ++ ['\n']

/-- The lines of all blocks from a place on; `before` is the block before, and `skipped`
    tells that it repeated the one before it.  `fuel` bounds the blocks. -/
def Style.dump (s : Style) : Nat → Nat → List Nat → Bool → List Nat → List Char
  | 0, _, _, _, _ => []
  | fuel + 1, start, before, skipped, octets =>
    if octets.isEmpty then (s.place start) ++ (if s.places.isSome then ['\n'] else [])
    else
      let here := octets.take s.block
      let rest := octets.drop s.block
      if !s.showsAll && here == before && here.length = s.block then
        (if skipped then [] else ['*', '\n'])
          ++ s.dump fuel (start + here.length) before true rest
      else s.blockLines start here ++ s.dump fuel (start + here.length) here false rest

/-! ## Asking for a dump -/

/-- The size that stands after the letter of a way. -/
def readSize (usual : Nat) (s : List Char) : Nat × List Char :=
  match s with
  | 'C' :: rest => (1, rest)
  | 'S' :: rest => (2, rest)
  | 'I' :: rest => (4, rest)
  | 'L' :: rest => (8, rest)
  | s =>
    let ds := s.takeWhile isDigitChar
    if ds.isEmpty then (usual, s) else (decimalValue ds, s.drop ds.length)

/-- The ways that a text asks for; `fuel` bounds its length. -/
def readWays (w : World) (whole : String) : Nat → List Char → Except String (List Way)
  | 0, _ => .ok []
  | _, [] => .ok []
  | fuel + 1, c :: rest => do
    let look? : Option Look :=
      [('d', Look.signed), ('u', .unsigned), ('o', .octal), ('x', .hexadecimal), ('c', .character),
        ('a', .named)].lookup c
    match look? with
    | none =>
      throw ("invalid character '" ++ String.singleton c ++ "' in type string " ++ quotedWord w whole)
    | some look =>
      -- letters have no size
      let isLetter := look == .character || look == .named
      let (size, rest) := if isLetter then (1, rest) else readSize 4 rest
      if !([1, 2, 4, 8].contains size) then
        throw ("invalid type string " ++ quotedWord w whole ++ ";\nthis system doesn't provide a "
          ++ Number.natText size ++ "-byte integral type")
      let (hasText, rest) := match rest with
        | 'z' :: more => (true, more)
        | rest => (false, rest)
      let more ← readWays w whole fuel rest
      return ⟨look, size, hasText⟩ :: more

/-- The ways that letters of their own stand for. -/
def letterWays : List (String × Way) := [
  ("a", ⟨.named, 1, false⟩), ("b", ⟨.octal, 1, false⟩), ("c", ⟨.character, 1, false⟩),
  ("d", ⟨.unsigned, 2, false⟩), ("h", ⟨.hexadecimal, 2, false⟩), ("i", ⟨.signed, 4, false⟩),
  ("l", ⟨.signed, 8, false⟩), ("o", ⟨.octal, 2, false⟩), ("s", ⟨.signed, 2, false⟩),
  ("x", ⟨.hexadecimal, 2, false⟩)]

/-- The ways that options ask for, in their order. -/
def waysOf (w : World) (o : Options) : Except String (List Way) := do
  let parts ← o.given.mapM fun (key, value) =>
    match letterWays.lookup key, value with
    | some way, _ => pure [way]
    | none, some text =>
      if key = "format" then readWays w text (text.length + 1) text.toList else pure []
    | none, none => pure []
  let ways := parts.flatten
  return if ways.isEmpty then [⟨.octal, 2, false⟩] else ways

/-- A count of octets, in decimal, octal or hexadecimal digits. -/
def count? (s : String) : Option Nat :=
  match s.toList with
  | '0' :: 'x' :: ds | '0' :: 'X' :: ds =>
    if ds.isEmpty || !ds.all isHexadecimal then none else some (hexadecimalValue ds)
  | '0' :: d :: ds =>
    if (d :: ds).all fun c => '0' ≤ c && c ≤ '7' then
      some (octalValue (d :: ds))
    else countWithUnit? ('0' :: d :: ds)
  | cs => countWithUnit? cs

/-- The base of places and how many digits they have. -/
def placesOf : Option String → Except String (Option (Nat × Nat))
  | none => .ok (some (8, 7))
  | some s =>
    match s.toList with
    | ['o'] => .ok (some (8, 7))
    | ['d'] => .ok (some (10, 7))
    | ['x'] => .ok (some (16, 6))
    | ['n'] => .ok none
    | _ => .error ("invalid output address radix '" ++ s
        ++ "'; it must be one character from [doxn]")

def countOf (o : Options) (letter key : String) (usual : Option Nat) : Except String (Option Nat) :=
  match o.last? key with
  | none => .ok usual
  | some s => match count? s with
    | some n => .ok (some n)
    | none => .error ("invalid -" ++ letter ++ " argument '" ++ s ++ "'")

end Dump

/-- Shows the octets of files. -/
def od : Utility := withOptions
  [flag 'a' "", flag 'b' "", flag 'c' "", flag 'd' "", flag 'h' "", flag 'i' "", flag 'l' "",
    flag 'o' "", flag 's' "", flag 'x' "", taking 'A' "address-radix", taking 'j' "skip-bytes",
    taking 'N' "read-bytes", taking 't' "format", flag 'v' "output-duplicates",
    (some 'w', "width", .perhaps)]
  fun name o w =>
    let asked : Except String (Dump.Style × Nat × Option Nat × String) := do
      let places ← Dump.placesOf (o.last? "address-radix")
      let skip ← Dump.countOf o "j" "skip-bytes" (some 0)
      let limit ← Dump.countOf o "N" "read-bytes" none
      let ways ← Dump.waysOf w o
      -- a line holds whole numbers of every size asked for
      let widest := ways.foldl (fun n k => max n k.size) 1
      let block := if o.has "width" then ((o.last? "width").bind Dump.count?).getD 32
        else 16 / widest * widest
      let fits := block != 0 && block % widest == 0
      let warning := if fits then "" else
        name ++ ": warning: invalid width " ++ Number.natText block ++ "; using "
          ++ Number.natText widest ++ " instead\n"
      return (⟨ways, if fits then block else widest, places, o.has "output-duplicates"⟩,
        skip.getD 0, limit, warning)
    match asked with
    | .error message => complain name message w
    | .ok (style, skip, limit, warning) =>
      let w := w.write 2 warning
      let (inputs, w) := readInputs name o.args w
      if inputs.isEmpty then w
      else
        let all := (inputs.flatMap (·.2)).map (·.toNat)
        if all.length < skip then complain name "cannot skip past end of combined input" w
        else
          let kept := all.drop skip
          let kept := match limit with
            | some n => kept.take n
            | none => kept
          put (style.dump (kept.length + 2) skip [] false kept) w

end SourceCheck.Utility
