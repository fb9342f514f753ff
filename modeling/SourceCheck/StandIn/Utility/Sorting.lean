import SourceCheck.Number.Arithmetic
import SourceCheck.StandIn.Shell.Numeral
import SourceCheck.StandIn.Utility.VersionOrder

/-! # Sorting lines

    Lines are compared by keys, which are parts of lines; each key has its own way
    to compare.  Lines with equal keys are compared as a whole at last.
-/

namespace SourceCheck.Utility

open SourceCheck SourceCheck.Text SourceCheck.Shell

/-! ## Keys -/

/-- How texts are compared. -/
inductive Comparison where
  /-- By their characters. -/
  | text
  | numeric
  /-- As numbers with a fraction and an exponent. -/
  | general
  /-- As decimals with a unit. -/
  | human
  | month
  /-- As names with numbers in them. -/
  | version
  deriving DecidableEq, Repr

/-- How a key is compared. -/
structure SortRule where
  comparison : Comparison
  /-- Only blanks, letters and digits count. -/
  dictionary : Bool
  /-- Letters count as capitals. -/
  folds : Bool
  /-- Only characters that are shown count. -/
  printable : Bool
  /-- Greater ones come first. -/
  reversed : Bool
  /-- Blanks at the start are left out. -/
  skipsStart : Bool
  /-- Blanks before the place where the key ends are left out. -/
  skipsEnd : Bool
  asked : List Char
  deriving Repr

/-- The usual way to compare. -/
def SortRule.plain : SortRule := ⟨.text, false, false, false, false, false, false, []⟩

/-- Nothing was said about the way to compare, apart from its direction. -/
def SortRule.isDefault (o : SortRule) : Bool :=
  o.comparison == .text && !o.dictionary && !o.folds && !o.printable && !o.skipsStart
    && !o.skipsEnd

/-- The letters of ways to compare that cannot go together, if there are some. -/
def SortRule.clash? (o : SortRule) : Option (List Char) :=
  let has := o.asked.contains
  let other := has 'd' || has 'i' || has 'V' || has 'R'
  let count := (['g', 'h', 'M', 'n'].filter has).length + (if other then 1 else 0)
  if count ≤ 1 then none
  else some ("dfghiMnRV".toList.filter fun c => has c && !(c == 'i' && has 'd'))

/-- A way to compare with one more letter. -/
def SortRule.add? (o : SortRule) (start ending : Bool) (c : Char) : Option SortRule :=
  let o := { o with asked := c :: o.asked }
  if c = 'b' then
    some { o with skipsStart := o.skipsStart || start, skipsEnd := o.skipsEnd || ending }
  else if c = 'd' then some { o with dictionary := true }
  else if c = 'f' then some { o with folds := true }
  else if c = 'g' then some { o with comparison := .general }
  else if c = 'h' then some { o with comparison := .human }
  else if c = 'i' then some { o with printable := true }
  else if c = 'M' then some { o with comparison := .month }
  else if c = 'n' then some { o with comparison := .numeric }
  else if c = 'r' then some { o with reversed := true }
  else if c = 'V' then some { o with comparison := .version }
  else if c = 'R' then some o
  else none

/-- A key: a part of a line, counted in fields and characters from zero. -/
structure Key where
  field : Nat
  /-- How many characters of that field it leaves out. -/
  offset : Nat
  /-- The field it ends in, and how many characters of that field belong to it; zero
      stands for all. -/
  ending : Option (Nat × Nat)
  ordering : SortRule
  deriving Repr

def afterFields (separator : Option Char) : Nat → List Char → List Char
  | 0, s => s
  | n + 1, s =>
    match separator with
    | some c => afterFields separator n ((s.dropWhile (· != c)).drop 1)
    | none => afterFields separator n ((s.dropWhile isBlank).dropWhile (!isBlank ·))

/-- What is left of a line where a key ends, after its last field. -/
def afterLast (separator : Option Char) (key : Nat × Nat) (skips : Bool) (s : List Char) :
    List Char :=
  let (field, count) := key
  if count = 0 then
    match separator with
    | none => afterFields none (field + 1) s
    | some c => (afterFields separator field s).dropWhile (· != c)
  else
    let rest := afterFields separator field s
    (if skips then rest.dropWhile isBlank else rest).drop count

def Key.text (k : Key) (separator : Option Char) (line : List Char) : List Char :=
  let start := afterFields separator k.field line
  let start := (if k.ordering.skipsStart then start.dropWhile isBlank else start).drop k.offset
  match k.ending with
  | none => start
  | some e =>
    let rest := afterLast separator e k.ordering.skipsEnd line
    start.take (start.length - rest.length)

/-! ## Comparing -/

def compareOctets (a b : List Char) : Ordering :=
  if a = b then .eq else if inOrder a b then .lt else .gt

/-- The decimal at the start of a text: whether it is negative, its digits before
    the point, and those behind it. -/
def readDecimalParts (s : List Char) : Bool × List Char × List Char × List Char :=
  let s := s.dropWhile isBlank
  let (negative, s) := match s with
    | '-' :: rest => (true, rest)
    | s => (false, s)
  let whole := s.takeWhile isDigitChar
  let rest := s.drop whole.length
  match rest with
  | '.' :: more =>
    let fraction := more.takeWhile isDigitChar
    (negative, whole, fraction, more.drop fraction.length)
  | rest => (negative, whole, [], rest)

def compareDecimals (a b : List Char) : Ordering :=
  let (na, wa, fa, _) := readDecimalParts a
  let (nb, wb, fb, _) := readDecimalParts b
  let places := max fa.length fb.length
  let value := fun (negative : Bool) (whole fraction : List Char) =>
    let n : Int := decimalValue (whole ++ fraction ++ List.replicate (places - fraction.length) '0')
    if negative then -n else n
  compare (value na wa fa) (value nb wb fb)

def unitRank (s : List Char) : Int :=
  let (negative, whole, fraction, rest) := readDecimalParts s
  let isZero := (whole ++ fraction).all (· == '0')
  let rank : Nat := match rest with
    | c :: _ =>
      ([('K', 1), ('k', 1), ('M', 2), ('G', 3), ('T', 4), ('P', 5), ('E', 6), ('Z', 7),
        ('Y', 8)].lookup c).getD 0
    | [] => 0
  if isZero then 0 else if negative then -((rank : Int) + 1) else (rank : Int) + 1

/-- The number of a month by the first three letters of its name. -/
def monthNumber (s : List Char) : Nat :=
  let name := String.ofList (((s.dropWhile isBlank).take 3).map toCapital)
  ([("JAN", 1), ("FEB", 2), ("MAR", 3), ("APR", 4), ("MAY", 5), ("JUN", 6), ("JUL", 7),
    ("AUG", 8), ("SEP", 9), ("OCT", 10), ("NOV", 11), ("DEC", 12)].lookup name).getD 0

/-- The place of a number with a fraction among others: texts that write none come
    first, then those that write no value, then the values in order. -/
def compareReals (a b : List Char) : Ordering :=
  let x := readReal a
  let y := readReal b
  let rank := fun (r : RealReading) =>
    if !r.isThere then 0 else match r.value with
      | .nan => 1
      | _ => 2
  match compare (rank x) (rank y) with
  | .eq =>
    if rank x < 2 then .eq
    else if x.value.less y.value then .lt
    else if y.value.less x.value then .gt
    else .eq
  | o => o

def SortRule.counting (o : SortRule) (s : List Char) : List Char :=
  let s := if o.dictionary then
      s.filter fun c => isBlank c || isLower c || isUpper c || isDigitChar c
    else if o.printable then s.filter fun c => 0x20 ≤ c.toNat && c.toNat < 0x7F
    else s
  if o.folds then s.map toCapital else s

/-- A comparison of the texts of a key, without its direction. -/
def SortRule.compareForward (o : SortRule) (a b : List Char) : Ordering :=
  match o.comparison with
  | .text => compareOctets (o.counting a) (o.counting b)
  | .numeric => compareDecimals a b
  | .general => compareReals a b
  | .human =>
    match compare (unitRank a) (unitRank b) with
    | .eq => compareDecimals a b
    | r => r
  | .month => compare (monthNumber a) (monthNumber b)
  | .version => compareVersions a b

/-- A comparison the other way round. -/
def turned (reversed : Bool) (o : Ordering) : Ordering := if reversed then o.swap else o

def compareKeys : List (SortRule × List Char × List Char) → Ordering
  | [] => .eq
  | (o, a, b) :: rest =>
    match turned o.reversed (o.compareForward a b) with
    | .eq => compareKeys rest
    | r => r

/-! ## Reading keys -/

/-- The letters behind a position of a key. -/
def addLetters (start ending : Bool) : List Char → SortRule → SortRule × List Char
  | [], o => (o, [])
  | c :: rest, o =>
    match o.add? start ending c with
    | some o => addLetters start ending rest o
    | none => (o, c :: rest)

/-- The number at the start of a text, and what follows; `what` tells in a complaint
    where it stands. -/
def readCount (quoted : String → String) (what : String) (s : List Char) :
    Except String (Nat × List Char) :=
  let ds := s.takeWhile isDigitChar
  if ds.isEmpty then
    .error ("invalid number " ++ what ++ ": invalid count at start of " ++ quoted (String.ofList s))
  else .ok (decimalValue ds, s.drop ds.length)

def wrongKey {α : Type} (quoted : String → String) (whole what : String) : Except String α :=
  .error (what ++ ": invalid field specification " ++ quoted whole)

def key? (quoted : String → String) (s : String) : Except String Key := do
  let (field, rest) ← readCount quoted "at field start" s.toList
  if field = 0 then wrongKey quoted s "field number is zero"
  let (offset, rest) ← match rest with
    | '.' :: more => readCount quoted "after '.'" more
    | rest => pure (1, rest)
  if offset = 0 then wrongKey quoted s "character offset is zero"
  let (rule, rest) := addLetters true false rest .plain
  match rest with
  | [] => return ⟨field - 1, offset - 1, none, rule⟩
  | ',' :: rest =>
    let (last, rest) ← readCount quoted "after ','" rest
    if last = 0 then wrongKey quoted s "field number is zero"
    let (count, rest) ← match rest with
      | '.' :: more => readCount quoted "after '.'" more
      | rest => pure (0, rest)
    let (rule, rest) := addLetters false true rest rule
    if !rest.isEmpty then wrongKey quoted s "stray character in field spec"
    return ⟨field - 1, offset - 1, some (last - 1, count), rule⟩
  | _ => wrongKey quoted s "stray character in field spec"

/-! ## Sorting -/

/-- What is asked for when lines are sorted. -/
structure SortPlan where
  keys : List Key
  /-- What separates fields, if not blanks. -/
  separator : Option Char
  /-- Greater lines come first where keys are equal. -/
  reversed : Bool
  /-- Lines with equal keys stay in order. -/
  stable : Bool
  /-- Of lines with equal keys only the first one is kept. -/
  unique : Bool

/-- A line with the texts of its keys. -/
structure Keyed where
  line : List Char
  texts : List (List Char)

/-- A comparison of two lines by their keys. -/
def SortPlan.compareKeyed (p : SortPlan) (a b : Keyed) : Ordering :=
  if p.keys.isEmpty then turned p.reversed (compareOctets a.line b.line)
  else
    let pairs := (p.keys.zip (a.texts.zip b.texts)).map fun (k, x, y) => (k.ordering, x, y)
    compareKeys pairs

def SortPlan.compareLines (p : SortPlan) (a b : Keyed) : Ordering :=
  match p.compareKeyed a b with
  | .eq =>
    if p.stable || p.unique || p.keys.isEmpty then .eq
    else turned p.reversed (compareOctets a.line b.line)
  | o => o

def SortPlan.keyed (p : SortPlan) (line : List Char) : Keyed :=
  ⟨line, p.keys.map fun k => k.text p.separator line⟩

def firstOfEqual (same : Keyed → Keyed → Bool) : List Keyed → List Keyed
  | a :: b :: rest =>
    if same a b then firstOfEqual same (a :: rest) else a :: firstOfEqual same (b :: rest)
  | rest => rest
termination_by ls => ls.length

/-- Two rows of lines put together, each time with the line that comes first of those in
    front; `fuel` bounds the lines. -/
def SortPlan.merge (p : SortPlan) : Nat → List Keyed → List Keyed → List Keyed
  | 0, as, bs => as ++ bs
  | _, [], bs => bs
  | _, as, [] => as
  | fuel + 1, a :: as, b :: bs =>
    if p.compareLines a b != .gt then a :: p.merge fuel as (b :: bs)
    else b :: p.merge fuel (a :: as) bs

/-- The lines of some texts in order; texts that are in order already may just be put
    together. -/
def SortPlan.sorted (p : SortPlan) (isMerged : Bool) (texts : List (List (List Char))) :
    List (List Char) :=
  let rows := texts.map fun lines => lines.map p.keyed
  let sorted :=
    if isMerged then rows.foldl (fun all row => p.merge (all.length + row.length) all row) []
    else rows.flatten.mergeSort fun a b => p.compareLines a b != .gt
  let kept := if p.unique then firstOfEqual (fun a b => p.compareKeyed a b == .eq) sorted
    else sorted
  kept.map (·.line)

/-- The number of the first line that stands before one that should not come after
    it, and that line. -/
def SortPlan.disorder? (p : SortPlan) : Nat → List Keyed → Option (Nat × List Char)
  | n, a :: b :: rest =>
    let o := p.compareLines a b
    if o == .gt || (p.unique && o == .eq) then some (n + 1, b.line)
    else p.disorder? (n + 1) (b :: rest)
  | _, _ => none

/-- The letters among the options that say how lines are compared. -/
def globalRule (o : Options) : SortRule :=
  o.given.foldl (fun rule (key, value) =>
    let named := [("ignore-leading-blanks", 'b'), ("dictionary-order", 'd'), ("ignore-case", 'f'),
      ("general-numeric-sort", 'g'), ("human-numeric-sort", 'h'), ("ignore-nonprinting", 'i'),
      ("month-sort", 'M'), ("numeric-sort", 'n'), ("reverse", 'r'), ("version-sort", 'V'),
      ("random-sort", 'R')]
    let sorts := [("general-numeric", 'g'), ("human-numeric", 'h'), ("month", 'M'),
      ("numeric", 'n'), ("random", 'R'), ("version", 'V')]
    let letter := if key = "sort" then sorts.lookup (value.getD "") else named.lookup key
    (letter.bind fun c => rule.add? true true c).getD rule) .plain

def sortOptions : List OptionSpec := [
  flag 'b' "ignore-leading-blanks", flag 'd' "dictionary-order", flag 'f' "ignore-case",
  flag 'g' "general-numeric-sort", flag 'h' "human-numeric-sort", flag 'i' "ignore-nonprinting",
  flag 'M' "month-sort", flag 'n' "numeric-sort", flag 'r' "reverse", flag 'R' "random-sort",
  flag 'V' "version-sort", wordTaking "sort", (some 'c', "check", .perhaps), flag 'C' "",
  taking 'k' "key", flag 'm' "merge", taking 'o' "output", flag 's' "stable",
  taking 'S' "buffer-size", taking 't' "field-separator", taking 'T' "temporary-directory",
  flag 'u' "unique", flag 'z' "zero-terminated", wordTaking "parallel", wordTaking "batch-size",
  wordTaking "files0-from", wordTaking "compress-program", wordTaking "random-source",
  wordFlag "debug"]

def separatorOf (w : World) (o : Options) : Except String (Option Char) :=
  match o.last? "field-separator" with
  | none => .ok none
  | some s =>
    match s.toList with
    | [] => .error "empty tab"
    | [c] => .ok (some c)
    | ['\\', '0'] => .ok (some (Char.ofNat 0))
    | _ => .error ("multi-character tab " ++ quotedWord w s)

def sortPlan (w : World) (o : Options) : Except String SortPlan := do
  let rule := globalRule o
  let keys ← (o.values "key").mapM (key? (quotedWord w))
  let separator ← separatorOf w o
  let keys := keys.map fun k =>
    if k.ordering.isDefault && !k.ordering.reversed then { k with ordering := rule } else k
  let keys := if keys.isEmpty && !rule.isDefault then [⟨0, 0, none, rule⟩] else keys
  match (keys.map (·.ordering) ++ [rule]).findSome? SortRule.clash? with
  | some letters => throw ("options '-" ++ String.ofList letters ++ "' are incompatible")
  | none => pure ()
  return ⟨keys, separator, rule.reversed, o.has "stable", o.has "unique"⟩

/-- Sorts lines, or tells whether they are in order. -/
def sort : Utility := withOptionsOr 2 sortOptions fun name o w =>
  match sortPlan w o with
  | .error e => complainWith 2 name e w
  | .ok p =>
    let ending := if o.has "zero-terminated" then Char.ofNat 0 else '\n'
    let files := filesOr o.args
    let quiet := o.has "C" || ["quiet", "silent"].contains ((o.last? "check").getD "")
    let checks := o.has "check" || o.has "C"
    let step := fun (state : List (List Char) × World) path =>
      let (texts, w) := state
      if !w.isRunning || w.shell.status != 0 then state
      else
        let (content, w) := readSource path w
        match content with
        | .ok s => (texts ++ [s], w)
        | .error .isDirectory =>
          (texts, complainWith 2 name ("read failed: " ++ shellQuotedIfNeeded path
            ++ ": Is a directory") w)
        | .error e =>
          (texts, complainWith 2 name ((if checks then "open failed: " else "cannot read: ")
            ++ shellQuotedIfNeeded path ++ ": " ++ e.wording) w)
    match if checks then files.drop 1 else [] with
    | extra :: _ =>
      complainUsage 2 name ("extra operand " ++ quotedWord w extra
        ++ " not allowed with -" ++ (if quiet then "C" else "c")) w
    | [] =>
      let (texts, w) := files.foldl step ([], w.withStatus 0)
      if w.shell.status != 0 then w
      else
        let lines := texts.flatMap (endedBy ending)
        if checks then
          match p.disorder? 1 (lines.map p.keyed) with
          | none => w
          | some (n, line) =>
            if quiet then w.withStatus 1
            else complain name (files.head?.getD "" ++ ":" ++ Number.natText n ++ ": disorder: "
              ++ String.ofList line) w
        else
          let rows := p.sorted (o.has "merge") (texts.map (endedBy ending))
          let out := String.ofList (rows.flatMap (· ++ [ending]))
          match o.last? "output" with
          | none => w.print out
          | some path =>
            match w.openFile false false path with
            | .error e =>
              complainWith 2 name ("open failed: " ++ shellQuotedIfNeeded path ++ ": " ++ e.wording) w
            | .ok (channel, w) =>
              let old := w.channel? 1
              ((w.setChannel 1 channel).print out).restoreChannel 1 old

/-! ## Repeated lines -/

def comparedPart (fields chars : Nat) (most : Option Nat) (ignoresCase : Bool) (line : List Char) :
    List Char :=
  let rest := (afterFields none fields line).drop chars
  let part := match most with
    | some n => rest.take n
    | none => rest
  if ignoresCase then part.map toCapital else part

/-- Neighbours whose compared parts are equal, put together. -/
def groupsBy (part : List Char → List Char) (lines : List (List Char)) : List (List (List Char)) :=
  lines.foldr (fun line groups =>
    match groups with
    | (next :: same) :: rest =>
      if part line == part next then (line :: next :: same) :: rest else [line] :: groups
    | _ => [line] :: groups) []

/-- The lines of groups that are shown when all repeated ones are asked for, with
    empty lines between groups if wanted. -/
def repeatedLines (how : String) (groups : List (List (List Char))) : List (List Char) :=
  let many := groups.filter fun g => 1 < g.length
  many.zipIdx.flatMap fun (g, i) =>
    if how = "prepend" || (how = "separate" && i != 0) then [] :: g else g

def groupedLines (how : String) (groups : List (List (List Char))) : List (List Char) :=
  let all := groups.zipIdx.flatMap fun (g, i) =>
    (if how = "prepend" || how = "both" || i != 0 then [[]] else []) ++ g
  if (how = "append" || how = "both") && !groups.isEmpty then all ++ [[]] else all

/-- The old ways to write how many fields and characters are skipped. -/
def oldSkips (args : List String) : List String :=
  args.map fun a =>
    match a.toList with
    | '-' :: c :: cs => if isDigitChar c then String.ofList ('-' :: 'f' :: c :: cs) else a
    | '+' :: c :: cs =>
      if (c :: cs).all isDigitChar then String.ofList ('-' :: 's' :: c :: cs) else a
    | _ => a

/-- Drops repeated lines, counts them, or shows only some. -/
def uniq : Utility := fun name args w =>
  withOptions [flag 'c' "count", flag 'd' "repeated", flag 'D' "", (none, "all-repeated", .perhaps),
    (none, "group", .perhaps), taking 'f' "skip-fields", flag 'i' "ignore-case",
    taking 's' "skip-chars", flag 'u' "unique", taking 'w' "check-chars",
    flag 'z' "zero-terminated"] (fun name o w =>
    let number := fun key (what : String) =>
      match o.last? key with
      | none => Except.ok none
      | some s =>
        match plainCount? s with
        | some n => .ok (some n)
        | none => .error (s ++ ": invalid number of " ++ what)
    match number "skip-fields" "fields to skip", number "skip-chars" "bytes to skip",
        number "check-chars" "bytes to compare" with
    | .error e, _, _ => complain name e w
    | _, .error e, _ => complain name e w
    | _, _, .error e => complain name e w
    | .ok fields, .ok chars, .ok most =>
      let all := o.has "D" || o.has "all-repeated"
      let wrongWay := fun (key : String) (known : List String) =>
        (o.last? key).bind fun v =>
          if known.any fun k => startsWith k v then none
          else some (wrongChoice w key v (known.map fun k => [k]))
      let fault := (wrongWay "group" ["prepend", "append", "separate", "both"]).or
        ((wrongWay "all-repeated" ["none", "prepend", "separate"]).or
        (if o.has "group" && (o.has "count" || o.has "repeated" || o.has "unique" || all) then
          some "--group is mutually exclusive with -c/-d/-D/-u"
        else if all && o.has "count" then
          some "printing all duplicated lines and repeat counts is meaningless"
        else none))
      match o.args.drop 2, fault with
      | extra :: _, _ => complainExtra name extra w
      | [], some message => complainUsage 1 name message w
      | [], none =>
        let input := o.args.head?.getD "-"
        let (content, w) := readSource input (w.withStatus 0)
        match content with
        | .error .isDirectory =>
          complain name ("error reading " ++ shellQuoted input ++ ": Is a directory") w
        | .error e => complainFile name input e w
        | .ok s =>
          let ending := if o.has "zero-terminated" then Char.ofNat 0 else '\n'
          let groups := groupsBy (comparedPart (fields.getD 0) (chars.getD 0) most
            (o.has "ignore-case")) (endedBy ending s)
          let lines :=
            if o.has "group" then groupedLines ((o.last? "group").getD "separate") groups
            else if all then repeatedLines ((o.last? "all-repeated").getD "none") groups
            else groups.filterMap fun g =>
              let isShown := if o.has "repeated" then 1 < g.length && !o.has "unique"
                else if o.has "unique" then g.length == 1 else true
              if !isShown then none
              else g.head?.map fun line =>
                if o.has "count" then padLeft 7 (digits g.length) ++ ' ' :: line else line
          let out := String.ofList (lines.flatMap (· ++ [ending]))
          match (o.args.drop 1).head? with
          | none => w.print out
          | some "-" => w.print out
          | some path =>
            match w.openFile false false path with
            | .error e => complainFile name path e w
            | .ok (channel, w) =>
              let old := w.channel? 1
              ((w.setChannel 1 channel).print out).restoreChannel 1 old)
    name (oldSkips args) w

/-! ## Joined lines -/

/-- A field of the output of a join: the common one, or one of a file. -/
inductive JoinField where
  /-- The one by which lines are joined. -/
  | key
  /-- A field of the first or the second file, counted from zero. -/
  | field (second : Bool) (n : Nat)

/-- How two files are joined. -/
structure JoinPlan where
  /-- The field of the first file that is compared, counted from zero. -/
  first : Nat
  /-- The field of the second file. -/
  second : Nat
  /-- What separates fields, if not blanks. -/
  separator : Option Char
  /-- What stands for fields that are not there. -/
  filler : List Char
  shown : Option (List JoinField)
  /-- Letters of both cases are the same. -/
  ignoresCase : Bool
  /-- Lines that have no partner are shown, for each file. -/
  unpaired : Bool × Bool
  /-- Lines that have one are shown. -/
  paired : Bool

def JoinPlan.split (p : JoinPlan) (line : List Char) : List (List Char) :=
  match p.separator with
  | some c => cutAt c line
  | none => ((cutAt ' ' (line.map fun c => if isBlank c then ' ' else c)).filter (!·.isEmpty))

def JoinPlan.keyOf (p : JoinPlan) (n : Nat) (fields : List (List Char)) : List Char :=
  let key := (fields[n]?).getD []
  if p.ignoresCase then key.map toCapital else key

/-- A row of the output, made of the fields of both files. -/
def JoinPlan.row (p : JoinPlan) (a b : Option (List (List Char))) : List Char :=
  let fill := fun (f : Option (List Char)) =>
    let f := f.getD []
    if f.isEmpty then p.filler else f
  let x := a.getD []
  let y := b.getD []
  let key := if a.isSome then x[p.first]? else y[p.second]?
  let others := fun (n : Nat) (fields : List (List Char)) => fields.eraseIdx n
  let cells := match p.shown with
    | some fields => fields.map fun
      | .key => fill key
      | .field second n => fill (if second then y[n]? else x[n]?)
    | none =>
      fill key :: ((if a.isSome then others p.first x else []) ++
        (if b.isSome then others p.second y else [])).map fun f => fill (some f)
  [p.separator.getD ' '].intercalate cells

/-- A line of a file that is joined: its number, its text and its fields. -/
structure JoinLine where
  number : Nat
  line : List Char
  fields : List (List Char)

/-- A walk through two files that are joined. -/
structure JoinWalk where
  rows : List (List Char)
  /-- A line has been met that has no partner. -/
  isUneven : Bool
  /-- The first line of each file that is found out of order, the last one found first;
      the second file is marked. -/
  unsorted : List (Bool × JoinLine)
  /-- The walk has been given up. -/
  isOver : Bool

/-- The field by which a line of one of the files is compared. -/
def JoinPlan.keyIn (p : JoinPlan) (second : Bool) (l : JoinLine) : List Char :=
  p.keyOf (if second then p.second else p.first) l.fields

/-- Compares a line with the one before it: at once if the order is asked for, otherwise
    as soon as a line has been met that has no partner. -/
def JoinPlan.check (p : JoinPlan) (isStrict second : Bool) (before : JoinLine) (k : JoinWalk) :
    List JoinLine → JoinWalk
  | next :: _ =>
    if (isStrict || k.isUneven) && !(k.unsorted.any fun (s, _) => s == second)
        && compareOctets (p.keyIn second before) (p.keyIn second next) == .gt then
      { k with unsorted := (second, next) :: k.unsorted, isOver := isStrict }
    else k
  | [] => k

def JoinPlan.alone (p : JoinPlan) (second : Bool) (l : JoinLine) (k : JoinWalk) : JoinWalk :=
  if second then
    if p.unpaired.2 then { k with rows := p.row none (some l.fields) :: k.rows } else k
  else if p.unpaired.1 then { k with rows := p.row (some l.fields) none :: k.rows } else k

/-- Goes through two files in order; `fuel` bounds the lines. -/
def JoinPlan.walk (p : JoinPlan) (isStrict : Bool) :
    Nat → JoinWalk → List JoinLine → List JoinLine → JoinWalk
  | 0, k, _, _ => k
  | fuel + 1, k, a, b =>
    if k.isOver then k
    else match a, b with
      | [], [] => k
      | x :: a, [] => p.walk isStrict fuel (p.check isStrict false x (p.alone false x k) a) a []
      | [], y :: b => p.walk isStrict fuel (p.check isStrict true y (p.alone true y k) b) [] b
      | x :: as, y :: bs =>
        let uneven := fun (k : JoinWalk) => { k with isUneven := true }
        match compareOctets (p.keyIn false x) (p.keyIn true y) with
        | .lt =>
          p.walk isStrict fuel (uneven (p.check isStrict false x (p.alone false x k) as)) as (y :: bs)
        | .gt =>
          p.walk isStrict fuel (uneven (p.check isStrict true y (p.alone true y k) bs)) (x :: as) bs
        | .eq =>
          let key := p.keyIn false x
          let left := (x :: as).takeWhile fun l => p.keyIn false l == key
          let right := (y :: bs).takeWhile fun l => p.keyIn true l == key
          let pairs := if p.paired then
              left.flatMap fun l => right.map fun r => p.row (some l.fields) (some r.fields)
            else []
          let restA := (x :: as).drop left.length
          let restB := (y :: bs).drop right.length
          let k := p.check isStrict false (left.getLastD x) k restA
          if k.isOver then k
          else
            let k := p.check isStrict true (right.getLastD y) k restB
            if k.isOver then k
            else p.walk isStrict fuel { k with rows := pairs.reverse ++ k.rows } restA restB

def JoinPlan.lines (p : JoinPlan) (text : List Char) : List JoinLine :=
  (plainLines text).zipIdx.map fun (line, i) => ⟨i + 1, line, p.split line⟩

def joinField? (s : List Char) : Option JoinField :=
  match s with
  | ['0'] => some .key
  | '1' :: '.' :: ds => (plainCount? (String.ofList ds)).map fun n => .field false (n - 1)
  | '2' :: '.' :: ds => (plainCount? (String.ofList ds)).map fun n => .field true (n - 1)
  | _ => none

/-- Joins two files; the options tell how, `number` the fields that are compared, `only`
    and `also` the files whose lines are shown without a partner, and `list` the fields
    that are shown. -/
def joinFiles (name : String) (o : Options) (number : String → Option Nat)
    (only also : List String) (list : List JoinField) (a b : String) (w : World) : World :=
  let p : JoinPlan :=
    { first := (number "1").getD 1 - 1
      second := (number "2").getD 1 - 1
      separator := (o.last? "t").bind fun t =>
        if t = "\\0" then some (Char.ofNat 0) else t.toList.head?
      filler := ((o.last? "e").getD "").toList
      shown := if list.isEmpty then none else some list
      ignoresCase := o.has "ignore-case"
      unpaired := (also.contains "1", also.contains "2")
      paired := only.isEmpty }
  let (x, w) := readSource a (w.withStatus 0)
  let (y, w) := readSource b w
  match x, y with
  | .error e, _ => complainFile name a e w
  | _, .error e => complainFile name b e w
  | .ok x, .ok y =>
    let (x, y) := (p.lines x, p.lines y)
    let (top, x, y) := if o.has "header" then
        ((match x, y with
          | r :: _, s :: _ => [p.row (some r.fields) (some s.fields)]
          | _, _ => []), x.drop 1, y.drop 1)
      else ([], x, y)
    let isStrict := o.has "check-order"
    let k := p.walk isStrict (x.length + y.length + 1) ⟨[], false, [], false⟩ x y
    let w := putLines (top ++ k.rows.reverse) w
    if o.has "nocheck-order" || k.unsorted.isEmpty then w
    else
      let w := k.unsorted.reverse.foldl (fun w (second, l) =>
        complain name ((if second then b else a) ++ ":" ++ Number.natText l.number
          ++ ": is not sorted: " ++ String.ofList l.line) w) w
      if k.isOver then w else complain name "input is not in sorted order" w

/-- Joins the lines of two sorted files that have a field in common. -/
def join : Utility := withOptions
  [taking '1' "", taking '2' "", taking 'a' "", taking 'e' "", flag 'i' "ignore-case", taking 'j' "",
    taking 'o' "", taking 't' "", taking 'v' "", wordFlag "check-order", wordFlag "nocheck-order",
    wordFlag "header", flag 'z' "zero-terminated"]
  fun name o w =>
    match o.args with
    | [] => complainUsage 1 name "missing operand" w
    | [a] => complainUsage 1 name ("missing operand after " ++ quotedWord w a) w
    | _ :: _ :: extra :: _ => complainExtra name extra w
    | [a, b] =>
      let number := fun key => ((o.last? key).or (o.last? "j")).bind plainCount?
      let only := o.values "v"
      let also := o.values "a" ++ only
      let names := (o.values "o").flatMap fun s =>
        (cutAt ',' (s.toList.map fun c => if isBlank c then ',' else c)).filter (!·.isEmpty)
      let isAuto := names == ["auto".toList]
      let wrongField := fun (s : String) => if (plainCount? s).any (0 < ·) then none else some s
      let faults := (o.values "1" ++ o.values "2" ++ o.values "j").filterMap wrongField
        ++ also.filter (fun s => s != "1" && s != "2")
      let wrongName := names.find? fun s => !isAuto && (joinField? s).isNone
      match faults, wrongName, o.last? "t" with
      | fault :: _, _, _ => complain name ("invalid field number: " ++ quotedWord w fault) w
      | [], some s, _ =>
        match s with
        | c :: '.' :: rest =>
          if c = '1' || c = '2' then
            complain name ("invalid field number: " ++ quotedWord w (String.ofList rest)) w
          else if c = '0' then
            complain name ("invalid field specifier: " ++ quotedWord w (String.ofList s)) w
          else complain name ("invalid file number in field spec: "
            ++ quotedWord w (String.ofList s)) w
        | _ => complain name ((if s.head? == some '1' || s.head? == some '2' then "invalid field specifier: " else "invalid file number in field spec: ")
            ++ quotedWord w (String.ofList s)) w
      | [], none, some tab =>
        if 1 < tab.length && tab != "\\0" then
          complain name ("multi-character tab " ++ quotedWord w tab) w
        else joinFiles name o number only also (names.filterMap joinField?) a b w
      | [], none, none => joinFiles name o number only also (names.filterMap joinField?) a b w

end SourceCheck.Utility
