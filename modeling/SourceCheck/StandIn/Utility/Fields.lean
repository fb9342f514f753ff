import SourceCheck.Number.Reading
import SourceCheck.StandIn.Utility.Content

/-! # Fields of lines

    Utilities that take lines apart and put them together: by position, by fields,
    side by side, or by what two files have in common.
-/

namespace SourceCheck.Utility

open SourceCheck SourceCheck.Text SourceCheck.Shell

/-! ## Cutting -/

/-- Positions from one to another, or from one on. -/
structure Span where
  low : Nat
  high : Option Nat
  deriving Repr

def Span.holds (s : Span) (n : Nat) : Bool := s.low ≤ n && s.high.all (n ≤ ·)

/-- What is wrong with a list of positions. -/
inductive SpanFault where
  | zero
  /-- A span ends before it starts. -/
  | decreasing
  | endless
  /-- A span has more than two ends. -/
  | crowded
  /-- The rest of the list is no position. -/
  | invalid (s : String)

/-- The position that digits write; none stand for nothing. -/
def position? (ds : List Char) : Option Nat := if ds.isEmpty then none else some (digitsValue ds)

/-- The span with two ends, where each may be left out. -/
def spanBetween (low high : Option Nat) : Except SpanFault Span :=
  match low, high with
  | none, none => .error .endless
  | some 0, _ => .error .zero
  | low, high =>
    let l := low.getD 1
    if high.any (· < l) then .error .decreasing else .ok ⟨l, high⟩

/-- The spans that a text writes, separated by commas or blanks; `fuel` bounds their
    number. -/
def readSpans : Nat → List Char → Except SpanFault (List Span)
  | 0, _ => .ok []
  | fuel + 1, s =>
    let isNext := fun (rest : List Char) => rest.head?.all fun c => c == ',' || isBlank c
    let low := s.takeWhile isDigitChar
    let step := fun (span : Except SpanFault Span) (rest : List Char) => do
      let here ← span
      if rest.isEmpty then return [here]
      let more ← readSpans fuel (rest.drop 1)
      return here :: more
    match s.drop low.length with
    | '-' :: rest =>
      let high := rest.takeWhile isDigitChar
      let rest := rest.drop high.length
      if isNext rest then step (spanBetween (position? low) (position? high)) rest
      else if rest.head? == some '-' then .error .crowded
      else .error (.invalid (String.ofList rest))
    | rest =>
      if isNext rest then
        step (match position? low with
          | none | some 0 => .error .zero
          | some n => .ok ⟨n, some n⟩) rest
      else .error (.invalid (String.ofList rest))

def spans? (s : String) : Except SpanFault (List Span) := readSpans (s.length + 1) s.toList

/-- Spans in order, those that overlap put together. -/
def mergedSpans (spans : List Span) : List Span :=
  let sorted := spans.mergeSort fun a b => a.low ≤ b.low
  (sorted.foldl (fun (done : List Span) s =>
    match done with
    | [] => [s]
    | t :: rest =>
      if t.high.all (s.low ≤ ·) then
        let high := match t.high, s.high with
          | some a, some b => some (max a b)
          | _, _ => none
        ⟨t.low, high⟩ :: rest
      else s :: done) []).reverse

def complementOf (spans : List Span) : List Span :=
  go 1 spans
where
  go (start : Nat) : List Span → List Span
    | [] => [⟨start, none⟩]
    | s :: rest =>
      let before : List Span := if start < s.low then [⟨start, some (s.low - 1)⟩] else []
      match s.high with
      | none => before
      | some h => before ++ go (h + 1) rest

/-- The characters of a line at some positions; a text stands between those of
    different spans. -/
def cutPositions (spans : List Span) (between : List Char) (line : List Char) : List Char :=
  let pieces := spans.filterMap fun s =>
    let piece := (line.drop (s.low - 1)).take (match s.high with
      | some h => h + 1 - s.low
      | none => line.length)
    if piece.isEmpty then none else some piece
  between.intercalate pieces

/-- The fields of a line at some positions.  A line without separators is shown
    whole, or not at all. -/
def cutFields (spans : List Span) (separator : Char) (between : List Char) (onlyCut : Bool)
    (line : List Char) : Option (List Char) :=
  let fields := cutAt separator line
  if fields.length ≤ 1 then if onlyCut then none else some line
  else
    let chosen := fields.zipIdx.filterMap fun (f, i) =>
      if spans.any (·.holds (i + 1)) then some f else none
    some (between.intercalate chosen)

/-- What a list of positions is a list of. -/
def spanFaultText (w : World) (byField : Bool) : SpanFault → String
  | .zero => if byField then "fields are numbered from 1"
    else "byte/character positions are numbered from 1"
  | .decreasing => "invalid decreasing range"
  | .endless => "invalid range with no endpoint: -"
  | .crowded => if byField then "invalid field range" else "invalid byte or character range"
  | .invalid s =>
    (if byField then "invalid field value " else "invalid byte/character position ")
      ++ quotedWord w s

/-- Writes parts of lines. -/
def cut : Utility := withOptions
  [taking 'b' "bytes", taking 'c' "characters", taking 'd' "delimiter", taking 'f' "fields",
    flag 'n' "", flag 's' "only-delimited", wordFlag "complement", wordTaking "output-delimiter",
    flag 'z' "zero-terminated"]
  fun name o w =>
    let lists := o.given.filter fun (k, _) => k == "bytes" || k == "characters" || k == "fields"
    let byField := o.has "fields"
    let delimiter := o.last? "delimiter"
    match lists with
    | [] => complainUsage 1 name "you must specify a list of bytes, characters, or fields" w
    | _ :: _ :: _ => complainUsage 1 name "only one list may be specified" w
    | [(_, list)] =>
      -- the checks come in this order, and the first that fails is told
      if delimiter.any fun d => 1 < d.length then
        complainUsage 1 name "the delimiter must be a single character" w
      else if !byField && delimiter.isSome then
        complainUsage 1 name
          "an input delimiter may be specified only when operating on fields" w
      else if !byField && o.has "only-delimited" then
        complainUsage 1 name
          "suppressing non-delimited lines makes sense\n\tonly when operating on fields" w
      else match spans? (list.getD "") with
        | .error e => complainUsage 1 name (spanFaultText w byField e) w
        | .ok spans =>
          let spans := mergedSpans spans
          let spans := if o.has "complement" then complementOf spans else spans
          let separator := (delimiter.bind fun d => d.toList.head?).getD
            (if delimiter.isSome then Char.ofNat 0 else '\t')
          let ending := if o.has "zero-terminated" then Char.ofNat 0 else '\n'
          forEachOr (complainFile name) (fun _ s w =>
            putAll ((endedBy ending s).filterMap fun line =>
              (if byField then
                let between := ((o.last? "output-delimiter").map String.toList).getD [separator]
                cutFields spans separator between (o.has "only-delimited") line
              else
                some (cutPositions spans (((o.last? "output-delimiter").getD "").toList) line)).map
                  (· ++ [ending])) w) (filesOr o.args) (w.withStatus 0)

/-! ## Side by side -/

/-- The characters between lines that stand side by side; nothing for an empty
    one. -/
def pasteMarks : List Char → List (Option Char)
  | [] => []
  | '\\' :: c :: rest =>
    (if c = '0' then none
      else some (if c = 'n' then '\n' else if c = 't' then '\t' else if c = 'b' then Char.ofNat 8
        else if c = 'f' then Char.ofNat 12 else if c = 'r' then '\r'
        else if c = 'v' then Char.ofNat 11 else c)) :: pasteMarks rest
  | c :: rest => some c :: pasteMarks rest

/-- Texts with marks between them, which are used again and again. -/
def joinMarked (marks : List (Option Char)) (texts : List (List Char)) : List Char :=
  (texts.zipIdx.map fun (t, i) =>
    if i = 0 then t
    else ((marks[(i - 1) % max 1 marks.length]?).getD none).toList ++ t).flatten

/-- Rows made of one line of each file, as long as one has lines. -/
def rowsOf : Nat → List (List (List Char)) → List (List (List Char))
  | 0, _ => []
  | fuel + 1, files =>
    if files.all List.isEmpty then []
    else (files.map fun lines => lines.head?.getD []) :: rowsOf fuel (files.map (·.drop 1))

/-- Lines of the standard input, dealt out in turn to the places it has among some
    files. -/
def dealLines (files : List (String × List (List Char))) : List (List (List Char)) :=
  let inputs := files.filter (·.1 == "-")
  let share := inputs.length
  let lines := (inputs.head?.map (·.2)).getD []
  (files.foldl (fun (state : Nat × List (List (List Char))) (path, own) =>
    let (k, done) := state
    if path = "-" then
      (k + 1, done ++ [lines.zipIdx.filterMap fun (l, i) =>
        if i % max 1 share = k then some l else none])
    else (k, done ++ [own])) (0, [])).2

/-- Writes lines of several files side by side, or the lines of each file in one
    line. -/
def paste : Utility := withOptions
  [taking 'd' "delimiters", flag 's' "serial", flag 'z' "zero-terminated"]
  fun name o w =>
    let marks := pasteMarks ((o.last? "delimiters").getD "\t").toList
    let ending := if o.has "zero-terminated" then Char.ofNat 0 else '\n'
    let files := filesOr o.args
    if o.has "serial" then
      forEachOr (complainFile name) (fun _ s w =>
        put (joinMarked marks (endedBy ending s) ++ [ending]) w) files (w.withStatus 0)
    else
      let step := fun (state : List (String × List (List Char)) × World) path =>
        let (done, w) := state
        if path = "-" && done.any (·.1 == "-") then (done ++ [("-", [])], w)
        else
          let (content, w) := readSource path w
          match content with
          | .ok s => (done ++ [(path, endedBy ending s)], w)
          | .error e => (done, complainFile name path e w)
      let (read, w) := files.foldl step ([], w.withStatus 0)
      if w.shell.status != 0 then w
      else
        let columns := dealLines read
        let most := (read.map fun r => r.2.length).foldl max 0
        let rows := rowsOf (most + 1) columns
        putAll (rows.map fun row => joinMarked marks row ++ [ending]) w

/-! ## Common lines -/

/-- A walk through two sorted files. -/
structure CommonWalk where
  /-- Where each line stands, and the line, the last one first. -/
  rows : List (Nat × List Char)
  /-- A line has been met that only one file has. -/
  isUneven : Bool
  /-- The files that are not in order, the last one found first. -/
  unsorted : List Nat
  /-- The walk has been given up. -/
  isOver : Bool

/-- Compares a line of a file with the one before it: at once if the order is asked for,
    otherwise as soon as a line has been met that only one file has. -/
def CommonWalk.check (k : CommonWalk) (isStrict : Bool) (file : Nat) :
    List (List Char) → CommonWalk
  | next :: before :: _ =>
    if (isStrict || k.isUneven) && !k.unsorted.contains file && !inOrder before next then
      { k with unsorted := file :: k.unsorted, isOver := isStrict }
    else k
  | _ => k

/-- Goes through two files; in front of the lines that are left of each stand those that
    were read, the last one first.  `fuel` bounds the lines. -/
def commonWalk (isStrict : Bool) :
    Nat → CommonWalk → List (List Char) × List (List Char) → List (List Char) × List (List Char) →
      CommonWalk
  | 0, k, _, _ => k
  | fuel + 1, k, (readA, a), (readB, b) =>
    let order : Option Ordering := match a, b with
      | [], [] => none
      | _ :: _, [] => some .lt
      | [], _ :: _ => some .gt
      | x :: _, y :: _ => some (if x = y then .eq else if inOrder x y then .lt else .gt)
    let step := fun (file : Nat) (k : CommonWalk) (read rest : List (List Char)) =>
      match rest with
      | line :: next :: more => (k.check isStrict file (next :: line :: read), (line :: read, next :: more))
      | line :: [] => (k.check isStrict file (line :: read), (line :: read, []))
      | [] => (k, (read, []))
    if k.isOver then k
    else match order, a, b with
      -- lines that are equal are taken from both files at once
      | some .eq, line :: _, _ =>
        let k := { k with rows := (3, line) :: k.rows }
        let (k, a) := step 1 k readA a
        if k.isOver then k
        else
          let (k, b) := step 2 k readB b
          commonWalk isStrict fuel k a b
      | some .lt, line :: _, _ =>
        let (k, a) := step 1 { k with rows := (1, line) :: k.rows, isUneven := true } readA a
        commonWalk isStrict fuel k a (readB, b)
      | some .gt, _, line :: _ =>
        let (k, b) := step 2 { k with rows := (2, line) :: k.rows, isUneven := true } readB b
        commonWalk isStrict fuel k (readA, a) b
      | _, _, _ => k

/-- Writes the lines of two sorted files in columns: those of the first only, those
    of the second only, and those of both. -/
def comm : Utility := withOptions
  [flag '1' "", flag '2' "", flag '3' "", wordFlag "check-order", wordFlag "nocheck-order",
    wordTaking "output-delimiter", wordFlag "total", flag 'z' "zero-terminated"]
  fun name o w =>
    match o.args with
    | [] => complainUsage 1 name "missing operand" w
    | [a] => complainUsage 1 name ("missing operand after " ++ quotedWord w a) w
    | _ :: _ :: extra :: _ => complainExtra name extra w
    | [a, b] =>
      let (x, w) := readSource a (w.withStatus 0)
      let (y, w) := readSource b w
      match x, y with
      | .error e, _ => complainFile name a e w
      | _, .error e => complainFile name b e w
      | .ok x, .ok y =>
        let ending := if o.has "zero-terminated" then Char.ofNat 0 else '\n'
        let (x, y) := (endedBy ending x, endedBy ending y)
        let mark := ((o.last? "output-delimiter").getD "\t").toList
        let isStrict := o.has "check-order"
        let walk := commonWalk isStrict (x.length + y.length + 1) ⟨[], false, [], false⟩ ([], x) ([], y)
        let rows := walk.rows.reverse
        let isShown := fun (k : Nat) => !o.has (Number.natText k)
        let lines := rows.filterMap fun (k, line) =>
          if !isShown k then none
          else
            let before := (if k = 2 ∨ k = 3 then if isShown 1 then mark else [] else [])
              ++ (if k = 3 then if isShown 2 then mark else [] else [])
            some (before ++ line ++ [ending])
        let w := putAll lines w
        -- a complaint about the order waits until the lines are written
        let unsorted := if o.has "nocheck-order" then [] else walk.unsorted.reverse
        let w := unsorted.foldl (fun w file =>
          complain name ("file " ++ Number.natText file ++ " is not in sorted order") w) w
        if walk.isOver then w
        else
          let w := if o.has "total" then
              let count := fun k => digits (rows.countP (·.1 == k))
              put (count 1 ++ mark ++ count 2 ++ mark ++ count 3 ++ mark ++ "total".toList
                ++ [ending]) w
            else w
          if unsorted.isEmpty then w else complain name "input is not in sorted order" w

end SourceCheck.Utility
