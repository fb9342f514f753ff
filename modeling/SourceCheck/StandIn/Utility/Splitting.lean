import SourceCheck.Number.Reading
import SourceCheck.StandIn.Utility.Files

/-! # Pieces of files

    A file is cut into pieces of lines or of octets, each of which becomes a file of its
    own; or blocks of it are copied and counted.
-/

namespace SourceCheck.Utility

open SourceCheck SourceCheck.Shell SourceCheck.Text

namespace Splitting

/-! ## Pieces -/

/-- Groups of a row, each of at most so many items; `fuel` bounds them. -/
def chunks {α : Type} (size : Nat) : Nat → List α → List (List α)
  | 0, _ => []
  | fuel + 1, items =>
    if items.isEmpty then []
    else items.take size :: chunks size fuel (items.drop size)

/-- Pieces of at most so many octets, each of whole lines where lines are not longer;
    `piece` is what the next one has already. -/
def lineChunks (size : Nat) : Nat → List Char → List (List Char) → List (List Char)
  | 0, _, _ => []
  | _, piece, [] => if piece.isEmpty then [] else [piece]
  | fuel + 1, piece, line :: rest =>
    if piece.length + line.length ≤ size then lineChunks size fuel (piece ++ line) rest
    else if !piece.isEmpty then piece :: lineChunks size fuel [] (line :: rest)
    else line.take size :: lineChunks size fuel [] (line.drop size :: rest)

/-- So many pieces of the same size; what is left over goes to the last one. -/
def evenChunks (count : Nat) (s : List Char) : List (List Char) :=
  let size := max 1 (s.length / count)
  (List.range count).map fun i =>
    let rest := s.drop (i * size)
    if i + 1 = count then rest else rest.take size

/-- So many pieces of whole lines: a line belongs to the piece in which it starts. -/
def evenLines (count : Nat) (s : List Char) : List (List Char) :=
  let size := max 1 (s.length / count)
  let starts := (fullLines s).foldl (fun (state : Nat × List (Nat × List Char)) line =>
    (state.1 + line.length, (state.1, line) :: state.2)) (0, [])
  let lines := starts.2.reverse
  (List.range count).map fun i =>
    (lines.filter fun (start, _) => min (start / size) (count - 1) == i).flatMap (·.2)

/-- So many pieces, to which lines are dealt in turn. -/
def dealtLines (count : Nat) (s : List Char) : List (List Char) :=
  let lines := (fullLines s).zipIdx
  (List.range count).map fun i => (lines.filter fun (_, n) => n % count == i).flatMap (·.1)

/-! ## Names -/

def letters (base : Nat) : List Char :=
  if base = 26 then "abcdefghijklmnopqrstuvwxyz".toList else "0123456789abcdef".toList.take base

/-- A number in digits of some base, with so many of them. -/
def suffix (base : Nat) : Nat → Nat → List Char
  | 0, _ => []
  | width + 1, n => suffix base width (n / base) ++ [((letters base)[n % base]?).getD 'a']

/-- The ending of the piece of a number, if names can get longer: with each digit that is
    the last one in front there are two digits more. -/
def growing (base : Nat) : Nat → Nat → Nat → List Char
  | 0, width, n => suffix base width n
  | fuel + 1, width, n =>
    let here := (base - 1) * Nat.pow base (width - 1)
    if n < here then suffix base width n
    else ((letters base)[base - 1]?).getD 'z' :: growing base fuel (width + 1) (n - here)

/-- How pieces are named. -/
structure Naming where
  front : String
  /-- What stands behind. -/
  back : String
  base : Nat
  /-- The number of the first piece. -/
  first : Nat
  /-- How many digits there are, if that is fixed. -/
  width : Option Nat

def Naming.name? (k : Naming) (i : Nat) : Option String :=
  let n := i + k.first
  let digits? := match k.width with
    | some width => if n < Nat.pow k.base width then some (suffix k.base width n) else none
    | none => some (growing k.base 20 2 n)
  digits?.map fun ds => k.front ++ String.ofList ds ++ k.back

def writeFile (path : String) (s : List Char) (w : World) : Except SystemError World :=
  (w.openFile false false path).map fun (channel, w) =>
    let old := w.channel? 1
    (put s (w.setChannel 1 channel)).restoreChannel 1 old

/-- Pieces are written, each to a file of its own. -/
def writePieces (name : String) (isShown : Bool) (k : Naming) : Nat → List (List Char) → World → World
  | _, [], w => w
  | i, piece :: rest, w =>
    match k.name? i with
    | none => complain name "output file suffixes exhausted" w
    | some path =>
      let w := if isShown then w.print ("creating file " ++ shellWord path ++ "\n") else w
      match writeFile path piece w with
      | .error e => complain name (shellQuotedIfNeeded path ++ ": " ++ e.wording) w
      | .ok w => writePieces name isShown k (i + 1) rest w

/-! ## Asking for pieces -/

/-- Which pieces are asked for. -/
inductive Cutting where
  | lines (n : Nat)
  | octets (n : Nat)
  /-- Of at most so many octets, in whole lines. -/
  | wholeLines (n : Nat)
  /-- So many, made by a rule; only one of them is written if its number is given. -/
  | count (n : Nat) (cut : Nat → List Char → List (List Char)) (only : Option Nat)

def Cutting.pieces (k : Cutting) (s : List Char) : List (List Char) :=
  match k with
  | .lines n => (chunks n (s.length + 1) (fullLines s)).map (·.flatten)
  | .octets n => chunks n (s.length + 1) s
  | .wholeLines n => lineChunks n (2 * s.length + 2) [] (fullLines s)
  | .count n cut only =>
    let all := cut n s
    match only with
    | some i => [(all[i - 1]?).getD []]
    | none => all

def readCount (s : String) : Option Cutting :=
  let (cut, rest) : (Nat → List Char → List (List Char)) × List Char := match s.toList with
    | 'l' :: '/' :: rest => (evenLines, rest)
    | 'r' :: '/' :: rest => (dealtLines, rest)
    | rest => (evenChunks, rest)
  let numbers := (rest.splitOnP (· == '/')).map fun ds => plainCount? (String.ofList ds)
  match numbers with
  | [some n] => if n = 0 then none else some (.count n cut none)
  | [some i, some n] => if n = 0 || i = 0 || n < i then none else some (.count n cut (some i))
  | _ => none

/-- The pieces that options ask for, or what is wrong with them. -/
def cuttingOf (w : World) (o : Options) : Except String Cutting :=
  let sized := fun (key what : String) (make : Nat → Cutting) =>
    let s := (o.last? key).getD ""
    match countWithUnit? s.toList with
    | some n => if n = 0 then .error ("invalid number of " ++ what ++ ": " ++ quotedWord w s)
        else .ok (make n)
    | none => .error ("invalid number of " ++ what ++ ": " ++ quotedWord w s)
  match o.given.filter fun (k, _) => ["lines", "bytes", "line-bytes", "number"].contains k with
  | [] => .ok (.lines 1000)
  | [("lines", _)] => sized "lines" "lines" .lines
  | [("bytes", _)] => sized "bytes" "bytes" .octets
  | [("line-bytes", _)] => sized "line-bytes" "lines" .wholeLines
  | [(_, s?)] =>
    match readCount (s?.getD "") with
    | some k => .ok k
    | none => .error ("invalid number of chunks: " ++ quotedWord w (s?.getD ""))
  | _ => .error "cannot split in more than one way"

end Splitting

/-- Cuts a file into pieces. -/
def split : Utility := fun name args w =>
  let args := args.map fun a =>
    match a.toList with
    | '-' :: c :: cs => if (c :: cs).all isDigitChar then String.ofList ('-' :: 'l' :: c :: cs) else a
    | _ => a
  withOptions [taking 'a' "suffix-length", taking 'b' "bytes", taking 'C' "line-bytes", flag 'd' "",
      (none, "numeric-suffixes", .perhaps), flag 'x' "", (none, "hex-suffixes", .perhaps),
      flag 'e' "elide-empty-files", taking 'l' "lines", taking 'n' "number", taking 't' "separator",
      flag 'u' "unbuffered", wordFlag "verbose", wordTaking "additional-suffix"] (fun name o w =>
    match Splitting.cuttingOf w o, o.args with
    | .error message, _ =>
      if startsWith message "cannot" then complainUsage 1 name message w else complain name message w
    | _, _ :: _ :: extra :: _ => complainExtra name extra w
    | .ok cutting, args =>
      let path := args.head?.getD "-"
      let (content, w) := readSource path (w.withStatus 0)
      match content with
      | .error .isDirectory => complain name (shellQuotedIfNeeded path ++ ": read error: "
          ++ SystemError.isDirectory.wording) w
      | .error e =>
        complain name ("cannot open " ++ shellWord path ++ " for reading: " ++ e.wording) w
      | .ok s =>
        let pieces := cutting.pieces s
        match cutting with
        | .count _ _ (some _) => putAll pieces w
        | _ =>
          let isHexadecimal := o.has "x" || o.has "hex-suffixes"
          let isDecimal := o.has "d" || o.has "numeric-suffixes"
          let base := if isHexadecimal then 16 else if isDecimal then 10 else 26
          let first := (((o.last? "numeric-suffixes").or (o.last? "hex-suffixes")).bind plainCount?).getD 0
          let needed := match cutting with
            | .count n _ _ => some (max 2 (Nat.toDigits base (n + first - 1)).length)
            | _ => none
          let asked := ((o.last? "suffix-length").bind plainCount?).bind fun n =>
            if n = 0 then none else some n
          let naming : Splitting.Naming := ⟨(args.drop 1).head?.getD "x",
            (o.last? "additional-suffix").getD "", base, first,
            asked.or (needed.or (if first = 0 then none else some 2))⟩
          let kept := if o.has "elide-empty-files" then pieces.filter (!·.isEmpty) else pieces
          Splitting.writePieces name (o.has "verbose") naming 0 kept w) name args w

/-! ## Blocks -/

namespace Blocks

/-- The number that a text writes, perhaps as a product. -/
def number? (s : String) : Option Nat :=
  ((s.toList.splitOnP (· == 'x')).mapM fun (part : List Char) =>
    match part.getLast? with
    | some 'c' => countWithUnit? part.dropLast
    | some 'w' => (countWithUnit? part.dropLast).map (2 * ·)
    | _ => countWithUnit? part).map fun (ns : List Nat) => ns.foldl (· * ·) 1

/-- The settings of a copy of blocks, by their names. -/
abbrev Settings := List (String × String)

/-- The words that name settings, and one that does not if there is one. -/
def readSettings : List String → Settings × Option String
  | [] => ([], none)
  | a :: rest =>
    let name := a.toList.takeWhile (· != '=')
    let value := a.toList.drop (name.length + 1)
    let known := ["if", "of", "bs", "ibs", "obs", "cbs", "count", "skip", "seek", "iseek", "oseek",
      "conv", "status", "iflag", "oflag"]
    if name.length = a.length || !known.contains (String.ofList name) then ([], some a)
    else
      let (more, wrong) := readSettings rest
      ((String.ofList name, String.ofList value) :: more, wrong)

def knownWords : List (String × String × List String) :=
  let flags := ["append", "direct", "directory", "dsync", "sync", "fullblock", "nonblock", "noatime",
    "nocache", "noctty", "nofollow", "count_bytes", "skip_bytes", "seek_bytes"]
  [("conv", "conversion", ["ascii", "ebcdic", "ibm", "block", "unblock", "lcase", "ucase", "sparse",
      "swab", "sync", "excl", "nocreat", "notrunc", "noerror", "fdatasync", "fsync"]),
    ("iflag", "input flag", flags), ("oflag", "output flag", flags),
    ("status", "status level", ["none", "noxfer", "progress"])]

def wrongWord? (setting : String × String) : Option (String × String) :=
  match knownWords.lookup setting.1 with
  | none => none
  | some (what, known) =>
    ((splitAt ',' setting.2).find? (!known.contains ·)).map (what, ·)

def isZeros (w : World) (path : String) : Bool :=
  match w.stat path with
  | .ok (.device .zero) => true
  | _ => false

/-- Whole blocks and parts of blocks. -/
def counts (size length : Nat) : String :=
  Number.natText (length / size) ++ "+" ++ (if length % size = 0 then "0" else "1")

end Blocks

def dd : Utility := fun name args w =>
  let (settings, wrong) := Blocks.readSettings (args.filter (· != "--"))
  let last := fun (key : String) => settings.reverse.lookup key
  match wrong with
  | some a => complainUsage 1 name ("unrecognized operand " ++ shellWord a) w
  | none =>
    let sizes := ["bs", "ibs", "obs", "cbs"]
    let counts := ["count", "skip", "seek", "iseek", "oseek"]
    match settings.find? fun (k, v) =>
        (counts.contains k && (Blocks.number? v).isNone)
          || (sizes.contains k && ((Blocks.number? v).filter (0 < ·)).isNone) with
    | some (_, v) => complain name ("invalid number: " ++ shellWord v) w
    | none =>
    match settings.findSome? Blocks.wrongWord? with
    | some (what, word) =>
      complainUsage 1 name ("invalid " ++ what ++ ": " ++ quotedWord w word) w
    | none =>
      let number := fun (key : String) => (last key).bind Blocks.number?
      let inSize := max 1 ((number "bs").getD ((number "ibs").getD 512))
      let outSize := max 1 ((number "bs").getD ((number "obs").getD 512))
      let skip := ((number "skip").or (number "iseek")).getD 0
      let seek := ((number "seek").or (number "oseek")).getD 0
      let conversions := ((last "conv").getD "").toList.splitOnP (· == ',')
      let converts := fun (s : String) => conversions.contains s.toList
      let path := (last "if").getD "-"
      let (content, w) : Except SystemError (List Char) × World :=
        if path != "-" && Blocks.isZeros w path then
          (.ok (List.replicate ((number "count").getD 1 * inSize + skip * inSize) (Char.ofNat 0)), w)
        else readSource path (w.withStatus 0)
      let (isFolder, content) : Bool × Except SystemError (List Char) := match content with
        | .error .isDirectory => (true, .ok [])
        | content => (false, content)
      match content with
      | .error e => complain name ("failed to open " ++ shellWord path ++ ": " ++ e.wording) w
      | .ok s =>
        let rest := s.drop (skip * inSize)
        let taken := match number "count" with
          | some n => rest.take (n * inSize)
          | none => rest
        let w := if path = "-" then w.giveBack (rest.drop taken.length) else w
        let shown := if converts "ucase" then taken.map toCapital
          else if converts "lcase" then taken.map toSmall else taken
        let written : Except (String × SystemError) World := match last "of" with
          | none => .ok (put shown w)
          | some target =>
            let old := match w.readFile target with
              | .ok t => t.toList
              | .error _ => []
            let gap := List.replicate (seek * outSize - old.length) (Char.ofNat 0)
            let head := if converts "notrunc" || seek != 0 then old.take (seek * outSize) ++ gap else []
            let tail := if converts "notrunc" then old.drop (seek * outSize + shown.length) else []
            (Splitting.writeFile target (head ++ shown ++ tail) w).mapError (target, ·)
        match written with
        | .error (target, e) => complain name ("failed to open " ++ shellWord target ++ ": " ++ e.wording) w
        | .ok w =>
          let w := if isFolder then
              complain name ("error reading " ++ shellWord path ++ ": "
                ++ SystemError.isDirectory.wording) w
            else w.withStatus 0
          let status := (last "status").getD ""
          if status = "none" then w
          else
            let w := w.write 2 (Blocks.counts inSize taken.length ++ " records in\n"
              ++ Blocks.counts outSize shown.length ++ " records out\n")
            if status = "noxfer" then w
            else w.write 2 (Number.natText shown.length
              ++ (if shown.length = 1 then " byte" else " bytes") ++ " copied, 0.0001 s, 0.0 kB/s\n")

end SourceCheck.Utility
