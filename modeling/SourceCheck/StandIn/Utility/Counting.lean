import SourceCheck.StandIn.Regex.Matching
import SourceCheck.StandIn.Regex.Reader
import SourceCheck.StandIn.Shell.Numeral
import SourceCheck.StandIn.Utility.Content

/-! # Counting

    Utilities that count lines, words and characters, or number lines.
-/

namespace SourceCheck.Utility

open SourceCheck SourceCheck.Text SourceCheck.Shell

/-! ## Counts -/

/-- What is counted in a text. -/
structure Counts where
  lines : Nat
  words : Nat
  chars : Nat
  octets : Nat
  width : Nat
  deriving Repr

/-- The number of words of a text; a word starts with a character that is
    shown. -/
def wordCount (s : List Char) : Nat :=
  (s.foldl (fun (state : Nat × Bool) c =>
    let (n, inside) := state
    if isSpace c then (n, false)
    else if c.toNat < 0x20 || c.toNat == 0x7F then (n, inside)
    else (if inside then n else n + 1, true)) (0, false)).1

def charCount (utf8 : Bool) (s : List Char) : Nat :=
  if utf8 then s.countP fun c => !isContinuation c else s.length

/-- The width of the widest line of a text; tabs lead to the next eighth
    column. -/
def widestLine (utf8 : Bool) (s : List Char) : Nat :=
  let (most, here) := s.foldl (fun (state : Nat × Nat) c =>
    let (most, here) := state
    if c = '\n' || c = '\r' || c.toNat = 12 then (max most here, 0)
    else if c = '\t' then (most, here + 8 - here % 8)
    else if c.toNat < 0x20 || c.toNat == 0x7F || (utf8 && isContinuation c) then (most, here)
    else (most, here + 1)) (0, 0)
  max most here

def countsOf (utf8 : Bool) (s : List Char) : Counts :=
  ⟨s.count '\n', wordCount s, charCount utf8 s, s.length, widestLine utf8 s⟩

def Counts.add (a b : Counts) : Counts :=
  ⟨a.lines + b.lines, a.words + b.words, a.chars + b.chars, a.octets + b.octets,
    max a.width b.width⟩

def Counts.none : Counts := ⟨0, 0, 0, 0, 0⟩

def shownCounts (o : Options) (k : Counts) : List Nat :=
  let all := [("lines", k.lines), ("words", k.words), ("chars", k.chars), ("bytes", k.octets),
    ("max-line-length", k.width)]
  let chosen := all.filter fun (key, _) => o.has key
  if chosen.isEmpty then [k.lines, k.words, k.octets] else chosen.map (·.2)

/-- How wide the counts are shown: as wide as the size of all files, and wider if
    there is one of unknown size. -/
def countWidth (w : World) (isSingle : Bool) (files : List String) : Nat :=
  if isSingle then 1
  else
    let (size, least) := files.foldl (fun (state : Nat × Nat) path =>
      let (size, least) := state
      if path = "-" then
        match w.standardInput? with
        | some i => if i.rewinds then (size + i.left.length, least) else (size, 7)
        | none => (size, 7)
      else match w.stat path with
        | .ok (.file content _) => (size + content.length, least)
        | .ok _ => (size, 7)
        | .error _ => (size, least)) (0, 1)
    max least (digits size).length

/-- Counts lines, words, characters or octets. -/
def wc : Utility := withOptions
  [flag 'c' "bytes", flag 'm' "chars", flag 'l' "lines", flag 'L' "max-line-length",
    flag 'w' "words"]
  fun name o w =>
    let files := filesOr o.args
    let kinds := (shownCounts o .none).length
    -- the columns are as wide as the largest count can be
    let width := countWidth w (files.length == 1 && kinds == 1) files
    let show1 := fun (k : Counts) (label : List Char) (w : World) =>
      let numbers := (shownCounts o k).map fun n => padLeft width (digits n)
      put ([' '].intercalate numbers ++ label ++ ['\n']) w
    let labelOf := fun (path : String) => if o.args.isEmpty then [] else ' ' :: path.toList
    let step := fun (state : Counts × World) path =>
      let (total, w) := state
      let (content, w) := readSource path w
      match content with
      | .ok s =>
        let k := countsOf (usesUtf8 w) s
        (total.add k, show1 k (labelOf path) w)
      | .error .isDirectory =>
        (total, show1 .none (labelOf path) (complainFile name path .isDirectory w))
      | .error e => (total, complainFile name path e w)
    let (total, w) := files.foldl step (.none, w.withStatus 0)
    if 1 < files.length then show1 total " total".toList w else w

/-! ## Numbers of lines -/

/-- Which lines are numbered. -/
inductive Numbered where
  | all
  | filled
  | none
  | matching (r : Regex)

def numbered? (wide : Bool) (s : String) : Option Numbered :=
  if s = "a" then some .all else if s = "t" then some .filled else if s = "n" then some .none
  else match s.toList with
    | 'p' :: pattern =>
      ((Regex.read .basicSearch (Regex.toLetters wide pattern)).toOption).map .matching
    | _ => Option.none

/-- A part of a page. -/
inductive PagePart where
  | body
  | header
  | footer
  deriving DecidableEq, Repr

/-- How lines are numbered. -/
structure NumberStyle where
  body : Numbered
  header : Numbered
  footer : Numbered
  /-- Numbers are filled up on the right. -/
  isLeft : Bool
  /-- Numbers are filled up with zeros. -/
  isZero : Bool
  width : Nat
  /-- What stands behind a number. -/
  separator : List Char
  first : Int
  /-- How much numbers grow. -/
  step : Int
  /-- How many empty lines count as one. -/
  blanks : Nat
  /-- The marks between parts of pages are made of this. -/
  mark : List Char
  /-- Numbers go on from page to page. -/
  goesOn : Bool
  /-- Lines are read as UTF-8. -/
  wide : Bool

def NumberStyle.shown (style : NumberStyle) (n : Int) : List Char :=
  let ds := digits n.natAbs
  let sign := if n < 0 then ['-'] else []
  if style.isLeft then padRight style.width (sign ++ ds)
  else if style.isZero then
    sign ++ List.replicate (style.width - sign.length - ds.length) '0' ++ ds
  else padLeft style.width (sign ++ ds)

def NumberStyle.of (style : NumberStyle) : PagePart → Numbered
  | .body => style.body
  | .header => style.header
  | .footer => style.footer

def NumberStyle.partAt? (style : NumberStyle) (line : List Char) : Option PagePart :=
  let m := style.mark
  if m.isEmpty then none
  else if line = m ++ m ++ m then some .header
  else if line = m ++ m then some .body
  else if line = m then some .footer
  else none

def numberLines (style : NumberStyle) :
    PagePart → Int → Nat → List (List Char) → List (List Char)
  | _, _, _, [] => []
  | part, n, blanks, line :: rest =>
    match style.partAt? line with
    | some next =>
      let n := if style.goesOn then n else style.first
      [] :: numberLines style next n 0 rest
    | none =>
      let isBlank := line.isEmpty
      let blanks := if isBlank then blanks + 1 else 0
      -- every so many blank lines one is counted, when blank lines are joined
      let isCounted := match style.of part with
        | .all => !isBlank || style.blanks ≤ blanks
        | .filled => !isBlank
        | .none => false
        | .matching r =>
          let subject : Regex.Subject := ⟨(Regex.toLetters style.wide line).toArray, false, false, style.wide⟩
          (Regex.search? subject r 0).isSome
      let blanks := if isCounted then 0 else blanks
      if isCounted then
        (style.shown n ++ style.separator ++ line)
          :: numberLines style part (n + style.step) blanks rest
      else
        (List.replicate (style.width + style.separator.length) ' ' ++ line)
          :: numberLines style part n blanks rest

/-- Writes lines with their numbers. -/
def nl : Utility := withOptions
  [taking 'b' "body-numbering", taking 'd' "section-delimiter", taking 'f' "footer-numbering",
    taking 'h' "header-numbering", taking 'i' "line-increment", taking 'l' "join-blank-lines",
    taking 'n' "number-format", flag 'p' "no-renumber", taking 's' "number-separator",
    taking 'v' "starting-line-number", taking 'w' "number-width"]
  fun name o w =>
    let kind := fun key (default : Numbered) =>
      match o.last? key with
      | none => some default
      | some v => numbered? (usesUtf8 w) v
    let int := fun key (default : Int) =>
      match o.last? key with
      | none => some default
      | some v => (integer? false v)
    let format := (o.last? "number-format").getD "rn"
    let wrong := fun (text key : String) => text ++ ": " ++ quotedWord w ((o.last? key).getD "")
    let isNumber := fun (key : String) => (int key 1).isSome
    let faults := [
      ("number-width", !isNumber "number-width", "invalid line number field width", false),
      ("number-width", (int "number-width" 6).any (· < 1), "invalid line number field width", true),
      ("line-increment", !isNumber "line-increment", "invalid line number increment", false),
      ("starting-line-number", !isNumber "starting-line-number", "invalid starting line number", false),
      ("join-blank-lines", !isNumber "join-blank-lines", "invalid line number of blank lines", false)]
    -- the first of the faults is told, in the order in which the options are looked at
    match faults.find? (·.2.1) with
    | some (key, _, text, isRange) =>
      complain name (wrong text key ++ (if isRange then ": Numerical result out of range" else "")) w
    | none =>
    if !(["ln", "rn", "rz"].contains format) then
      complainUsage 1 name (wrong "invalid line numbering format" "number-format") w
    else
    match kind "body-numbering" .filled, kind "header-numbering" .none,
        kind "footer-numbering" .none, int "line-increment" 1, int "starting-line-number" 1,
        int "number-width" 6 with
    | some body, some header, some footer, some step, some first, some width =>
      let mark := ((o.last? "section-delimiter").getD "\\:").toList
      let style : NumberStyle :=
        { body := body, header := header, footer := footer
          isLeft := format == "ln", isZero := format == "rz", width := width.toNat
          separator := ((o.last? "number-separator").getD "\t").toList
          first := first, step := step
          blanks := ((int "join-blank-lines" 1).getD 1).toNat
          mark := if mark.length = 1 then mark ++ [':'] else mark
          goesOn := o.has "no-renumber", wide := usesUtf8 w }
      let (s, w) := readWhole name o.args w
      putLines (numberLines style .body first 0 (plainLines s)) w
    | body, header, _, _, _, _ =>
      let part := if body.isNone then "body" else if header.isNone then "header" else "footer"
      complainUsage 1 name (wrong ("invalid " ++ part ++ " numbering style") (part ++ "-numbering")) w

end SourceCheck.Utility
