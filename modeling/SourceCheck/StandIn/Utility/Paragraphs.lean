import SourceCheck.StandIn.Utility.Content

/-! # Filling paragraphs

    The words of a paragraph are put into lines of about the same length.  Each way to
    break the lines has a cost, which grows with what is missing from a line and with
    places where no line should end; the cheapest way is taken.
-/

namespace SourceCheck.Utility

open SourceCheck SourceCheck.Text SourceCheck.Shell

namespace Paragraphs

/-- How paragraphs are filled. -/
structure Style where
  /-- How long lines may be. -/
  most : Nat
  /-- How long lines are best. -/
  goal : Nat
  /-- Lines are broken, but not joined. -/
  splits : Bool
  /-- The first two lines tell the margins of a paragraph. -/
  crown : Bool
  /-- The first line has another margin than all others. -/
  tagged : Bool
  /-- One blank stands between words, and two behind a sentence. -/
  uniform : Bool
  /-- How many blanks are in front of the mark of the lines that are filled. -/
  markIndent : Nat
  mark : List Char
  markBlanks : Nat

/-! ## Lines -/

/-- A line as it is read: what is in front of its text, and the text. -/
structure Line where
  /-- How many blanks are in front of the mark. -/
  indent : Nat
  column : Nat
  text : List Char
  hasTabs : Bool
  isEnded : Bool

/-- The column behind blanks and tabs, and the text behind them. -/
def skipSpace : Nat → List Char → Nat × List Char
  | column, ' ' :: rest => skipSpace (column + 1) rest
  | column, '\t' :: rest => skipSpace ((column / 8 + 1) * 8) rest
  | column, rest => (column, rest)

/-- A mark at the start of a text: how much of it is there, and what follows. -/
def matchMark : List Char → List Char → Nat × Bool × List Char
  | [], rest => (0, true, rest)
  | m :: mark, c :: rest =>
    if m = c then
      let (n, isWhole, rest) := matchMark mark rest
      (n + 1, isWhole, rest)
    else (0, false, c :: rest)
  | _ :: _, [] => (0, false, [])

def Style.line (k : Style) (s : List Char) : Line :=
  let isEnded := s.getLast? == some '\n'
  let s := if isEnded then s.dropLast else s
  let hasTabs := s.contains '\t'
  let (column, rest) := skipSpace 0 s
  if k.mark.isEmpty then ⟨min k.markIndent column, column, rest, hasTabs, isEnded⟩
  else
    let (n, isWhole, after) := matchMark k.mark rest
    if isWhole then
      let (next, text) := skipSpace (column + n) after
      ⟨column, next, text, hasTabs, isEnded⟩
    else ⟨column, column + n, after, hasTabs, isEnded⟩

def Style.isFilled (k : Style) (l : Line) : Bool :=
  !l.text.isEmpty && k.markIndent ≤ l.indent && l.indent + k.mark.length + k.markBlanks ≤ l.column

/-- Tabs and blanks from one column to another; tabs are used if there are some in the text. -/
def space (tabs : Bool) (column stop : Nat) : List Char :=
  let aim := stop / 8 * 8
  if tabs && column + 1 < aim then
    List.replicate (aim / 8 - column / 8) '\t' ++ List.replicate (stop - aim) ' '
  else List.replicate (stop - column) ' '

/-- A line that belongs to no paragraph, as it is written. -/
def Style.copied (k : Style) (tabs : Bool) (l : Line) : List Char :=
  if l.column ≤ l.indent && l.text.isEmpty then (if l.isEnded then ['\n'] else [])
  else
    let mark := k.mark.take (l.column - l.indent)
    space tabs 0 l.indent ++ mark
      ++ (if l.text.isEmpty then [] else space tabs (l.indent + mark.length) l.column ++ l.text)
      ++ ['\n']

/-! ## Words -/

/-- A word of a paragraph. -/
structure Word where
  text : List Char
  /-- How many blanks are behind it. -/
  space : Nat
  /-- It begins with a bracket or a quotation mark. -/
  opens : Bool
  closes : Bool
  /-- It ends like a sentence. -/
  period : Bool
  isLast : Bool
  deriving Inhabited

def isMark (c : Char) : Bool :=
  0x21 ≤ c.toNat && c.toNat ≤ 0x7E && !isDigitChar c && !('a' ≤ toSmall c && toSmall c ≤ 'z')

/-- A text ends like a sentence, perhaps with brackets or quotation marks behind. -/
def endsSentence (text : List Char) : Bool :=
  match text.reverse with
  | [] => false
  | back =>
    let closing := back.dropLast.takeWhile "])'\"".toList.contains
    (back.drop closing.length).head?.any ".?!".toList.contains

/-- The words of a line from a column on; `fuel` bounds its characters. -/
def Style.words (k : Style) : Nat → Nat → Bool → List Char → List Word
  | 0, _, _, _ => []
  | _, _, _, [] => []
  | fuel + 1, column, isEnded, c :: rest =>
    let text := c :: rest.takeWhile (!isSpace ·)
    let start := column + text.length
    let (stop, rest) := skipSpace start (rest.drop (text.length - 1))
    let period := endsSentence text
    let isEnd := rest.isEmpty
    let isLast := (isEnd && !isEnded) || (period && (isEnd || 1 < stop - start))
    let space := if isEnd || k.uniform then (if isLast then 2 else 1) else stop - start
    ⟨text, space, "(['\x60\"".toList.contains c, text.getLast?.any isMark, period, isLast⟩
      :: k.words fuel stop isEnded rest

def Style.wordsOf (k : Style) (l : Line) : List Word :=
  k.words (l.text.length + 1) l.column l.isEnded l.text

/-! ## Costs -/

/-- What it costs that a line is too short or too long by some columns. -/
def shortCost (n : Int) : Int := (n * 10) * (n * 10)

def startCost (words : Array Word) (i : Nat) : Int :=
  let word := words[i]?.getD default
  let before := if 0 < i then words[i - 1]? else none
  let earlier := if 1 < i then words[i - 2]? else none
  let share := fun (cost : Int) (length : Nat) => cost / ((length : Int) + 2)
  let atBreak : Int := match before with
    | none => 0
    | some b =>
      if b.period then (if b.isLast then -2500 else 360000)
      else if b.closes then -1600
      else if earlier.any (·.isLast) then share 40000 b.text.length
      else 0
  let atStart : Int :=
    if word.opens then -1600 else if word.isLast then share 22500 word.text.length else 0
  4900 + atBreak + atStart

/-- Where a line that starts with a word ends best, and what all from there on costs. -/
structure Break where
  cost : Int
  next : Nat
  length : Nat
  deriving Inhabited

/-- The best break of a line that starts with a word and has some length up to another one;
    `fuel` bounds the words. -/
def Style.bestBreak (k : Style) (words : Array Word) (breaks : Array Break) :
    Nat → Nat → Nat → Option Break → Option Break
  | 0, _, _, best => best
  | fuel + 1, w, length, best =>
    let next := breaks[w]?.getD default
    let lineCost : Int :=
      if w = words.size then 0
      else
        let ragged := if next.next = words.size then 0
          else shortCost ((length : Int) - next.length) / 2
        shortCost ((k.goal : Int) - length) + ragged
    let cost := lineCost + next.cost
    let best := match best with
      | some b => if cost < b.cost then some ⟨cost, w, length⟩ else some b
      | none => some ⟨cost, w, length⟩
    if w = words.size then best
    else
      let length := length + (words[w - 1]?.getD default).space
        + (words[w]?.getD default).text.length
      if length < k.most then k.bestBreak words breaks fuel (w + 1) length best else best

/-- The best breaks of the lines that start with each of the words. -/
def Style.breaks (k : Style) (first other : Nat) (words : Array Word) : Array Break :=
  let start : Array Break := Array.replicate (words.size + 1) ⟨0, words.size, 0⟩
  (List.range words.size).reverse.foldl (fun breaks i =>
    let length := (if i = 0 then first else other) + (words[i]?.getD default).text.length
    match k.bestBreak words breaks (words.size + 1) (i + 1) length none with
    | some b => breaks.set! i { b with cost := b.cost + startCost words i }
    | none => breaks) start

/-! ## Paragraphs -/

def Style.wordLine (k : Style) (tabs : Bool) (prefixIndent indent : Nat) (words : List Word) :
    List Char :=
  let front := space tabs 0 prefixIndent ++ k.mark
  let column := prefixIndent + k.mark.length
  let rec go : Nat → List Word → List Char
    | _, [] => []
    | _, [w] => w.text
    | column, w :: rest =>
      let column := column + w.text.length
      w.text ++ space tabs column (column + w.space) ++ go (column + w.space) rest
  front ++ space tabs column indent ++ go (max column indent) words ++ ['\n']

/-- The lines of a paragraph from a word on; `fuel` bounds them. -/
def Style.wordLines (k : Style) (tabs : Bool) (prefixIndent other : Nat) (words : Array Word)
    (breaks : Array Break) : Nat → Nat → Nat → List Char
  | 0, _, _ => []
  | fuel + 1, i, indent =>
    if words.size ≤ i then []
    else
      let next := (breaks[i]?.getD default).next
      k.wordLine tabs prefixIndent indent (words.extract i next).toList
        ++ k.wordLines tabs prefixIndent other words breaks fuel next other

def withLast (words : List Word) : List Word :=
  match words.getLast? with
  | some w => words.dropLast ++ [{ w with period := true, isLast := true }]
  | none => []

/-- A text with its paragraphs filled; `tabs` tells that tabs were seen, `other` is the margin
    of the paragraph before, and `fuel` bounds the lines. -/
def Style.fill (k : Style) : Nat → Bool → Nat → List Line → List Char
  | 0, _, _, _ => []
  | _, _, _, [] => []
  | fuel + 1, tabs, other, l :: rest =>
    let tabs := tabs || l.hasTabs
    if !k.isFilled l then k.copied tabs l ++ k.fill fuel tabs other rest
    else
      let goesOn := fun (m : Line) => m.indent = l.indent && k.isFilled m
      let follows := rest.head?.filter goesOn
      let other := if k.splits then l.column
        else if k.crown then (follows.map (·.column)).getD l.column
        else if k.tagged then
          match follows.filter (·.column != l.column) with
          | some m => m.column
          | none => if other = l.column then (if l.column = 0 then 3 else 0) else l.column
        else l.column
      let joined := if k.splits then []
        else if k.tagged && follows.all (·.column == l.column) then []
        else rest.takeWhile fun m => goesOn m && m.column == other
      let rest := rest.drop joined.length
      let tabs := tabs || joined.any (·.hasTabs) || rest.head?.any (·.hasTabs)
      let words := (withLast ((l :: joined).flatMap k.wordsOf)).toArray
      let breaks := k.breaks l.column other words
      k.wordLines tabs l.indent other words breaks (words.size + 1) 0 l.column
        ++ k.fill fuel tabs other rest

end Paragraphs

def fmt : Utility := fun name args w =>
  let args := match args with
    | a :: rest => match a.toList with
      | '-' :: c :: cs => if isDigitChar c then String.ofList ('-' :: 'w' :: c :: cs) :: rest else args
      | _ => args
    | [] => []
  withOptions [flag 'c' "crown-margin", taking 'p' "prefix", flag 's' "split-only",
      flag 't' "tagged-paragraph", flag 'u' "uniform-spacing", taking 'w' "width", taking 'g' "goal"]
    (fun name o w =>
      let wrong := fun (key : String) (most : Nat) => (o.last? key).bind fun s =>
        match plainCount? s with
        | none => some ("invalid width: " ++ quotedWord w s)
        | some n => if most < n then
            some ("invalid width: " ++ quotedWord w s ++ ": Numerical result out of range")
          else none
      let width? := (o.last? "width").bind plainCount?
      let goal? := (o.last? "goal").bind plainCount?
      -- a goal without a width leaves ten columns to spare
      let most := match width?, goal? with
        | some n, _ => n
        | none, some g => g + 10
        | none, none => 75
      match (wrong "width" 2500).or (wrong "goal" most) with
      | some message => complain name message w
      | none =>
        let mark := ((o.last? "prefix").getD "").toList
        let body := mark.dropWhile (· == ' ')
        let bare := (body.reverse.dropWhile (· == ' ')).reverse
        let style : Paragraphs.Style :=
          { most := most
            goal := goal?.getD (most * 187 / 200)
            splits := o.has "split-only"
            crown := o.has "crown-margin"
            tagged := o.has "tagged-paragraph"
            uniform := o.has "uniform-spacing"
            markIndent := mark.length - body.length
            mark := bare
            markBlanks := body.length - bare.length }
        let refuse := fun path (e : SystemError) w =>
          complain name (if e == .isDirectory then "read error: " ++ e.wording
            else "cannot open " ++ shellQuoted path ++ " for reading: " ++ e.wording) w
        forEachOr refuse (fun _ s w =>
          let lines := (fullLines s).map style.line
          put (style.fill (lines.length + 1) false 0 lines) w) (filesOr o.args) (w.withStatus 0))
    name args w

end SourceCheck.Utility
