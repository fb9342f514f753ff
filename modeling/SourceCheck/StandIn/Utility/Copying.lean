import SourceCheck.StandIn.Utility.Content

/-! # Copying texts

    Utilities that write what they read: all of it, its start or its end, or its
    lines and characters in another order.
-/

namespace SourceCheck.Utility

open SourceCheck SourceCheck.Text SourceCheck.Shell

/-! ## Whole files -/

/-- How lines are shown. -/
structure CatStyle where
  numbers : Bool
  /-- Only lines that are not empty are numbered. -/
  skipsBlank : Bool
  /-- Of several empty lines only one is shown. -/
  squeezes : Bool
  marksEnds : Bool
  marksTabs : Bool
  marksOthers : Bool

def markedChar (style : CatStyle) (c : Char) : List Char :=
  let n := c.toNat
  if c = '\t' then if style.marksTabs then ['^', 'I'] else [c]
  else if !style.marksOthers then [c]
  else
    let low := fun (n : Nat) =>
      if n < 0x20 then ['^', Char.ofNat (n + 0x40)]
      else if n = 0x7F then ['^', '?'] else [Char.ofNat n]
    if 0x80 ≤ n then ['M', '-'] ++ low (n - 0x80) else low n

/-- Where the text of several files stands. -/
structure CatState where
  line : Nat
  atStart : Bool
  /-- The line before was empty. -/
  afterBlank : Bool

def showStyled (style : CatStyle) : CatState → List Char → List Char → CatState × List Char
  | state, out, [] => (state, out.reverse)
  | state, out, c :: rest =>
    let number := fun (n : Nat) => (padLeft 6 (digits n) ++ ['\t']).reverse
    let ending := if style.marksEnds then ['\n', '$'] else ['\n']
    -- numbers are written at the start of a line, so its first letter decides
    if c = '\n' then
      if state.atStart then
        if style.squeezes && state.afterBlank then showStyled style state out rest
        else if style.numbers && !style.skipsBlank then
          showStyled style ⟨state.line + 1, true, true⟩
            (ending ++ number (state.line + 1) ++ out) rest
        else showStyled style { state with afterBlank := true } (ending ++ out) rest
      else showStyled style ⟨state.line, true, false⟩ (ending ++ out) rest
    else
      -- a return in front of a line end is marked with it
      let isReturn := c == '\r' && style.marksEnds && rest.head? == some '\n'
      let shown := (if isReturn then ['^', 'M'] else markedChar style c).reverse
      if state.atStart && style.numbers then
        showStyled style ⟨state.line + 1, false, false⟩
          (shown ++ number (state.line + 1) ++ out) rest
      else showStyled style ⟨state.line, false, false⟩ (shown ++ out) rest

/-- Writes the files one after the other. -/
def cat : Utility := withOptions
  [flag 'A' "show-all", flag 'b' "number-nonblank", flag 'e' "", flag 'E' "show-ends",
    flag 'n' "number", flag 's' "squeeze-blank", flag 't' "", flag 'T' "show-tabs", flag 'u' "",
    flag 'v' "show-nonprinting"]
  fun name o w =>
    let all := o.has "show-all"
    let style : CatStyle :=
      { numbers := o.has "number" || o.has "number-nonblank"
        skipsBlank := o.has "number-nonblank"
        squeezes := o.has "squeeze-blank"
        marksEnds := all || o.has "e" || o.has "show-ends"
        marksTabs := all || o.has "t" || o.has "show-tabs"
        marksOthers := all || o.has "e" || o.has "t" || o.has "show-nonprinting" }
    let step := fun (state : CatState × World) path =>
      let (content, w) := readSource path state.2
      match content with
      | .error e => (state.1, complainFile name path e w)
      | .ok s =>
        let (next, shown) := showStyled style state.1 [] s
        (next, put shown w)
    ((filesOr o.args).foldl step (⟨0, true, false⟩, w.withStatus 0)).2

/-- Pieces of a text, each up to a separator and with it if it has one; `fuel`
    bounds the characters. -/
def piecesBefore (separator : List Char) : Nat → List Char → List Char → List (List Char)
  | 0, _, _ => []
  | fuel + 1, piece, s =>
    match s with
    | [] => if piece.isEmpty then [] else [piece.reverse]
    | c :: rest =>
      if separator.isPrefixOf s then
        (piece.reverse ++ separator) :: piecesBefore separator fuel [] (s.drop separator.length)
      else piecesBefore separator fuel (c :: piece) rest

/-- Pieces of a text, each after the first with the separator in front of it;
    `fuel` bounds the characters. -/
def piecesAfter (separator : List Char) : Nat → List Char → List Char → List (List Char)
  | 0, _, _ => []
  | fuel + 1, piece, s =>
    match s with
    | [] => [piece.reverse]
    | c :: rest =>
      if separator.isPrefixOf s then
        piece.reverse :: piecesAfter separator fuel separator.reverse (s.drop separator.length)
      else piecesAfter separator fuel (c :: piece) rest

/-- Writes the last line of each file first. -/
def tac : Utility := withOptions
  [flag 'b' "before", flag 'r' "regex", taking 's' "separator"]
  fun name o w =>
    let separator := ((o.last? "separator").getD "\n").toList
    let refuse := fun path (e : SystemError) w =>
      if e == .isDirectory then
        complain name (shellQuotedIfNeeded path ++ ": read error: " ++ e.wording) w
      else
        complain name ("failed to open " ++ shellQuoted path ++ " for reading: " ++ e.wording) w
    forEachOr refuse (fun _ s w =>
      let pieces := if separator.isEmpty then [s]
        else if o.has "before" then piecesAfter separator (s.length + 1) [] s
        else piecesBefore separator (s.length + 1) [] s
      putAll pieces.reverse w) (filesOr o.args) (w.withStatus 0)

/-- Characters backwards, where octets that continue a character stay behind its
    first one. -/
def reversedChars (utf8 : Bool) : List Char → List Char → List Char → List Char
  | out, unit, [] => unit.reverse ++ out
  | out, unit, c :: rest =>
    if utf8 && isContinuation c then reversedChars utf8 out (c :: unit) rest
    else reversedChars utf8 (unit.reverse ++ out) [c] rest

/-- Writes each line backwards. -/
def rev : Utility := withOptions [] fun name o w =>
  let refuse := fun path (e : SystemError) w =>
    complain name ("cannot open " ++ path ++ ": " ++ e.wording) w
  forEachOr refuse (fun _ s w =>
    putAll ((fullLines s).map fun line =>
      let (body, ending) := splitEnd line
      reversedChars (usesUtf8 w) [] [] body ++ ending) w) (filesOr o.args) (w.withStatus 0)

/-- Writes the input to files and on. -/
def tee : Utility := withOptions
  [flag 'a' "append", flag 'i' "ignore-interrupts", (some 'p', "output-error", .perhaps)]
  fun name o w =>
    let (s, w) := w.readAll
    let w := put s (w.withStatus 0)
    o.args.foldl (fun w path =>
      match w.openFile (o.has "append") false path with
      | .error e => complainFile name path e w
      | .ok (channel, w) =>
        let old := w.channel? 1
        ((w.setChannel 1 channel).print (String.ofList s)).restoreChannel 1 old) w

/-! ## Parts of files -/

/-- How much of a file is written. -/
structure Extent where
  octets : Bool
  count : Nat
  /-- They are counted from the other end of the file. -/
  fromOther : Bool

def signedCount? (s : String) : Option (Option Char × Nat) :=
  match s.toList with
  | '-' :: rest => (countWithUnit? rest).map (some '-', ·)
  | '+' :: rest => (countWithUnit? rest).map (some '+', ·)
  | cs => (countWithUnit? cs).map (none, ·)

def countedName (octets : Bool) : String := if octets then "bytes" else "lines"

/-- The name of a file above its text. -/
def heading (isFirst : Bool) (path : String) : String :=
  (if isFirst then "" else "\n") ++ "==> "
    ++ (if path = "-" then "standard input" else path) ++ " <==\n"

/-- Parts of some files are written, each under its name if wanted.  What a part
    leaves of the standard input may be given back. -/
def writeParts (name : String) (isHeaded : Bool) (part : List Char → List Char)
    (rest : List Char → List Char) (files : List String) (w : World) : World :=
  let step := fun (state : Bool × World) path =>
    let (isFirst, w) := state
    let (content, w) := readSource path w
    let headed := fun w => if isHeaded then w.print (heading isFirst path) else w
    match content with
    | .ok s =>
      let w := put (part s) (headed w)
      (false, if path = "-" then w.giveBack (rest s) else w)
    | .error .isDirectory =>
      (false, complain name ("error reading " ++ shellQuoted path ++ ": Is a directory") (headed w))
    | .error e =>
      (isFirst,
        complain name ("cannot open " ++ shellQuoted path ++ " for reading: " ++ e.wording) w)
  (files.foldl step (true, w)).2

/-- The names of files stand above their texts. -/
def isHeaded (o : Options) (files : List String) : Bool :=
  match o.lastOf? ["quiet", "silent", "verbose"] with
  | some "verbose" => true
  | some _ => false
  | none => 1 < files.length

/-- Letters after a number in the old way to write a count. -/
def oldSuffix : Nat → List Char → Options → Option Options
  | _, [], o => some o
  | n, c :: rest, o =>
    let count := fun (factor : Nat) => some (Number.natText (n * factor))
    if c = 'c' then oldSuffix n rest (o.add "bytes" (count 1))
    else if c = 'b' then oldSuffix n rest (o.add "bytes" (count 512))
    else if c = 'k' then oldSuffix n rest (o.add "bytes" (count 1024))
    else if c = 'm' then oldSuffix n rest (o.add "bytes" (count 1048576))
    else if c = 'l' then oldSuffix n rest (o.add "lines" (count 1))
    else if c = 'q' then oldSuffix n rest (o.add "quiet" none)
    else if c = 'v' then oldSuffix n rest (o.add "verbose" none)
    else if c = 'z' then oldSuffix n rest (o.add "zero-terminated" none)
    else none

/-- The count that stands as an option of its own at the start of some arguments,
    as an option, and the other arguments. -/
def oldCount? (args : List String) : Option (Options × List String) :=
  match args with
  | [] => none
  | a :: rest =>
    match a.toList with
    | '-' :: c :: cs =>
      if !isDigitChar c then none
      else
        let ds := (c :: cs).takeWhile isDigitChar
        let n := decimalValue ds
        let suffix := (c :: cs).drop ds.length
        let isSized := suffix.any ['c', 'b', 'k', 'm', 'l'].contains
        let start : Options := if isSized then ⟨[], []⟩
          else ⟨[("lines", some (Number.natText n))], []⟩
        (oldSuffix n suffix start).map fun o => (o, rest)
    | _ => none

/-- The start that stands as an argument of its own after a plus sign, as an option, and
    the other arguments. -/
def oldStart? (args : List String) : Option (Options × List String) :=
  match args with
  | [] => none
  | a :: rest =>
    match a.toList with
    | '+' :: cs =>
      let ds := cs.takeWhile isDigitChar
      let count := some ("+" ++ (if ds.isEmpty then "10" else String.ofList ds))
      match cs.drop ds.length with
      | [] | ['l'] => if ds.isEmpty && cs.isEmpty then none else some (⟨[("lines", count)], []⟩, rest)
      | ['c'] => some (⟨[("bytes", count)], []⟩, rest)
      | _ => none
    | _ => none

/-- What follows a count that stands as an option of its own and is no part of it. -/
def trailingLetter? (args : List String) : Option Char :=
  match args.head?.map String.toList with
  | some ('-' :: c :: cs) =>
    if isDigitChar c then
      (cs.dropWhile isDigitChar).find? fun c => !"bcklmqvz".toList.contains c
    else none
  | _ => none

/-- The options of utilities that write parts of files. -/
def partOptions : List OptionSpec := [
  taking 'c' "bytes", taking 'n' "lines", flag 'q' "quiet", wordFlag "silent", flag 'v' "verbose",
  flag 'z' "zero-terminated"]

/-- What was asked for by count: octets or lines, and the count as it stands
    there. -/
def askedCount (o : Options) : Bool × String :=
  match o.given.filter fun (k, _) => k == "bytes" || k == "lines" with
  | [] => (false, "10")
  | given =>
    match given.getLast? with
    | some (k, v) => (k == "bytes", v.getD "")
    | none => (false, "10")

def firstPart (e : Extent) (ending : Char) (s : List Char) : List Char :=
  if e.octets then if e.fromOther then s.take (s.length - e.count) else s.take e.count
  else
    let lines := piecesOf ending s
    (if e.fromOther then lines.take (lines.length - e.count) else lines.take e.count).flatten

def lastPart (e : Extent) (ending : Char) (s : List Char) : List Char :=
  if e.octets then if e.fromOther then s.drop (e.count - 1) else s.drop (s.length - e.count)
  else
    let lines := piecesOf ending s
    (if e.fromOther then lines.drop (e.count - 1) else lines.drop (lines.length - e.count)).flatten

/-- Zeros without end are the input. -/
def readsZeros (files : List String) (w : World) : Bool :=
  match files with
  | [] => w.channel? 0 == some .zeros
  | ["-"] => w.channel? 0 == some .zeros
  | [file] =>
    match w.stat file with
    | .ok (.device .zero) => true
    | _ => false
  | _ => false

/-- Writes the first lines or octets. -/
def head : Utility := fun name args w =>
  let trailing := trailingLetter? args
  -- the old form gives the count as an option of its own
  let (old, args) := (oldCount? args).getD (⟨[], []⟩, args)
  match readOptions partOptions args with
  | .error message =>
    match trailing with
    | some c => complainUsage 1 name ("invalid trailing option -- " ++ String.singleton c) w
    | none => complainUsage 1 name message w
  | .ok o =>
    let o := { o with given := old.given ++ o.given }
    let (octets, count) := askedCount o
    match signedCount? count with
    | none =>
      complain name ("invalid number of " ++ countedName octets ++ ": " ++ quotedWord w count) w
    | some (sign, n) =>
      let extent : Extent := ⟨octets, n, sign == some '-'⟩
      let files := filesOr o.args
      let ending := if o.has "zero-terminated" then Char.ofNat 0 else '\n'
      let w := w.withStatus 0
      -- a device of zeros has no end, so the count alone decides
      if octets && readsZeros o.args w then put (List.replicate n (Char.ofNat 0)) w
      else
        let part := firstPart extent ending
        writeParts name (isHeaded o files) part (fun s => s.drop (part s).length) files w

/-- Writes the last lines or octets. -/
def tail : Utility := fun name args w =>
  let isOld := match args with
    | [_] => true
    | [_, b] => !(startsWith b "-" && b != "-")
    | _ :: "--" :: rest => rest.length ≤ 1
    | _ => false
  let (old, args) :=
    if isOld then ((oldCount? args).or (oldStart? args)).getD (⟨[], []⟩, args) else (⟨[], []⟩, args)
  match readOptions (partOptions ++ [(some 'f', "follow", .perhaps), flag 'F' "",
      taking 's' "sleep-interval", wordTaking "pid", wordFlag "retry"]) args with
  | .error message =>
    let isCount := (oldCount? args).isSome || (trailingLetter? args).isSome
    match isCount, args with
    | true, a :: _ =>
      complain name
        ("option used in invalid context -- " ++ String.ofList ((a.toList.drop 1).take 1)) w
    | _, _ => complainUsage 1 name message w
  | .ok o =>
    let o := { o with given := old.given ++ o.given }
    let (octets, count) := askedCount o
    match signedCount? count with
    | none =>
      complain name ("invalid number of " ++ countedName octets ++ ": " ++ quotedWord w count) w
    | some (sign, n) =>
      let extent : Extent := ⟨octets, n, sign == some '+'⟩
      let files := filesOr o.args
      let ending := if o.has "zero-terminated" then Char.ofNat 0 else '\n'
      let w := writeParts name (isHeaded o files) (lastPart extent ending) (fun _ => []) files
        (w.withStatus 0)
      -- a file that is followed never ends
      if (o.has "follow" || o.has "F") && files != ["-"] then w.withFlow .halted else w

end SourceCheck.Utility
