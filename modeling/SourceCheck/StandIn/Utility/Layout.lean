import SourceCheck.StandIn.Utility.Content

/-! # Lines and columns

    Utilities that break lines, or put blanks in place of tabs and tabs in place
    of blanks.
-/

namespace SourceCheck.Utility

open SourceCheck SourceCheck.Text SourceCheck.Shell

/-! ## Breaking lines -/

def columnAfter (octets : Bool) (column : Nat) (c : Char) : Nat :=
  if octets then column + 1
  else if c.toNat = 8 then column - 1
  else if c = '\r' then 0
  else if c = '\t' then column + 8 - column % 8
  else column + 1

def columnOf (octets : Bool) (s : List Char) : Nat := s.foldl (columnAfter octets) 0

/-- The part of a line up to its last blank, and the rest; `out` is the line
    backwards. -/
def breakAtBlank (out : List Char) : Option (List Char × List Char) :=
  let tail := out.takeWhile (!isBlank ·)
  let front := out.drop tail.length
  if front.isEmpty then none else some (front.reverse, tail.reverse)

/-- A text with its lines broken at a width; `out` is the line so far, backwards,
    and `fuel` bounds the steps. -/
def foldWith (width : Nat) (octets atBlanks : Bool) :
    Nat → List Char → Nat → List Char → List (List Char)
  | 0, out, _, _ => [out.reverse]
  | fuel + 1, out, column, s =>
    match s with
    | [] => [out.reverse]
    | '\n' :: rest => (out.reverse ++ ['\n']) :: foldWith width octets atBlanks fuel [] 0 rest
    | c :: rest =>
      let next := columnAfter octets column c
      if width < next then
        match if atBlanks then breakAtBlank out else none with
        | some (front, tail) =>
          (front ++ ['\n'])
            :: foldWith width octets atBlanks fuel tail.reverse (columnOf octets tail) s
        | none =>
          if out.isEmpty then foldWith width octets atBlanks fuel [c] next rest
          else (out.reverse ++ ['\n']) :: foldWith width octets atBlanks fuel [] 0 s
      else foldWith width octets atBlanks fuel (c :: out) next rest

/-- Breaks lines at a width. -/
def fold : Utility := fun name args w =>
  let args := args.map fun a =>
    match a.toList with
    | '-' :: c :: cs => if isDigitChar c then String.ofList ('-' :: 'w' :: c :: cs) else a
    | _ => a
  withOptions [flag 'b' "bytes", flag 's' "spaces", taking 'w' "width"]
    (fun name o w =>
      let width := (o.last? "width").getD "80"
      match plainCount? width with
      | none => complain name ("invalid number of columns: " ++ quotedWord w width) w
      | some 0 => complain name ("invalid number of columns: " ++ quotedWord w width
          ++ ": Numerical result out of range") w
      | some n =>
        forEachOr (complainFile name) (fun _ s w =>
          putAll (foldWith n (o.has "bytes") (o.has "spaces") (3 * s.length + 10) [] 0 s) w)
          (filesOr o.args) (w.withStatus 0)) name args w

/-! ## Tabs -/

/-- Where tabs lead behind the last stop that is listed. -/
inductive StopsBeyond where
  | next
  | multiples (n : Nat)
  /-- On by some number of columns from stop to stop. -/
  | spaced (n : Nat)
  deriving Repr

/-- The columns at which tabs lead on. -/
structure TabStops where
  /-- The ones that are listed, in ascending order. -/
  columns : List Nat
  beyond : StopsBeyond
  deriving Repr

def TabStops.every (n : Nat) : TabStops := ⟨[], .multiples n⟩

def TabStops.after? (stops : TabStops) (column : Nat) : Option Nat :=
  match stops.columns.find? (column < ·), stops.beyond with
  | some stop, _ => some stop
  | none, .next => none
  | none, .multiples n => some (column + n - column % n)
  | none, .spaced n =>
    let last := stops.columns.getLast?.getD 0
    some (column + n - (column - last) % n)

def tabStops? (s : String) : Option TabStops :=
  let parts := (cutAt ',' (s.toList.map fun c => if c = ' ' then ',' else c)).filter (!·.isEmpty)
  let (listed, last) := match parts.getLast? with
    | some ('/' :: ds) => (parts.dropLast, some (true, ds))
    | some ('+' :: ds) => (parts.dropLast, some (false, ds))
    | _ => (parts, none)
  let beyond : Option StopsBeyond := match last with
    | none => some .next
    | some (isMultiple, ds) =>
      (plainCount? (String.ofList ds)).bind fun n =>
        if n = 0 then none else some (if isMultiple then .multiples n else .spaced n)
  match listed.mapM (fun p => plainCount? (String.ofList p)), beyond with
  | some [n], some .next => if n = 0 then none else some (.every n)
  | some [], some .next => some (.every 8)
  | some columns, some beyond =>
    if ((columns.zip (columns.drop 1)).all fun (a, b) => a < b) && columns.head? != some 0 then
      some ⟨columns, beyond⟩
    else none
  | _, _ => none

def expandTabs (stops : TabStops) (initialOnly : Bool) :
    Nat → Bool → List Char → List Char → List Char
  | _, _, out, [] => out.reverse
  | column, convert, out, c :: rest =>
    if c = '\n' then expandTabs stops initialOnly 0 true (c :: out) rest
    else if c = '\t' && convert then
      let next := (stops.after? column).getD (column + 1)
      expandTabs stops initialOnly next convert
        (List.replicate (next - column) ' ' ++ out) rest
    else
      let column := if c.toNat = 8 then column - 1 else column + 1
      expandTabs stops initialOnly column (convert && (!initialOnly || isBlank c)) (c :: out) rest

def stopsOf (o : Options) : Option TabStops :=
  match o.values "tabs" with
  | [] => some (.every 8)
  | values => tabStops? (joinWith "," values)

def digitStops (args : List String) : List String :=
  args.map fun a =>
    match a.toList with
    | '-' :: c :: cs => if isDigitChar c then String.ofList ('-' :: 't' :: c :: cs) else a
    | _ => a

def complainTabs (name : String) (o : Options) (w : World) : World :=
  let given := joinWith "," (o.values "tabs")
  let parts := (cutAt ',' given.toList).filterMap fun p => plainCount? (String.ofList p)
  if given.toList.all fun c => isDigitChar c || c == ',' then
    complain name (if parts.contains 0 then "tab size cannot be 0"
      else "tab sizes must be ascending") w
  else
    let wrong := given.toList.dropWhile fun c => isDigitChar c || c == ',' || c == ' '
    complain name ("tab size contains invalid character(s): " ++ quotedWord w (String.ofList wrong)) w

/-- Puts blanks in place of tabs. -/
def expand : Utility := fun name args w =>
  withOptions [flag 'i' "initial", taking 't' "tabs"] (fun name o w =>
    match stopsOf o with
    | none => complainTabs name o w
    | some stops =>
      forEachOr (complainFile name) (fun _ s w =>
        put (expandTabs stops (o.has "initial") 0 true [] s) w) (filesOr o.args) (w.withStatus 0))
    name (digitStops args) w

/-- Tabs in place of blanks in a line.  `held` are the blanks that were read and
    not yet written, the last one first, `start` is the column where they begin. -/
def unexpandLine (stops : TabStops) (whole : Bool) :
    Nat → Nat → List Char → Bool → List Char → List Char → List Char
  | _, _, held, _, out, [] => (held ++ out).reverse
  | column, start, held, convert, out, c :: rest =>
    if !convert then unexpandLine stops whole column start [] false (c :: held ++ out) rest
    else if isBlank c then
      match stops.after? column with
      | none => unexpandLine stops whole column start [] false (c :: held ++ out) rest
      | some next =>
        if c = '\t' then
          unexpandLine stops whole next next [] true ('\t' :: out) rest
        else if column + 1 = next then
          let isAlone := held.isEmpty && !(rest.head?.any isBlank)
          unexpandLine stops whole next next [] true
            ((if isAlone then ' ' else '\t') :: out) rest
        else unexpandLine stops whole (column + 1) start (c :: held) true out rest
    else
      let column := if c.toNat = 8 then column - 1 else column + 1
      unexpandLine stops whole column column [] whole (c :: held ++ out) rest

/-- Puts tabs in place of blanks. -/
def unexpand : Utility := fun name args w =>
  withOptions [flag 'a' "all", wordFlag "first-only", taking 't' "tabs"] (fun name o w =>
    match stopsOf o with
    | none => complainTabs name o w
    | some stops =>
      let whole := (o.has "all" || o.has "tabs") && !o.has "first-only"
      forEachOr (complainFile name) (fun _ s w =>
        putAll ((fullLines s).map fun line =>
          let (body, ending) := splitEnd line
          unexpandLine stops whole 0 0 [] true [] body ++ ending) w)
        (filesOr o.args) (w.withStatus 0))
    name (digitStops args) w

end SourceCheck.Utility
