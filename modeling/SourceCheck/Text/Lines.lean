/-! # Lines of a text

    A text is cut at every line feed, so a text with n line feeds has n + 1
    lines, the last of them empty when the text ends in a line feed.  Output of
    tools may end its lines with carriage return and line feed; the pair is read
    as one line feed before the text is cut.
-/

namespace SourceCheck.Text

/-- Pieces of text joined with a separator between each two. -/
def joinWith (separator : String) (pieces : List String) : String :=
  String.ofList (List.intercalate separator.toList (pieces.map String.toList))

/-- The pieces of a text between the occurrences of a character. -/
def cutAt (separator : Char) (s : List Char) : List (List Char) :=
  s.foldr (fun c pieces =>
    if c = separator then [] :: pieces
    else match pieces with
      | [] => [[c]]
      | piece :: rest => (c :: piece) :: rest) [[]]

/-- The pieces of a text between the occurrences of a character, as texts. -/
def splitAt (separator : Char) (s : String) : List String :=
  (cutAt separator s.toList).map String.ofList

theorem cutAt_nil (separator : Char) : cutAt separator [] = [[]] := rfl

theorem cutAt_cons_self (separator : Char) (s : List Char) :
    cutAt separator (separator :: s) = [] :: cutAt separator s := by
  simp [cutAt]

/-- Cutting leaves at least one piece. -/
theorem cutAt_ne_nil (separator : Char) (s : List Char) : cutAt separator s ≠ [] := by
  cases s with
  | nil => simp [cutAt]
  | cons c r =>
    simp only [cutAt, List.foldr_cons]
    split
    · simp
    · split <;> simp

/-! ## Line ends -/

/-- One character of a pass that drops each carriage return before a line feed;
    `state.1` tells that a carriage return was read and not yet written, and
    `state.2` is what was written, the last character first. -/
def lineEndStep (state : Bool × List Char) (c : Char) : Bool × List Char :=
  let (held, out) := state
  if c = '\r' then (true, if held then '\r' :: out else out)
  else if held && c ≠ '\n' then (false, c :: '\r' :: out)
  else (false, c :: out)

/-- What a pass over line ends has written when the text is over. -/
def lineEndsDone (state : Bool × List Char) : List Char :=
  let (held, out) := state
  (if held then '\r' :: out else out).reverse

/-- A text without the carriage returns that stand before a line feed. -/
def foldLineEnds (s : List Char) : List Char :=
  lineEndsDone (s.foldl lineEndStep (false, []))

def outputLines (s : String) : List String :=
  (cutAt '\n' (foldLineEnds s.toList)).map String.ofList

/-- One pass over a text file that reads every carriage return, with the line
    feed after it if there is one, as a line feed; `fed` tells that the last
    character read was such a carriage return. -/
def universalLineEnds (s : List Char) : List Char :=
  let step := fun (state : Bool × List Char) c =>
    let (fed, out) := state
    if c = '\r' then (true, '\n' :: out)
    else if c = '\n' && fed then (false, out)
    else (false, c :: out)
  (s.foldl step (false, [])).2.reverse

def startsWith (s start : String) : Bool := start.toList.isPrefixOf s.toList

def holds (s : String) (c : Char) : Bool := s.toList.contains c

def holdsText (s part : List Char) : Bool :=
  part.isPrefixOf s || match s with
    | [] => false
    | _ :: rest => holdsText rest part

end SourceCheck.Text
