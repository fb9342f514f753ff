import SourceCheck.StandIn.Utility.Options

/-! # What utilities read

    A utility reads files, or the standard input where a hyphen stands or no file
    is named.  Most go through what they read line by line.
-/

namespace SourceCheck.Utility

open SourceCheck SourceCheck.Text SourceCheck.Shell

def readSource (path : String) (w : World) : Except SystemError (List Char) × World :=
  if path = "-" then
    let (s, w) := w.readAll
    (.ok s, w)
  else ((w.readFile path).map String.toList, w)

/-- Something is done with the text of each file in turn; those that cannot be read
    are complained about by `refuse` and left out. -/
def forEachOr (refuse : String → SystemError → World → World)
    (act : String → List Char → World → World) : List String → World → World
  | [], w => w
  | path :: rest, w =>
    let (content, w) := readSource path w
    let w := match content with
      | .ok s => act path s w
      | .error e => refuse path e w
    forEachOr refuse act rest w

/-- The texts of some files; those that cannot be read are complained about and
    left out. -/
def readEach (name : String) : List String → World → List (String × List Char) × World
  | [], w => ([], w)
  | path :: rest, w =>
    let (content, w) := readSource path w
    let (here, w) := match content with
      | .ok s => ([(path, s)], w)
      | .error e => ([], complainFile name path e w)
    let (more, w) := readEach name rest w
    (here ++ more, w)

/-- The files of a utility, or the standard input if none are named. -/
def filesOr (files : List String) : List String := if files.isEmpty then ["-"] else files

/-- The texts of the files of a utility; the status tells whether all could be
    read. -/
def readInputs (name : String) (files : List String) (w : World) :
    List (String × List Char) × World :=
  readEach name (filesOr files) (w.withStatus 0)

def readWhole (name : String) (files : List String) (w : World) : List Char × World :=
  let (inputs, w) := readInputs name files w
  ((inputs.map (·.2)).flatten, w)

/-- Pieces of a text, each up to an end mark and with it if it has one. -/
def piecesOf (ending : Char) (s : List Char) : List (List Char) :=
  let pieces := cutAt ending s
  let ended := pieces.dropLast.map (· ++ [ending])
  match pieces.getLast? with
  | some [] | none => ended
  | some last => ended ++ [last]

/-- The lines of a text, each with its line feed if it has one. -/
def fullLines (s : List Char) : List (List Char) := piecesOf '\n' s

/-- The pieces of a text without their end marks. -/
def endedBy (ending : Char) (s : List Char) : List (List Char) :=
  (piecesOf ending s).map fun l => if l.getLast? == some ending then l.dropLast else l

/-- The lines of a text without their line feeds. -/
def plainLines (s : List Char) : List (List Char) := endedBy '\n' s

/-- Writes lines, each with a line feed. -/
def putLines (lines : List (List Char)) (w : World) : World := put (lines.flatMap (· ++ ['\n'])) w

/-- A line without its line feed, and the line feed if it has one. -/
def splitEnd (line : List Char) : List Char × List Char :=
  if line.getLast? == some '\n' then (line.dropLast, ['\n']) else (line, [])

def isBlank (c : Char) : Bool := c == ' ' || c == '\t'

def isSpace (c : Char) : Bool := c == ' ' || (9 ≤ c.toNat && c.toNat ≤ 13)

/-- A number filled up with blanks in front. -/
def padLeft (width : Nat) (s : List Char) : List Char :=
  List.replicate (width - s.length) ' ' ++ s

/-- A text filled up with blanks behind. -/
def padRight (width : Nat) (s : List Char) : List Char :=
  s ++ List.replicate (width - s.length) ' '

def digits (n : Nat) : List Char := (Number.natText n).toList

/-- A letter of ASCII in lower case. -/
def toSmall (c : Char) : Char :=
  if 'A' ≤ c && c ≤ 'Z' then Char.ofNat (c.toNat + 0x20) else c

/-- A letter of ASCII in upper case. -/
def toCapital (c : Char) : Char :=
  if 'a' ≤ c && c ≤ 'z' then Char.ofNat (c.toNat - 0x20) else c

/-- The number that hexadecimal digits write. -/
def hexadecimalValue (ds : List Char) : Nat :=
  ds.foldl (fun n c => 16 * n + (Char.toNat (toSmall c) - (if isDigitChar c then 0x30 else 0x57))) 0

def isHexadecimal (c : Char) : Bool := isDigitChar c || ('a' ≤ toSmall c && toSmall c ≤ 'f')

/-- The words of a text, with blank space between them. -/
def wordsOf (s : List Char) : List (List Char) :=
  (s.splitOnP isSpace).filter (!·.isEmpty)

def isContinuation (c : Char) : Bool := 0x80 ≤ c.toNat && c.toNat < 0xC0

end SourceCheck.Utility
