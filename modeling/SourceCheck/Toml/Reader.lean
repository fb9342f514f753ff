import SourceCheck.Text.Alphanumeric
import SourceCheck.Toml.Scalar
import SourceCheck.Toml.Table

/-! # Reading a document

    A document is a sequence of statements, one a line: a key with its value, the
    header of a table, or the header of a table in an array of tables.  It makes
    one table.
-/

namespace SourceCheck.Toml

open SourceCheck.Text SourceCheck.Number

/-! ## Keys -/

def isBareKeyChar (c : Char) : Bool := isAsciiAlphanumeric c || c == '-' || c == '_'

def readKeyPart (s : List Char) : Except Fault (String × List Char) :=
  match s with
  | '\'' :: rest => readLiteral ['\''] isControl rest
  | '"' :: rest => readBasic false rest
  | c :: _ =>
    if isBareKeyChar c then
      .ok (String.ofList (s.takeWhile isBareKeyChar), s.dropWhile isBareKeyChar)
    else faultAt .keyStart s
  | [] => faultAt .keyStart []

/-- A dotted key; `parts` are those read before, the last one first, and `fuel`
    bounds their number. -/
def readKeyWith : Nat → Key → List Char → Except Fault (Key × List Char)
  | 0, _, s => faultAt .keyStart s
  | fuel + 1, parts, s =>
    match readKeyPart s with
    | .error e => .error e
    | .ok (part, rest) =>
      match skipGaps rest with
      | '.' :: rest => readKeyWith fuel (part :: parts) (skipGaps rest)
      | rest => .ok ((part :: parts).reverse, rest)

def readKey (s : List Char) : Except Fault (Key × List Char) := readKeyWith (s.length + 1) [] s

/-- A key with the equals sign and the blanks after it. -/
def readKeyAndSign (s : List Char) : Except Fault (Key × List Char) :=
  match readKey s with
  | .error e => .error e
  | .ok (key, '=' :: rest) => .ok (key, skipGaps rest)
  | .ok (_, rest) => faultAt .equalsSign rest

/-! ## Values -/

def readBool (s : List Char) : Option (Value × List Char) :=
  match after? "true".toList s, after? "false".toList s with
  | some rest, _ => some (.bool true, rest)
  | none, some rest => some (.bool false, rest)
  | none, none => none

def readString (s : List Char) : Option (Except Fault (String × List Char)) :=
  match s with
  | '"' :: '"' :: '"' :: rest => some (readLines '"' rest)
  | '"' :: rest => some (readBasic false rest)
  | '\'' :: '\'' :: '\'' :: rest => some (readLines '\'' rest)
  | '\'' :: rest => some (readLiteral ['\''] isControl rest)
  | _ => none

def readScalar (s : List Char) : Except Fault (Value × List Char) :=
  -- the order matters: a date starts like a number and is tried before it
  match readString s with
  | some read => read.map fun (t, rest) => (.text t, rest)
  | none =>
    match readBool s with
    | some found => .ok found
    | none =>
      match readMoment s with
      | some read => read
      | none =>
        match readBasedInt s with
        | some found => .ok found
        | none =>
          match readDecimal s with
          | some read => read
          | none =>
            match readSpecial s with
            | some found => .ok found
            | none => faultAt .value s

/-- The value has parts, which are complete once it is read. -/
def isContainer : Value → Bool
  | .list _ => true
  | .map _ => true
  | _ => false

mutual

/-- A value; `fuel` bounds the number of steps. -/
def readValue : Nat → List Char → Except Fault (Value × List Char)
  | 0, s => faultAt .value s
  | fuel + 1, s =>
    match s with
    | '[' :: rest =>
      match skipComments rest with
      | .error e => .error e
      | .ok (']' :: rest) => .ok (.list [], rest)
      | .ok rest => readItems fuel [] rest
    | '\x7b' :: rest =>
      -- an inline table may be empty but has no trailing comma
      match skipGaps rest with
      | '\x7d' :: rest => .ok (.map [], rest)
      | rest => readPairs fuel [] .none rest
    | _ => readScalar s

/-- The items of an array up to its closing bracket; `items` are those read
    before, the last one first. -/
def readItems : Nat → List Value → List Char → Except Fault (Value × List Char)
  | 0, _, s => faultAt .openArray s
  | fuel + 1, items, s =>
    match readValue fuel s with
    | .error e => .error e
    | .ok (v, rest) =>
      match skipComments rest with
      | .error e => .error e
      | .ok (']' :: rest) => .ok (.list (v :: items).reverse, rest)
      | .ok (',' :: rest) =>
        -- a comma may stand in front of the bracket that closes an array
        match skipComments rest with
        | .error e => .error e
        | .ok (']' :: rest) => .ok (.list (v :: items).reverse, rest)
        | .ok rest => readItems fuel (v :: items) rest
      | .ok rest => faultAt .openArray rest

/-- The members of an inline table up to its closing brace. -/
def readPairs : Nat → Members → Marks → List Char → Except Fault (Value × List Char)
  | 0, _, _, s => faultAt .openInlineTable s
  | fuel + 1, ms, marks, s =>
    match readKeyAndSign s with
    | .error e => .error e
    | .ok (key, rest) =>
      match readValue fuel rest with
      | .error e => .error e
      | .ok (v, rest) =>
        let part := key.getLast?.getD ""
        -- a value that is complete cannot be extended, and neither can a table of one line
        if marks.isComplete key then faultAt (.immutable key) rest
        else if (changeTable false some key.dropLast ms).isNone then faultAt .overwrite rest
        else match addValue false key.dropLast part v ms with
          | none => faultAt (.inlineKey part) rest
          | some ms =>
            match skipGaps rest with
            | '\x7d' :: rest => .ok (.map ms, rest)
            | ',' :: rest =>
              readPairs fuel ms (if isContainer v then marks.finish key else marks) (skipGaps rest)
            | rest => faultAt .openInlineTable rest

end

/-! ## Statements -/

/-- What a document has made so far. -/
structure Progress where
  /-- The table of the document. -/
  members : Members
  /-- What is remembered about keys. -/
  marks : Marks
  header : Key

/-- The header of a table, after its opening bracket. -/
def readTableHeader (p : Progress) (s : List Char) : Except Fault (Progress × List Char) :=
  match readKey (skipGaps s) with
  | .error e => .error e
  | .ok (key, rest) =>
    -- a table is opened by its header once only
    if p.marks.isDeclared key || p.marks.isComplete key then faultAt (.declaredTwice key) rest
    else match openTable key p.members with
      | none => faultAt .overwrite rest
      | some ms =>
        match rest with
        | ']' :: after => .ok (⟨ms, p.marks.declare key, key⟩, after)
        | _ => faultAt .tableEnd rest

/-- The header of a table in an array of tables, after its opening brackets. -/
def readArrayHeader (p : Progress) (s : List Char) : Except Fault (Progress × List Char) :=
  match readKey (skipGaps s) with
  | .error e => .error e
  | .ok (key, rest) =>
    if p.marks.isComplete key then faultAt (.immutable key) rest
    else match appendTable key p.members with
      | none => faultAt .overwrite rest
      | some ms =>
        match rest with
        -- a new table of the array starts with nothing declared below it
        | ']' :: ']' :: after => .ok (⟨ms, (p.marks.forget key).declare key, key⟩, after)
        | _ => faultAt .arrayEnd rest

/-- The tables that a dotted key passes through, below the last header. -/
def passed (header key : Key) : List Key :=
  (List.range (key.length - 1)).map fun i => header ++ key.take (i + 1)

/-- Remembers the tables that a dotted key passes through. -/
def deferPassed (marks : Marks) (keys : List Key) : Marks :=
  keys.foldl Marks.defer marks

def readPair (p : Progress) (s : List Char) : Except Fault (Progress × List Char) :=
  match readKeyAndSign s with
  | .error e => .error e
  | .ok (key, rest) =>
    match readValue (2 * rest.length + 2) rest with
    | .error e => .error e
    | .ok (v, rest) =>
      let parent := p.header ++ key.dropLast
      let keys := passed p.header key
      -- dotted keys must not reach into a table that has a header of its own
      match keys.find? p.marks.isDeclared with
      | some declared => faultAt (.redefined declared) rest
      | none =>
        let marks := deferPassed p.marks keys
        if marks.isComplete parent then faultAt (.immutable parent) rest
        else match addValue true parent (key.getLast?.getD "") v p.members with
          | none => faultAt .overwrite rest
          | some ms =>
            -- arrays and inline tables cannot be extended later
            let marks := if isContainer v then marks.finish (p.header ++ key) else marks
            .ok (⟨ms, marks, p.header⟩, rest)

/-- The statement at the start of a line, or nothing if the line holds none. -/
def readStatement (p : Progress) (s : List Char) : Except Fault (Progress × List Char) :=
  match s with
  | '[' :: '[' :: rest =>
    -- what the last table deferred is settled once a header follows
    (readArrayHeader { p with marks := p.marks.settle } rest).map fun (p, rest) => (p, skipGaps rest)
  | '[' :: rest =>
    (readTableHeader { p with marks := p.marks.settle } rest).map fun (p, rest) => (p, skipGaps rest)
  | '#' :: _ => .ok (p, s)
  | c :: _ =>
    if isBareKeyChar c || c == '"' || c == '\'' then
      (readPair p s).map fun (p, rest) => (p, skipGaps rest)
    else faultAt .statement s
  | [] => .ok (p, [])

/-- The statements of a document, line by line; `fuel` bounds their number. -/
def readStatements : Nat → Progress → List Char → Except Fault Members
  | 0, p, _ => .ok p.members
  | fuel + 1, p, s =>
    match skipGaps s with
    | [] => .ok p.members
    | '\n' :: rest => readStatements fuel p rest
    | s =>
      match readStatement p s with
      | .error e => .error e
      | .ok (p, rest) =>
        match skipComment rest with
        | .error e => .error e
        | .ok [] => .ok p.members
        | .ok ('\n' :: rest) => readStatements fuel p rest
        -- two statements on one line are refused
        | .ok rest => faultAt .afterStatement rest

/-! ## Documents -/

/-- Why a text is no document, with the place shown. -/
inductive ReadError where
  /-- The text breaks a rule of the format. -/
  | malformed (message : String)
  /-- The text holds an integer with more digits than are read. -/
  | tooLong (digits : Nat)
  deriving DecidableEq, Repr

def ReadError.message : ReadError → String
  | .malformed message => message
  | .tooLong digits => tooLongMessage digits

/-- The table that a document makes. -/
def read (s : String) : Except ReadError Members :=
  let document := foldLineEnds s.toList
  match readStatements (document.length + 1) ⟨[], .none, []⟩ document with
  | .ok ms => .ok ms
  | .error (.tooLong digits) => .error (.tooLong digits)
  | .error (.malformed cause left) =>
    .error (.malformed (cause.message ++ " (at " ++ placeText document left ++ ")"))

end SourceCheck.Toml
