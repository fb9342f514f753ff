import SourceCheck.StandIn.Regex.Syntax
import SourceCheck.Text.DecimalDigit
import SourceCheck.Text.Radix

/-! # Reading regular expressions

    There are two ways to write an expression: in the basic one the operators for
    grouping, choice and counting stand after a backslash, in the extended one they
    stand alone.  Programs differ in what they make of operators that have nothing to
    work on.
-/

namespace SourceCheck.Regex

open SourceCheck SourceCheck.Text

/-- What is wrong with an expression. -/
inductive Fault where
  | className
  | backslash
  | reference
  | bracket
  | group
  | brace
  | count
  /-- A range ends before it starts. -/
  | range
  /-- Nothing stands before an operator. -/
  | operand
  /-- A count is too great. -/
  | size
  | closing
  /-- A single letter of a set has a name that is not known. -/
  | letterName
  deriving DecidableEq, Repr

def Fault.wording : Fault → String
  | .className => "Invalid character class name"
  | .backslash => "Trailing backslash"
  | .reference => "Invalid back reference"
  | .bracket => "Unmatched [, [^, [:, [., or [="
  | .group => "Unmatched ( or \\("
  | .brace => "Unmatched \\\x7b"
  | .count => "Invalid content of \\\x7b\\\x7d"
  | .range => "Invalid range end"
  | .operand => "Invalid preceding regular expression"
  | .size => "Regular expression too big"
  | .closing => "Unmatched ) or \\)"
  | .letterName => "Invalid collation character"

/-- What is made of an operator with nothing before it. -/
inductive Lonely where
  | itself
  | nothing
  | refused
  deriving DecidableEq, Repr

/-- A way to write expressions. -/
structure Dialect where
  /-- Operators stand alone. -/
  extended : Bool
  /-- What is made of a star with nothing before it. -/
  lonelyStar : Lonely
  /-- What is made of a count with nothing before it. -/
  lonelyCount : Lonely
  /-- Two repetitions in a row are refused. -/
  refusesTwice : Bool
  /-- A count that makes no sense stands for itself. -/
  keepsBraces : Bool
  hasCounts : Bool
  /-- The end of a group that was not opened stands for itself. -/
  keepsClosing : Bool
  /-- A backslash makes any letter plain, in sets too, or writes a control character. -/
  plainEscapes : Bool
  deriving Repr

def Dialect.basicSearch : Dialect := ⟨false, .itself, .itself, false, false, true, false, false⟩

def Dialect.extendedSearch : Dialect := ⟨true, .nothing, .nothing, false, true, true, true, false⟩

def Dialect.basicEdit : Dialect := ⟨false, .itself, .refused, true, false, true, false, false⟩

def Dialect.extendedEdit : Dialect := ⟨true, .refused, .refused, false, false, true, false, false⟩

def Dialect.records : Dialect := ⟨true, .refused, .refused, false, false, false, true, true⟩

/-! ## Plain escapes -/

def controlLetter? (c : Char) : Option Char :=
  let codes : List (Char × Nat) :=
    [('a', 7), ('b', 8), ('t', 9), ('n', 10), ('v', 11), ('f', 12), ('r', 13)]
  (codes.lookup c).map Char.ofNat

/-- The letter that is meant after a backslash, and what follows: a control character,
    the letter of an octal number, or the letter itself. -/
def plainEscape (c : Char) (rest : List Char) : Char × List Char :=
  let isOctal := fun (d : Char) => '0' ≤ d && d ≤ '7'
  if isOctal c then
    let ds := ((c :: rest).take 3).takeWhile isOctal
    (octetLetter (octalValue ds % 256),
      (c :: rest).drop ds.length)
  else ((controlLetter? c).getD c, rest)

/-! ## Tokens -/

/-- A token of an expression. -/
inductive Token where
  | letter (c : Char)
  | any
  | bracket
  /-- A set with a letter of its own. -/
  | kind (negated : Bool) (k : Kind)
  | opens
  | closes
  | choice
  | star
  | plus
  | question
  | openBrace
  | closeBrace
  | place (a : Anchor)
  | again (n : Nat)
  | backslash
  | stop
  deriving DecidableEq, Repr

/-- The meaning of a letter after a backslash. -/
def escapedToken (d : Dialect) (c : Char) : Token :=
  let bare := !d.extended
  if c = '|' then if bare then .choice else .letter c
  else if c = '(' then if bare then .opens else .letter c
  else if c = ')' then if bare then .closes else .letter c
  else if c = '+' then if bare then .plus else .letter c
  else if c = '?' then if bare then .question else .letter c
  else if c = '\x7b' then if bare && d.hasCounts then .openBrace else .letter c
  else if c = '\x7d' then if bare && d.hasCounts then .closeBrace else .letter c
  -- a digit means what the group of that number matched
  else if '1' ≤ c && c ≤ '9' then .again (c.toNat - 0x30)
  else if c = '<' then .place .wordStart
  else if c = '>' then .place .wordEnd
  else if c = 'b' then .place .wordEdge
  else if c = 'B' then .place .noEdge
  else if c = 'w' then .kind false .word
  else if c = 'W' then .kind true .word
  else if c = 's' then .kind false .space
  else if c = 'S' then .kind true .space
  else if c = '\x60' then .place .textStart
  else if c = '\'' then .place .textEnd
  else .letter c

def isBeforeEnd (d : Dialect) : List Char → Bool
  | [] => true
  | '\\' :: '|' :: _ | '\\' :: ')' :: _ => !d.extended
  | _ => false

/-- The token at the start of a text, and what follows; `starts` tells that an
    expression starts here. -/
def nextToken (d : Dialect) (starts : Bool) : List Char → Token × List Char
  | [] => (.stop, [])
  | ['\\'] => (.backslash, [])
  | '\\' :: c :: rest =>
    if d.plainEscapes then
      let (meant, rest) := plainEscape c rest
      (.letter meant, rest)
    else (escapedToken d c, rest)
  | c :: rest =>
    let bare := fun (t : Token) => if d.extended then t else .letter c
    let t : Token :=
      if c = '.' then .any
      else if c = '[' then .bracket
      else if c = '*' then .star
      -- the anchors are letters in the middle of a basic expression
      else if c = '^' then if d.extended || starts then .place .lineStart else .letter c
      else if c = '$' then if d.extended || isBeforeEnd d rest then .place .lineEnd else .letter c
      else if c = '|' then bare .choice
      else if c = '(' then bare .opens
      else if c = ')' then bare .closes
      else if c = '+' then bare .plus
      else if c = '?' then bare .question
      else if c = '\x7b' then if d.hasCounts then bare .openBrace else .letter c
      else if c = '\x7d' then if d.hasCounts then bare .closeBrace else .letter c
      else .letter c
    (t, rest)

/-! ## Sets -/

/-- A name between two marks inside a set, and what follows the closing mark. -/
def bracketName (mark : Char) : List Char → List Char → Option (List Char × List Char)
  | name, c :: ']' :: rest =>
    if c = mark then some (name.reverse, rest) else bracketName mark (c :: name) (']' :: rest)
  | name, c :: rest => bracketName mark (c :: name) rest
  | _, [] => none

/-- An element of a set. -/
inductive Element where
  | one (c : Char)
  | kind (k : Kind)

def readElement (d : Dialect) : List Char → Except Fault (Element × List Char)
  | [] => .error .bracket
  | '[' :: ':' :: rest =>
    match bracketName ':' [] rest with
    | none => .ok (.one '[', ':' :: rest)
    | some (name, after) =>
      match Kind.named? (String.ofList name) with
      | some k => .ok (.kind k, after)
      | none => .error .className
  | '[' :: m :: rest =>
    -- only collating elements of one letter are known
    if m = '.' ∨ m = '=' then
      match bracketName m [] rest with
      | none => .error .bracket
      | some ([c], after) => .ok (.one c, after)
      | some (_, _) => .error .letterName
    else .ok (.one '[', m :: rest)
  | '\\' :: c :: rest =>
    if d.plainEscapes then
      let (meant, rest) := plainEscape c rest
      .ok (.one meant, rest)
    else .ok (.one '\\', c :: rest)
  | c :: rest => .ok (.one c, rest)

/-- The members of a set up to its end; `first` tells that none came before, and
    `fuel` bounds them. -/
def readMembers (d : Dialect) : Nat → Bool → List Char → Except Fault (List Member × List Char)
  | 0, _, _ => .error .bracket
  | fuel + 1, first, s =>
    match s with
    | [] => .error .bracket
    | c :: rest =>
      -- the bracket that comes first is a member itself
      if c = ']' && !first then .ok ([], rest)
      else do
        let (e, rest) ← readElement d (c :: rest)
        match e with
        | .kind k =>
          let (more, rest) ← readMembers d fuel false rest
          return (.kind k :: more, rest)
        | .one low =>
          match rest with
          | '-' :: next :: after =>
            -- a dash in front of the closing bracket stands for itself
            if next = ']' then
              let (more, rest) ← readMembers d fuel false rest
              return (.range low low :: more, rest)
            else
              let (e, rest) ← readElement d (next :: after)
              match e with
              | .kind _ => throw .range
              | .one high =>
                if high < low then throw .range
                let (more, rest) ← readMembers d fuel false rest
                return (.range low high :: more, rest)
          | rest =>
            let (more, rest) ← readMembers d fuel false rest
            return (.range low low :: more, rest)

/-- A set after its opening bracket, and what follows. -/
def readSet (d : Dialect) (s : List Char) : Except Fault (Regex × List Char) := do
  let (negated, s) := match s with
    | '^' :: rest => (true, rest)
    | s => (false, s)
  let (members, rest) ← readMembers d (s.length + 1) true s
  return (.oneOf negated members, rest)

/-! ## Counts -/

/-- What a count says. -/
inductive Count where
  | times (least : Nat) (most : Option Nat)
  /-- Nothing that makes sense; the text may have ended within it. -/
  | invalid (ended : Bool)
  | empty

def greatestCount : Nat := 32767

def countDigits (s : List Char) : Option Nat × List Char :=
  let ds := s.takeWhile isAsciiDigit
  (if ds.isEmpty then none else some (digitsValue ds), s.drop ds.length)

def countEnd (d : Dialect) : List Char → Option (List Char)
  | '\\' :: '\x7d' :: rest => if d.extended then none else some rest
  | '\x7d' :: rest => if d.extended then some rest else none
  | _ => none

/-- The text ends within a count: no end of one follows. -/
def endsWithin (d : Dialect) : List Char → Bool
  | [] => true
  | c :: rest => (countEnd d (c :: rest)).isNone && c != ',' && endsWithin d rest

/-- A count after its opening brace, and what follows. -/
def readCount (d : Dialect) (s : List Char) : Count × List Char :=
  let (first, rest) := countDigits s
  match countEnd d rest, rest with
  | some after, _ =>
    match first with
    | some n => (.times n (some n), after)
    | none => (.empty, after)
  | none, ',' :: rest =>
    let (second, rest) := countDigits rest
    match countEnd d rest with
    | some after => (.times (first.getD 0) second, after)
    | none => (.invalid (endsWithin d rest), rest)
  | none, rest => (.invalid (endsWithin d rest), rest)

/-! ## Expressions -/

/-- Where a reader stands: the token it looks at, the text after it, the number of
    groups that were opened, and the groups that are complete. -/
structure Reading where
  token : Token
  rest : List Char
  groups : Nat
  complete : List Nat

def Reading.advance (d : Dialect) (starts : Bool) (r : Reading) : Reading :=
  let (t, rest) := nextToken d starts r.rest
  { r with token := t, rest := rest }

/-- An operator behind an expression. -/
inductive Operator where
  | none
  | times (least : Nat) (most : Option Nat) (after : Reading)

/-- The operator the reader looks at, or the reader with a brace that stands for
    itself. -/
def readOperator (d : Dialect) (r : Reading) : Except Fault (Operator × Reading) :=
  let found := fun (least : Nat) (most : Option Nat) =>
    (Except.ok (.times least most (r.advance d false), r) : Except Fault (Operator × Reading))
  match r.token with
  | .star => found 0 none
  | .plus => found 1 none
  | .question => found 0 (some 1)
  | .openBrace =>
    match readCount d r.rest with
    | (.times least most, rest) =>
      if most.any (· < least) then .error .count
      else if greatestCount < most.getD least then .error .size
      else .ok (.times least most (({ r with rest := rest }).advance d false), r)
    | (.empty, _) => .error .count
    | (.invalid ended, _) =>
      if d.keepsBraces then .ok (.none, { r with token := .letter '\x7b' })
      else if ended then .error .brace else .error .count
  | _ => .ok (.none, r)

/-- An expression with all operators after it; `fuel` bounds them. -/
def readRepeats (d : Dialect) : Nat → Regex → Reading → Except Fault (Regex × Reading)
  | 0, e, r => .ok (e, r)
  | fuel + 1, e, r => do
    match ← readOperator d r with
    | (.none, r) => return (e, r)
    | (.times least most after, _) =>
      if d.refusesTwice && (after.token = .star || after.token = .openBrace) then throw .operand
      else readRepeats d fuel (.loop least most e) after

mutual

/-- An expression that may be a choice, up to its end or, inside groups, to the end
    of one; `fuel` bounds how many parts it has. -/
def readChoice (d : Dialect) (fuel : Nat) (nested : Bool) (r : Reading) :
    Except Fault (Regex × Reading) :=
  match fuel with
  | 0 => .error .size
  | fuel + 1 => do
    let (e, r) ← readRow d fuel nested r
    if r.token = .choice then
      let (more, r) ← readChoice d fuel nested (r.advance d true)
      return (.choice e more, r)
    else return (e, r)

def readRow (d : Dialect) (fuel : Nat) (nested : Bool) (r : Reading) :
    Except Fault (Regex × Reading) :=
  match fuel with
  | 0 => .error .size
  | fuel + 1 =>
    if r.token = .stop || r.token = .choice || (nested && r.token = .closes) then .ok (.empty, r)
    else do
      let (e, r) ← readPart d fuel r
      let (more, r) ← readRow d fuel nested r
      return (if more = .empty then e else if e = .empty then more else .row e more, r)

def readPart (d : Dialect) (fuel : Nat) (r : Reading) : Except Fault (Regex × Reading) :=
  match fuel with
  | 0 => .error .size
  | fuel + 1 =>
    let single := fun (e : Regex) => readRepeats d r.rest.length e (r.advance d false)
    -- an operator without an operand means something else in each dialect
    let lonely := fun (how : Lonely) (c : Char) =>
      match how with
      | .itself => single (.letter c)
      | .nothing => readRepeats d (r.rest.length + 1) .empty r
      | .refused => .error .operand
    match r.token with
    | .letter c => single (.letter c)
    | .any => single .any
    | .kind negated k => single (.oneOf negated [.kind k])
    | .bracket => do
      let (e, rest) ← readSet d r.rest
      readRepeats d r.rest.length e (({ r with rest := rest }).advance d false)
    | .opens => do
      let n := r.groups + 1
      let inside := ({ r with groups := n }).advance d true
      if inside.token = .closes then
        let closed := { inside with complete := n :: inside.complete }
        readRepeats d r.rest.length (.group n .empty) (closed.advance d false)
      else
        let (e, after) ← readChoice d fuel true inside
        if after.token = .closes then
          let closed := { after with complete := n :: after.complete }
          readRepeats d r.rest.length (.group n e) (closed.advance d false)
        else throw .group
    -- a group can be referred to only behind its closing parenthesis
    | .again n => if r.complete.contains n then single (.again n) else .error .reference
    | .star => lonely d.lonelyStar '*'
    | .plus => lonely d.lonelyStar '+'
    | .question => lonely d.lonelyStar '?'
    | .openBrace => lonely d.lonelyCount '\x7b'
    | .closeBrace => single (.letter '\x7d')
    | .place a =>
      if d.lonelyStar = .nothing then single (.place a) else .ok (.place a, r.advance d false)
    | .closes => if d.keepsClosing then single (.letter ')') else .error .closing
    | .backslash => .error .backslash
    | .choice | .stop => .ok (.empty, r)

end

def read (d : Dialect) (s : List Char) : Except Fault Regex :=
  let (t, rest) := nextToken d true s
  (readChoice d (4 * s.length + 8) false ⟨t, rest, 0, []⟩).map (·.1)

end SourceCheck.Regex
