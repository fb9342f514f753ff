import SourceCheck.StandIn.Awk.Syntax
import SourceCheck.StandIn.Awk.Token
import SourceCheck.Number.Reading
import SourceCheck.StandIn.Regex.Reader
import SourceCheck.StandIn.Shell.Numeral

/-! # Reading programs that process records

    Operators from the loosest to the tightest: the choice, alternatives, conditions
    that must both hold, membership, matches, comparisons, texts put together, sums,
    products, signs, what a command writes, powers, counting up and down, and fields.
    An assignment may stand wherever its target does.
-/

namespace SourceCheck.Awk

open SourceCheck SourceCheck.Number SourceCheck.Shell

/-! ## Readers -/

/-- What is wrong with a program. -/
inductive Fault where
  | atLine (line : Nat) (message : String)
  | character (line : Nat) (c : Char)
  deriving Repr

/-- The wording of a fault; the name of the file may stand before the line. -/
def Fault.wording (file : Option String) : Fault → String
  | .atLine line message =>
    (match file with
      | some f => f ++ ": "
      | none => "") ++ "line " ++ natText line ++ ": " ++ message
  | .character line c =>
    natText line ++ ": unexpected character '" ++ String.ofList [c] ++ "'"

/-- Where a reader stands. -/
structure Reading where
  token : Token
  line : Nat
  rest : List Char
  restLine : Nat
  parameters : List String
  inFunction : Bool
  /-- A rule for records is read, in which the next one may be asked for. -/
  inRule : Bool
  loops : Nat
  braces : Nat
  deriving Inhabited

/-- What reads a part of a program. -/
abbrev Reads (α : Type) := StateT Reading (Except Fault) α

def Reading.advance (r : Reading) : Reading :=
  let (s, joined) := skipBlanks r.rest
  let (t, rest) := tokenAt s
  let line := r.restLine + joined
  let lines := ((s.take (s.length - rest.length)).filter (· == '\n')).length
  { r with token := t, line := line, rest := rest, restLine := line + lines }

namespace Reads

def advance : Reads Unit := modify Reading.advance

def token : Reads Token := return (← get).token

/-- The token is none that can stand here. -/
def refuse {α : Type} : Reads α := do
  let r ← get
  let near := String.ofList r.token.shown
  match r.token with
  | .unknown c => throw (.character r.line c)
  | .unclosed s =>
    throw (.atLine r.line ("runaway string constant " ++ String.ofList (s.take 11) ++ " ..."))
  | .stop =>
    if r.braces = 0 then throw (.atLine r.line ("syntax error at or near " ++ near))
    else throw (.atLine r.line "missing \x7d near end of file")
  | _ => throw (.atLine r.line ("syntax error at or near " ++ near))

/-- Something that is no matter of tokens is wrong on the line. -/
def object {α : Type} (message : String) : Reads α := do
  throw (.atLine (← get).line message)

def isMark (m : String) : Reads Bool := return (← token) == .mark m

def isWord (s : String) : Reads Bool := return (← token) == .word s

def passMark (m : String) : Reads Bool := do
  if ← isMark m then
    advance
    return true
  else return false

def expect (m : String) : Reads Unit := do
  if !(← passMark m) then refuse

def expectClosing : Reads Unit := do
  if !(← passMark ")") then
    let r ← get
    match r.token with
    | .newline | .mark ";" | .mark "\x7d" =>
      object ("missing ) near " ++ String.ofList r.token.shown)
    | _ => refuse

/-- Ends of lines are passed; `fuel` bounds them. -/
def skipLines : Nat → Reads Unit
  | 0 => return
  | fuel + 1 => do
    if (← token) == .newline then
      advance
      skipLines fuel

def newlines : Reads Unit := do skipLines (← get).rest.length.succ

def resolve (name : String) : Reads Name := do
  match (← get).parameters.idxOf? name with
  | some n => return .parameter n
  | none => return .global name

end Reads

open Reads

/-! ## Regular expressions -/

def regexWording : Regex.Fault → String
  | .className | .bracket | .range | .letterName => "bad class -- [], [^] or ["
  | .group => "missing ')'"
  | .closing => "missing '('"
  | .size => "resource exhaustion -- regular expression too large"
  | _ => "missing operand"

def readRegex (s : List Char) : Except String Regex :=
  match Regex.read .records (Regex.toLetters false s) with
  | .ok r => .ok r
  | .error f =>
    .error ("regular expression compile failed (" ++ regexWording f ++ ")\n" ++ String.ofList s)

/-- The regular expression at a slash, which may have been read with the character
    after it. -/
def regexLiteral (before : List Char) : Reads Expr := do
  let r ← get
  match slashedText false (before ++ r.rest) with
  | none =>
    let shown := '/' :: (before ++ r.rest).takeWhile (· != '\n')
    object ("runaway regular expression " ++ String.ofList (shown.take 11) ++ " ...")
  | some (s, after) =>
    match readRegex s with
    | .ok e =>
      set { r with rest := after }
      advance
      return .regex e
    | .error message => object message

/-! ## Expressions -/

def decimalNumber (ds : List Char) : Double := (readReal ds).value

/-- The operation of an assignment; nothing if the mark is none. -/
def assignment? : Token → Option (Option Operation)
  | .mark "=" => some none
  | .mark "+=" => some (some .add)
  | .mark "-=" => some (some .subtract)
  | .mark "*=" => some (some .multiply)
  | .mark "/=" => some (some .divide)
  | .mark "%=" => some (some .remainder)
  | .mark "^=" => some (some .power)
  | _ => none

def relation? : Token → Option Relation
  | .mark "<" => some .less
  | .mark "<=" => some .atMost
  | .mark "==" => some .equal
  | .mark "!=" => some .different
  | .mark ">" => some .greater
  | .mark ">=" => some .atLeast
  | _ => none

/-- The operation of a mark between the parts of a sum or of a product. -/
def operation? (isProduct : Bool) : Token → Option Operation
  | .mark "+" => if isProduct then none else some .add
  | .mark "-" => if isProduct then none else some .subtract
  | .mark "*" => if isProduct then some .multiply else none
  | .mark "/" => if isProduct then some .divide else none
  | .mark "%" => if isProduct then some .remainder else none
  | _ => none

/-- An expression can start with the token, and be put behind another one. -/
def startsPart : Token → Bool
  | .number _ | .text _ | .name _ _ | .builtin _ => true
  | .mark m => m == "(" || m == "$" || m == "!" || m == "++" || m == "--"
  | .word s => s == "getline"
  | _ => false

def startsTarget : Token → Bool
  | .name _ isCalled => !isCalled
  | .mark m => m == "$"
  | _ => false

/-- The target in an expression, which may stand in parentheses if it is a field. -/
def targetOf? : Expr → Option Expr
  | .grouped (.field e) => some (.field e)
  | e => if e.isTarget then some e else none

/-- How many arguments a function takes that is always there, at least and at most. -/
def arity (name : String) : Nat × Nat :=
  if name = "length" then (0, 1)
  else if name = "index" ∨ name = "match" ∨ name = "atan2" then (2, 2)
  else if name = "substr" ∨ name = "split" ∨ name = "sub" ∨ name = "gsub" then (2, 3)
  else if name = "sprintf" then (1, 255)
  else if name = "rand" ∨ name = "systime" then (0, 0)
  else if name = "srand" ∨ name = "fflush" then (0, 1)
  else if name = "strftime" then (0, 3)
  else (1, 1)

mutual

/-- An expression; `plain` tells that a greater-than sign or a bar compares or reads
    here and does not say where output goes.  `fuel` bounds the depth. -/
def readExpr (fuel : Nat) (plain : Bool) : Reads Expr :=
  match fuel with
  | 0 => refuse
  | fuel + 1 => do
    let e ← readEither fuel plain
    if ← passMark "?" then
      newlines
      let yes ← readExpr fuel plain
      newlines
      expect ":"
      newlines
      let no ← readExpr fuel plain
      return .choose e yes no
    else return e

def readEither (fuel : Nat) (plain : Bool) : Reads Expr :=
  match fuel with
  | 0 => refuse
  | fuel + 1 => do readEitherFrom fuel plain (← readBoth fuel plain)

def readEitherFrom (fuel : Nat) (plain : Bool) (e : Expr) : Reads Expr :=
  match fuel with
  | 0 => refuse
  | fuel + 1 => do
    if ← passMark "||" then
      newlines
      readEitherFrom fuel plain (.either e (← readBoth fuel plain))
    else return e

def readBoth (fuel : Nat) (plain : Bool) : Reads Expr :=
  match fuel with
  | 0 => refuse
  | fuel + 1 => do readBothFrom fuel plain (← readContains fuel plain)

def readBothFrom (fuel : Nat) (plain : Bool) (e : Expr) : Reads Expr :=
  match fuel with
  | 0 => refuse
  | fuel + 1 => do
    if ← passMark "&&" then
      newlines
      readBothFrom fuel plain (.both e (← readContains fuel plain))
    else return e

def readContains (fuel : Nat) (plain : Bool) : Reads Expr :=
  match fuel with
  | 0 => refuse
  | fuel + 1 => do readContainsFrom fuel (← readMatches fuel plain)

def readContainsFrom (fuel : Nat) (e : Expr) : Reads Expr :=
  match fuel with
  | 0 => refuse
  | fuel + 1 => do
    if ← isWord "in" then
      advance
      match ← token with
      | .name s _ =>
        advance
        readContainsFrom fuel (.contains [e] (← resolve s))
      | _ => refuse
    else return e

def readMatches (fuel : Nat) (plain : Bool) : Reads Expr :=
  match fuel with
  | 0 => refuse
  | fuel + 1 => do readMatchesFrom fuel plain (← readComparison fuel plain)

def readMatchesFrom (fuel : Nat) (plain : Bool) (e : Expr) : Reads Expr :=
  match fuel with
  | 0 => refuse
  | fuel + 1 => do
    if ← passMark "~" then
      readMatchesFrom fuel plain (.matches false e (← readComparison fuel plain))
    else if ← passMark "!~" then
      readMatchesFrom fuel plain (.matches true e (← readComparison fuel plain))
    else return e

def readComparison (fuel : Nat) (plain : Bool) : Reads Expr :=
  match fuel with
  | 0 => refuse
  | fuel + 1 => do readComparisonFrom fuel plain (← readAssigned fuel plain)

def readComparisonFrom (fuel : Nat) (plain : Bool) (e : Expr) : Reads Expr :=
  match fuel with
  | 0 => refuse
  | fuel + 1 => do
    match relation? (← token) with
    | some rel =>
      if rel = .greater && !plain then return e
      else
        advance
        readComparisonFrom fuel plain (.compare rel e (← readAssigned fuel plain))
    | none => return e

def readAssigned (fuel : Nat) (plain : Bool) : Reads Expr :=
  match fuel with
  | 0 => refuse
  | fuel + 1 => do
    let e ← readJoinedFrom fuel plain (← readSum fuel plain false)
    match assignment? (← token), targetOf? e with
    | some op, some target =>
      advance
      newlines
      return .assign target op (← readExpr fuel plain)
    | some _, none => refuse
    | none, _ => return e

def readJoinedFrom (fuel : Nat) (plain : Bool) (e : Expr) : Reads Expr :=
  match fuel with
  | 0 => refuse
  | fuel + 1 => do
    if startsPart (← token) then
      readJoinedFrom fuel plain (.join e (← readSum fuel plain false))
    else return e

def readSum (fuel : Nat) (plain isProduct : Bool) : Reads Expr :=
  match fuel with
  | 0 => refuse
  | fuel + 1 => do
    let e ← if isProduct then readSigned fuel plain else readSum fuel plain true
    readSumFrom fuel plain isProduct e

def readSumFrom (fuel : Nat) (plain isProduct : Bool) (e : Expr) : Reads Expr :=
  match fuel with
  | 0 => refuse
  | fuel + 1 => do
    match operation? isProduct (← token) with
    | some op =>
      advance
      let f ← if isProduct then readSigned fuel plain else readSum fuel plain true
      readSumFrom fuel plain isProduct (.operate op e f)
    | none => return e

def readSigned (fuel : Nat) (plain : Bool) : Reads Expr :=
  match fuel with
  | 0 => refuse
  | fuel + 1 => do
    if ← passMark "!" then return .not (← readSigned fuel plain)
    else if ← passMark "-" then return .negate (← readSigned fuel plain)
    else if ← passMark "+" then return .plus (← readSigned fuel plain)
    else readPipedFrom fuel plain (← readPower fuel)

def readPipedFrom (fuel : Nat) (plain : Bool) (e : Expr) : Reads Expr :=
  match fuel with
  | 0 => refuse
  | fuel + 1 => do
    let r ← get
    if plain && r.token == .mark "|" && r.advance.token == .word "getline" then
      advance
      advance
      if startsTarget (← token) then
        readPipedFrom fuel plain (.readCommand (some (← readTarget fuel)) e)
      else readPipedFrom fuel plain (.readCommand none e)
    else return e

def readPower (fuel : Nat) : Reads Expr :=
  match fuel with
  | 0 => refuse
  | fuel + 1 => do
    let e ← readCounted fuel
    if ← passMark "^" then return .operate .power e (← readExponent fuel)
    else return e

def readExponent (fuel : Nat) : Reads Expr :=
  match fuel with
  | 0 => refuse
  | fuel + 1 => do
    if ← passMark "!" then return .not (← readExponent fuel)
    else if ← passMark "-" then return .negate (← readExponent fuel)
    else if ← passMark "+" then return .plus (← readExponent fuel)
    else readPower fuel

/-- An expression that may count up or down after its value is taken. -/
def readCounted (fuel : Nat) : Reads Expr :=
  match fuel with
  | 0 => refuse
  | fuel + 1 => do
    let e ← readPrimary fuel
    match targetOf? e with
    | none => return e
    | some target =>
      if ← passMark "++" then return .step target true false
      else if ← passMark "--" then return .step target false false
      else return e

def readTarget (fuel : Nat) : Reads Expr :=
  match fuel with
  | 0 => refuse
  | fuel + 1 => do
    let e ← readPrimary fuel
    match targetOf? e with
    | some target => return target
    | none => refuse

/-- Expressions between commas; ends of lines may stand after a comma. -/
def readList (fuel : Nat) (plain : Bool) : Reads (List Expr) :=
  match fuel with
  | 0 => refuse
  | fuel + 1 => do
    let e ← readExpr fuel plain
    if ← passMark "," then
      newlines
      return e :: (← readList fuel plain)
    else return [e]

/-- The arguments of a function after the opening parenthesis. -/
def readArguments (fuel : Nat) : Reads (List Expr) :=
  match fuel with
  | 0 => refuse
  | fuel + 1 => do
    if ← passMark ")" then return []
    else
      let es ← readList fuel true
      expectClosing
      return es

def readPrimary (fuel : Nat) : Reads Expr :=
  match fuel with
  | 0 => refuse
  | fuel + 1 => do
    match ← token with
    | .number ds =>
      advance
      return .number (decimalNumber ds)
    | .text s =>
      advance
      return .text s
    | .mark "/" => regexLiteral []
    | .mark "/=" => regexLiteral ['=']
    | .mark "(" =>
      advance
      let es ← readList fuel true
      expectClosing
      match es with
      | [e] => return .grouped e
      | es =>
        if ← isWord "in" then
          advance
          match ← token with
          | .name s _ =>
            advance
            return .contains es (← resolve s)
          | _ => refuse
        else refuse
    | .mark "$" =>
      advance
      match ← token with
      | .mark "++" | .mark "--" => return .field (← readPrimary fuel)
      | .mark "-" | .mark "+" | .mark "!" => return .field (← readSigned fuel true)
      | _ => return .field (← readPrimary fuel)
    | .mark "++" =>
      advance
      return .step (← readTarget fuel) true true
    | .mark "--" =>
      advance
      return .step (← readTarget fuel) false true
    | .mark "-" | .mark "+" | .mark "!" => readSigned fuel true
    | .word "getline" =>
      advance
      let target ← if startsTarget (← token) then some <$> readTarget fuel else pure none
      if ← passMark "<" then return .readFile target (← readPower fuel)
      else return .readRecord target
    | .builtin f =>
      advance
      let args? ← if ← passMark "(" then some <$> readArguments fuel else pure none
      match args? with
      | none => if f = "length" then return .builtin f [] else refuse
      | some args =>
        let (least, most) := arity f
        if args.length < least || most < args.length then
          object ("wrong number of arguments in call to " ++ f)
        else return .builtin f args
    | .name s isCalled =>
      advance
      if isCalled && !(← get).parameters.contains s then
        advance
        return .call s (← readArguments fuel)
      else
        let n ← resolve s
        if ← passMark "[" then
          let keys ← readList fuel true
          expect "]"
          return .element n keys
        else return .variable n
    | _ => refuse

end

def readWhole (plain : Bool) : Reads Expr := do
  let r ← get
  readExpr (40 * r.rest.length + 100) plain

def readWholeList (plain : Bool) : Reads (List Expr) := do
  let r ← get
  readList (40 * r.rest.length + 100) plain

/-! ## Statements -/

/-- The end of a statement: a semicolon, with all ends of lines after it, or the end
    of a line, or a closing brace that is not passed. -/
def endStatement : Reads Unit := do
  match ← token with
  | .mark ";" | .newline =>
    advance
    newlines
  | .mark "\x7d" => return
  | _ => refuse

/-- The values of a statement that prints: all in parentheses of their own if these
    are followed by the end or by where the output goes. -/
def readPrinted : Reads (List Expr) := do
  let ends : Token → Bool := fun t => match t with
    | .newline | .mark ";" | .mark "\x7d" | .mark ">" | .mark ">>" | .mark "|" => true
    | _ => false
  let r ← get
  if ends r.token then return []
  else
    let inParentheses : Except Fault (List Expr × Reading) :=
      if r.token == .mark "(" then
        (do
          advance
          let es ← if ← isMark ")" then pure [] else readWholeList true
          expect ")"
          return es : Reads (List Expr)).run r
      else .error (.atLine 0 "")
    match inParentheses with
    | .ok (es, after) =>
      if ends after.token then
        set after
        return es
      else readWholeList false
    | .error _ => readWholeList false

def readOutput : Reads Output := do
  if ← passMark ">>" then return .append (← readWhole true)
  else if ← passMark ">" then return .file (← readWhole true)
  else if ← passMark "|" then return .command (← readWhole true)
  else return .standard

/-- The name of a table and its keys, if a statement is about one element. -/
def readDeleted : Reads Statement := do
  match ← token with
  | .name s _ =>
    advance
    let n ← resolve s
    if ← passMark "[" then
      let keys ← readWholeList true
      expect "]"
      return .delete n (some keys)
    else return .delete n none
  | _ => refuse

/-- A condition in parentheses, and the ends of lines after it. -/
def readCondition : Reads Expr := do
  expect "("
  let e ← readWhole true
  expectClosing
  newlines
  return e

/-- The loop variable and the table of a loop over keys, if that is what follows the
    opening parenthesis. -/
def readKeys? : Reads (Option (Name × Name)) := do
  let r ← get
  let r2 := r.advance
  let r3 := r2.advance
  let r4 := r3.advance
  match r.token, r2.token, r3.token, r4.token with
  | .name k _, .word "in", .name t _, .mark ")" =>
    set r4.advance
    newlines
    return some (← resolve k, ← resolve t)
  | _, _, _, _ => return none

def inLoop {α : Type} (body : Reads α) : Reads α := do
  modify fun r => { r with loops := r.loops + 1 }
  let a ← body
  modify fun r => { r with loops := r.loops - 1 }
  return a

mutual

/-- A statement; `fuel` bounds the depth. -/
def readStatement (fuel : Nat) : Reads Statement :=
  match fuel with
  | 0 => refuse
  | fuel + 1 => do
    match ← token with
    | .mark "\x7b" => return .block (← readBlock fuel)
    | .mark ";" =>
      endStatement
      return .block []
    | .mark "\x7d" => return .block []
    | .word "if" =>
      advance
      let c ← readCondition
      let yes ← readStatement fuel
      if ← isWord "else" then
        advance
        newlines
        return .branch c yes (some (← readStatement fuel))
      else return .branch c yes none
    | .word "while" =>
      advance
      expect "("
      let c ← readWhole true
      expectClosing
      if ← passMark ";" then
        newlines
        return .whileLoop c (.block [])
      else
        newlines
        return .whileLoop c (← inLoop (readStatement fuel))
    | .word "do" =>
      advance
      newlines
      let body ← inLoop (readStatement fuel)
      if !(← isWord "while") then refuse
      advance
      expect "("
      let c ← readWhole true
      expectClosing
      endStatement
      return .doLoop body c
    | .word "for" =>
      advance
      expect "("
      match ← readKeys? with
      | some (k, t) => return .forKeys k t (← inLoop (readStatement fuel))
      | none =>
        let start ← if ← isMark ";" then pure none
          else some <$> Statement.expr <$> readWhole true
        expect ";"
        newlines
        let c ← if ← isMark ";" then pure none else some <$> readWhole true
        expect ";"
        newlines
        let step ← if ← isMark ")" then pure none
          else some <$> Statement.expr <$> readWhole true
        expectClosing
        newlines
        return .forLoop start c step (← inLoop (readStatement fuel))
    | _ =>
      let s ← readSimple
      endStatement
      return s

def readSimple : Reads Statement := do
  let r ← get
  let isOver := fun (t : Token) => t == .newline || t == .mark ";" || t == .mark "\x7d"
  match r.token with
  | .word "print" =>
    advance
    let es ← readPrinted
    return .print es (← readOutput)
  | .word "printf" =>
    advance
    let es ← readPrinted
    if es.isEmpty then object "no arguments in call to printf"
    return .format es (← readOutput)
  | .word "break" =>
    if r.loops = 0 then object "break statement outside of loop"
    advance
    return .leave
  | .word "continue" =>
    if r.loops = 0 then object "continue statement outside of loop"
    advance
    return .again
  | .word "next" =>
    if !r.inRule then object "improper use of next"
    advance
    return .next
  | .word "nextfile" =>
    if !r.inRule then object "improper use of nextfile"
    advance
    return .nextFile
  | .word "exit" =>
    advance
    if isOver (← token) then return .exit none
    else return .exit (some (← readWhole true))
  | .word "return" =>
    if !r.inFunction then object "return outside function body"
    advance
    if isOver (← token) then return .back none
    else return .back (some (← readWhole true))
  | .word "delete" =>
    advance
    readDeleted
  | _ => return .expr (← readWhole true)

/-- Statements in braces, and the ends of lines after them. -/
def readBlock (fuel : Nat) : Reads (List Statement) :=
  match fuel with
  | 0 => refuse
  | fuel + 1 => do
    modify fun r => { r with braces := r.braces + 1 }
    expect "\x7b"
    newlines
    let body ← readBody fuel
    modify fun r => { r with braces := r.braces - 1 }
    expect "\x7d"
    newlines
    return body

def readBody (fuel : Nat) : Reads (List Statement) :=
  match fuel with
  | 0 => refuse
  | fuel + 1 => do
    if ← isMark "\x7d" then return []
    else
      let s ← readStatement fuel
      return s :: (← readBody fuel)

end

/-- Statements in braces, with as much depth as the text can have. -/
def readAction : Reads (List Statement) := do
  let r ← get
  readBlock (2 * r.rest.length + 10)

/-! ## Programs -/

/-- The names of parameters up to the closing parenthesis; `fuel` bounds them. -/
def readParameters : Nat → Reads (List String)
  | 0 => refuse
  | fuel + 1 => do
    match ← token with
    | .name s _ =>
      advance
      if ← passMark "," then
        newlines
        return s :: (← readParameters fuel)
      else
        expect ")"
        return [s]
    | _ => refuse

def readFunction (known : List Function) : Reads Function := do
  match ← token with
  | .name f _ =>
    if known.any (·.name == f) then object ("redefinition of " ++ f)
    advance
    expect "("
    let parameters ← if ← passMark ")" then pure [] else readParameters (← get).rest.length.succ
    newlines
    modify fun r => { r with parameters := parameters, inFunction := true }
    let body ← readAction
    modify fun r => { r with parameters := [], inFunction := false }
    return ⟨f, parameters, body⟩
  | _ => refuse

def readRule : Reads Rule := do
  match ← token with
  | .word "BEGIN" =>
    advance
    return ⟨.first, some (← readAction)⟩
  | .word "END" =>
    advance
    return ⟨.last, some (← readAction)⟩
  | .mark "\x7b" =>
    modify fun r => { r with inRule := true }
    let action ← readAction
    modify fun r => { r with inRule := false }
    return ⟨.all, some action⟩
  | _ =>
    let start ← readWhole true
    let pattern ← if ← passMark "," then
        newlines
        Pattern.range start <$> readWhole true
      else pure (.holds start)
    if ← isMark "\x7b" then
      modify fun r => { r with inRule := true }
      let action ← readAction
      modify fun r => { r with inRule := false }
      return ⟨pattern, some action⟩
    else
      match ← token with
      | .newline | .mark ";" | .stop => return ⟨pattern, none⟩
      | _ => refuse

/-- Rules and functions up to the end, added to others; `fuel` bounds them. -/
def readItems : Nat → Program → Reads Program
  | 0, _ => refuse
  | fuel + 1, p => do
    match ← token with
    | .stop => return p
    | .newline | .mark ";" =>
      advance
      readItems fuel p
    | .word "function" =>
      advance
      let f ← readFunction p.functions
      readItems fuel { p with functions := p.functions ++ [f] }
    | _ =>
      let rule ← readRule
      readItems fuel { p with rules := p.rules ++ [rule] }

/-! ## Calls -/

mutual

/-- The functions of the program that an expression calls, with the number of
    arguments. -/
def Expr.calls : Expr → List (String × Nat)
  | .number _ | .text _ | .regex _ | .variable _ => []
  | .field e | .not e | .negate e | .plus e | .grouped e | .step e _ _ => e.calls
  | .element _ keys | .contains keys _ => callsOfAll keys
  | .assign a _ b | .both a b | .either a b | .operate _ a b | .compare _ a b | .join a b
  | .matches _ a b => a.calls ++ b.calls
  | .choose a b c => a.calls ++ b.calls ++ c.calls
  | .call f args => (f, args.length) :: callsOfAll args
  | .builtin _ args => callsOfAll args
  | .readRecord none => []
  | .readRecord (some e) => e.calls
  | .readFile none f => f.calls
  | .readFile (some e) f => e.calls ++ f.calls
  | .readCommand none c => c.calls
  | .readCommand (some e) c => e.calls ++ c.calls

def callsOfAll : List Expr → List (String × Nat)
  | [] => []
  | e :: rest => e.calls ++ callsOfAll rest

end

/-- The functions that are called to find out where output goes. -/
def Output.calls : Output → List (String × Nat)
  | .standard => []
  | .file e | .append e | .command e => e.calls

mutual

def Statement.calls : Statement → List (String × Nat)
  | .expr e => e.calls
  | .print values sink | .format values sink => callsOfAll values ++ sink.calls
  | .branch c a none => c.calls ++ a.calls
  | .branch c a (some b) => c.calls ++ a.calls ++ b.calls
  | .whileLoop c b => c.calls ++ b.calls
  | .doLoop b c => b.calls ++ c.calls
  | .forLoop a c s b =>
    (match a with
      | some a => a.calls
      | none => []) ++ (match c with
      | some c => c.calls
      | none => []) ++ (match s with
      | some s => s.calls
      | none => []) ++ b.calls
  | .forKeys _ _ b => b.calls
  | .block body => callsOfBody body
  | .leave | .again | .next | .nextFile | .exit none | .back none | .delete _ none => []
  | .exit (some e) | .back (some e) => e.calls
  | .delete _ (some keys) => callsOfAll keys

def callsOfBody : List Statement → List (String × Nat)
  | [] => []
  | s :: rest => s.calls ++ callsOfBody rest

end

def Pattern.calls : Pattern → List (String × Nat)
  | .holds e => e.calls
  | .range a b => a.calls ++ b.calls
  | _ => []

def Program.calls (p : Program) : List (String × Nat) :=
  (p.rules.flatMap fun r => r.pattern.calls ++ callsOfBody (r.action.getD []))
    ++ p.functions.flatMap fun f => callsOfBody f.body

/-- The program that a text writes; each function it calls has to be there and to take
    as many arguments. -/
def readProgram (s : List Char) : Except Fault Program := do
  let start : Reading := ⟨.newline, 1, s ++ ['\n'], 1, [], false, false, 0, 0⟩
  let (p, r) ← (readItems (s.length + 2) ⟨[], []⟩).run start.advance
  match p.calls.find? fun (f, _) => !p.functions.any (·.name == f) with
  | some (f, _) => throw (.atLine r.line ("function " ++ f ++ " never defined"))
  | none => pure ()
  match p.calls.find? fun (f, n) =>
      p.functions.any fun g => g.name == f && g.parameters.length < n with
  | some (f, _) => throw (.atLine r.line ("too many arguments in call to " ++ f))
  | none => return p

end SourceCheck.Awk
