import SourceCheck.StandIn.Shell.Numeral
import SourceCheck.StandIn.Shell.World

/-! # Arithmetic expressions

    Expressions of integers of 64 bits.  Operators of the same rank are taken from
    left to right; an assignment gives a variable a value and has that value
    itself.  What a choice, an "and" or an "or" leaves out is read, but it has no
    effect and cannot fail.
-/

namespace SourceCheck.Shell

/-! ## Tokens -/

/-- A token of an expression. -/
inductive Operand where
  | number (n : Int)
  | name (s : String)
  | operator (s : String)
  /-- A character that means nothing. -/
  | unknown
  deriving DecidableEq, Repr

def operators : List String := [
  "<<=", ">>=", "<<", ">>", "<=", ">=", "==", "!=", "&&", "||", "+=", "-=", "*=", "/=", "%=",
  "&=", "|=", "^=", "+", "-", "*", "/", "%", "<", ">", "=", "!", "~", "&", "|", "^", "?", ":",
  "(", ")"]

/-- The tokens of an expression up to a character that means nothing; `fuel` bounds
    their number. -/
def operandsWith : Nat → List Char → List Operand
  | 0, _ => []
  | fuel + 1, s =>
    match s with
    | [] => []
    | c :: rest =>
      if c = ' ' ∨ c = '\t' ∨ c = '\n' then operandsWith fuel rest
      else if isDigitChar c then
        let r := readInteger true s
        .number r.value :: operandsWith fuel r.rest
      else if isNameChar c then
        let name := s.takeWhile isNameChar
        .name (String.ofList name) :: operandsWith fuel (s.drop name.length)
      else
        match operators.findSome? fun op => (op.toList.isPrefixOf? s).map fun rest => (op, rest) with
        | some (op, rest) => .operator op :: operandsWith fuel rest
        | none => [.unknown]

def operands (s : List Char) : List Operand := operandsWith (s.length + 1) s

/-! ## Evaluation -/

/-- Why an expression has no value. -/
inductive ArithmeticFault where
  | operand
  | closing
  | colon
  /-- More stands after it. -/
  | trailing
  | byZero
  | tooGreat
  | notNumber (value : String)
  /-- A variable cannot be changed. -/
  | readOnly (name : String)
  deriving DecidableEq, Repr

def ArithmeticFault.message (expression : String) : ArithmeticFault → String
  | .operand => "arithmetic expression: expecting primary: \"" ++ expression ++ "\""
  | .closing => "arithmetic expression: expecting ')': \"" ++ expression ++ "\""
  | .colon => "arithmetic expression: expecting ':': \"" ++ expression ++ "\""
  | .trailing => "arithmetic expression: expecting EOF: \"" ++ expression ++ "\""
  | .byZero => "arithmetic expression: division by zero: \"" ++ expression ++ "\""
  | .tooGreat => ""
  | .notNumber value => "Illegal number: " ++ value
  | .readOnly name => name ++ ": is read only"

/-- The variables of an expression. -/
structure Values where
  values : List (String × String)
  readOnly : List String
  changed : List (String × String)

/-- A value, the variables after it, and the tokens left. -/
abbrev Evaluation := Except ArithmeticFault (Int × Values × List Operand)

def wrapped (n : Int) : Int := n.bmod (Nat.pow 2 64)

def bits (n : Int) : Nat := (n.emod (Nat.pow 2 64)).toNat

/-- The value of a variable as a number; one without a value counts as zero. -/
def numberOfVariable (vs : Values) (name : String) : Except ArithmeticFault Int :=
  match vs.values.lookup name with
  | none => .ok 0
  | some s =>
    match integer? true s with
    | some n => .ok n
    | none => .error (.notNumber s)

def truth (b : Bool) : Int := if b then 1 else 0

/-- The quotient or the remainder of two numbers. -/
def divided (op : String) (a b : Int) : Except ArithmeticFault Int :=
  if b = 0 then .error .byZero
  else if b = -1 ∧ a = -((greatestInteger : Int) + 1) then .error .tooGreat
  else .ok (if op = "/" then a.tdiv b else a.tmod b)

def applyOperator (op : String) (a b : Int) : Except ArithmeticFault Int :=
  if op = "+" then .ok (wrapped (a + b))
  else if op = "-" then .ok (wrapped (a - b))
  else if op = "*" then .ok (wrapped (a * b))
  else if op = "/" ∨ op = "%" then divided op a b
  else if op = "<<" then .ok (wrapped (a * Nat.pow 2 (bits b % 64)))
  else if op = ">>" then .ok (a.fdiv (Nat.pow 2 (bits b % 64)))
  else if op = "<" then .ok (truth (a < b))
  else if op = ">" then .ok (truth (b < a))
  else if op = "<=" then .ok (truth (a ≤ b))
  else if op = ">=" then .ok (truth (b ≤ a))
  else if op = "==" then .ok (truth (a == b))
  else if op = "!=" then .ok (truth (a != b))
  else if op = "&" then .ok (wrapped (Int.ofNat (bits a &&& bits b)))
  else if op = "|" then .ok (wrapped (Int.ofNat (bits a ||| bits b)))
  else .ok (wrapped (Int.ofNat (bits a ^^^ bits b)))

/-- The rank of an operator between two numbers; greater ones bind closer. -/
def rank? (op : String) : Option Nat :=
  [("|", 3), ("^", 4), ("&", 5), ("==", 6), ("!=", 6), ("<", 7), (">", 7), ("<=", 7), (">=", 7),
    ("<<", 8), (">>", 8), ("+", 9), ("-", 9), ("*", 10), ("/", 10), ("%", 10)].lookup op

/-- The assignments, with the operator each applies before. -/
def assignments : List (String × Option String) := [
  ("=", none), ("+=", some "+"), ("-=", some "-"), ("*=", some "*"), ("/=", some "/"),
  ("%=", some "%"), ("<<=", some "<<"), (">>=", some ">>"), ("&=", some "&"), ("|=", some "|"),
  ("^=", some "^")]

def Values.set (vs : Values) (name : String) (n : Int) : Except ArithmeticFault Values :=
  if vs.readOnly.contains name then .error (.readOnly name)
  else
    let entry := (name, Number.intText n)
    .ok { vs with
      values := entry :: vs.values.filter (·.1 != name)
      changed := entry :: vs.changed }

mutual

/-- The value of an expression.  What is `idle` is only read. -/
def evalAssignment : Nat → Bool → Values → List Operand → Evaluation
  | 0, _, _, _ => .error .operand
  | fuel + 1, idle, vs, ts =>
    match ts with
    | .name name :: .operator op :: rest =>
      match assignments.lookup op with
      | some before =>
        match evalAssignment fuel idle vs rest with
        | .error e => .error e
        | .ok (b, vs, rest) =>
          if idle then .ok (b, vs, rest)
          else
            let result : Except ArithmeticFault Int := match before with
              | none => .ok b
              | some op => (numberOfVariable vs name).bind fun a => applyOperator op a b
            result.bind fun n => (vs.set name n).map fun vs => (n, vs, rest)
      | none => evalChoice fuel idle vs ts
    | _ => evalChoice fuel idle vs ts

def evalChoice : Nat → Bool → Values → List Operand → Evaluation
  | 0, _, _, _ => .error .operand
  | fuel + 1, idle, vs, ts =>
    match evalOr fuel idle vs ts with
    | .error e => .error e
    | .ok (c, vs, .operator "?" :: rest) =>
      match evalAssignment fuel (idle || c == 0) vs rest with
      | .error e => .error e
      | .ok (a, vs, .operator ":" :: rest) =>
        match evalChoice fuel (idle || c != 0) vs rest with
        | .error e => .error e
        | .ok (b, vs, rest) => .ok (if c ≠ 0 then a else b, vs, rest)
      | .ok _ => .error .colon
    | .ok r => .ok r

def evalOr : Nat → Bool → Values → List Operand → Evaluation
  | 0, _, _, _ => .error .operand
  | fuel + 1, idle, vs, ts =>
    match evalAnd fuel idle vs ts with
    | .error e => .error e
    | .ok (a, vs, .operator "||" :: rest) =>
      (evalOr fuel (idle || a != 0) vs rest).map fun (b, vs, rest) =>
        (truth (a != 0 || b != 0), vs, rest)
    | .ok r => .ok r

def evalAnd : Nat → Bool → Values → List Operand → Evaluation
  | 0, _, _, _ => .error .operand
  | fuel + 1, idle, vs, ts =>
    match evalRank fuel 3 idle vs ts with
    | .error e => .error e
    | .ok (a, vs, .operator "&&" :: rest) =>
      (evalAnd fuel (idle || a == 0) vs rest).map fun (b, vs, rest) =>
        (truth (a != 0 && b != 0), vs, rest)
    | .ok r => .ok r

def evalRank : Nat → Nat → Bool → Values → List Operand → Evaluation
  | 0, _, _, _, _ => .error .operand
  | fuel + 1, rank, idle, vs, ts =>
    if 10 < rank then evalPrimary fuel idle vs ts
    else match evalRank fuel (rank + 1) idle vs ts with
      | .error e => .error e
      | .ok (a, vs, rest) => evalMore fuel rank a idle vs rest

def evalMore : Nat → Nat → Int → Bool → Values → List Operand → Evaluation
  | 0, _, _, _, _, _ => .error .operand
  | fuel + 1, rank, a, idle, vs, ts =>
    match ts with
    | .operator op :: rest =>
      if rank? op = some rank then
        match evalRank fuel (rank + 1) idle vs rest with
        | .error e => .error e
        | .ok (b, vs, rest) =>
          match if idle then Except.ok b else applyOperator op a b with
          | .error e => .error e
          | .ok n => evalMore fuel rank n idle vs rest
      else .ok (a, vs, ts)
    | _ => .ok (a, vs, ts)

def evalPrimary : Nat → Bool → Values → List Operand → Evaluation
  | 0, _, _, _ => .error .operand
  | fuel + 1, idle, vs, ts =>
    match ts with
    | .operator "-" :: rest =>
      (evalPrimary fuel idle vs rest).map fun (n, vs, rest) => (wrapped (-n), vs, rest)
    | .operator "+" :: rest => evalPrimary fuel idle vs rest
    | .operator "!" :: rest =>
      (evalPrimary fuel idle vs rest).map fun (n, vs, rest) => (truth (n == 0), vs, rest)
    | .operator "~" :: rest =>
      (evalPrimary fuel idle vs rest).map fun (n, vs, rest) => (-n - 1, vs, rest)
    | .operator "(" :: rest =>
      match evalAssignment fuel idle vs rest with
      | .error e => .error e
      | .ok (n, vs, .operator ")" :: rest) => .ok (n, vs, rest)
      | .ok _ => .error .closing
    | .number n :: rest => .ok (n, vs, rest)
    | .name name :: rest =>
      if idle then .ok (0, vs, rest) else (numberOfVariable vs name).map fun n => (n, vs, rest)
    | _ => .error .operand

end

def evaluate (vs : Values) (expression : String) : Except ArithmeticFault (Int × Values) :=
  let ts := operands expression.toList
  match evalAssignment (20 * ts.length + 40) false vs ts with
  | .error e => .error e
  | .ok (n, vs, []) => .ok (n, vs)
  | .ok _ => .error .trailing

end SourceCheck.Shell
