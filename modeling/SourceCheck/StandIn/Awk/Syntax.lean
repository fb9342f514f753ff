import SourceCheck.Number.Arithmetic
import SourceCheck.StandIn.Regex.Syntax

/-! # Programs that process records

    A program is a row of rules, each with a pattern that selects records and an
    action, and of functions.  Variables hold numbers and texts; tables hold them by
    keys.
-/

namespace SourceCheck.Awk

open SourceCheck SourceCheck.Number

/-- Where a variable or a table is found. -/
inductive Name where
  | global (name : String)
  | parameter (n : Nat)
  deriving DecidableEq, Repr, Inhabited

/-- An operation with two numbers. -/
inductive Operation where
  | add
  | subtract
  | multiply
  | divide
  | remainder
  | power
  deriving DecidableEq, Repr

/-- A comparison. -/
inductive Relation where
  | less
  | atMost
  | equal
  | different
  | greater
  | atLeast
  deriving DecidableEq, Repr

inductive Expr where
  | number (x : Double)
  | text (s : List Char)
  | regex (r : Regex)
  | variable (n : Name)
  | field (number : Expr)
  | element (table : Name) (keys : List Expr)
  | assign (target : Expr) (op : Option Operation) (value : Expr)
  | choose (condition yes no : Expr)
  | both (first second : Expr)
  | either (first second : Expr)
  | not (e : Expr)
  | negate (e : Expr)
  | plus (e : Expr)
  | operate (op : Operation) (first second : Expr)
  | compare (rel : Relation) (first second : Expr)
  | join (first second : Expr)
  | matches (negated : Bool) (subject pattern : Expr)
  | contains (keys : List Expr) (table : Name)
  /-- A target counts up or down, before or after its value is taken. -/
  | step (target : Expr) (up before : Bool)
  | call (name : String) (args : List Expr)
  | builtin (name : String) (args : List Expr)
  | readRecord (target : Option Expr)
  | readFile (target : Option Expr) (file : Expr)
  /-- The next record that a command writes is read. -/
  | readCommand (target : Option Expr) (command : Expr)
  | grouped (e : Expr)
  deriving Repr, Inhabited

namespace Expr

def isTarget : Expr → Bool
  | .variable _ | .field _ | .element _ _ => true
  | _ => false

end Expr

/-- Where output goes. -/
inductive Output where
  | standard
  | file (e : Expr)
  | append (e : Expr)
  | command (e : Expr)
  deriving Repr, Inhabited

inductive Statement where
  | expr (e : Expr)
  | print (values : List Expr) (sink : Output)
  | format (values : List Expr) (sink : Output)
  | branch (condition : Expr) (yes : Statement) (no : Option Statement)
  | whileLoop (condition : Expr) (body : Statement)
  /-- Once, and as long as a condition holds. -/
  | doLoop (body : Statement) (condition : Expr)
  | forLoop (start : Option Statement) (condition : Option Expr) (step : Option Statement)
      (body : Statement)
  | forKeys (target : Name) (table : Name) (body : Statement)
  | block (body : List Statement)
  | leave
  /-- The next turn of the loop. -/
  | again
  | next
  | nextFile
  | exit (status : Option Expr)
  | back (value : Option Expr)
  | delete (table : Name) (keys : Option (List Expr))
  deriving Repr, Inhabited

/-- Which records a rule is for. -/
inductive Pattern where
  | first
  | last
  | all
  | holds (e : Expr)
  | range (start stop : Expr)
  deriving Repr, Inhabited

/-- A rule; without an action the record is printed. -/
structure Rule where
  pattern : Pattern
  action : Option (List Statement)
  deriving Repr, Inhabited

structure Function where
  name : String
  parameters : List String
  body : List Statement
  deriving Repr, Inhabited

structure Program where
  rules : List Rule
  functions : List Function
  deriving Repr, Inhabited

/-! ## Parameters that are tables -/

/-- The uses of variables in an expression as tables: by name, or as an argument of a
    function at a place. -/
inductive TableUse where
  /-- The variable is used as a table. -/
  | direct (n : Name)
  | argument (n : Name) (function : String) (place : Nat)
  deriving Repr

mutual

def Expr.uses : Expr → List TableUse
  | .number _ | .text _ | .regex _ | .variable _ => []
  | .field e | .not e | .negate e | .plus e | .grouped e => e.uses
  | .element t keys => .direct t :: usesOfAll keys
  | .assign a _ b | .both a b | .either a b | .operate _ a b | .compare _ a b | .join a b
  | .matches _ a b => a.uses ++ b.uses
  | .choose a b c => a.uses ++ b.uses ++ c.uses
  | .contains keys t => .direct t :: usesOfAll keys
  | .step e _ _ => e.uses
  | .call f args => usesOfArguments f 0 args
  | .builtin name args =>
    (match name, args with
      | "split", _ :: .variable t :: _ => [.direct t]
      | _, _ => []) ++ usesOfAll args
  | .readRecord none => []
  | .readRecord (some e) => e.uses
  | .readFile none f => f.uses
  | .readFile (some e) f => e.uses ++ f.uses
  | .readCommand none c => c.uses
  | .readCommand (some e) c => e.uses ++ c.uses

def usesOfAll : List Expr → List TableUse
  | [] => []
  | e :: rest => e.uses ++ usesOfAll rest

def usesOfArguments (f : String) (place : Nat) : List Expr → List TableUse
  | [] => []
  | e :: rest =>
    (match e with
      | .variable n => [.argument n f place]
      | _ => []) ++ e.uses ++ usesOfArguments f (place + 1) rest

end

def Output.uses : Output → List TableUse
  | .standard => []
  | .file e | .append e | .command e => e.uses

mutual

def Statement.uses : Statement → List TableUse
  | .expr e => e.uses
  | .print values sink | .format values sink => usesOfAll values ++ sink.uses
  | .branch c a none => c.uses ++ a.uses
  | .branch c a (some b) => c.uses ++ a.uses ++ b.uses
  | .whileLoop c b => c.uses ++ b.uses
  | .doLoop b c => b.uses ++ c.uses
  | .forLoop a c s b =>
    (match a with
      | some a => a.uses
      | none => []) ++ (match c with
      | some c => c.uses
      | none => []) ++ (match s with
      | some s => s.uses
      | none => []) ++ b.uses
  | .forKeys _ t b => .direct t :: b.uses
  | .block body => usesOfBody body
  | .leave | .again | .next | .nextFile => []
  | .exit none | .back none => []
  | .exit (some e) | .back (some e) => e.uses
  | .delete t none => [.direct t]
  | .delete t (some keys) => .direct t :: usesOfAll keys

def usesOfBody : List Statement → List TableUse
  | [] => []
  | s :: rest => s.uses ++ usesOfBody rest

end

def Pattern.uses : Pattern → List TableUse
  | .holds e => e.uses
  | .range a b => a.uses ++ b.uses
  | _ => []

/-- Parameters that are tables, each as the name of a function and a place. -/
abbrev TableParameters := List (String × Nat)

/-- One turn of finding the parameters that are tables: those that are used as one, or
    that are handed on as one. -/
def growTables (functions : List (String × List TableUse)) (known : TableParameters) :
    TableParameters :=
  functions.flatMap fun (f, uses) =>
    (uses.filterMap fun u => match u with
      | .direct (.parameter n) => some (f, n)
      | .argument (.parameter n) g place => if known.contains (g, place) then some (f, n) else none
      | _ => none).eraseDups

def Program.tableParameters (p : Program) : TableParameters :=
  let functions := p.functions.map fun f => (f.name, usesOfBody f.body)
  let count := (p.functions.map fun f => f.parameters.length).foldl (· + ·) 0
  (List.range (count + 1)).foldl (fun known _ => growTables functions known) []

def Program.globalTables (p : Program) : List String :=
  let known := p.tableParameters
  let uses := (p.rules.flatMap fun r =>
      r.pattern.uses ++ usesOfBody (r.action.getD [])) ++ p.functions.flatMap fun f => usesOfBody f.body
  (uses.filterMap fun u => match u with
    | .direct (.global n) => some n
    | .argument (.global n) g place => if known.contains (g, place) then some n else none
    | _ => none).eraseDups

end SourceCheck.Awk
