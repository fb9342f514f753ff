import SourceCheck.StandIn.Shell.Numeral
import SourceCheck.StandIn.Shell.World

/-! # Conditions

    Conditions about texts, numbers and files, as they are written in the words of
    a command.  An operator on one word is taken for a word itself where an
    operator between two words follows it; an "and" binds closer than an "or".
-/

namespace SourceCheck.Shell

open SourceCheck

/-- Why a condition has no answer. -/
inductive ConditionFault where
  | bracket
  | parenthesis
  /-- The word after an operator is missing. -/
  | operand (op : String)
  /-- A word stands where the condition is over. -/
  | trailing (word : String)
  | notNumber (word : String)
  deriving DecidableEq, Repr

def ConditionFault.message : ConditionFault → String
  | .bracket => "missing ]"
  | .parenthesis => "closing paren expected"
  | .operand op => op ++ ": argument expected"
  | .trailing word => word ++ ": unexpected operator"
  | .notNumber word => "Illegal number: " ++ word

/-! ## Words of a condition -/

inductive ConditionWord where
  | ending
  | text
  /-- An operator on the word after it. -/
  | unary (op : String)
  /-- An operator on the words around it. -/
  | binary (op : String)
  | negation
  | both
  | either
  | opening
  | closing
  deriving DecidableEq, Repr

def unaryOperators : List String := [
  "-r", "-w", "-x", "-e", "-f", "-d", "-c", "-b", "-p", "-u", "-g", "-k", "-s", "-t", "-z", "-n",
  "-h", "-O", "-G", "-L", "-S"]

def binaryOperators : List String := [
  "=", "!=", "<", ">", "-eq", "-ne", "-ge", "-gt", "-le", "-lt", "-nt", "-ot", "-ef"]

def conditionWord : List String → ConditionWord
  | [] => .ending
  | word :: rest =>
    if unaryOperators.contains word then
      let isText := match rest with
        | [] => true
        | [_] => false
        | next :: _ => binaryOperators.contains next
      if isText then .text else .unary word
    else if binaryOperators.contains word then .binary word
    else if word = "!" then .negation
    else if word = "-a" then .both
    else if word = "-o" then .either
    else if word = "(" ∧ rest ≠ [] then .opening
    else if word = ")" then .closing
    else .text

/-! ## Simple conditions -/

def hasModeBit (bit : Nat) : Entry → Bool
  | .file _ mode => mode / bit % 2 == 1
  | _ => false

def decideEntry (fs : FileSystem) (op : String) (e : Entry) : Bool :=
  if op = "-f" then e.isFile
  else if op = "-d" then e.isDirectory
  else if op = "-r" then fs.allows .read e
  else if op = "-w" then fs.allows .write e
  else if op = "-x" then fs.mayRun e
  else if op = "-u" then hasModeBit 0o4000 e
  else if op = "-g" then hasModeBit 0o2000 e
  else if op = "-k" then hasModeBit 0o1000 e
  else if op = "-s" then
    match e with
    | .file content _ => !content.isEmpty
    | .device _ => false
    | _ => true
  else if op = "-c" then
    match e with
    | .device _ => true
    | _ => false
  else !(op == "-b" || op == "-p" || op == "-S")

def conditionNumber (word : String) : Except ConditionFault Int :=
  match integer? false word with
  | some n => .ok n
  | none => .error (.notNumber word)

def decideUnary (w : World) (op word : String) : Except ConditionFault Bool :=
  if op = "-n" then .ok !word.isEmpty
  else if op = "-z" then .ok word.isEmpty
  else if op = "-t" then (conditionNumber word).map fun _ => false
  else if op = "-L" ∨ op = "-h" then
    match w.linkPlaceOf word with
    | .ok ⟨_, some (.link _)⟩ => .ok true
    | _ => .ok false
  else match w.stat word with
    | .error _ => .ok false
    | .ok e => .ok (decideEntry w.machine.files op e)

def compareNumbers (op : String) (a b : Int) : Bool :=
  if op = "-eq" then a == b
  else if op = "-ne" then a != b
  else if op = "-lt" then a < b
  else if op = "-le" then a ≤ b
  else if op = "-gt" then b < a
  else b ≤ a

/-- A comparison of the files at two paths, both of which must be there. -/
def compareFiles (w : World) (op a b : String) : Bool :=
  match w.placeOf a, w.placeOf b with
  | .ok ⟨p, some _⟩, .ok ⟨q, some _⟩ =>
    if op = "-nt" then w.changedAt q < w.changedAt p
    else if op = "-ot" then w.changedAt p < w.changedAt q
    else p == q
  | _, _ => false

def decideBinary (w : World) (a op b : String) : Except ConditionFault Bool :=
  if op = "=" then .ok (a == b)
  else if op = "!=" then .ok (a != b)
  else if op = "<" then .ok (a != b && inOrder a.toList b.toList)
  else if op = ">" then .ok (a != b && inOrder b.toList a.toList)
  else if op = "-nt" ∨ op = "-ot" ∨ op = "-ef" then .ok (compareFiles w op a b)
  else do return compareNumbers op (← conditionNumber a) (← conditionNumber b)

/-! ## Joined conditions

    Each function answers for the words from the one whose kind it is told, and
    gives back the words from the last one it used. -/

/-- The answer to a part of a condition, and the words from its last one. -/
abbrev Answer := Except ConditionFault (Bool × List String)

mutual

def decideAny (w : World) : Nat → ConditionWord → List String → Answer
  | 0, _, words => .ok (false, words)
  | fuel + 1, kind, words => do
    let (a, words) ← decideAll w fuel kind words
    if conditionWord (words.drop 1) = .either then
      let words := words.drop 2
      let (b, words) ← decideAny w fuel (conditionWord words) words
      return (a || b, words)
    else return (a, words)

def decideAll (w : World) : Nat → ConditionWord → List String → Answer
  | 0, _, words => .ok (false, words)
  | fuel + 1, kind, words => do
    let (a, words) ← decideOne w fuel kind words
    if conditionWord (words.drop 1) = .both then
      let words := words.drop 2
      let (b, words) ← decideAll w fuel (conditionWord words) words
      return (a && b, words)
    else return (a, words)

def decideOne (w : World) : Nat → ConditionWord → List String → Answer
  | 0, _, words => .ok (false, words)
  | fuel + 1, kind, words =>
    match kind with
    | .negation =>
      let next := conditionWord (words.drop 1)
      (decideOne w fuel next (if next = .ending then words else words.drop 1)).map
        fun (a, words) => (!a, words)
    | .ending => .ok (false, words)
    | .opening =>
      let inner := words.drop 1
      if conditionWord inner = .closing then .ok (false, inner)
      else do
        let (a, words) ← decideAny w fuel (conditionWord inner) inner
        if conditionWord (words.drop 1) = .closing then return (a, words.drop 1)
        else throw .parenthesis
    | .unary op =>
      match words with
      | _ :: word :: rest => (decideUnary w op word).map (·, word :: rest)
      | _ => .error (.operand op)
    | _ =>
      match words, conditionWord (words.drop 1) with
      | a :: _ :: b :: rest, .binary op => (decideBinary w a op b).map (·, b :: rest)
      | _, .binary op => .error (.operand op)
      | a :: rest, _ => .ok (!a.isEmpty, a :: rest)
      | [], _ => .ok (false, [])

end

def decideWhole (w : World) (kind : ConditionWord) (words : List String) :
    Except ConditionFault Bool := do
  let (a, last) ← decideAny w (10 * words.length + 10) kind words
  match last with
  | word :: _ :: _ => throw (.trailing word)
  | _ => return a

/-- Whether the answer to a condition differs from what is given.  Of three words,
    one in the middle that is an operator is always taken as such; of several
    negations in front only one counts. -/
def decideFrom (w : World) : Nat → Bool → List String → Except ConditionFault Bool
  | 0, negated, _ => .ok negated
  | fuel + 1, negated, words =>
    let isBinary := match words with
      | [_, op, _] => binaryOperators.contains op
      | _ => false
    let answer := fun kind words => (decideWhole w kind words).map (· != negated)
    if isBinary then answer .text words
    else if words.length = 3 ∨ words.length = 4 then
      if words.head? = some "(" ∧ words.getLast? = some ")" then
        let inner := (words.drop 1).dropLast
        answer (conditionWord inner) inner
      else if words.head? = some "!" then decideFrom w fuel true (words.drop 1)
      else answer (conditionWord words) words
    else answer (conditionWord words) words

/-- The answer to a condition; without words it does not hold. -/
def decideWords (w : World) (words : List String) : Except ConditionFault Bool :=
  decideFrom w 3 false words

end SourceCheck.Shell
