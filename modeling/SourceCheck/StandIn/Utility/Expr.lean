import SourceCheck.StandIn.Regex.Matching
import SourceCheck.StandIn.Regex.Reader
import SourceCheck.StandIn.Shell.Condition
import SourceCheck.StandIn.Utility.Content

/-! # Reckoning with arguments and deciding conditions

    The arguments are the words of an expression.  From the loosest to the tightest
    its operators are: one of two values, both values, comparisons, sums, products and
    matches.  A value that is not asked for is read, but not reckoned.  Conditions are
    those of the shell.
-/

namespace SourceCheck.Utility

open SourceCheck SourceCheck.Number SourceCheck.Shell SourceCheck.Text

namespace Expr

/-! ## Values -/

def integer? (s : String) : Option Int :=
  let (negative, ds) := match s.toList with
    | '-' :: ds => (true, ds)
    | ds => (false, ds)
  if ds.isEmpty || !ds.all isDigitChar then none
  else
    let n : Int := digitsValue ds
    some (if negative then -n else n)

def isNull (s : String) : Bool := s.isEmpty || integer? s == some 0

/-- A fault of an expression. -/
inductive Fault where
  /-- The words make no expression. -/
  | malformed (message : String)
  | other (message : String)

/-- Where a reader of words stands. -/
structure Words where
  all : Array String
  quoted : String → String
  /-- Letters are read as UTF-8. -/
  wide : Bool

/-- A value, and the number of the next word. -/
abbrev Answer := Except Fault (String × Nat)

/-- The words end too soon. -/
def Words.missing {α : Type} (k : Words) (i : Nat) : Except Fault α :=
  .error (.malformed ("missing argument after " ++ k.quoted ((k.all[i - 1]?).getD "")))

def integers (a b : String) : Except Fault (Int × Int) :=
  match integer? a, integer? b with
  | some m, some n => .ok (m, n)
  | _, _ => .error (.other "non-integer argument")

/-! ## Operators -/

/-- The operators of a level, the loosest ones first. -/
def operators : Nat → List String
  | 0 => ["|"]
  | 1 => ["&"]
  | 2 => ["<", "<=", "=", "==", "!=", ">=", ">"]
  | 3 => ["+", "-"]
  | 4 => ["*", "/", "%"]
  | 5 => [":"]
  | _ => []

/-- A comparison: of integers if both values are, otherwise of texts. -/
def compareValues (op a b : String) : Bool :=
  let order : Ordering := match integer? a, integer? b with
    | some m, some n => compare m n
    | _, _ => if a == b then .eq else if inOrder a.toList b.toList then .lt else .gt
  if op = "<" then order == .lt
  else if op = "<=" then order != .gt
  else if op = "=" ∨ op = "==" then order == .eq
  else if op = "!=" then order != .eq
  else if op = ">=" then order != .lt
  else order == .gt

/-- A match of an expression at the start of a text: its numbered part if it has one,
    otherwise how many letters it has. -/
def matchValue (k : Words) (text pattern : String) : Except Fault String :=
  match Regex.read .basicSearch (Regex.toLetters k.wide pattern.toList) with
  | .error f => .error (.other f.wording)
  | .ok r =>
    let subject : Regex.Subject :=
      ⟨(Regex.toLetters k.wide text.toList).toArray, false, false, k.wide⟩
    let found := Regex.matchFrom? subject r 0 subject.size
    if r.groupCount = 0 then .ok (natText ((found.map (·.stop)).getD 0))
    else
      .ok ((found.map fun m => String.ofList (Regex.ofLetters (m.text subject 1))).getD "")

def operate (k : Words) (op a b : String) : Except Fault String :=
  if op = "+" then do
    let (m, n) ← integers a b
    return intText (m + n)
  else if op = "-" then do
    let (m, n) ← integers a b
    return intText (m - n)
  else if op = "*" then do
    let (m, n) ← integers a b
    return intText (m * n)
  else if op = "/" ∨ op = "%" then do
    let (m, n) ← integers a b
    if n = 0 then throw (.other "division by zero")
    return intText (if op = "/" then Int.tdiv m n else Int.tmod m n)
  else if op = ":" then matchValue k a b
  else return (if compareValues op a b then "1" else "0")

def Words.letters (k : Words) (s : String) : List Char := Regex.toLetters k.wide s.toList

def partOf (k : Words) (s start length : String) : String :=
  match integer? start, integer? length with
  | some i, some n =>
    if i ≤ 0 || n ≤ 0 then ""
    else String.ofList (Regex.ofLetters (((k.letters s).drop (i - 1).toNat).take n.toNat))
  | _, _ => ""

/-- The place of the first letter that is among others, counted from one, or zero. -/
def placeOf (k : Words) (s letters : String) : Nat :=
  let among := k.letters letters
  match (k.letters s).findIdx? among.contains with
  | some i => i + 1
  | none => 0

/-! ## Reading -/

mutual

/-- The value of the words from one on, with the operators of a level and tighter ones;
    `live` tells that the value is asked for, and `fuel` bounds the depth. -/
def read (k : Words) (fuel level : Nat) (live : Bool) (i : Nat) : Answer :=
  match fuel with
  | 0 => k.missing i
  | fuel + 1 =>
    if level = 6 then readFunction k fuel live i
    else do
      let (a, i) ← read k fuel (level + 1) live i
      readFrom k fuel level live a i

def readFrom (k : Words) (fuel level : Nat) (live : Bool) (a : String) (i : Nat) : Answer :=
  match fuel with
  | 0 => k.missing i
  | fuel + 1 =>
    match k.all[i]? with
    | none => .ok (a, i)
    | some op =>
      if !(operators level).contains op then .ok (a, i)
      else do
        let isAsked := live && (if level = 0 then isNull a else if level = 1 then !isNull a else true)
        let (b, i) ← read k fuel (level + 1) isAsked (i + 1)
        let value ←
          if level = 0 then pure (if !isNull a then a else if isNull b then "0" else b)
          else if level = 1 then pure (if isNull a || isNull b then "0" else a)
          else if live then operate k op a b
          else pure a
        readFrom k fuel level live value i

/-- A function with its arguments, or a single value. -/
def readFunction (k : Words) (fuel : Nat) (live : Bool) (i : Nat) : Answer :=
  match fuel with
  | 0 => k.missing i
  | fuel + 1 =>
    match k.all[i]? with
    | none => k.missing i
    | some "+" =>
      match k.all[i + 1]? with
      | some s => .ok (s, i + 2)
      | none => k.missing (i + 1)
    | some "length" => do
      let (s, i) ← readFunction k fuel live (i + 1)
      return (natText (k.letters s).length, i)
    | some "match" => do
      let (s, i) ← readFunction k fuel live (i + 1)
      let (pattern, i) ← readFunction k fuel live i
      -- what is not evaluated is read all the same
      if live then return (← matchValue k s pattern, i) else return (s, i)
    | some "index" => do
      let (s, i) ← readFunction k fuel live (i + 1)
      let (letters, i) ← readFunction k fuel live i
      return (natText (placeOf k s letters), i)
    | some "substr" => do
      let (s, i) ← readFunction k fuel live (i + 1)
      let (start, i) ← readFunction k fuel live i
      let (length, i) ← readFunction k fuel live i
      return (partOf k s start length, i)
    | some "(" => do
      let (s, i) ← read k fuel 0 live (i + 1)
      match k.all[i]? with
      | some ")" => return (s, i + 1)
      | some other => throw (.malformed ("expecting ')' instead of " ++ k.quoted other))
      | none =>
        throw (.malformed ("expecting ')' after " ++ k.quoted ((k.all[i - 1]?).getD "")))
    | some ")" => .error (.malformed "unexpected ')'")
    | some s => .ok (s, i + 1)

end

def value (k : Words) : Except Fault String := do
  let (s, i) ← read k (20 * k.all.size + 20) 0 true 0
  match k.all[i]? with
  | none => return s
  | some extra => throw (.malformed ("unexpected argument " ++ k.quoted extra))

end Expr

/-- Writes the value of an expression; the status tells whether it is empty or
    zero. -/
def expr : Utility := fun name args w =>
  let args := if args.head? == some "--" then args.drop 1 else args
  if args.isEmpty then complainUsage 2 name "missing operand" w
  else
    match Expr.value ⟨args.toArray, quotedWord w, usesUtf8 w⟩ with
    | .error (.malformed message) => complainWith 2 name ("syntax error: " ++ message) w
    | .error (.other message) => complainWith 2 name message w
    | .ok s => (w.print (s ++ "\n")).withStatus (if Expr.isNull s then 1 else 0)

/-! ## Conditions -/

def wordAfter (word : String) (words : List String) : String :=
  ((words.dropWhile (· != word)).drop 1).headD word

def conditionWording (w : World) (words : List String) : ConditionFault → String
  | .bracket => "missing " ++ quotedWord w "]"
  | .parenthesis => quotedWord w ")" ++ " expected"
  | .operand op => "missing argument after " ++ quotedWord w op
  | .trailing word =>
    if words.length = 2 then "missing argument after " ++ quotedWord w (words.getLastD "")
    else "extra argument " ++ quotedWord w (wordAfter word words)
  | .notNumber word => "invalid integer " ++ quotedWord w word

/-- Decides a condition; the status is its answer. -/
def test : Utility := fun name args w =>
  match decideWords w args with
  | .ok holds => w.withStatus (if holds then 0 else 1)
  | .error fault => complainWith 2 name (conditionWording w args fault) w

/-- Decides a condition before a closing bracket. -/
def bracket : Utility := fun name args w =>
  if args.getLast? == some "]" then test name args.dropLast w
  else complainWith 2 name (conditionWording w args .bracket) w

end SourceCheck.Utility
