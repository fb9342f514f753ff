import SourceCheck.Number.Reading
import SourceCheck.Options.Issue
import SourceCheck.Text.Blank

/-! # Validating options

    Options come as a mapping.  Each may be given under its camel-case or its
    snake-case name; the camel-case name wins.  Every option is checked on its
    own, and all issues are reported in the order of the options.  A null stands
    for the default; a time limit of null is no limit.  Where a text is taken, a
    severity is taken for its name (`Value.text?`).
-/

namespace SourceCheck

open SourceCheck.Text SourceCheck.Number

/-! ## Values of one kind -/

/-- A word with its ASCII capitals made small. -/
def smallWord (s : String) : String :=
  String.ofList (s.toList.map fun c =>
    if 'A' ≤ c ∧ c ≤ 'Z' then Char.ofNat (c.toNat + 0x20) else c)

def trueWords : List String := ["1", "t", "y", "on", "yes", "true"]

def falseWords : List String := ["0", "f", "n", "no", "off", "false"]

/-- A truth value written as a word. -/
def boolOfWord (s : String) : Except Complaint Bool :=
  let w := smallWord s
  if trueWords.contains w then .ok true
  else if falseWords.contains w then .ok false
  else .error .unreadBool

/-- A truth value written as a number. -/
def boolOfInt (n : Int) : Except Complaint Bool :=
  if n = 0 then .ok false
  else if n = 1 then .ok true
  else if -(Nat.pow 2 63) ≤ n ∧ n < Nat.pow 2 63 then .error .unreadBool
  else .error .notBool

/-- A truth value written as a floating-point number, which must be integral and
    of less than 64 bits. -/
def boolOfDouble (x : Double) : Except Complaint Bool :=
  match x.toInt? with
  | some n =>
    if x.isIntegral ∧ -(Nat.pow 2 63) < n ∧ n < Nat.pow 2 63 then boolOfInt n else .error .notBool
  | none => .error .notBool

/-- A switch; null means off. -/
def checkSwitch : Value → Except Complaint Bool
  | .null => .ok false
  | .bool b => .ok b
  | .int n => boolOfInt n
  | .double x => boolOfDouble x
  | v =>
    match v.text? with
    | some s => boolOfWord s
    | none => .error .notBool

/-- The texts of a list that holds nothing else. -/
def allTexts : List Value → Option (List String)
  | [] => some []
  | v :: rest =>
    match v.text? with
    | some s => (allTexts rest).map (s :: ·)
    | none => none

/-- Flags: a list of texts, or a text that is cut into words; null means none. -/
def checkFlags : Value → Except Complaint (List String)
  | .null => .ok []
  | .list items =>
    match allTexts items with
    | some texts => .ok texts
    | none => .error .notFlagTexts
  | v =>
    match v.text? with
    | some s =>
      match ShellWords.split s with
      | .ok words => .ok words
      | .error fault => .error (.unreadFlags fault)
    | none => .error .notFlags

/-- Build tags: a text without blanks at its ends; null means none. -/
def checkTags : Value → Except Complaint String
  | .null => .ok ""
  | v =>
    match v.text? with
    | some s => .ok (strip s)
    | none => .error .notTags

/-- The linter: a text without blanks at its ends; null and an empty text mean
    the default linter. -/
def checkLinter : Value → Except Complaint String
  | .null => .ok defaultLinter
  | v =>
    match v.text? with
    | some s => .ok (if (strip s).isEmpty then defaultLinter else strip s)
    | none => .error .notLinter

/-- Two underscores stand side by side. -/
def hasDoubleUnderscore : List Char → Bool
  | '_' :: '_' :: _ => true
  | _ :: rest => hasDoubleUnderscore rest
  | [] => false

/-- A number written as a text.  White space around it does not count, and
    neither do single underscores inside it if there is no white space. -/
def numberOfText (s : String) : Except Complaint Double :=
  let cs := s.toList
  match readDouble? (trim isSpace cs) with
  | some x => .ok x
  | none =>
    if cs.head? == some '_' || cs.getLast? == some '_' || hasDoubleUnderscore cs then
      .error .unreadNumber
    else match readDouble? (cs.filter (· != '_')) with
      | some x => .ok x
      | none => .error .unreadNumber

def numberOf : Value → Except Complaint Double
  | .bool b => .ok (Double.ofInt (if b then 1 else 0))
  | .int n =>
    let x := Double.ofInt n
    if x.isFinite then .ok x else .error .notNumber
  | .double x => .ok x
  | v =>
    match v.text? with
    | some s => numberOfText s
    | none => .error .notNumber

/-- A time limit, which must not be zero or less; null means none. -/
def checkTimeout : Value → Except Complaint (Option Seconds)
  | .null => .ok none
  | v =>
    match numberOf v with
    | .error e => .error e
    | .ok x => if x.isAtMostZero then .error .notPositive else .ok (some (.real x))

/-! ## Options of a mapping -/

/-- The value given for an option, with the key it was given under. -/
def given? (camel snake : String) (options : List (String × Value)) : Option (String × Value) :=
  match Value.lookup camel options with
  | some v => some (camel, v)
  | none => (Value.lookup snake options).map (snake, ·)

/-- One option of a mapping: the default if it is not given, else what the check
    makes of its value. -/
def option {α : Type} (camel snake : String) (check : Value → Except Complaint α) (missing : α)
    (options : List (String × Value)) : Except Issue α :=
  match given? camel snake options with
  | none => .ok missing
  | some (key, v) =>
    match check v with
    | .ok a => .ok a
    | .error complaint => .error ⟨key, complaint, v⟩

def issueOf {α : Type} : Except Issue α → List Issue
  | .ok _ => []
  | .error i => [i]

/-- The value of an option, or something in its place. -/
def valueOr {α : Type} (other : α) : Except Issue α → α
  | .ok a => a
  | .error _ => other

/-- Validates the options of a mapping. -/
def Options.validate (options : List (String × Value)) : Except (List Issue) Options :=
  let build := option "buildOnSave" "build_on_save" checkSwitch false options
  let buildFlags := option "buildFlags" "build_flags" checkFlags [] options
  let buildTags := option "buildTags" "build_tags" checkTags "" options
  let lint := option "lintOnSave" "lint_on_save" checkSwitch false options
  let linter := option "linter" "linter" checkLinter defaultLinter options
  let lintFlags := option "lintFlags" "lint_flags" checkFlags [] options
  let vet := option "vetOnSave" "vet_on_save" checkSwitch false options
  let vetFlags := option "vetFlags" "vet_flags" checkFlags [] options
  let cover := option "coverOnSave" "cover_on_save" checkSwitch false options
  let timeout := option "toolTimeout" "tool_timeout" checkTimeout none options
  -- all complaints are collected, in the order of the fields
  let issues := issueOf build ++ issueOf buildFlags ++ issueOf buildTags ++ issueOf lint
    ++ issueOf linter ++ issueOf lintFlags ++ issueOf vet ++ issueOf vetFlags ++ issueOf cover
    ++ issueOf timeout
  if issues.isEmpty then
    .ok ⟨valueOr false build, valueOr [] buildFlags, valueOr "" buildTags, valueOr false lint,
      valueOr defaultLinter linter, valueOr [] lintFlags, valueOr false vet,
      valueOr [] vetFlags, valueOr false cover, valueOr none timeout⟩
  else .error issues

end SourceCheck
