import SourceCheck.StandIn.Awk.State
import SourceCheck.StandIn.Utility.Dates

/-! # Functions that are always there

    A function takes values, expressions, tables and places, and gives a value.
-/

namespace SourceCheck.Awk

open SourceCheck SourceCheck.Number SourceCheck.Shell SourceCheck.Utility

/-- What is known of a program while it runs. -/
structure Setting where
  functions : List Function
  tableParameters : TableParameters
  globalTables : List String
  launcher : Launcher

/-- An argument of a function that is always there. -/
inductive Argument where
  | value (v : Value)
  | regex (r : Regex)
  | table (name : String)
  | place (p : Place)

/-- What a function expects as an argument. -/
inductive Wanted where
  | value
  | regex
  /-- What separates fields: a regular expression or a value. -/
  | separator
  | table
  | tableOrValue
  | place
  deriving DecidableEq

def wanted (function : String) (i : Nat) : Wanted :=
  if function = "split" then if i = 1 then .table else if i = 2 then .separator else .value
  else if function = "sub" ∨ function = "gsub" then
    if i = 0 then .regex else if i = 2 then .place else .value
  else if function = "match" then if i = 1 then .regex else .value
  else if function = "length" then .tableOrValue
  else .value

/-! ## Texts -/

def placeIn (part : List Char) : Nat → List Char → Nat
  | n, s =>
    if part.isPrefixOf s then n
    else match s with
      | [] => 0
      | _ :: rest => placeIn part (n + 1) rest

/-- A number rounded to the nearest integer, a half to the even one; it stays below a
    bound. -/
def rounded (x : Double) : Int :=
  match x with
  | .nan => 0
  | .infinite negative => if negative then -1000000000 else 1000000000
  | .finite negative m e =>
    let (num, den) := Double.quotient m e
    let n : Int := min (Double.roundDiv num den) 1000000000
    if negative then -n else n

def partOf (s : List Char) (start : Double) (length : Option Double) : List Char :=
  let first := rounded start
  let stop := match length with
    | some n => rounded (.add start n)
    | none => (s.length : Int) + 1
  let from1 := max first 1
  (s.drop (from1 - 1).toNat).take (stop - from1).toNat

/-- What takes the place of a match: an ampersand stands for the match, unless a
    backslash stands before it; two backslashes there are one. -/
def replacement (found : List Char) : List Char → List Char
  | '\\' :: '\\' :: '&' :: rest => '\\' :: found ++ replacement found rest
  | '\\' :: '&' :: rest => '&' :: replacement found rest
  | '&' :: rest => found ++ replacement found rest
  | c :: rest => c :: replacement found rest
  | [] => []

/-- Matches from a place on are replaced: how many, and the letters from there on.
    `after` is the end of the match before, and `fuel` bounds the matches. -/
def replaceAll (subject : Regex.Subject) (r : Regex) (value : List Char) :
    Nat → Nat → Option Nat → Nat × List Char
  | 0, start, _ => (0, subject.slice start subject.size)
  | fuel + 1, start, after =>
    match find? subject r start with
    | none => (0, subject.slice start subject.size)
    | some (i, j) =>
      let before := subject.slice start i
      let isEmpty := i = j
      let next := if isEmpty then subject.slice i (i + 1) else []
      let start := if isEmpty then i + 1 else j
      let isDone := subject.size < start
      let (count, rest) := if isDone then (0, []) else replaceAll subject r value fuel start (some j)
      if isEmpty && after == some i then (count, before ++ next ++ rest)
      else
        let new := Regex.toLetters false (replacement (Regex.ofLetters (subject.slice i j)) value)
        (count + 1, before ++ new ++ next ++ rest)

/-- The first match is replaced: how many, and all letters. -/
def replaceFirst (subject : Regex.Subject) (r : Regex) (value : List Char) :
    Nat × List Char :=
  match find? subject r 0 with
  | none => (0, [])
  | some (i, j) =>
    let new := Regex.toLetters false (replacement (Regex.ofLetters (subject.slice i j)) value)
    (1, subject.slice 0 i ++ new ++ subject.slice j subject.size)

/-! ## Time -/

def now : Run Int := do
  return (((← get).world.now / 1000000 : Nat) : Int)

/-- The seconds of a time that is written as year, month, day, hour, minute and
    second. -/
def secondsOf (s : List Char) : Int :=
  match (splitBlanks none s).map fun part => machineInteger (leadingNumber part) with
  | year :: month :: day :: hour :: minute :: second :: _ =>
    86400 * daysFromCivil year month.toNat day.toNat + 3600 * hour + 60 * minute + second
  | _ => -1

/-! ## Calls -/

def Argument.text : Argument → Run (List Char)
  | .value v => textOf v
  | _ => return []

def Argument.number : Argument → Double
  | .value v => v.toNumber
  | _ => .zero false

def text (s : List Char) : Value := .text s

def substitute (all : Bool) (r : Regex) (value : List Char) (p : Place) : Run Value := do
  let s ← textOf (← p.value)
  let subject := subjectOf s
  let (count, letters) :=
    if all then replaceAll subject r value (subject.size + 1) 0 none
    else replaceFirst subject r value
  if 0 < count then p.set (.text (Regex.ofLetters letters))
  return .ofInt count

/-- A template with its values in place, and a complaint if they do not fit. -/
def formatted (values : List Value) (function : String) : Run (List Char × Option String) := do
  match values with
  | [] => return ([], none)
  | first :: rest =>
    let template ← textOf first
    let conversion ← conversion
    let (shown, fault) :=
      fillTemplate (Value.toText conversion) (template.length + 1) 1 rest template
    let call := function ++ "(\"" ++ String.ofList template ++ "\")"
    return (shown, fault.map fun f => match f with
      | .tooFew => "not enough arguments passed to " ++ call
      | .improper n => "improper conversion(number " ++ natText n ++ ") in " ++ call)

def callBuiltin (l : Launcher) (function : String) (args : List Argument) : Run Value := do
  match function, args with
  | "length", [] => return .ofInt (← recordText).length
  | "length", [.table t] => return .ofInt (← table t).size
  | "length", [a] => return .ofInt (← a.text).length
  | "index", [a, b] =>
    let s ← a.text
    let part ← b.text
    return .ofInt (placeIn part 1 s)
  | "substr", [a, b] => return text (partOf (← a.text) b.number none)
  | "substr", [a, b, c] => return text (partOf (← a.text) b.number (some c.number))
  | "split", a :: .table t :: rest =>
    let s ← a.text
    let sep ← match rest with
      | [.regex r] => pure (Separator.found r)
      | [b] =>
        match separatorOf (← b.text) with
        | .ok sep => pure sep
        | .error message => throw (.fault ("line 0: " ++ message))
      | _ => fieldSeparator
    let parts := (sep.split s).map Value.input
    onTable t fun _ => .ofList parts
    return .ofInt parts.length
  | "sub", .regex r :: b :: rest | "gsub", .regex r :: b :: rest =>
    let value ← b.text
    let place := match rest with
      | [.place p] => p
      | _ => .field 0
    substitute (function == "gsub") r value place
  | "match", [a, .regex r] =>
    let s ← a.text
    let (start, length) : Int × Int := match find? (subjectOf s) r 0 with
      | some (i, j) => (i + 1, j - i)
      | none => (0, -1)
    setNumber "RSTART" start
    setNumber "RLENGTH" length
    return .ofInt start
  | "sprintf", args =>
    let values := args.map fun a => match a with
      | .value v => v
      | _ => .nothing
    match ← formatted values "sprintf" with
    | (s, none) => return text s
    | (_, some message) => failAt message
  | "sin", [a] => return .number (Double.byMachine Float.sin a.number)
  | "cos", [a] => return .number (Double.byMachine Float.cos a.number)
  | "atan2", [a, b] => return .number (Double.byMachine2 Float.atan2 a.number b.number)
  | "exp", [a] => return .number (Double.byMachine Float.exp a.number)
  | "log", [a] => return .number (Double.byMachine Float.log a.number)
  | "sqrt", [a] => return .number (Double.byMachine Float.sqrt a.number)
  | "int", [a] => return .number a.number.integerPart
  | "rand", _ => return .number (← random)
  | "srand", args =>
    let old := (← get).seed
    let new ← match args with
      | .value v :: _ => pure v
      | _ => pure (Value.ofInt (← now))
    let seed := (machineInteger new.toNumber % (Nat.pow 2 32 : Nat)).toNat
    modify fun s => { s with seed := new, randoms := randomsFrom seed }
    return old
  | "close", [a] => return .ofInt (← closeNamed l (← a.text))
  | "system", [a] =>
    let command ← a.text
    flushAll
    return .ofInt (← runProgram l ["sh", "-c", String.ofList command])
  | "toupper", [a] => return text ((← a.text).map toCapital)
  | "tolower", [a] => return text ((← a.text).map toSmall)
  | "fflush", _ =>
    flushAll
    return .ofInt 0
  | "systime", _ => return .ofInt (← now)
  | "strftime", args =>
    let template ← match args with
      | a :: _ => a.text
      | [] => pure "%c".toList
    let seconds ← match args with
      | _ :: b :: _ => pure (machineInteger b.number)
      | _ => now
    return text (showDate ⟨seconds⟩ template)
  | "mktime", [a] => return .ofInt (secondsOf (← a.text))
  | _, _ => return .nothing

end SourceCheck.Awk
