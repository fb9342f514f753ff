import SourceCheck.StandIn.FileMode
import SourceCheck.StandIn.Regex.Matching
import SourceCheck.StandIn.Regex.Reader
import SourceCheck.StandIn.Shell.Pattern
import SourceCheck.StandIn.Utility.Content

/-! # What files are searched for

    A search is written as words: conditions that files meet, and actions on them,
    joined by operators.  From the loosest to the tightest these are a comma, which only
    puts one after the other, one of two, both of two, where the word for it may be left
    out, and negation.
-/

namespace SourceCheck.Utility

open SourceCheck SourceCheck.Shell SourceCheck.Text

namespace Find

/-! ## Searches -/

/-- A number to compare with. -/
inductive Bound where
  | below (n : Nat)
  | exactly (n : Nat)
  | above (n : Nat)
  deriving DecidableEq, Repr

def Bound.admits (n : Nat) : Bound → Bool
  | .below m => n < m
  | .exactly m => n == m
  | .above m => m < n

/-- How permissions are compared with given ones. -/
inductive Agreement where
  | same
  /-- All given ones are among them. -/
  | all
  /-- One of the given ones is among them. -/
  | some
  deriving DecidableEq, Repr

/-- A pattern, and whether capitals and small letters are the same. -/
structure Shape where
  pattern : List Mark
  /-- Capitals and small letters are the same. -/
  anyCase : Bool

/-- A condition that a file meets. -/
inductive Condition where
  | always (holds : Bool)
  | name (s : Shape)
  | path (s : Shape)
  | linkTarget (s : Shape)
  | matching (r : Regex) (anyCase : Bool)
  | type (letters : List Char)
  | targetType (letters : List Char)
  | size (b : Bound) (unit : Nat)
  | empty
  | newer (time : Nat)
  | days (b : Bound)
  /-- Its age in minutes, of which each begun one counts. -/
  | minutes (b : Bound)
  | mode (bits : Nat) (a : Agreement)
  | names (b : Bound)
  | same (place : Place)
  /-- Its owner may run it, or may use it otherwise. -/
  | usable (running : Bool)

/-- What is done with a file. -/
inductive Action where
  /-- Its path is written, with an end mark. -/
  | print (ending : Char)
  | format (template : List Char)
  /-- A program runs for it, in its directory if that is asked for. -/
  | run (inside : Bool) (command : List String)
  /-- A program runs for many at once; the number tells commands apart. -/
  | collect (number : Nat) (command : List String)
  | delete
  | prune
  | quit

/-- A search. -/
inductive Query where
  | condition (c : Condition)
  | action (a : Action)
  | negated (q : Query)
  /-- The second counts only if the first holds. -/
  | both (p q : Query)
  /-- The second counts only if the first does not hold. -/
  | either (p q : Query)
  | sequence (p q : Query)

/-- How the search goes through directories. -/
structure Course where
  deepest : Option Nat
  /-- The least depth at which files count. -/
  shallowest : Nat
  /-- Directories come after what they hold. -/
  lateFolders : Bool
  follows : Bool
  /-- Links that stand among the arguments are followed. -/
  followsFirst : Bool

/-! ## Words -/

/-- A part of a search as it stands in the words. -/
inductive Part where
  | leaf (q : Query)
  | opens
  | closes
  | not (word : String)
  /-- Both of two, as it is written. -/
  | and (word : String)
  | or (word : String)
  | comma

/-- What has been read of the words of a search. -/
structure Words where
  course : Course
  parts : List Part
  /-- An action has been read that takes the place of writing paths. -/
  acts : Bool
  dialect : String
  /-- The last word that takes a pattern, if it is the one read last. -/
  lastPattern : Option String
  warnings : List String

def beginsSearch (leading : Bool) (word : String) : Bool :=
  match word.toList with
  | ['-'] => false
  | '-' :: _ => true
  | ['('] | ['!'] => true
  | [')'] | [','] => !leading
  | _ => false

def shapeOf (anyCase : Bool) (word : String) : Shape :=
  ⟨patternOf (if anyCase then word.toList.map toSmall else word.toList), anyCase⟩

def Shape.fits (s : Shape) (text : List Char) : Bool :=
  matchesPattern s.pattern (if s.anyCase then text.map toSmall else text)

/-- The bound that a word writes, and what follows the number. -/
def bound? (word : String) : Option (Bound × List Char) :=
  let (make, rest) : (Nat → Bound) × List Char := match word.toList with
    | '+' :: rest => (.above, rest)
    | '-' :: rest => (.below, rest)
    | rest => (.exactly, rest)
  let ds := rest.takeWhile isDigitChar
  if ds.isEmpty then none else some (make (digitsValue ds), rest.drop ds.length)

/-- The unit that a letter after a size names. -/
def sizeUnit? : List Char → Option Nat
  | [] | ['b'] => some 512
  | ['c'] => some 1
  | ['w'] => some 2
  | ['k'] => some 1024
  | ['M'] => some 1048576
  | ['G'] => some 1073741824
  | _ => none

def sizeCondition (word : String) : Except String Condition :=
  match bound? word with
  | none => .error ("invalid -size type \x60" ++ String.ofList (word.toList.reverse.take 1) ++ "'")
  | some (b, rest) =>
    match sizeUnit? rest with
    | some unit => .ok (.size b unit)
    | none => .error ("invalid -size type \x60" ++ String.ofList (word.toList.reverse.take 1) ++ "'")

def boundCondition (key word : String) (make : Bound → Condition) : Except String Condition :=
  match bound? word with
  | some (b, []) => .ok (make b)
  | _ => .error ("invalid argument \x60" ++ word ++ "' to \x60" ++ key ++ "'")

/-- The letters of types, separated by commas. -/
def typeLetters (key : String) : List Char → Except String (List Char)
  | [] => .error ("Last file type in list argument to " ++ key ++ " is missing, i.e., list is ending on: ','")
  | c :: rest =>
    if !"bcdpflsD".toList.contains c then
      .error ("Unknown argument to " ++ key ++ ": " ++ String.singleton c)
    else match rest with
      | [] => .ok [c]
      | ',' :: more => (typeLetters key more).map (c :: ·)
      | _ => .error ("Must separate multiple arguments to " ++ key ++ " using: ','")

def modeCondition (w : World) (word : String) : Except String Condition :=
  let (agreement, text) : Agreement × List Char := match word.toList with
    | '-' :: rest => (.all, rest)
    | '/' :: rest => (.some, rest)
    | rest => (.same, rest)
  match FileMode.changes? text with
  | none => .error ("invalid mode " ++ quotedWord w word)
  | some changes => .ok (.mode (FileMode.applyAll false 0 changes 0) agreement)

/-- An expression in the default writing, in which a plus sign and a question mark count
    without a backslash, brought to the basic one. -/
def plainCounts : List Char → List Char
  | '\\' :: c :: rest =>
    if c == '+' || c == '?' then c :: plainCounts rest else '\\' :: c :: plainCounts rest
  | c :: rest => if c == '+' || c == '?' then '\\' :: c :: plainCounts rest else c :: plainCounts rest
  | [] => []

/-- The ways to write expressions, by their names. -/
def dialectOf? (name : String) : Option (Regex.Dialect × (List Char → List Char)) :=
  if ["findutils-default", "emacs"].contains name then some (.basicSearch, plainCounts)
  else if ["posix-extended", "posix-egrep", "egrep", "posix-awk", "gnu-awk", "awk"].contains name then
    some (.extendedSearch, id)
  else if ["posix-basic", "posix-minimal-basic", "ed", "sed", "grep"].contains name then
    some (.basicSearch, id)
  else none

/-- The names of the ways to write expressions. -/
def dialectNames : List String := ["findutils-default", "ed", "emacs", "gnu-awk", "grep",
  "posix-awk", "awk", "posix-basic", "posix-egrep", "egrep", "posix-extended",
  "posix-minimal-basic", "sed"]

def matchCondition (w : World) (dialect word : String) (anyCase : Bool) : Except String Condition :=
  let (d, prepare) := (dialectOf? dialect).getD (.basicSearch, plainCounts)
  match Regex.read d (Regex.toLetters (usesUtf8 w) (prepare word.toList)) with
  | .ok r => .ok (.matching r anyCase)
  | .error f =>
    .error ("failed to compile regular expression '" ++ word ++ "': " ++ f.wording)

/-- A user or a group of a plain system: the word names the owner of all files. -/
def ownerCondition (w : World) (what word : String) : Except String Condition :=
  if word = "root" ∨ word = "0" then .ok (.always true)
  else if word.toList.all isDigitChar && !word.isEmpty then .ok (.always false)
  else .error (quotedWord w word ++ " is not the name of " ++ what)

def changeOf (w : World) (word : String) : Except String Nat :=
  match w.linkPlaceOf word with
  | .ok ⟨place, some _⟩ => .ok (w.changedAt place)
  | .ok ⟨_, none⟩ => .error (quotedWord w word ++ ": " ++ SystemError.notFound.wording)
  | .error e => .error (quotedWord w word ++ ": " ++ e.wording)

def samePlace (w : World) (word : String) : Except String Condition :=
  match w.linkPlaceOf word with
  | .ok ⟨place, some _⟩ => .ok (.same place)
  | .ok ⟨_, none⟩ => .error (quotedWord w word ++ ": " ++ SystemError.notFound.wording)
  | .error e => .error (quotedWord w word ++ ": " ++ e.wording)

def loneConditions : List (String × Condition) := [
  ("-true", .always true), ("-false", .always false), ("-empty", .empty),
  ("-nouser", .always false), ("-nogroup", .always false),
  ("-readable", .usable false), ("-writable", .usable false), ("-executable", .usable true)]

def loneActions : List (String × Action) := [
  ("-print", .print '\n'), ("-print0", .print (Char.ofNat 0)), ("-delete", .delete),
  ("-prune", .prune), ("-quit", .quit)]

def condition? (w : World) (dialect key word : String) : Option (Except String Condition) :=
  if key = "-name" then some (.ok (.name (shapeOf false word)))
  else if key = "-iname" then some (.ok (.name (shapeOf true word)))
  else if key = "-path" ∨ key = "-wholename" then some (.ok (.path (shapeOf false word)))
  else if key = "-ipath" ∨ key = "-iwholename" then some (.ok (.path (shapeOf true word)))
  else if key = "-lname" then some (.ok (.linkTarget (shapeOf false word)))
  else if key = "-ilname" then some (.ok (.linkTarget (shapeOf true word)))
  else if key = "-regex" then some (matchCondition w dialect word false)
  else if key = "-iregex" then some (matchCondition w dialect word true)
  else if key = "-type" then some ((typeLetters key word.toList).map .type)
  else if key = "-xtype" then some ((typeLetters key word.toList).map .targetType)
  else if key = "-size" then some (sizeCondition word)
  else if key = "-newer" ∨ key = "-anewer" ∨ key = "-cnewer" ∨ key = "-newermm" then
    some ((changeOf w word).map .newer)
  else if key = "-mtime" ∨ key = "-atime" ∨ key = "-ctime" then
    some (boundCondition key word .days)
  else if key = "-mmin" ∨ key = "-amin" ∨ key = "-cmin" then
    some (boundCondition key word .minutes)
  else if key = "-links" then some (boundCondition key word .names)
  else if key = "-perm" then some (modeCondition w word)
  else if key = "-samefile" then some (samePlace w word)
  else if key = "-user" then some (ownerCondition w "a known user" word)
  else if key = "-group" then some (ownerCondition w "an existing group" word)
  else if key = "-uid" ∨ key = "-gid" then
    some (boundCondition key word fun b => .always (b.admits 0))
  else none

def takesArgument (key : String) : Bool :=
  ["-name", "-iname", "-path", "-wholename", "-ipath", "-iwholename", "-lname", "-ilname", "-regex",
    "-iregex", "-type", "-xtype", "-size", "-newer", "-anewer", "-cnewer", "-newermm", "-mtime",
    "-atime", "-ctime", "-mmin", "-amin", "-cmin", "-links", "-perm", "-samefile", "-user", "-group",
    "-uid", "-gid", "-maxdepth", "-mindepth", "-printf", "-regextype"].contains key

/-- The words of a command up to its end, whether it takes many files at once, and the
    words after it. -/
def commandWords : List String → List String → Option (List String × Bool × List String)
  | _, [] => none
  | before, ";" :: rest => some (before.reverse, false, rest)
  | before, word :: rest =>
    if word = "+" ∧ before.head? = some "\x7b\x7d" then some ((before.drop 1).reverse, true, rest)
    else commandWords (word :: before) rest

def knownEscape (c : Char) : Bool := "abfnrtv\\c01234567".toList.contains c

def templateWarnings : List Char → List String
  | '\\' :: c :: rest =>
    (if knownEscape c then [] else ["warning: unrecognized escape \x60\\" ++ String.singleton c ++ "'"])
      ++ templateWarnings rest
  | '%' :: c :: rest =>
    (if "%".toList.contains c || "-+ #0.123456789abcdDfFgGhHiklmMnpPsStTuUyYZACBw".toList.contains c then []
      else ["warning: unrecognized format directive \x60%" ++ String.singleton c ++ "'"])
      ++ templateWarnings rest
  | ['%'] => ["error: % at end of format string"]
  | _ :: rest => templateWarnings rest
  | [] => []

def operator? (word : String) : Option Part :=
  if word = "(" then some .opens
  else if word = ")" then some .closes
  else if word = "!" ∨ word = "-not" then some (.not word)
  else if word = "-a" ∨ word = "-and" then some (.and word)
  else if word = "-o" ∨ word = "-or" then some (.or word)
  else if word = "," then some .comma
  else none

namespace Words

def push (k : Words) (p : Part) : Words := { k with parts := p :: k.parts, lastPattern := none }

def act (k : Words) (a : Action) : Words :=
  { k.push (.leaf (.action a)) with acts := true }

/-- How the search goes is changed. -/
def going (k : Words) (f : Course → Course) : Words :=
  { k.push (.leaf (.condition (.always true))) with course := f k.course }

end Words

def depth? (w : World) (key word : String) : Except String Nat :=
  if !word.isEmpty && word.toList.all isDigitChar then .ok (digitsValue word.toList)
  else .error ("Expected a positive decimal integer argument to " ++ key ++ ", but got "
    ++ quotedWord w word)

def readTaking (w : World) (k : Words) (key word : String) : Except String Words :=
  if key = "-maxdepth" then do
    let n ← depth? w key word
    return k.going ({ · with deepest := some n })
  else if key = "-mindepth" then do
    let n ← depth? w key word
    return k.going ({ · with shallowest := n })
  else if key = "-printf" then
    let all := templateWarnings word.toList
    let warnings := all.filter fun m => !startsWith m "error: "
    -- the first error in the template ends the reading, warnings are kept
    match all.find? fun m => startsWith m "error: " with
    | some e => .error e
    | none => .ok { k.act (.format word.toList) with warnings := warnings.reverse ++ k.warnings }
  else if key = "-regextype" then
    if (dialectOf? word).isSome then
      .ok { k.push (.leaf (.condition (.always true))) with dialect := word }
    else
      let names := dialectNames.map (quotedWord w)
      .error ("Unknown regular expression type " ++ quotedWord w word ++ "; valid types are "
        ++ String.intercalate ", " names ++ ".")
  else match condition? w k.dialect key word with
    | some (.ok c) =>
      let isPattern := ["-name", "-iname", "-path", "-ipath", "-lname", "-ilname", "-wholename",
        "-iwholename"].contains key
      .ok { k.push (.leaf (.condition c)) with lastPattern := if isPattern then some key else none }
    | some (.error e) => .error e
    | none => .error ("unknown predicate \x60" ++ key ++ "'")

/-- A word of the search that runs programs. -/
def readCommand (k : Words) (key : String) (rest : List String) :
    Except String (Words × List String) :=
  match commandWords [] rest with
  | none | some ([], _, _) => .error ("missing argument to \x60" ++ key ++ "'")
  | some (command, isMany, rest) =>
    if isMany then
      if command.contains "\x7b\x7d" then
        .error ("Only one instance of \x7b\x7d is supported with " ++ key ++ " ... +")
      else if key = "-exec" then .ok (k.act (.collect k.parts.length command), rest)
      else .ok (k.act (.run true (command ++ ["\x7b\x7d"])), rest)
    else .ok (k.act (.run (key = "-execdir") command), rest)

/-- Reads the words of a search; `fuel` bounds their number. -/
def readWords (w : World) : Nat → Words → List String → Except String Words
  | 0, k, _ => .ok k
  | _, k, [] => .ok k
  | fuel + 1, k, word :: rest =>
    match operator? word with
    | some part => readWords w fuel (k.push part) rest
    | none =>
      -- behind the first word of the expression no path may follow
      if !beginsSearch false word then
        let hint := match k.lastPattern, w.linkPlaceOf word with
          | some key, .ok ⟨_, some _⟩ =>
            "\nfind: possible unquoted pattern after predicate \x60" ++ key ++ "'?"
          | _, _ => ""
        .error ("paths must precede expression: \x60" ++ word ++ "'" ++ hint)
      else match loneConditions.lookup word, loneActions.lookup word with
        | some c, _ => readWords w fuel (k.push (.leaf (.condition c))) rest
        | none, some a =>
          let pushed := k.push (.leaf (.action a))
          -- an action of one's own replaces that of printing
          let k := match a with
            | .prune | .quit => pushed
            | .delete => { pushed with acts := true, course := { k.course with lateFolders := true } }
            | _ => { pushed with acts := true }
          readWords w fuel k rest
        | none, none =>
          if word = "-depth" ∨ word = "-d" then
            readWords w fuel (k.going ({ · with lateFolders := true })) rest
          else if word = "-follow" then
            readWords w fuel (k.going ({ · with follows := true })) rest
          -- options that change nothing on this system
          else if ["-xdev", "-mount", "-noleaf", "-warn", "-nowarn", "-ignore_readdir_race",
              "-noignore_readdir_race", "-daystart"].contains word then
            readWords w fuel (k.going id) rest
          else if word = "-exec" ∨ word = "-execdir" then do
            let (k, rest) ← readCommand k word rest
            readWords w fuel k rest
          else if takesArgument word then
            match rest with
            | [] => .error ("missing argument to \x60" ++ word ++ "'")
            | argument :: rest => do
              let k ← readTaking w k word argument
              readWords w fuel k rest
          else .error ("unknown predicate \x60" ++ word ++ "'")

/-! ## Grammar -/

/-- The word by which an operator of two searches is written, with its level. -/
def joining? : Part → Option (String × Nat)
  | .comma => some (",", 0)
  | .or word => some (word, 1)
  | .and word => some (word, 2)
  | _ => none

def join (level : Nat) (p q : Query) : Query :=
  if level = 0 then .sequence p q else if level = 1 then .either p q else .both p q

mutual

/-- Reads one search without operators between; `after` is the word of the operator
    before it.  `fuel` bounds the depth. -/
def readOne (fuel : Nat) (after : Option String) (parts : List Part) :
    Except String (Query × List Part) :=
  match fuel with
  | 0 => .error "invalid expression"
  | fuel + 1 =>
    match parts with
    | [] =>
      .error (match after with
        | some word => "expected an expression after '" ++ word ++ "'"
        | none => "invalid expression")
    | .leaf q :: rest => .ok (q, rest)
    | .not word :: rest => do
      let (q, rest) ← readOne fuel (some word) rest
      return (.negated q, rest)
    | .opens :: .closes :: _ => .error "invalid expression; empty parentheses are not allowed."
    | .opens :: rest => do
      if rest.isEmpty then
        throw ("invalid expression; expected to find a ')' but didn't see one. "
          ++ "Perhaps you need an extra predicate after '('")
      let (q, rest) ← readJoined fuel 0 (some "(") rest
      match rest with
      | .closes :: rest => return (q, rest)
      | _ =>
        throw "invalid expression; I was expecting to find a ')' somewhere but did not see one."
    | .closes :: _ => .error "invalid expression; you have too many ')'"
    | p :: _ =>
      .error ("invalid expression; you have used a binary operator '" ++ ((joining? p).getD ("", 0)).1
        ++ "' with nothing before it.")

/-- Reads searches joined by operators of a level and tighter ones. -/
def readJoined (fuel level : Nat) (after : Option String) (parts : List Part) :
    Except String (Query × List Part) :=
  match fuel with
  | 0 => .error "invalid expression"
  | fuel + 1 =>
    if level = 3 then readOne fuel after parts
    else do
      let (p, rest) ← readJoined fuel (level + 1) after parts
      readMore fuel level p rest

/-- Reads further searches joined by operators of a level. -/
def readMore (fuel level : Nat) (p : Query) (parts : List Part) :
    Except String (Query × List Part) :=
  match fuel with
  | 0 => .error "invalid expression"
  | fuel + 1 =>
    match parts with
    | [] => .ok (p, [])
    | .closes :: _ => .ok (p, parts)
    | part :: rest =>
      match joining? part with
      | some (word, l) =>
        if l != level then .ok (p, parts)
        else do
          let (q, rest) ← readJoined fuel (level + 1) (some word) rest
          readMore fuel level (join level p q) rest
      | none =>
        if level != 2 then .ok (p, parts)
        else do
          let (q, rest) ← readJoined fuel 3 none parts
          readMore fuel level (.both p q) rest

end

def queryOf (parts : List Part) : Except String (Option Query) :=
  if parts.isEmpty then .ok none
  else do
    let (q, rest) ← readJoined (10 * parts.length + 20) 0 none parts
    if rest.isEmpty then return some q else throw "you have too many ')'"

/-- How a search goes if nothing is said about it. -/
def plainCourse : Course := ⟨none, 0, false, false, false⟩

/-- Reads a search: how it goes, what is searched for, and warnings.  Paths are written
    if no action says what to do. -/
def readQuery (w : World) (course : Course) (words : List String) :
    Except String (Course × Query × List String) := do
  let k ← readWords w (words.length + 1) ⟨course, [], false, "findutils-default", none, []⟩ words
  let q? ← queryOf k.parts.reverse
  let written : Query := .action (.print '\n')
  let q := match q? with
    | none => written
    | some q => if k.acts then q else .both q written
  return (k.course, q, k.warnings.reverse)

end Find

end SourceCheck.Utility
