import SourceCheck.StandIn.Utility.Basic

/-! # Options of utilities

    An option is a letter after a hyphen or a word after two.  Letters may stand
    together, a word may be cut short as long as it stays clear, and arguments
    may stand between options.
-/

namespace SourceCheck.Utility

open SourceCheck SourceCheck.Text SourceCheck.Shell

/-- Whether an argument belongs to an option. -/
inductive Takes where
  | nothing
  | argument
  /-- One, if it stands together with the option. -/
  | perhaps
  deriving DecidableEq, Repr

/-- An option: its letter if it has one, its word if it has one, and what it
    takes. -/
abbrev OptionSpec := Option Char × String × Takes

/-- The name by which an option is known: its word, or its letter if it has
    none. -/
def OptionSpec.key (o : OptionSpec) : String :=
  if o.2.1.isEmpty then String.ofList o.1.toList else o.2.1

def flag (c : Char) (word : String) : OptionSpec := (some c, word, .nothing)

def taking (c : Char) (word : String) : OptionSpec := (some c, word, .argument)

def wordFlag (word : String) : OptionSpec := (none, word, .nothing)

def wordTaking (word : String) : OptionSpec := (none, word, .argument)

/-- The options and the other arguments of a utility. -/
structure Options where
  /-- The options by their names in the order given, with what belongs to them. -/
  given : List (String × Option String)
  args : List String
  deriving Repr

namespace Options

def has (o : Options) (key : String) : Bool := o.given.any (·.1 == key)

/-- What belongs to an option, in the order given. -/
def values (o : Options) (key : String) : List String :=
  o.given.filterMap fun (k, v) => if k == key then v else none

def last? (o : Options) (key : String) : Option String := (o.values key).getLast?

def lastOf? (o : Options) (keys : List String) : Option String :=
  (o.given.filter fun (k, _) => keys.contains k).getLast?.map (·.1)

def add (o : Options) (key : String) (value : Option String) : Options :=
  { o with given := (key, value) :: o.given }

end Options

/-- The option a word stands for, in full or cut short. -/
def findWord (specs : List OptionSpec) (word : String) : Except String OptionSpec :=
  match specs.find? fun o => !o.2.1.isEmpty && o.2.1 == word with
  | some o => .ok o
  | none =>
    match specs.filter fun o => !o.2.1.isEmpty && startsWith o.2.1 word with
    | [] => .error ("unrecognized option '--" ++ word ++ "'")
    | [o] => .ok o
    | many =>
      .error ("option '--" ++ word ++ "' is ambiguous; possibilities:"
        ++ String.ofList (many.flatMap fun o => (" '--" ++ o.2.1 ++ "'").toList))

def takeLetters (specs : List OptionSpec) :
    List Char → List String → Except String (List (String × Option String) × List String)
  | [], rest => .ok ([], rest)
  | c :: cs, rest =>
    match specs.find? (·.1 == some c) with
    | none => .error ("invalid option -- '" ++ String.singleton c ++ "'")
    | some o =>
      match o.2.2, cs, rest with
      | .nothing, cs, rest =>
        (takeLetters specs cs rest).map fun (more, rest) => ((o.key, none) :: more, rest)
      | .perhaps, cs, rest =>
        .ok ([(o.key, if cs.isEmpty then none else some (String.ofList cs))], rest)
      | .argument, [], a :: rest => .ok ([(o.key, some a)], rest)
      | .argument, [], [] => .error ("option requires an argument -- '" ++ String.singleton c ++ "'")
      | .argument, cs, rest => .ok ([(o.key, some (String.ofList cs))], rest)

def takeWord (specs : List OptionSpec) (body : List Char) (rest : List String) :
    Except String ((String × Option String) × List String) := do
  let word := body.takeWhile (· != '=')
  let value? := match body.drop word.length with
    | [] => none
    | _ :: value => some (String.ofList value)
  let o ← findWord specs (String.ofList word)
  match o.2.2, value?, rest with
  | .nothing, some _, _ => throw ("option '--" ++ o.2.1 ++ "' doesn't allow an argument")
  | .nothing, none, rest => return ((o.key, none), rest)
  | .perhaps, value?, rest => return ((o.key, value?), rest)
  | .argument, some v, rest => return ((o.key, some v), rest)
  | .argument, none, a :: rest => return ((o.key, some a), rest)
  | .argument, none, [] => throw ("option '--" ++ o.2.1 ++ "' requires an argument")

/-- The options among some arguments; `mixed` tells that they may stand after other
    arguments, and `fuel` bounds their number. -/
def readWith (specs : List OptionSpec) (mixed : Bool) :
    Nat → List String → Except String Options
  | 0, args => .ok ⟨[], args⟩
  | fuel + 1, args =>
    match args with
    | [] => .ok ⟨[], []⟩
    | a :: rest =>
      match a.toList with
      | ['-', '-'] => .ok ⟨[], rest⟩
      | '-' :: '-' :: body => do
        let (here, rest) ← takeWord specs body rest
        let more ← readWith specs mixed fuel rest
        return { more with given := here :: more.given }
      | '-' :: c :: cs => do
        let (here, rest) ← takeLetters specs (c :: cs) rest
        let more ← readWith specs mixed fuel rest
        return { more with given := here ++ more.given }
      | _ =>
        if mixed then
          (readWith specs mixed fuel rest).map fun more => { more with args := a :: more.args }
        else .ok ⟨[], args⟩

def readOptions (specs : List OptionSpec) (args : List String) : Except String Options :=
  readWith specs true (args.length + 1) args

def readFrontOptions (specs : List OptionSpec) (args : List String) : Except String Options :=
  readWith specs false (args.length + 1) args

/-- A utility with options among its arguments; a wrong one ends it with a
    status. -/
def withOptionsOr (status : Nat) (specs : List OptionSpec)
    (act : String → Options → World → World) : Utility := fun name args w =>
  match readOptions specs args with
  | .ok o => act name o w
  | .error message => complainUsage status name message w

def withOptions (specs : List OptionSpec) (act : String → Options → World → World) : Utility :=
  withOptionsOr 1 specs act

/-! ## Words that options take -/

/-- What is said of a word that is not among those that an option takes; words that mean the
    same stand together. -/
def wrongChoice (w : World) (option word : String) (known : List (List String)) : String :=
  let row := fun (names : List String) =>
    "\n  - ".toList ++ (joinWith ", " (names.map (quotedWord w))).toList
  "invalid argument " ++ quotedWord w word ++ " for " ++ quotedWord w ("--" ++ option)
    ++ "\nValid arguments are:" ++ String.ofList (known.flatMap row)

/-! ## Numbers -/

/-- The factors of the letters that may follow a number. -/
def unitFactor? (unit : List Char) : Option Nat :=
  let powers : List (Char × Nat) :=
    [('k', 1), ('K', 1), ('M', 2), ('G', 3), ('T', 4), ('P', 5), ('E', 6), ('Z', 7), ('Y', 8)]
  match unit with
  | [] => some 1
  | ['b'] => some 512
  | ['c'] => some 1
  | ['w'] => some 2
  | [c] => (powers.lookup c).map (Nat.pow 1024)
  | [c, 'B'] => (powers.lookup c).map (Nat.pow 1000)
  | [c, 'i', 'B'] => (powers.lookup c).map (Nat.pow 1024)
  | _ => none

/-- The count that digits write, perhaps with a unit. -/
def countWithUnit? (s : List Char) : Option Nat :=
  let ds := s.takeWhile isDigitChar
  if ds.isEmpty then none
  else (unitFactor? (s.drop ds.length)).map fun factor =>
    decimalValue ds * factor

def plainCount? (s : String) : Option Nat :=
  let cs := s.toList
  if cs.isEmpty || !cs.all isDigitChar then none
  else some (decimalValue cs)

end SourceCheck.Utility
