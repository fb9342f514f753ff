import SourceCheck.Value.Display

/-! # Check options

    Which checks run on a file and how.  The options of a validated configuration
    are in normal form; options taken over unchecked may hold anything of the
    right type.
-/

namespace SourceCheck

open SourceCheck.Number

/-! ## Time limits -/

/-- A number of seconds, as it was given. -/
inductive Seconds where
  | whole (n : Int)
  /-- A floating-point number. -/
  | real (x : Double)
  /-- A truth value, which counts as one or zero. -/
  | truth (b : Bool)
  deriving DecidableEq, Repr, Inhabited

namespace Seconds

def text : Seconds → String
  | .whole n => intText n
  | .real x => x.text
  | .truth b => (Value.bool b).describe

def toValue : Seconds → Value
  | .whole n => .int n
  | .real x => .double x
  | .truth b => .bool b

def ofValue? : Value → Option Seconds
  | .int n => some (.whole n)
  | .double x => some (.real x)
  | .bool b => some (.truth b)
  | _ => none

/-- The whole microseconds in a number of seconds.  Zero stands for all that is not
    greater than zero, NaN included; infinity has none. -/
def micros? : Seconds → Option Nat
  | .whole n => some (n * 1000000).toNat
  | .real .nan => some 0
  | .real (.infinite negative) => if negative then some 0 else none
  | .real (.finite negative m e) =>
    let (num, den) := Double.quotient m e
    some (if negative then 0 else num * 1000000 / den)
  | .truth b => some (if b then 1000000 else 0)

/-- A whole number that no floating-point number comes near to. -/
def isTooLarge : Seconds → Bool
  | .whole n => 0 < n && !(Double.ofInt n).isFinite
  | .real _ => false
  | .truth _ => false

end Seconds

/-! ## Options -/

def defaultLinter : String := "golint"

/-- The options of a check. -/
structure Options where
  build : Bool
  buildFlags : List String
  /-- The build tags; none if empty. -/
  buildTags : String
  lint : Bool
  linter : String
  lintFlags : List String
  vet : Bool
  vetFlags : List String
  cover : Bool
  /-- How long a tool may run. -/
  timeout : Option Seconds
  deriving DecidableEq, Repr

namespace Options

def default : Options :=
  ⟨false, [], "", false, defaultLinter, [], false, [], false, none⟩

instance : Inhabited Options := ⟨default⟩

def anyEnabled (o : Options) : Bool := o.build || o.lint || o.vet || o.cover

/-- Changes on top of options; what is missing stays as it is. -/
structure Overrides where
  build : Option Bool
  lint : Option Bool
  vet : Option Bool
  cover : Option Bool
  linter : Option String
  timeout : Option Seconds
  deriving DecidableEq, Repr, Inhabited

def override (o : Options) (c : Overrides) : Options :=
  { o with
    build := c.build.getD o.build
    lint := c.lint.getD o.lint
    vet := c.vet.getD o.vet
    cover := c.cover.getD o.cover
    linter := c.linter.getD o.linter
    timeout := c.timeout <|> o.timeout }

end Options

/-! ## Options as named values -/

/-- The names of the options and their values, in the order of the options.  Here
    a value may be of any kind. -/
abbrev NamedOptions := List (String × Value)

namespace Options

def textList (texts : List String) : Value := .list (texts.map Value.text)

def timeoutValue : Option Seconds → Value
  | some s => s.toValue
  | none => .null

def toNamed (o : Options) : NamedOptions := [
  ("build_on_save", .bool o.build),
  ("build_flags", textList o.buildFlags),
  ("build_tags", .text o.buildTags),
  ("lint_on_save", .bool o.lint),
  ("linter", .text o.linter),
  ("lint_flags", textList o.lintFlags),
  ("vet_on_save", .bool o.vet),
  ("vet_flags", textList o.vetFlags),
  ("cover_on_save", .bool o.cover),
  ("tool_timeout", timeoutValue o.timeout)]

def textsOf (items : List Value) : List String :=
  items.filterMap Value.text?

end Options

/-- A name that is no option. -/
structure UnknownOption where
  name : String
  deriving DecidableEq, Repr

def UnknownOption.message (u : UnknownOption) : String :=
  "CheckConfig.__init__() got an unexpected keyword argument '" ++ u.name ++ "'"

namespace NamedOptions

/-- The options with some of their values given; every name must be that of an
    option. -/
def ofMembers (members : List (String × Value)) : Except UnknownOption NamedOptions :=
  let defaults := Options.default.toNamed
  match members.find? fun m => !(defaults.any (·.1 == m.1)) with
  | some (name, _) => .error ⟨name⟩
  | none => .ok (defaults.map fun (name, v) => (name, (Value.lookup name members).getD v))

/-- The value of an option; nothing if there is no option of that name. -/
def value (name : String) (options : NamedOptions) : Value :=
  (Value.lookup name options).getD .null

/-- Named options with the values that are not null put in place of those of the
    same name; other names change nothing. -/
def override (options : NamedOptions) (changes : List (String × Value)) : NamedOptions :=
  options.map fun (name, old) =>
    match Value.lookup name changes with
    | some v => if v.isNull then (name, old) else (name, v)
    | none => (name, old)

def firstTrue : List Value → Value
  | [] => .bool false
  | [v] => v
  | v :: rest => if v.isTruthy then v else firstTrue rest

/-- Whether some check runs: the switch that says so, or the last one. -/
def anyEnabled (options : NamedOptions) : Value :=
  firstTrue (["build_on_save", "lint_on_save", "vet_on_save", "cover_on_save"].map fun name =>
    options.value name)

end NamedOptions

end SourceCheck
