import SourceCheck.Text.DecimalDigit
import SourceCheck.Text.Lines
import SourceCheck.Text.Quoted

/-! # Reading command lines

    A command line is a row of arguments: options, the values of options, and
    operands.  An option has one or more names, which may be shortened as long as
    only one name fits; its value follows it, or stands behind an equals sign in
    the same argument.  After a double dash there are operands only; a double dash
    in the place of a value is dropped, and the option is then set without one.

    All arguments are first told apart, and then used from left to right.  What
    has no use is left over.
-/

namespace SourceCheck.CommandLine

open SourceCheck.Text

/-! ## Grammars -/

/-- What an option does. -/
inductive OptionUse (α : Type) where
  /-- It is set; the name under which it was given decides. -/
  | flag (setting : String → α)
  /-- It takes a value, which may be refused with a message; `bare` is the setting
      if the value was dropped. -/
  | value (read : String → Except String α) (bare : α)
  | help

structure OptionForm (α : Type) where
  names : List String
  use : OptionUse α

/-- Why reading stops. -/
inductive Stop where
  /-- The command line breaks the rules of a program. -/
  | misuse (program message : String)
  | help (program : String)
  deriving DecidableEq, Repr

/-- What was read: settings in order, and arguments left over. -/
structure Parsed (α : Type) where
  settings : List α
  /-- The arguments left over. -/
  extras : List String
  deriving Repr

/-- What operands a program takes. -/
inductive Operands (α : Type) where
  | none
  | one (name : String) (read : String → α)
  /-- A command with all arguments after it; the first one names it. -/
  | command (name : String) (names : List String)
    (read : String → List String → Except Stop (Parsed α))

/-- What a program understands. -/
structure Grammar (α : Type) where
  program : String
  options : List (OptionForm α)
  operands : Operands α

/-! ## Telling arguments apart -/

/-- An option as it is given: the option, unless there is none of that name, the
    name, and a value in the same argument. -/
structure Given (α : Type) where
  form : Option (OptionForm α)
  name : String
  value : Option String

/-- What an argument is. -/
inductive Kind (α : Type) where
  | operand
  | separator
  | option (g : Given α)

abbrev Argument (α : Type) := String × Kind α

variable {α : Type}

def Grammar.names (g : Grammar α) : List (String × OptionForm α) :=
  g.options.flatMap fun o => o.names.map (·, o)

def Grammar.option? (g : Grammar α) (name : String) : Option (OptionForm α) := g.names.lookup name

def atEquals (s : String) : String × Option String :=
  let cs := s.toList
  let before := String.ofList (cs.takeWhile (· != '='))
  match cs.dropWhile (· != '=') with
  | [] => (before, none)
  | _ :: after => (before, some (String.ofList after))

/-- The options that a shortened name may stand for. -/
def Grammar.fitting (g : Grammar α) (arg : String) : List (Given α) :=
  if startsWith arg "--" then
    -- a long name may be shortened, up to its equals sign
    let (start, value) := atEquals arg
    (g.names.filter fun (name, _) => startsWith name start).map fun (name, o) =>
      ⟨some o, name, value⟩
  else
    -- a short name has one letter, and the rest of the argument is its value
    let short := String.ofList (arg.toList.take 2)
    g.names.filterMap fun (name, o) =>
      if name = short then some ⟨some o, name, some (String.ofList (arg.toList.drop 2))⟩
      else if startsWith name arg then some ⟨some o, name, none⟩
      else none

/-- A text is a negative decimal number; a line feed at its end does not count. -/
def isNegativeNumber (s : String) : Bool :=
  match s.toList with
  | '-' :: cs =>
    let cs := if cs.getLast? == some '\n' then cs.dropLast else cs
    match cs.dropWhile isDecimalDigit with
    | [] => !cs.isEmpty
    | '.' :: fraction => !fraction.isEmpty && fraction.all isDecimalDigit
    | _ => false
  | _ => false

/-- What an argument before the double dash is. -/
def Grammar.kindOf (g : Grammar α) (arg : String) : Except Stop (Kind α) :=
  if !startsWith arg "-" then .ok .operand
  else match g.option? arg with
    | some o => .ok (.option ⟨some o, arg, none⟩)
    | none =>
      if arg = "-" then .ok .operand
      else match atEquals arg with
        -- the exact name in front of the equals sign goes first
        | (name, some value) =>
          match g.option? name with
          | some o => .ok (.option ⟨some o, name, some value⟩)
          | none => shortened
        | _ => shortened
where
  /-- What an argument is that is no full name of an option. -/
  shortened : Except Stop (Kind α) :=
    match g.fitting arg with
    | [given] => .ok (.option given)
    | [] =>
      if isNegativeNumber arg || holds arg ' ' then .ok .operand
      else .ok (.option ⟨none, arg, none⟩)
    | several =>
      .error (.misuse g.program ("ambiguous option: " ++ arg ++ " could match "
        ++ joinWith ", " (several.map (·.name))))

def Grammar.tellApart (g : Grammar α) : List String → Except Stop (List (Argument α))
  | [] => .ok []
  | "--" :: rest => .ok (("--", .separator) :: rest.map (·, .operand))
  | arg :: rest =>
    match g.kindOf arg with
    | .error e => .error e
    | .ok kind => (g.tellApart rest).map ((arg, kind) :: ·)

/-! ## Options -/

def Grammar.misuse {β : Type} (g : Grammar α) (names : List String) (message : String) :
    Except Stop β :=
  .error (.misuse g.program ("argument " ++ joinWith "/" names ++ ": " ++ message))

/-- An option with the value it takes, if it takes one. -/
structure Use (α : Type) where
  form : OptionForm α
  name : String
  value : Option String

/-- What an argument with options comes to: the options in it, and the arguments
    after it and its value. -/
structure Taken (α : Type) where
  uses : List (Use α)
  rest : List (Argument α)

def OptionForm.takesValue (o : OptionForm α) : Bool :=
  match o.use with
  | .value _ _ => true
  | .flag _ => false
  | .help => false

/-- The options in one argument; several options of one letter may share it.  `fuel`
    bounds their number. -/
def Grammar.take (g : Grammar α) (rest : List (Argument α)) :
    Nat → OptionForm α → String → Option String → Except Stop (Taken α)
  | 0, _, _, _ => .ok ⟨[], rest⟩
  | fuel + 1, o, name, value =>
    match value, o.takesValue with
    | some text, true => .ok ⟨[⟨o, name, some text⟩], rest⟩
    | some text, false =>
      -- what follows a flag of one letter is read as further letters
      let next := "-" ++ String.ofList (text.toList.take 1)
      let after := text.toList.drop 1
      match if startsWith name "--" || text.isEmpty then none else g.option? next with
      | none => g.misuse o.names ("ignored explicit argument " ++ quoted text)
      | some o' =>
        (g.take rest fuel o' next (if after.isEmpty then none else some (String.ofList after))).map
          fun t => { t with uses := ⟨o, name, none⟩ :: t.uses }
    | none, true =>
      match rest with
      | (text, .operand) :: rest => .ok ⟨[⟨o, name, some text⟩], rest⟩
      | _ => g.misuse o.names "expected one argument"
    | none, false => .ok ⟨[⟨o, name, none⟩], rest⟩

def Grammar.settingsOf (g : Grammar α) : List (Use α) → Except Stop (List α)
  | [] => .ok []
  | u :: rest =>
    match u.form.use with
    | .help => .error (.help g.program)
    | .flag setting => (g.settingsOf rest).map (setting u.name :: ·)
    | .value read bare =>
      match if u.value = some "--" then .ok bare else read (u.value.getD "") with
      | .error message => g.misuse u.form.names message
      | .ok a => (g.settingsOf rest).map (a :: ·)

/-! ## Operands -/

def isSeparator : Argument α → Bool
  | (_, .separator) => true
  | _ => false

def isOperand : Argument α → Bool
  | (_, .operand) => true
  | _ => false

def isOption : Argument α → Bool
  | (_, .option _) => true
  | _ => false

/-- What operands come to: what was read, whether the operands of the program are
    now complete, and the arguments after them. -/
structure Consumed (α : Type) where
  parsed : Parsed α
  /-- No more operands are taken. -/
  complete : Bool
  rest : List (Argument α)

def Consumed.nothing (complete : Bool) (rest : List (Argument α)) : Consumed α :=
  ⟨⟨[], []⟩, complete, rest⟩

def Grammar.consume (g : Grammar α) (complete : Bool) (args : List (Argument α)) :
    Except Stop (Consumed α) :=
  -- a double dash in front of operands is no operand itself
  let after := args.dropWhile isSeparator
  if complete || !(after.head?.any isOperand) then .ok (.nothing complete args)
  else match g.operands with
    -- operands without a use are left over
    | .none => .ok (.nothing complete args)
    | .one _ read =>
      let value := ((after.head?.map (·.1)).getD "")
      .ok ⟨⟨[read value], []⟩, true, (after.drop 1).dropWhile isSeparator⟩
    | .command name names read =>
      let values := args.map (·.1)
      let first := values.head?.getD ""
      if names.contains first then
        (read first (values.drop 1)).map fun p => ⟨p, true, []⟩
      else
        g.misuse [name] ("invalid choice: " ++ quoted first ++ " (choose from "
          ++ joinWith ", " (names.map quoted) ++ ")")

/-! ## Reading -/

/-- What was read, with more read after it. -/
def Parsed.append (p q : Parsed α) : Parsed α := ⟨p.settings ++ q.settings, p.extras ++ q.extras⟩

/-- The arguments after the last option: operands, and what is left over. -/
def Grammar.finish (g : Grammar α) (complete : Bool) (args : List (Argument α)) :
    Except Stop (Parsed α) :=
  match g.consume complete args with
  | .error e => .error e
  | .ok c =>
    match c.complete, g.operands with
    | false, .one name _ =>
      .error (.misuse g.program ("the following arguments are required: " ++ name))
    | _, _ => .ok (c.parsed.append ⟨[], c.rest.map (·.1)⟩)

/-- Uses arguments from left to right; `fuel` bounds their number. -/
def Grammar.use (g : Grammar α) : Nat → Bool → List (Argument α) → Except Stop (Parsed α)
  | 0, complete, args => g.finish complete args
  | fuel + 1, complete, args =>
    -- behind the last option all that is left is for the operands
    if !args.any isOption then g.finish complete args
    else
      match args with
      | (arg, .option given) :: rest =>
        match given.form with
        -- an unknown option is kept and complained about in the end
        | none => (g.use fuel complete rest).map (Parsed.append ⟨[], [arg]⟩)
        | some o =>
          match g.take rest arg.length o given.name given.value with
          | .error e => .error e
          | .ok t =>
            match g.settingsOf t.uses with
            | .error e => .error e
            | .ok settings => (g.use fuel complete t.rest).map (Parsed.append ⟨settings, []⟩)
      | args =>
        match g.consume complete args with
        | .error e => .error e
        | .ok c =>
          if c.rest.length < args.length then
            (g.use fuel c.complete c.rest).map c.parsed.append
          else
            -- operands in front of an option that nothing takes are left over as well
            let before := args.takeWhile (!isOption ·)
            (g.use fuel complete (args.drop before.length)).map
              (Parsed.append ⟨[], before.map (·.1)⟩)

/-- Reads a command line; arguments may be left over. -/
def Grammar.readSome (g : Grammar α) (args : List String) : Except Stop (Parsed α) :=
  match g.tellApart args with
  | .error e => .error e
  | .ok args => g.use (2 * args.length + 1) false args

/-- Reads a command line, of which nothing may be left over. -/
def Grammar.read (g : Grammar α) (args : List String) : Except Stop (List α) :=
  match g.readSome args with
  | .error e => .error e
  | .ok ⟨settings, []⟩ => .ok settings
  | .ok ⟨_, extras⟩ =>
    .error (.misuse g.program ("unrecognized arguments: " ++ joinWith " " extras))

end SourceCheck.CommandLine
