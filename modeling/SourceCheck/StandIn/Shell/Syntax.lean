/-! # Scripts

    A script is a sequence of commands.  A command is simple, that is a row of
    words with assignments and redirections, or it is built from other commands.
    A word is a row of parts, some of which stand for what is put in their place
    when the word is used.

    Texts in a script are rows of octets, each octet written as the character
    with its number.
-/

namespace SourceCheck.Shell

/-- What is done with the value of a variable. -/
inductive VariableUse where
  | value
  | size
  /-- The value, or a word if there is none. -/
  | orElse
  /-- The value, or a word that becomes the value if there is none. -/
  | orAssign
  | ifSet
  /-- The value, or a failure with a word as its message. -/
  | orFail
  /-- The value without the shortest part at its end that matches a word. -/
  | dropShortEnd
  /-- The value without the longest such part. -/
  | dropLongEnd
  /-- The value without the shortest part at its start that matches a word. -/
  | dropShortStart
  /-- The value without the longest such part. -/
  | dropLongStart
  /-- The script asks for something there is no use of this kind for. -/
  | unknown
  deriving DecidableEq, Repr, Inhabited

/-- How a redirection opens a file. -/
inductive Opening where
  | read
  | update
  /-- For writing from its start, unless files are to be kept. -/
  | write
  /-- For writing from its start in any case. -/
  | overwrite
  | append
  deriving DecidableEq, Repr, Inhabited

mutual

/-- A part of a word. -/
inductive Part where
  /-- A character, which may have lost its meaning by quotes. -/
  | char (c : Char) (isQuoted : Bool)
  /-- Double quotes are opened or closed here, or single quotes are. -/
  | quotes
  /-- The value of a variable.  With `colon`, an empty value counts as none. -/
  | variable (name : String) (use : VariableUse) (colon : Bool) (word : List Part)
  | arithmetic (expression : List Part)
  | output (script : List Command)

/-- A redirection of a descriptor. -/
inductive Redirect where
  | file (descriptor : Nat) (how : Opening) (word : List Part)
  /-- To where the descriptor leads that a word names, or nowhere. -/
  | copy (descriptor : Nat) (word : List Part)
  /-- To a text in the script, which is kept under a number. -/
  | document (descriptor : Nat) (number : Nat)

inductive Command where
  | simple (line : Nat) (assignments : List (String × List Part)) (words : List (List Part))
    (redirects : List Redirect)
  | redirected (line : Nat) (body : Command) (redirects : List Redirect)
  | row (commands : List Command)
  /-- Commands in a row, in a shell of their own. -/
  | subshell (line : Nat) (body : List Command) (redirects : List Redirect)
  /-- One of two bodies, chosen by a condition. -/
  | branch (condition body otherwise : List Command)
  /-- A body again and again while a condition holds, or until it does. -/
  | loop (untilHolds : Bool) (condition body : List Command)
  | each (line : Nat) (name : String) (words : List (List Part)) (body : List Command)
  /-- One of several bodies, chosen by the first pattern that a word matches. -/
  | choose (line : Nat) (word : List Part) (arms : List (List (List Part) × List Command))
  | define (name : String) (body : Command)
  /-- Commands of which each reads what the one before writes. -/
  | pipeline (commands : List Command)
  /-- A command whose success counts as failure and the other way round. -/
  | negate (command : Command)
  | both (first second : Command)
  | either (first second : Command)
  | background (command : Command)

end

instance : Inhabited Part := ⟨.quotes⟩

instance : Inhabited Command := ⟨.row []⟩

instance : Inhabited Redirect := ⟨.document 0 0⟩

def allArguments : List Part := [.quotes, .variable "@" .value false [], .quotes]

/-- What a function may not be called, since the shell itself gives the name a
    special meaning; an error in these commands ends the script. -/
def specialCommands : List String := [
  ":", ".", "break", "continue", "eval", "exec", "exit", "export", "local", "readonly", "return",
  "set", "shift", "times", "trap", "unset"]

end SourceCheck.Shell
