/-! # Words of a flag string

    A string of flags is cut into words as a shell would do it: words are
    separated by blanks, single quotes keep everything, double quotes keep all
    but the backslash before a double quote or a backslash, and outside quotes a
    backslash keeps the next character.  Quotes with nothing between them make
    an empty word.  There are no comments.
-/

namespace SourceCheck.Text.ShellWords

/-- Why a string cannot be cut into words. -/
inductive Fault where
  | openQuotation
  /-- It ends after a backslash. -/
  | openEscape
  deriving DecidableEq, Repr

def Fault.message : Fault → String
  | .openQuotation => "No closing quotation"
  | .openEscape => "No escaped character"

/-- Where the reader stands. -/
inductive Mode where
  | between
  /-- In a word, outside quotes. -/
  | plain
  | single
  | double
  /-- After a backslash outside quotes. -/
  | escape
  /-- After a backslash in double quotes. -/
  | doubleEscape
  deriving DecidableEq, Repr

/-- The mode, the word begun and the words read, both the last one first. -/
structure Progress where
  mode : Mode
  word : List Char
  words : List (List Char)
  deriving Repr

def isSeparator (c : Char) : Bool := c == ' ' || c == '\t' || c == '\r' || c == '\n'

/-- Reads one character of a word outside quotes. -/
def Progress.enter (p : Progress) (c : Char) : Progress :=
  if c = '\\' then { p with mode := .escape }
  else if c = '\'' then { p with mode := .single }
  else if c = '"' then { p with mode := .double }
  else { p with mode := .plain, word := c :: p.word }

def Progress.step (p : Progress) (c : Char) : Progress :=
  match p.mode with
  | .between => if isSeparator c then p else p.enter c
  | .plain =>
    if isSeparator c then ⟨.between, [], p.word.reverse :: p.words⟩ else p.enter c
  | .single =>
    if c = '\'' then { p with mode := .plain } else { p with word := c :: p.word }
  | .double =>
    if c = '"' then { p with mode := .plain }
    else if c = '\\' then { p with mode := .doubleEscape }
    else { p with word := c :: p.word }
  | .escape => { p with mode := .plain, word := c :: p.word }
  | .doubleEscape =>
    if c = '"' || c = '\\' then { p with mode := .double, word := c :: p.word }
    else { p with mode := .double, word := c :: '\\' :: p.word }

/-- The words once the string has ended. -/
def Progress.finish (p : Progress) : Except Fault (List String) :=
  let done := fun (ws : List (List Char)) => .ok (ws.reverse.map String.ofList)
  match p.mode with
  | .between => done p.words
  | .plain => done (p.word.reverse :: p.words)
  | .single | .double => .error .openQuotation
  | .escape | .doubleEscape => .error .openEscape

def split (s : String) : Except Fault (List String) :=
  (s.toList.foldl Progress.step ⟨.between, [], []⟩).finish

end SourceCheck.Text.ShellWords
