import SourceCheck.StandIn.Shell.World
import SourceCheck.Text.Lines

/-! # Utilities

    The small programs of a system read the standard input and files, change
    files, and write.  Each is a function from its arguments and the world to the
    world after it.  All say in the same way what is wrong, and quote names in
    messages by the same rules.
-/

namespace SourceCheck

open Text Shell

/-- A program with the name it was called by and its arguments. -/
abbrev Utility := String → List String → World → World

namespace Utility

/-! ## Quoting -/

/-- Texts are read as UTF-8, unless the environment asks for plain octets. -/
def usesUtf8 (w : World) : Bool :=
  let chosen := ["LC_ALL", "LC_CTYPE", "LANG"].findSome? fun name =>
    (w.environment.lookup name).bind fun v => if v.isEmpty then none else some v
  match chosen with
  | some v => v != "C" && v != "POSIX"
  | none => true

def quotedWord (w : World) (s : String) : String :=
  if usesUtf8 w then ofText "‘" ++ s ++ ofText "’" else "'" ++ s ++ "'"

/-- A character that a shell would not take for itself. -/
def isShellSpecial (c : Char) : Bool :=
  " !\"$&()*;<=>[^\x60|'?\\".toList.contains c || c.toNat < 0x20 || c.toNat == 0x7F

def needsQuotes (s : String) : Bool :=
  match s.toList with
  | [] => true
  | [c] => isShellSpecial c || "\x7b\x7d#~".toList.contains c
  | c :: rest => c == '#' || c == '~' || (c :: rest).any isShellSpecial

def controlEscape (c : Char) : List Char :=
  let letters : List (Nat × Char) :=
    [(7, 'a'), (8, 'b'), (9, 't'), (10, 'n'), (11, 'v'), (12, 'f'), (13, 'r')]
  match letters.lookup c.toNat with
  | some e => ['\\', e]
  | none =>
    let n := c.toNat
    ['\\', Char.ofNat (0x30 + n / 64), Char.ofNat (0x30 + n / 8 % 8), Char.ofNat (0x30 + n % 8)]

/-- The inside of a word in single quotes, from which escapes stand out. -/
def singleInside (escaping : Bool) : List Char → List Char
  | [] => []
  | c :: rest =>
    if c.toNat < 0x20 || c.toNat == 0x7F then
      (if escaping then [] else ['\'', '$', '\'']) ++ controlEscape c
        ++ (if rest.isEmpty then [] else singleInside true rest)
    else if c == '\'' then
      (if escaping then ['\'', '\''] else []) ++ ['\'', '\\', '\''] ++ singleInside false rest
    else (if escaping then ['\'', '\''] else []) ++ c :: singleInside false rest

/-- A word in the quotes of a shell: double ones if it has single quotes and
    nothing that means something in double ones. -/
def shellQuoted (s : String) : String :=
  let cs := s.toList
  let isPlain := !cs.any fun c =>
    c == '"' || c == '$' || c == '\x60' || c == '\\' || c == '!' || c.toNat < 0x20 || c.toNat == 0x7F
  if cs.contains '\'' && isPlain then "\"" ++ s ++ "\""
  else String.ofList ('\'' :: singleInside false cs ++ ['\''])

def shellQuotedIfNeeded (s : String) : String := if needsQuotes s then shellQuoted s else s

/-! ## Messages -/

/-- A program writes a message, and its status tells of a failure. -/
def complainWith (status : Nat) (name message : String) (w : World) : World :=
  (w.write 2 (name ++ ": " ++ message ++ "\n")).withStatus status

/-- A program writes a message, and its status tells of a failure. -/
def complain (name message : String) (w : World) : World := complainWith 1 name message w

/-- A program complains about its arguments and points to its help. -/
def complainUsage (status : Nat) (name message : String) (w : World) : World :=
  complainWith status name
    (message ++ "\nTry '" ++ name ++ " --help' for more information.") w

def complainFile (name path : String) (e : SystemError) (w : World) : World :=
  complain name (shellQuotedIfNeeded path ++ ": " ++ e.wording) w

def put (s : List Char) (w : World) : World := w.print (String.ofList s)

def putAll (texts : List (List Char)) (w : World) : World := put texts.flatten w

def complainExtra (name argument : String) (w : World) : World :=
  complainUsage 1 name ("extra operand " ++ quotedWord w argument) w

end Utility

end SourceCheck
