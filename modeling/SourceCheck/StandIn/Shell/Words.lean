import SourceCheck.Number.Shortest
import SourceCheck.StandIn.Shell.Arithmetic
import SourceCheck.StandIn.Shell.Fields
import SourceCheck.StandIn.Shell.Options
import SourceCheck.Text.Lines

/-! # Words put in place

    Before a command runs, the parts of its words are put in place: variables give
    their values, scripts their output, expressions their numbers, and a tilde the
    home directory.
-/

namespace SourceCheck.Shell

open SourceCheck SourceCheck.Text

/-- How the parts of a word are put in place. -/
structure Placing where
  /-- The word will be cut into fields. -/
  isCut : Bool
  /-- The word belongs to the use of a variable, whose own text may be cut. -/
  isInner : Bool
  isQuoted : Bool
  /-- The word is the value of an assignment, in which tildes follow colons. -/
  isAssignment : Bool

namespace Placing

def arguments : Placing := ⟨true, false, false, false⟩

def text : Placing := ⟨false, false, false, false⟩

def assignment : Placing := ⟨false, false, false, true⟩

end Placing

/-! ## Home directories -/

/-- The home directories of the users of a plain system. -/
def homes : List (String × String) := [
  ("root", "/root"), ("daemon", "/usr/sbin"), ("bin", "/bin"), ("sys", "/dev"), ("sync", "/bin"),
  ("games", "/usr/games"), ("man", "/var/cache/man"), ("lp", "/var/spool/lpd"),
  ("mail", "/var/mail"), ("news", "/var/spool/news"), ("uucp", "/var/spool/uucp"),
  ("proxy", "/bin"), ("www-data", "/var/www"), ("backup", "/var/backups"), ("list", "/var/list"),
  ("irc", "/run/ircd"), ("nobody", "/nonexistent")]

/-- The home directory of a user, or of the one who runs the script. -/
def homeOf? (w : World) (user : String) : Option String :=
  if user.isEmpty then w.named? "HOME" else homes.lookup user

def plainStart : List Part → List Char
  | .char c false :: rest => c :: plainStart rest
  | _ => []

/-- The home directory that a tilde at the start of some parts stands for, and how
    many parts it takes. -/
def tildeAt? (w : World) (isAssignment : Bool) (parts : List Part) : Option (String × Nat) :=
  match parts with
  | .char '~' false :: rest =>
    let ends := fun c => c == '/' || (isAssignment && c == ':')
    let start := plainStart rest
    let user := start.takeWhile (!ends ·)
    if user.length == start.length && start.length != rest.length then none
    else (homeOf? w (String.ofList user)).map fun home => (home, user.length + 1)
  | _ => none

/-! ## Values -/

/-- The character between two arguments when all stand for a word: one at which
    the word is cut, or else the first separator. -/
def argumentSeparator (w : World) (each isCut isQuoted : Bool) : List Char :=
  if isCut && (each || !isQuoted) then [argumentEnd]
  else w.separators.take 1

def valueOf? (w : World) (name : String) (isCut isQuoted : Bool) : Option (List Char) :=
  let s := w.shell
  let number := fun n => (Number.natText n).toList
  if name = "#" then some (number s.arguments.length)
  else if name = "?" then some (number s.status)
  else if name = "$" then some (number s.mainPid)
  else if name = "!" then s.lastJob.map number
  else if name = "-" then some w.optionText.toList
  else if name = "@" ∨ name = "*" then
    some ((argumentSeparator w (name == "@") isCut isQuoted).intercalate
      (s.arguments.map String.toList))
  else match numberIn 10 name.toList with
    | some 0 => some s.name.toList
    | some n => (s.arguments[n - 1]?).map String.toList
    | none => (w.named? name).map String.toList

/-- A value as pieces: in quotes it is cut at most between arguments, outside
    quotes at separators. -/
def valuePieces (isQuoted betweenArguments : Bool) (value : List Char) : List Piece :=
  let chars := value.map (Piece.char · isQuoted)
  if isQuoted && !betweenArguments then chars
  else .start isQuoted :: chars ++ [.stop]

/-- The script fails because a variable has no value. -/
def World.failUnset (name message : String) (w : World) : World :=
  w.fail (name ++ ": " ++ message)

/-! ## Putting in place -/

/-- What runs the script of a part and gives its output. -/
abbrev Substitution := List Command → World → String × World

def expandArithmetic (expression : String) (w : World) : String × World :=
  let bindings := w.shell.bindings
  let values := bindings.filterMap fun v => v.value.map fun value => (v.name, value)
  let readOnly := (bindings.filter (·.readOnly)).map (·.name)
  match evaluate ⟨values, readOnly, []⟩ expression with
  | .error .tooGreat => ("", w.withFlow (.killed 8))
  | .error e => ("", w.fail (e.message expression))
  | .ok (n, after) =>
    (Number.intText n,
      after.changed.reverse.foldl (fun w (name, value) => w.setVariable name value) w)

/-- The output of a script without the line feeds at its end. -/
def outputText (s : String) : List Char :=
  ((s.toList.filter (· != Char.ofNat 0)).reverse.dropWhile (· == '\n')).reverse

/-- What is done with the value of a variable drops a part of it. -/
def trimOf : VariableUse → Option (List Mark → List Char → List Char)
  | .dropShortEnd => some (dropMatchEnd false)
  | .dropLongEnd => some (dropMatchEnd true)
  | .dropShortStart => some (dropMatch false)
  | .dropLongStart => some (dropMatch true)
  | _ => none

mutual

def expandPart (substitute : Substitution) (how : Placing) (inQuotes : Bool) :
    Part → World → List Piece × World
  | .char c isQuoted, w => ([.char c (isQuoted || inQuotes)], w)
  | .quotes, w => ([.quotes], w)
  | .arithmetic expression, w =>
    let (pieces, w) := expandParts substitute .text false 0 false expression w
    if !w.isRunning then ([], w)
    else
      let (s, w) := expandArithmetic (textOf pieces) w
      (valuePieces inQuotes false s.toList, w)
  | .output script, w =>
    let (s, w) := substitute script w
    (valuePieces inQuotes false (outputText s), w)
  | .variable name use colon word, w =>
    let value := valueOf? w name how.isCut inQuotes
    let isThere := match value with
      | none => false
      | some s => !(colon && s.isEmpty)
    let isEach := name == "@" && !w.shell.arguments.isEmpty
    let shown := fun (s : List Char) => valuePieces inQuotes isEach s
    let inner : Placing := ⟨how.isCut, true, inQuotes, how.isAssignment⟩
    let place := fun (w : World) =>
      let home := tildeAt? w how.isAssignment word
      let (pieces, w) := expandParts substitute inner false
        ((home.map (·.2)).getD 0) false word w
      (((home.map (·.1)).getD "").toList.map (Piece.char · true) ++ pieces, w)
    let asText := fun (w : World) =>
      let home := tildeAt? w false word
      let (pieces, w) := expandParts substitute .text false
        ((home.map (·.2)).getD 0) false word w
      (((home.map (·.1)).getD "").toList.map (Piece.char · true) ++ pieces, w)
    let isRefused := value.isNone && w.hasOption "nounset"
    match use with
    | .unknown => ([], w.fail "Bad substitution")
    | .orElse => if isThere then (shown (value.getD []), w) else place w
    | .ifSet => if isThere then place w else (shown [], w)
    | .orAssign =>
      if isThere then (shown (value.getD []), w)
      else
        let (pieces, w) := asText w
        if !w.isRunning then ([], w)
        else
          let w := w.assign ⟨name, some (textOf pieces), false, false, false⟩
          if !w.isRunning then ([], w)
          else (shown ((valueOf? w name how.isCut inQuotes).getD []), w)
    | .orFail =>
      if isThere then (shown (value.getD []), w)
      else
        let (pieces, w) := asText w
        if !w.isRunning then ([], w)
        else if word.isEmpty then
          ([], w.failUnset name ("parameter not set" ++ (if colon then " or null" else "")))
        else ([], w.failUnset name (textOf pieces))
    | use =>
      if isRefused then ([], w.failUnset name "parameter not set")
      else match use, trimOf use with
        | .size, _ => (shown (Number.natText (value.getD []).length).toList, w)
        | _, some trim =>
          if value.isNone then ([], w)
          else
            let (pieces, w) := asText w
            (shown (trim (marksOf pieces) (value.getD [])), w)
        | _, none => (if value.isNone then [] else shown (value.getD []), w)

/-- The pieces of some parts, of which the first ones are left out.  `isOpen` tells
    that a stretch of text that may be cut is open. -/
def expandParts (substitute : Substitution) (how : Placing) (inQuotes : Bool) (leftOut : Nat)
    (isOpen : Bool) : List Part → World → List Piece × World
  | [], w => (if isOpen then [.stop] else [], w)
  | part :: rest, w =>
    if !w.isRunning then ([], w)
    else match leftOut with
      | n + 1 => expandParts substitute how inQuotes n isOpen rest w
      | 0 =>
        let closing : List Piece := if isOpen then [.stop] else []
        match part with
        | .char c isQuoted =>
          let opens := how.isInner && !how.isQuoted && !inQuotes && !isQuoted
          let home := if how.isAssignment && c == ':' && !isQuoted && !inQuotes then
              tildeAt? w true rest
            else none
          let start : List Piece := if opens && !isOpen then [.start false] else
            if opens then [] else closing
          let here := start ++ [.char c (isQuoted || inQuotes || how.isQuoted)]
          match home with
          | none =>
            let (more, w) := expandParts substitute how inQuotes 0 opens rest w
            (here ++ more, w)
          | some (home, n) =>
            let (more, w) := expandParts substitute how inQuotes n false rest w
            (here ++ (if opens then [.stop] else []) ++ home.toList.map (Piece.char · true) ++ more,
              w)
        | .quotes =>
          match rest with
          | .variable "@" .value false [] :: .quotes :: _ =>
            if inQuotes then
              let (more, w) := expandParts substitute how false 0 false rest w
              (closing ++ .quotes :: more, w)
            else
              let value := (valueOf? w "@" how.isCut true).getD []
              let here := if w.shell.arguments.isEmpty then []
                else valuePieces true true value
              let (more, w) := expandParts substitute how false 2 false rest w
              (closing ++ here ++ more, w)
          | _ =>
            let (more, w) := expandParts substitute how (!inQuotes) 0 false rest w
            (closing ++ .quotes :: more, w)
        | part =>
          let (here, w) := expandPart substitute how (inQuotes || how.isQuoted) part w
          if !w.isRunning then ([], w)
          else
            let (more, w) := expandParts substitute how inQuotes 0 false rest w
            (closing ++ here ++ more, w)

end

def expandPieces (substitute : Substitution) (how : Placing) (word : List Part) (w : World) :
    List Piece × World :=
  let home := tildeAt? w how.isAssignment word
  let (pieces, w) := expandParts substitute how false ((home.map (·.2)).getD 0) false word w
  (((home.map (·.1)).getD "").toList.map (Piece.char · true) ++ pieces, w)

def expandText (substitute : Substitution) (word : List Part) (w : World) : String × World :=
  let (pieces, w) := expandPieces substitute .text word w
  (textOf pieces, w)

def expandValue (substitute : Substitution) (word : List Part) (w : World) : String × World :=
  let (pieces, w) := expandPieces substitute .assignment word w
  (textOf pieces, w)

def expandPattern (substitute : Substitution) (word : List Part) (w : World) :
    List Mark × World :=
  let (pieces, w) := expandPieces substitute .text word w
  (marksOf pieces, w)

def expandWord (substitute : Substitution) (word : List Part) (w : World) :
    List String × World :=
  let (pieces, w) := expandPieces substitute .arguments word w
  if w.isRunning then ((cutPieces w.separators none pieces).flatMap (fileNames w), w) else ([], w)

def expandWords (substitute : Substitution) : List (List Part) → World → List String × World
  | [], w => ([], w)
  | word :: rest, w =>
    let (here, w) := expandWord substitute word w
    if !w.isRunning then ([], w)
    else
      let (more, w) := expandWords substitute rest w
      (here ++ more, w)

end SourceCheck.Shell
