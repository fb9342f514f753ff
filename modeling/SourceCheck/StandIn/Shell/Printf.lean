import SourceCheck.StandIn.Shell.Numeral
import SourceCheck.Text.Field
import SourceCheck.Text.Lines
import SourceCheck.Text.Radix

/-! # Printing

    What the commands that print do with escapes and with a template.  A template
    is used again as long as arguments are left; a field without an argument
    shows nothing, or zero.
-/

namespace SourceCheck.Shell

open SourceCheck.Text SourceCheck.Number

/-! ## Escapes -/

def isOctalChar (c : Char) : Bool := '0' ≤ c && c ≤ '7'

/-- The octet that up to three octal digits name, and what follows. -/
def readOctal (s : List Char) : Char × List Char :=
  let ds := (s.take 3).takeWhile isOctalChar
  (Char.ofNat (octalValue ds % 256), s.drop ds.length)

def letterEscape? (c : Char) : Option Char :=
  if c = '\\' then some '\\'
  else if c = 'a' then some (Char.ofNat 7)
  else if c = 'b' then some (Char.ofNat 8)
  else if c = 'f' then some (Char.ofNat 12)
  else if c = 'n' then some '\n'
  else if c = 'r' then some '\r'
  else if c = 't' then some '\t'
  else if c = 'v' then some (Char.ofNat 11)
  else none

/-- What follows a backslash: the character it makes, and the rest.  A backslash
    that makes nothing stands for itself. -/
def readEscape (s : List Char) : Char × List Char :=
  match s with
  | [] => ('\\', [])
  | c :: rest =>
    if isOctalChar c then readOctal (c :: rest)
    else match letterEscape? c with
      | some e => (e, rest)
      | none => ('\\', c :: rest)

/-- A text with its escapes put in place, and whether an escape asked to stop; an
    octal number may have a zero in front of its three digits.  `out` is what was
    made before, the last character first, and `fuel` bounds the steps. -/
def unescapeWith : Nat → List Char → List Char → List Char × Bool
  | 0, out, _ => (out.reverse, false)
  | fuel + 1, out, s =>
    match s with
    | [] => (out.reverse, false)
    | '\\' :: 'c' :: _ => (out.reverse, true)
    | '\\' :: rest =>
      let body := match rest with
        | '0' :: d :: _ => if isOctalChar d then rest.drop 1 else rest
        | rest => rest
      let (c, rest) := readEscape body
      unescapeWith fuel (c :: out) rest
    | c :: rest => unescapeWith fuel (c :: out) rest

/-- A text with its escapes put in place, and whether an escape asked to stop. -/
def unescape (s : String) : String × Bool :=
  let cs := s.toList
  let (out, stop) := unescapeWith (cs.length + 1) [] cs
  (String.ofList out, stop)

/-! ## Templates -/

/-- What a template has shown so far. -/
structure Printing where
  out : List Char
  args : List String
  /-- Complaints about arguments, the last one first. -/
  complaints : List String
  stopped : Bool
  /-- The template cannot be used, and why. -/
  fault : Option String

/-- What is wrong with an argument after a number was read from it. -/
def complaintOf (s : String) (isThere : Bool) (rest : List Char) (outOfRange : Bool) :
    Option String :=
  if !rest.isEmpty then
    some (s ++ (if isThere then ": not completely converted" else ": expected numeric value"))
  else if outOfRange then some (s ++ ": Numerical result out of range")
  else none

/-- The number of the character after a quotation mark, if an argument starts with
    one. -/
def quotedCharacter? (s : String) : Option Nat :=
  match s.toList with
  | '\'' :: rest => some ((rest.head?.map Char.toNat).getD 0)
  | '"' :: rest => some ((rest.head?.map Char.toNat).getD 0)
  | _ => none

def integerArgument (signed : Bool) (s : String) : Int × Option String :=
  match quotedCharacter? s with
  | some n => (n, none)
  | none =>
    let r := if signed then readInteger true s.toList else readNatural s.toList
    (r.value, complaintOf s r.isThere r.rest r.tooGreat)

/-- An argument as a floating-point number, with a complaint if it is none. -/
def realArgument (s : String) : Double × Option String :=
  match quotedCharacter? s with
  | some n => (.ofInt n, none)
  | none =>
    let r := readReal s.toList
    (r.value, complaintOf s r.isThere r.rest r.outOfRange)

def Printing.next (p : Printing) : Option String × Printing :=
  match p.args with
  | [] => (none, p)
  | a :: rest => (some a, { p with args := rest })

def Printing.put (s : List Char) (p : Printing) : Printing :=
  { p with out := s.reverse ++ p.out }

def Printing.note (complaint : Option String) (p : Printing) : Printing :=
  match complaint with
  | some c => { p with complaints := c :: p.complaints }
  | none => p

/-- A width or precision: digits, or an argument where a star stands. -/
def readSize (p : Printing) (s : List Char) : Int × Printing × List Char :=
  match s with
  | '*' :: rest =>
    let (a, p) := p.next
    let (n, c) := integerArgument true (a.getD "")
    (n, p.note c, rest)
  | s =>
    let ds := s.takeWhile isDecimalDigit
    (((numberIn 10 ds).getD 0 : Nat), p, s.drop ds.length)
where
  isDecimalDigit (c : Char) : Bool := '0' ≤ c && c ≤ '9'

def cutText (f : Field) (s : List Char) : List Char :=
  match f.precision with
  | some n => s.take n
  | none => s

/-- An integer in a field; with a precision of zero, zero has no digits, and a
    precision takes the place of filling up with zeros. -/
def integerField (f : Field) (n : Int) (isSigned : Bool) : List Char :=
  let flags := if f.precision.isSome then { f.flags with zero := false } else f.flags
  let flags := if isSigned then flags else { flags with plus := false, blank := false }
  let f := { f with flags := flags }
  let c := f.letter
  let shown :=
    if c = 'o' then
      let plain := showInt f 8 [] n
      if f.flags.other && plain.body.head? != some '0' then
        { plain with body := '0' :: plain.body }
      else plain
    else if c = 'x' ∨ c = 'X' then
      showInt { f with flags := { f.flags with other := f.flags.other && n != 0 } } 16 ['0', 'x'] n
    else showInt { f with flags := { f.flags with other := false } } 10 [] n
  let shown := if n = 0 ∧ f.precision = some 0 then
      { shown with body := if c = 'o' ∧ f.flags.other then ['0'] else [] }
    else shown
  fill f true (if c = 'X' then shown.inCapitals else shown)

def realField (f : Field) (x : Double) : List Char :=
  let f := if x.isFinite then f else { f with flags := { f.flags with zero := false } }
  let shown := showReal f x
  let capital := f.letter = 'E' ∨ f.letter = 'F' ∨ f.letter = 'G'
  fill f true (if capital then shown.inCapitals else shown)

def textField (f : Field) (s : List Char) : List Char :=
  fill { f with flags := { f.flags with zero := false } } false ⟨none, [], s⟩

def showField (f : Field) (p : Printing) : Printing :=
  let c := f.letter
  let (a?, p) := p.next
  let a := a?.getD ""
  if c = 's' then p.put (textField f (cutText f a.toList))
  else if c = 'b' then
    let (shown, stop) := unescape a
    { p.put (textField f (cutText f shown.toList)) with stopped := p.stopped || stop }
  else if c = 'c' then p.put (textField f [(a.toList.head?).getD (Char.ofNat 0)])
  else if c = 'd' ∨ c = 'i' then
    let (n, complaint) := integerArgument true a
    (p.note complaint).put (integerField f n true)
  else if c = 'u' ∨ c = 'o' ∨ c = 'x' ∨ c = 'X' then
    let (n, complaint) := integerArgument false a
    (p.note complaint).put (integerField f n false)
  else
    let (x, complaint) := realArgument a
    (p.note complaint).put (realField f x)

def fieldLetters : List Char :=
  ['s', 'b', 'c', 'd', 'i', 'u', 'o', 'x', 'X', 'e', 'E', 'f', 'F', 'g', 'G']

/-- A template is gone through once; `fuel` bounds the steps. -/
def printWith : Nat → Printing → List Char → Printing
  | 0, p, _ => p
  | fuel + 1, p, s =>
    if p.stopped || p.fault.isSome then p
    else match s with
      | [] => p
      | '\\' :: rest =>
        let (c, rest) := readEscape rest
        printWith fuel (p.put [c]) rest
      | '%' :: '%' :: rest => printWith fuel (p.put ['%']) rest
      | '%' :: body =>
        let (flags, rest) := readFlags ⟨false, false, false, false, false⟩ body
        let (width, p, rest) := readSize p rest
        let (precision, p, rest) := match rest with
          | '.' :: rest =>
            let (n, p, rest) := readSize p rest
            (if n < 0 then none else some n.toNat, p, rest)
          | rest => (none, p, rest)
        let flags := if width < 0 then { flags with left := true } else flags
        match rest with
        | [] => { p with fault := some "missing format character" }
        | letter :: rest =>
          if fieldLetters.contains letter then
            printWith fuel (showField ⟨flags, width.natAbs, precision, letter⟩ p) rest
          else
            let directive := '%' :: body.take (body.length - rest.length)
            { p with fault := some (String.ofList directive ++ ": invalid directive") }
      | c :: rest => printWith fuel (p.put [c]) rest

/-- A template is used as long as it takes arguments; `fuel` bounds the turns. -/
def printTurns : Nat → List Char → Printing → Printing
  | 0, _, p => p
  | fuel + 1, template, p =>
    let before := p.args.length
    let p := printWith (template.length + 1) p template
    if p.stopped || p.fault.isSome || p.args.isEmpty || p.args.length == before then p
    else printTurns fuel template p

/-- What a template shows of some arguments, the complaints about them, and why it
    cannot be used, if that is so. -/
def printf (template : String) (args : List String) : String × List String × Option String :=
  let p := printTurns (args.length + 1) template.toList ⟨[], args, [], false, none⟩
  (String.ofList p.out.reverse, p.complaints.reverse, p.fault)

/-! ## Echoing -/

def spaced (words : List String) : String := joinWith " " words

/-- What a shell echoes: escapes are put in place, and a first word tells to leave
    the line open. -/
def echoText (words : List String) : String :=
  let (isOpen, words) := match words with
    | "-n" :: rest => (true, rest)
    | words => (false, words)
  let (s, stop) := unescape (spaced words)
  if isOpen || stop then s else s ++ "\n"

end SourceCheck.Shell
