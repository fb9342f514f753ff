import SourceCheck.Text.Radix

/-! # Modes of files

    The mode of a file is a number of twelve bits: three special ones, and for its
    owner, its group and all others whether they may read, write and run it.  A
    change of modes is written as an octal number or in letters.
-/

namespace SourceCheck

open Text

namespace FileMode

def allBits : Nat := 0o7777

/-- The bits that make a file run with the rights of its owner or its group. -/
def identityBits : Nat := 0o6000

def without (mode bits : Nat) : Nat := mode &&& (allBits ^^^ (bits &&& allBits))

/-- What is done with the bits of a change. -/
inductive Operator where
  | add
  | remove
  /-- They take the place of the old ones. -/
  | assign
  deriving DecidableEq, Repr

/-- Which bits a change names. -/
inductive Bits where
  | written (bits : Nat)
  /-- Bits written in letters; those for running too if the file is a directory or
      somebody may run it. -/
  | runnable (bits : Nat)
  | copied (bits : Nat)
  deriving DecidableEq, Repr

/-- A change of a mode. -/
structure Change where
  op : Operator
  bits : Bits
  /-- The bits of those whom the change is for; zero if nobody is named. -/
  whose : Nat
  mentioned : Nat
  deriving Repr

def whoseBits? (c : Char) : Option Nat :=
  [('u', 0o4700), ('g', 0o2070), ('o', 0o1007), ('a', allBits)].lookup c

def letterBits? (c : Char) : Option Nat :=
  [('r', 0o444), ('w', 0o222), ('x', 0o111), ('X', 0), ('s', identityBits), ('t', 0o1000)].lookup c

def groupBits? (c : Char) : Option Nat := [('u', 0o700), ('g', 0o070), ('o', 0o007)].lookup c

def operator? (c : Char) : Option Operator :=
  if c = '+' then some .add else if c = '-' then some .remove
  else if c = '=' then some .assign else none

def isOctal (c : Char) : Bool := '0' ≤ c && c ≤ '7'

/-- The number that octal digits write, if it is a mode. -/
def octal? (s : List Char) : Option Nat :=
  if s.isEmpty || !s.all isOctal then none
  else
    let n := octalValue s
    if n ≤ allBits then some n else none

/-- The bits after an operator, what they mention, and what follows. -/
def readBits (whose : Nat) (s : List Char) : Option (Bits × Nat × Nat × List Char) :=
  match s with
  | [] => some (.written 0, whose, 0, [])
  | c :: rest =>
    if isOctal c then
      let ds := s.takeWhile isOctal
      let after := s.drop ds.length
      if whose != 0 || !(after.isEmpty || after.head? == some ',') then none
      else (octal? ds).map fun n => (.written n, allBits, allBits, after)
    else match groupBits? c with
      | some bits => some (.copied bits, whose, if whose = 0 then bits else whose &&& bits, rest)
      | none =>
        let letters := s.takeWhile fun c => (letterBits? c).isSome
        let bits := letters.foldl (fun n c => n ||| (letterBits? c).getD 0) 0
        let mentioned := if whose = 0 then bits else whose &&& bits
        some (if letters.contains 'X' then .runnable bits else .written bits, whose, mentioned,
          s.drop letters.length)

/-- Changes with operators in a row for some; `fuel` bounds the characters. -/
def readOperators (whose : Nat) : Nat → List Char → Option (List Change × List Char)
  | 0, _ => none
  | fuel + 1, s =>
    match s with
    | [] => none
    | c :: rest =>
      match operator? c with
      | none => none
      | some op =>
        match readBits whose rest with
        | none => none
        | some (bits, whose', mentioned, after) =>
          let change : Change := ⟨op, bits, whose', mentioned⟩
          if (after.head?.bind operator?).isSome then
            (readOperators whose' fuel after).map fun (more, rest) => (change :: more, rest)
          else some ([change], after)

/-- Changes separated by commas; `fuel` bounds the characters. -/
def readChanges : Nat → List Char → Option (List Change)
  | 0, _ => none
  | fuel + 1, s =>
    let who := s.takeWhile fun c => (whoseBits? c).isSome
    let whose := who.foldl (fun n c => n ||| (whoseBits? c).getD 0) 0
    match readOperators whose fuel (s.drop who.length) with
    | none => none
    | some (here, []) => some here
    | some (here, ',' :: rest) => (readChanges fuel rest).map (here ++ ·)
    | some (_, _ :: _) => none

def changes? (s : List Char) : Option (List Change) :=
  if s.head?.any isOctal then
    (octal? s).map fun n =>
      let mentioned := if s.length < 5 then (n &&& identityBits) ||| 0o1777 else allBits
      [⟨.assign, .written n, allBits, mentioned⟩]
  else readChanges (s.length + 1) s

def spread (bits : Nat) : Nat :=
  [0o444, 0o222, 0o111].foldl (fun n all => if bits &&& all = 0 then n else n ||| all) bits

/-- A mode after a change; bits of the mask are left out where nobody is named. -/
def Change.apply (isDirectory : Bool) (mask : Nat) (mode : Nat) (c : Change) : Nat :=
  let kept := if isDirectory then without identityBits c.mentioned else 0
  let bits := match c.bits with
    | .written bits => bits
    | .runnable bits => if isDirectory || mode &&& 0o111 != 0 then bits ||| 0o111 else bits
    | .copied bits => spread (bits &&& mode)
  let bits := without (if c.whose = 0 then without bits mask else bits &&& c.whose) kept
  match c.op with
  | .add => mode ||| bits
  | .remove => without mode bits
  | .assign =>
    let preserved := (if c.whose = 0 then 0 else without allBits c.whose) ||| kept
    (mode &&& preserved) ||| bits

def applyAll (isDirectory : Bool) (mask : Nat) (changes : List Change) (mode : Nat) : Nat :=
  changes.foldl (Change.apply isDirectory mask) mode

def allowed (bits : Nat) : String :=
  String.ofList ([(4, 'r'), (2, 'w'), (1, 'x')].filterMap fun (bit, c) =>
    if bits / bit % 2 = 1 then some c else none)

end FileMode

end SourceCheck
