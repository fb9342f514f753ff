import SourceCheck.StandIn.Shell.Pattern
import SourceCheck.StandIn.Utility.Content

/-! # The order of names with numbers in them

    Runs of digits in names count as numbers, so that the ninth version of a file
    comes before the tenth.  Endings of names count last.
-/

namespace SourceCheck.Utility

open SourceCheck.Shell SourceCheck.Text

/-- The rank of a character among names with numbers. -/
def versionRank (c? : Option Char) : Int :=
  match c? with
  | none => 0
  | some c =>
    if isDigitChar c then 0
    else if isLower c || isUpper c then c.toNat
    else if c = '~' then -1
    else (c.toNat : Int) + 256

/-- A comparison of two names with numbers in them; `fuel` bounds the steps. -/
def compareRuns : Nat → List Char → List Char → Ordering
  | 0, _, _ => .eq
  | fuel + 1, a, b =>
    if a.isEmpty && b.isEmpty then .eq
    else
      let starts := fun (s : List Char) => s.head?.any (!isDigitChar ·)
      if starts a || starts b then
        match compare (versionRank a.head?) (versionRank b.head?) with
        | .eq => compareRuns fuel (a.drop 1) (b.drop 1)
        | o => o
      else
        let da := (a.takeWhile isDigitChar)
        let db := (b.takeWhile isDigitChar)
        match compare (decimalValue da) (decimalValue db) with
        | .eq => compareRuns fuel (a.drop da.length) (b.drop db.length)
        | o => o

/-- The length of a name without the endings made of points, letters and digits. -/
def stemLength (s : List Char) : Nat :=
  go (s.length + 1) s.length s.reverse 0
where
  /-- Drops one ending after another; `gone` is how long those are. -/
  go : Nat → Nat → List Char → Nat → Nat
    | 0, length, _, gone => length - gone
    | fuel + 1, length, back, gone =>
      let ending := back.takeWhile fun c => isLower c || isUpper c || isDigitChar c || c == '~'
      match ending.getLast?, back.drop ending.length with
      | some c, '.' :: more =>
        if isDigitChar c then length - gone
        else go fuel length more (gone + ending.length + 1)
      | _, _ => length - gone

/-- A comparison of two names with numbers in them. -/
def compareVersions (a b : List Char) : Ordering :=
  let special := fun (s : List Char) =>
    if s.isEmpty then 0 else if s = ['.'] then 1 else if s = ['.', '.'] then 2
    else if s.head? = some '.' then 3 else 4
  match compare (special a) (special b) with
  | .eq =>
    if special a < 3 then .eq
    else
      let stem := fun (s : List Char) => s.take (stemLength s)
      match compareRuns (a.length + b.length + 2) (stem a) (stem b) with
      | .eq => compareRuns (a.length + b.length + 2) a b
      | o => o
  | o => o

end SourceCheck.Utility
