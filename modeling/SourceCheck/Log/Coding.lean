import SourceCheck.Log.RaisedFault
import SourceCheck.Text.Quoted

/-! # Faults in coding

    A text that cannot be coded is told with the characters at fault: one by its
    code, several by the first and the last of their positions.  The positions are
    those that were given, also where the text has no such characters.
-/

namespace SourceCheck.Log.Coding

open SourceCheck.Number SourceCheck.Text

/-! ## Arguments -/

def textAt (position : Nat) : Value → Except RaisedFault String
  | .text s => .ok s
  | .severity s => .ok s.name
  | v => .error (.notText position v.kindName)

/-- An integer of at most sixty-four bits. -/
def index : Value → Except RaisedFault Int
  | .bool b => .ok (if b then 1 else 0)
  | .int n =>
    if n < -(Nat.pow 2 63) ∨ (Nat.pow 2 63 : Int) ≤ n then .error .tooLarge else .ok n
  | v => .error (.notInteger v.kindName)

/-! ## Texts -/

/-- A character by its code, with two, four or eight hexadecimal digits. -/
def codeText (c : Char) : String :=
  let n := c.toNat
  String.ofList (
    if n < 0x100 then '\\' :: 'x' :: hexDigits 2 n
    else if n < 0x10000 then '\\' :: 'u' :: hexDigits 4 n
    else '\\' :: 'U' :: hexDigits 8 n)

/-- The positions from the first integer to the one before the last. -/
def span (first last : Int) : String := intText first ++ "-" ++ intText (last - 1)

/-- What is at fault in a text: the one character there, or what lies between two positions. -/
def atFault (s : String) (first last : Int) : String :=
  match if 0 ≤ first ∧ last = first + 1 then s.toList[first.toNat]? else none with
  | some c => "character '" ++ codeText c ++ "' in position " ++ intText first
  | none => "characters in position " ++ span first last

def encodeText : List Value → Except RaisedFault String
  | [coding, s, first, last, reason] => do
    let coding ← textAt 1 coding
    let s ← textAt 2 s
    let first ← index first
    let last ← index last
    let reason ← textAt 5 reason
    return "'" ++ coding ++ "' codec can't encode " ++ atFault s first last ++ ": " ++ reason
  | given => .error (.count 5 given.length)

def translateText : List Value → Except RaisedFault String
  | [s, first, last, reason] => do
    let s ← textAt 1 s
    let first ← index first
    let last ← index last
    let reason ← textAt 4 reason
    return "can't translate " ++ atFault s first last ++ ": " ++ reason
  | given => .error (.count 4 given.length)

/-- Why a fault in reading octets cannot be raised: no value holds octets. -/
def decodeText : List Value → Except RaisedFault String
  | [coding, octets, first, last, reason] => do
    let _ ← textAt 1 coding
    let _ ← index first
    let _ ← index last
    let _ ← textAt 5 reason
    .error (.notOctets octets.kindName)
  | given => .error (.count 5 given.length)

end SourceCheck.Log.Coding
