import SourceCheck.Number.Reading
import SourceCheck.StandIn.Utility.Content

/-! # Octets as letters

    Octets are written with letters from an alphabet of 64 or 32, each of which stands for
    six or five bits.  Groups of letters are filled up with equals signs.
-/

namespace SourceCheck.Utility

open SourceCheck SourceCheck.Shell SourceCheck.Text

namespace Encoding

/-- A way to write octets. -/
structure Alphabet where
  letters : List Char
  /-- How many bits a letter stands for. -/
  bits : Nat
  /-- How many letters make a group. -/
  group : Nat

def base64 : Alphabet :=
  ⟨"ABCDEFGHIJKLMNOPQRSTUVWXYZabcdefghijklmnopqrstuvwxyz0123456789+/".toList, 6, 4⟩

def base32 : Alphabet := ⟨"ABCDEFGHIJKLMNOPQRSTUVWXYZ234567".toList, 5, 8⟩

namespace Alphabet

def octets (a : Alphabet) : Nat := a.bits * a.group / 8

def digitsOf (base : Nat) : Nat → Nat → List Nat
  | 0, _ => []
  | count + 1, n => digitsOf base count (n / base) ++ [n % base]

/-- A group of letters for at most so many octets as it stands for. -/
def encodeGroup (a : Alphabet) (block : List Nat) : List Char :=
  let n := (block ++ List.replicate (a.octets - block.length) 0).foldl (fun n b => 256 * n + b) 0
  let used := (8 * block.length + a.bits - 1) / a.bits
  let all := (digitsOf (Nat.pow 2 a.bits) a.group n).map fun i => (a.letters[i]?).getD '='
  all.take used ++ List.replicate (a.group - used) '='

/-- The letters of some octets; `fuel` bounds the groups. -/
def encode (a : Alphabet) : Nat → List Nat → List Char
  | 0, _ => []
  | fuel + 1, octets =>
    if octets.isEmpty then []
    else a.encodeGroup (octets.take a.octets) ++ encode a fuel (octets.drop a.octets)

/-- The octets that the first letters of a group stand for. -/
def decodeStart (a : Alphabet) (values : List Nat) : List Nat :=
  let count := values.length * a.bits / 8
  let spare := values.length * a.bits - 8 * count
  let n := values.foldl (fun n v => Nat.pow 2 a.bits * n + v) 0
  digitsOf 256 count (n / Nat.pow 2 spare)

/-- A group has as many letters as some octets need, and equals signs after them. -/
def isGroup (a : Alphabet) (letters : List Char) (signs : Nat) : Bool :=
  letters.length + signs = a.group
    && (signs = 0 || (1 < letters.length
      && (letters.length * a.bits) % 8 < a.bits && letters.length * a.bits / 8 < a.octets))

/-- The octets that letters stand for, and whether all of them could be read; `fuel`
    bounds the groups. -/
def decode (a : Alphabet) : Nat → List Char → List Nat × Bool
  | 0, s => ([], s.isEmpty)
  | fuel + 1, s =>
    if s.isEmpty then ([], true)
    else
      let here := s.take a.group
      let letters := here.takeWhile a.letters.contains
      let signs := (here.drop letters.length).takeWhile (· == '=')
      let octets := a.decodeStart (letters.filterMap fun c => a.letters.findIdx? (· == c))
      if a.isGroup letters signs.length then
        let (more, isFine) := decode a fuel (s.drop a.group)
        (octets ++ more, isFine)
      else (octets, false)

end Alphabet

/-- Lines of at most some number of letters, each with a line feed; `fuel` bounds them. -/
def wrapped (width : Nat) : Nat → List Char → List Char
  | 0, s => s
  | fuel + 1, s =>
    if s.isEmpty then []
    else if width = 0 then s
    else s.take width ++ '\n' :: wrapped width fuel (s.drop width)

/-- Writes octets as letters, or letters as octets. -/
def coding (a : Alphabet) : Utility := withOptions
  [flag 'd' "decode", flag 'i' "ignore-garbage", taking 'w' "wrap"]
  fun name o w =>
    let width? := match o.last? "wrap" with
      | none => some 76
      | some s => if !s.isEmpty && s.toList.all isDigitChar then some (digitsValue s.toList) else none
    match o.args, width? with
    | _ :: extra :: _, _ => complainExtra name extra w
    | _, none =>
      complain name ("invalid wrap size: " ++ quotedWord w ((o.last? "wrap").getD "")) w
    | args, some width =>
      let (s, w) := readWhole name args w
      if w.shell.status != 0 then w
      else if o.has "decode" then
        -- line ends are skipped always, other letters only when asked
        let letters := s.filter fun c =>
          c != '\n' && (!o.has "ignore-garbage" || a.letters.contains c || c == '=')
        let (octets, isFine) := a.decode (letters.length + 1) letters
        let w := put (octets.map Char.ofNat) w
        if isFine then w else complain name "invalid input" w
      else
        let letters := a.encode (s.length + 1) (s.map Char.toNat)
        put (wrapped width (letters.length + 1) letters) w

end Encoding

/-- Writes octets with 64 letters. -/
def base64 : Utility := Encoding.coding Encoding.base64

/-- Writes octets with 32 letters. -/
def base32 : Utility := Encoding.coding Encoding.base32

end SourceCheck.Utility
