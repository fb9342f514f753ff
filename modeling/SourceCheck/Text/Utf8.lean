import SourceCheck.Text.Quoted

/-! # Text as octets

    UTF-8.  Octets are cut into pieces, each either a character or a maximal
    ill-formed run: the longest start of some character, or else one octet.
    The octets of the pieces, one after the other, are the octets given.

    Two readers follow: `decode` puts U+FFFD for each ill-formed run, and
    `decodeStrict` refuses at the first one and says where and why.
-/

namespace SourceCheck.Text.Utf8

/-! ## Writing -/

def encodeChar (c : Char) : List UInt8 :=
  let n := c.toNat
  if n < 0x80 then [n.toUInt8]
  else if n < 0x800 then [(0xC0 + n / 0x40).toUInt8, (0x80 + n % 0x40).toUInt8]
  else if n < 0x10000 then
    [(0xE0 + n / 0x1000).toUInt8, (0x80 + n / 0x40 % 0x40).toUInt8, (0x80 + n % 0x40).toUInt8]
  else
    [(0xF0 + n / 0x40000).toUInt8, (0x80 + n / 0x1000 % 0x40).toUInt8,
      (0x80 + n / 0x40 % 0x40).toUInt8, (0x80 + n % 0x40).toUInt8]

def encode (s : String) : List UInt8 := s.toList.flatMap encodeChar

/-! ## Pieces -/

/-- Why a run of octets is no character. -/
inductive Fault where
  | start
  /-- The octet after the run does not go on with the character begun. -/
  | continuation
  /-- The octets end inside a character. -/
  | ending
  deriving DecidableEq, Repr

/-- A character, or a maximal ill-formed run. -/
inductive Piece where
  | scalar (c : Char)
  | illFormed (octets : List UInt8) (fault : Fault)
  deriving DecidableEq, Repr

/-- A character of which some octets were read. -/
structure Begun where
  octets : List UInt8
  /-- How many octets are still owed. -/
  owed : Nat
  /-- The least value the next octet may have. -/
  low : Nat
  /-- The greatest value it may have. -/
  high : Nat
  /-- The bits read so far. -/
  value : Nat
  deriving Repr

/-- What an octet means between characters. -/
inductive Lead where
  | single (c : Char)
  | begins (b : Begun)
  | bad
  deriving Repr

/-- The meaning of an octet between characters. -/
def lead (b : UInt8) : Lead :=
  let n := b.toNat
  if n < 0x80 then .single (Char.ofNat n)
  else if n < 0xC2 then .bad
  else if n < 0xE0 then .begins ⟨[b], 1, 0x80, 0xBF, n - 0xC0⟩
  else if n = 0xE0 then .begins ⟨[b], 2, 0xA0, 0xBF, 0⟩
  else if n = 0xED then .begins ⟨[b], 2, 0x80, 0x9F, 0xD⟩
  else if n < 0xF0 then .begins ⟨[b], 2, 0x80, 0xBF, n - 0xE0⟩
  else if n = 0xF0 then .begins ⟨[b], 3, 0x90, 0xBF, 0⟩
  else if n < 0xF4 then .begins ⟨[b], 3, 0x80, 0xBF, n - 0xF0⟩
  else if n = 0xF4 then .begins ⟨[b], 3, 0x80, 0x8F, 4⟩
  else .bad

/-- Where the reader stands: the character begun, if any, and the pieces cut so
    far, the last one first. -/
structure Progress where
  begun : Option Begun
  pieces : List Piece

/-- Reads an octet between characters. -/
def Progress.fresh (pieces : List Piece) (b : UInt8) : Progress :=
  match lead b with
  | .single c => ⟨none, .scalar c :: pieces⟩
  | .begins g => ⟨some g, pieces⟩
  | .bad => ⟨none, .illFormed [b] .start :: pieces⟩

def Progress.step (p : Progress) (b : UInt8) : Progress :=
  match p.begun with
  | none => .fresh p.pieces b
  | some g =>
    if g.low ≤ b.toNat ∧ b.toNat ≤ g.high then
      let value := g.value * 0x40 + (b.toNat - 0x80)
      if g.owed ≤ 1 then ⟨none, .scalar (Char.ofNat value) :: p.pieces⟩
      else ⟨some ⟨b :: g.octets, g.owed - 1, 0x80, 0xBF, value⟩, p.pieces⟩
    else .fresh (.illFormed g.octets.reverse .continuation :: p.pieces) b

/-- Ends the reading; a character begun stays ill-formed. -/
def Progress.finish (p : Progress) : List Piece :=
  match p.begun with
  | none => p.pieces.reverse
  | some g => (.illFormed g.octets.reverse .ending :: p.pieces).reverse

def pieces (octets : List UInt8) : List Piece :=
  (octets.foldl Progress.step ⟨none, []⟩).finish

/-! ## Reading -/

def Piece.shown : Piece → Char
  | .scalar c => c
  | .illFormed _ _ => Char.ofNat 0xFFFD

/-- The text of any octets, with U+FFFD for each ill-formed run. -/
def decode (octets : List UInt8) : String :=
  String.ofList ((pieces octets).map Piece.shown)

/-- The first ill-formed run of some octets. -/
structure Refusal where
  /-- How many octets stand before it. -/
  position : Nat
  octets : List UInt8
  fault : Fault
  deriving DecidableEq, Repr

/-- Looks for the first ill-formed run; `position` octets were passed. -/
def firstRefusal (position : Nat) : List Piece → Option Refusal
  | [] => none
  | .illFormed octets fault :: _ => some ⟨position, octets, fault⟩
  | .scalar c :: rest => firstRefusal (position + (encodeChar c).length) rest

def decodeStrict (octets : List UInt8) : Except Refusal String :=
  let ps := pieces octets
  match firstRefusal 0 ps with
  | some refusal => .error refusal
  | none => .ok (String.ofList (ps.map Piece.shown))

def Fault.message : Fault → String
  | .start => "invalid start byte"
  | .continuation => "invalid continuation byte"
  | .ending => "unexpected end of data"

/-- The wording of a refusal, with its place and, for a single octet, its value. -/
def Refusal.message (r : Refusal) : String :=
  let place := match r.octets with
    | [b] => "byte 0x" ++ String.ofList (hexDigits 2 b.toNat) ++ " in position "
        ++ toString r.position
    | octets => "bytes in position " ++ toString r.position ++ "-"
        ++ toString (r.position + octets.length - 1)
  "'utf-8' codec can't decode " ++ place ++ ": " ++ r.fault.message

end SourceCheck.Text.Utf8
