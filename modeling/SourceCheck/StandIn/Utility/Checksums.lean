import SourceCheck.StandIn.Utility.Content

/-! # Checksums

    Sums over the octets of a text.  Those of one family go through the text block by
    block, each time mixing the words of the block into a state; the text is filled up
    with a mark, zeros and its length.
-/

namespace SourceCheck.Utility

open SourceCheck SourceCheck.Text SourceCheck.Shell

namespace Checksum

/-! ## Words -/

def ofHighFirst (octets : List Nat) : Nat := octets.foldl (fun n b => 256 * n + b) 0

/-- The octets of a number, the lowest one first. -/
def lowFirst : Nat → Nat → List Nat
  | 0, _ => []
  | count + 1, n => n % 256 :: lowFirst count (n / 256)

def highFirst (count n : Nat) : List Nat := (lowFirst count n).reverse

def hexadecimal (octets : List Nat) : List Char :=
  octets.flatMap fun b => (Nat.toDigits 16 (256 + b)).drop 1

/-- A list in pieces of one length; `fuel` bounds them. -/
def pieces {α : Type} (size : Nat) : Nat → List α → List (List α)
  | 0, _ => []
  | fuel + 1, items =>
    if items.isEmpty then [] else items.take size :: pieces size fuel (items.drop size)

/-- The octets of a text filled up to whole blocks: a mark, zeros, and the number of
    its bits. -/
def filled (block lengthSize : Nat) (lengthOctets : Nat → List Nat) (octets : List Nat) :
    List Nat :=
  let used := octets.length + 1 + lengthSize
  let zeros := (block - used % block) % block
  octets ++ 0x80 :: List.replicate zeros 0 ++ lengthOctets (8 * octets.length)

def blocks (block word : Nat) (ofOctets : List Nat → Nat) (octets : List Nat) :
    List (Array Nat) :=
  (pieces block (octets.length / block + 1) octets).map fun b =>
    ((pieces word (block / word + 1) b).map ofOctets).toArray

/-! ## Roots

    The constants of these sums are the first bits of the fractions of roots of primes. -/

/-- The greatest number whose power is at most some number; the search halves the range
    from `low` on `bits` times. -/
def rootBelow (power n : Nat) : Nat → Nat → Nat
  | low, 0 => low
  | low, bits + 1 =>
    let middle := low + Nat.pow 2 bits
    rootBelow power n (if Nat.pow middle power ≤ n then middle else low) bits

def rootFraction (power bits n : Nat) : Nat :=
  rootBelow power (n * Nat.pow 2 (power * bits)) 0 (bits + 6) % Nat.pow 2 bits

def isPrime (n : Nat) : Bool :=
  1 < n && (List.range n).all fun d => d < 2 || n % d != 0

def primes (count : Nat) : List Nat := ((List.range 420).filter isPrime).take count

/-! ## Sums with 128 and 160 bits -/

def turnLeft (x : UInt32) (n : UInt32) : UInt32 := x <<< n ||| x >>> (32 - n)

/-- The constants of the sum with 128 bits: the first bits of sines. -/
def sines : Array UInt32 :=
  ((List.range 64).map fun i =>
    ((Float.sin (i + 1).toFloat).abs * 4294967296.0).toUInt64.toUInt32).toArray

/-- How far words are turned in the rounds of the sum with 128 bits. -/
def turns : Array UInt32 := #[7, 12, 17, 22, 5, 9, 14, 20, 4, 11, 16, 23, 6, 10, 15, 21]

/-- One block is mixed into the state of the sum with 128 bits. -/
def mix128 (constants : Array UInt32) (state : UInt32 × UInt32 × UInt32 × UInt32)
    (words : Array Nat) : UInt32 × UInt32 × UInt32 × UInt32 :=
  let (a0, b0, c0, d0) := state
  let (a, b, c, d) := (List.range 64).foldl (fun (a, b, c, d) i =>
    let round := i / 16
    let (f, g) :=
      if round = 0 then ((b &&& c) ||| (~~~b &&& d), i)
      else if round = 1 then ((d &&& b) ||| (~~~d &&& c), (5 * i + 1) % 16)
      else if round = 2 then (b ^^^ c ^^^ d, (3 * i + 5) % 16)
      else (c ^^^ (b ||| ~~~d), 7 * i % 16)
    let sum := f + a + constants[i]?.getD 0 + (words[g]?.getD 0).toUInt32
    (d, b + turnLeft sum (turns[4 * round + i % 4]?.getD 0), b, c)) state
  (a0 + a, b0 + b, c0 + c, d0 + d)

def sum128 (octets : List Nat) : List Nat :=
  let ofLowFirst := fun (b : List Nat) => ofHighFirst b.reverse
  let constants := sines
  let (a, b, c, d) := (blocks 64 4 ofLowFirst (filled 64 8 (lowFirst 8) octets)).foldl
    (mix128 constants) (0x67452301, 0xefcdab89, 0x98badcfe, 0x10325476)
  [a, b, c, d].flatMap fun x => lowFirst 4 x.toNat

/-- The words of a block of the sum with 160 bits, and those that follow from them. -/
def schedule160 (words : Array Nat) : Array UInt32 :=
  (List.range 64).foldl (fun (w : Array UInt32) i =>
    let at16 := fun (back : Nat) => w[i + 16 - back]?.getD 0
    w.push (turnLeft (at16 3 ^^^ at16 8 ^^^ at16 14 ^^^ at16 16) 1)) (words.map (·.toUInt32))

/-- One block is mixed into the state of the sum with 160 bits. -/
def mix160 (state : List UInt32) (words : Array Nat) : List UInt32 :=
  let w := schedule160 words
  let new := (List.range 80).foldl (fun (s : List UInt32) i =>
    match s with
    | [a, b, c, d, e] =>
      let (f, k) : UInt32 × UInt32 :=
        if i < 20 then ((b &&& c) ||| (~~~b &&& d), 0x5a827999)
        else if i < 40 then (b ^^^ c ^^^ d, 0x6ed9eba1)
        else if i < 60 then ((b &&& c) ||| (b &&& d) ||| (c &&& d), 0x8f1bbcdc)
        else (b ^^^ c ^^^ d, 0xca62c1d6)
      [turnLeft a 5 + f + e + k + w[i]?.getD 0, a, turnLeft b 30, c, d]
    | s => s) state
  (state.zip new).map fun (x, y) => x + y

def sum160 (octets : List Nat) : List Nat :=
  ((blocks 64 4 ofHighFirst (filled 64 8 (highFirst 8) octets)).foldl mix160
    [0x67452301, 0xefcdab89, 0x98badcfe, 0x10325476, 0xc3d2e1f0]).flatMap fun x =>
      highFirst 4 x.toNat

/-! ## Sums with 224 to 512 bits -/

/-- A sum of this family: the bits of its words, how many rounds it has, and how far
    words are turned; the last of three turns in the schedule only shifts. -/
structure Family where
  bits : Nat
  rounds : Nat
  first : List Nat
  fifth : List Nat
  /-- The turns of the word fifteen places before. -/
  near : List Nat
  /-- The turns of the word two places before. -/
  last : List Nat

def family32 : Family := ⟨32, 64, [2, 13, 22], [6, 11, 25], [7, 18, 3], [17, 19, 10]⟩

def family64 : Family := ⟨64, 80, [28, 34, 39], [14, 18, 41], [1, 8, 7], [19, 61, 6]⟩

namespace Family

def turn (f : Family) (x n : Nat) : Nat :=
  x / Nat.pow 2 n + x % Nat.pow 2 n * Nat.pow 2 (f.bits - n)

/-- A word turned in several ways, put together. -/
def turned (f : Family) (x : Nat) (ns : List Nat) : Nat :=
  ns.foldl (fun y n => Nat.xor y (f.turn x n)) 0

/-- A word turned in two ways and shifted in a third one, put together. -/
def shifted (f : Family) (x : Nat) (ns : List Nat) : Nat :=
  Nat.xor (f.turned x (ns.take 2)) (x / Nat.pow 2 ((ns[2]?).getD 0))

def schedule (f : Family) (words : Array Nat) : Array Nat :=
  (List.range (f.rounds - 16)).foldl (fun (w : Array Nat) i =>
    let back := fun (n : Nat) => w[i + 16 - n]?.getD 0
    w.push ((f.shifted (back 2) f.last + back 7 + f.shifted (back 15) f.near + back 16)
      % Nat.pow 2 f.bits)) words

def mix (f : Family) (constants : Array Nat) (state : List Nat) (words : Array Nat) : List Nat :=
  let w := f.schedule words
  let size := Nat.pow 2 f.bits
  let new := (List.range f.rounds).foldl (fun (s : List Nat) i =>
    match s with
    | [a, b, c, d, e, g, h, k] =>
      let choice := Nat.xor (Nat.land e g) (Nat.land (size - 1 - e) h)
      let most := Nat.xor (Nat.xor (Nat.land a b) (Nat.land a c)) (Nat.land b c)
      let t := k + f.turned e f.fifth + choice + constants[i]?.getD 0 + w[i]?.getD 0
      [(t + f.turned a f.first + most) % size, a, b, c, (d + t) % size, e, g, h]
    | s => s) state
  (state.zip new).map fun (x, y) => (x + y) % size

def sum (f : Family) (start : List Nat) (count : Nat) (octets : List Nat) : List Nat :=
  let word := f.bits / 8
  let block := 16 * word
  let constants := ((primes f.rounds).map (rootFraction 3 f.bits)).toArray
  let state := (blocks block word ofHighFirst (filled block (2 * word) (highFirst (2 * word)) octets)).foldl
    (f.mix constants) start
  (state.flatMap (highFirst word)).take count

end Family

/-- The start of the sums with 256 and 512 bits: roots of the first primes. -/
def firstRoots (bits : Nat) : List Nat := (primes 8).map (rootFraction 2 bits)

/-- The start of the sum with 384 bits: roots of the primes after them. -/
def laterRoots : List Nat := ((primes 16).drop 8).map (rootFraction 2 64)

def sum224 : List Nat → List Nat := family32.sum (laterRoots.map (· % Nat.pow 2 32)) 28

def sum256 : List Nat → List Nat := family32.sum (firstRoots 32) 32

def sum384 : List Nat → List Nat := family64.sum laterRoots 48

def sum512 : List Nat → List Nat := family64.sum (firstRoots 64) 64

/-! ## Cyclic sums -/

/-- The remainders of the octets in the cyclic sum. -/
def cyclicTable : Array UInt32 :=
  ((List.range 256).map fun (i : Nat) =>
    (List.range 8).foldl (fun (r : UInt32) _ =>
      if r &&& 0x80000000 != 0 then r <<< 1 ^^^ 0x04c11db7 else r <<< 1)
      (i.toUInt32 <<< (24 : UInt32))).toArray

/-- The octets of a length, the lowest one first, without zeros at the end. -/
def lengthOctets : Nat → Nat → List Nat
  | 0, _ => []
  | fuel + 1, n => if n = 0 then [] else n % 256 :: lengthOctets fuel (n / 256)

def cyclicSum (octets : List Nat) : Nat :=
  let table := cyclicTable
  let all := octets ++ lengthOctets 20 octets.length
  let sum := all.foldl (fun (r : UInt32) b =>
    r <<< 8 ^^^ table[((r >>> 24) ^^^ b.toUInt32).toNat]?.getD 0) 0
  (~~~sum).toNat

def turningSum (octets : List Nat) : Nat :=
  octets.foldl (fun r b => (r / 2 + r % 2 * 0x8000 + b) % 0x10000) 0

end Checksum

/-! ## Utilities -/

def octetsOf (s : List Char) : List Nat := s.map (·.toNat)

/-- A line of a list of sums: the sum, and the name of the file. -/
def sumLine? (line : List Char) : Option (List Char × String) :=
  let isHex := fun (c : Char) => isDigitChar c || ('a' ≤ c && c ≤ 'f') || ('A' ≤ c && c ≤ 'F')
  let sum := line.takeWhile isHex
  match line.drop sum.length with
  | ' ' :: mark :: name =>
    if (mark = ' ' || mark = '*') && !sum.isEmpty && !name.isEmpty then
      some (sum.map toSmall, String.ofList name)
    else none
  | _ => none

/-- A sum of a text, in hexadecimal. -/
abbrev SumOf := List Nat → List Nat

def checkSums (sumOf : SumOf) (o : Options) (name : String) (w : World) : World :=
  let isSilent := o.has "status"
  (filesOr o.args).foldl (fun w list =>
    let (content, w) := readSource list w
    match content with
    | .error e => complainFile name list e w
    | .ok s =>
      let lines := (plainLines s).map sumLine?
      -- lines that are no entries are counted and skipped
      let entries := lines.filterMap id
      let malformed := lines.length - entries.length
      if entries.isEmpty then
        let shown := if list = "-" then "standard input" else list
        complain name (shellQuotedIfNeeded shown ++ ": no properly formatted checksum lines found") w
      else
        let (w, unread, wrong) := entries.foldl (fun (w, unread, wrong) (sum, path) =>
          let (content, w) := readSource path w
          let tell := fun (text : String) (w : World) =>
            if isSilent then w else w.print (path ++ ": " ++ text ++ "\n")
          match content with
          | .error e =>
            if o.has "ignore-missing" then (w, unread, wrong)
            else (tell "FAILED open or read" (complainFile name path e w), unread + 1, wrong)
          | .ok t =>
            if Checksum.hexadecimal (sumOf (octetsOf t)) == sum then
              (if o.has "quiet" then w else tell "OK" w, unread, wrong)
            else (tell "FAILED" w, unread, wrong + 1)) (w, 0, 0)
        -- the warnings come behind all the entries, in this order
        let warn := fun (count : Nat) (one many : String) (w : World) =>
          if count = 0 || isSilent then w
          else w.write 2 (name ++ ": WARNING: " ++ Number.natText count ++ " "
            ++ (if count = 1 then one else many) ++ "\n")
        let w := warn malformed "line is improperly formatted" "lines are improperly formatted" w
        let w := warn unread "listed file could not be read" "listed files could not be read" w
        let w := warn wrong "computed checksum did NOT match" "computed checksums did NOT match" w
        if unread + wrong = 0 then w else w.withStatus 1)
    (w.withStatus 0)

/-- Shows the sums of files, or checks those in lists. -/
def sumsBy (title : String) (sumOf : SumOf) : Utility := withOptions
  [flag 'b' "binary", flag 'c' "check", wordFlag "tag", flag 't' "text", flag 'z' "zero",
    wordFlag "ignore-missing", wordFlag "quiet", wordFlag "status", wordFlag "strict", flag 'w' "warn"]
  fun name o w =>
    if o.has "check" then checkSums sumOf o name w
    else
      let ending := if o.has "zero" then Char.ofNat 0 else '\n'
      let (inputs, w) := readInputs name o.args w
      inputs.foldl (fun w (path, s) =>
        let sum := Checksum.hexadecimal (sumOf (octetsOf s))
        let line := if o.has "tag" then title.toList ++ " (".toList ++ path.toList ++ ") = ".toList ++ sum
          else sum ++ (if o.has "binary" then [' ', '*'] else [' ', ' ']) ++ path.toList
        put (line ++ [ending]) w) w

def md5sum : Utility := sumsBy "MD5" Checksum.sum128

def sha1sum : Utility := sumsBy "SHA1" Checksum.sum160

def sha224sum : Utility := sumsBy "SHA224" Checksum.sum224

def sha256sum : Utility := sumsBy "SHA256" Checksum.sum256

def sha384sum : Utility := sumsBy "SHA384" Checksum.sum384

def sha512sum : Utility := sumsBy "SHA512" Checksum.sum512

/-- Shows the cyclic sums and the sizes of files. -/
def cksum : Utility := withOptions [] fun name o w =>
  let (inputs, w) := readInputs name o.args w
  inputs.foldl (fun w (path, s) =>
    let file := if o.args.isEmpty then [] else ' ' :: path.toList
    put (digits (Checksum.cyclicSum (octetsOf s)) ++ ' ' :: digits s.length ++ file ++ ['\n']) w) w

/-- Shows turning sums and the blocks of files. -/
def sum : Utility := withOptions [flag 'r' "", flag 's' "sysv"] fun name o w =>
  let (inputs, w) := readInputs name o.args w
  inputs.foldl (fun w (path, s) =>
    let octets := octetsOf s
    let line :=
      if o.has "sysv" then
        let n := octets.foldl (· + ·) 0
        let n := n % Nat.pow 2 16 + n % Nat.pow 2 32 / Nat.pow 2 16
        digits (n % Nat.pow 2 16 + n / Nat.pow 2 16) ++ ' ' :: digits ((s.length + 511) / 512)
          ++ (if o.args.isEmpty then [] else ' ' :: path.toList)
      else
        let five := digits (Checksum.turningSum octets)
        List.replicate (5 - five.length) '0' ++ five ++ ' '
          :: padLeft 5 (digits ((s.length + 1023) / 1024))
          ++ (if o.args.isEmpty then [] else ' ' :: path.toList)
    put (line ++ ['\n']) w) w

end SourceCheck.Utility
