import SourceCheck.Json.Reader
import SourceCheck.Json.Writer

/-! # Texts in JSON

    A text between quotes is read back as the text that was written, in ASCII or not.
    The reader collects code points and UTF-16 units (`readUnits`) and joins the units in
    pairs at the end (`joinUnits`); both halves are inverted one character at a time.  A
    text in ASCII has no other characters between its quotes.  Both go by the ways in which
    a character can be written (`Written`). -/

namespace SourceCheck.Json

open SourceCheck.Number SourceCheck.Text

/-! ## Hexadecimal digits -/

theorem hexValue?_hexDigit : ∀ d < 16, hexValue? (hexDigit d) = some d := by decide

theorem hexDigits_four (n : Nat) :
    hexDigits 4 n = [hexDigit (n / 16 / 16 / 16 % 16), hexDigit (n / 16 / 16 % 16),
      hexDigit (n / 16 % 16), hexDigit (n % 16)] := rfl

/-- Four digits are enough for a UTF-16 unit. -/
theorem hexRun?_hexDigits {n : Nat} (h : n < 0x10000) : hexRun? (hexDigits 4 n) = some n := by
  have hdigit : ∀ m, hexValue? (hexDigit (m % 16)) = some (m % 16) := fun m =>
    hexValue?_hexDigit _ (Nat.mod_lt m (by decide))
  rw [hexDigits_four]
  simp only [hexRun?, List.foldl_cons, List.foldl_nil, hdigit, Option.bind_some, Option.map_some]
  exact congrArg some (by omega)

/-! ## Units -/

/-- The code points or UTF-16 units that the reader makes of a character. -/
def unitsOf (ascii : Bool) (c : Char) : List Nat :=
  if ascii && 0x10000 ≤ c.toNat then
    [0xD800 + (c.toNat - 0x10000) / 0x400, 0xDC00 + (c.toNat - 0x10000) % 0x400]
  else [c.toNat]

/-- A character is no surrogate. -/
theorem toNat_valid (c : Char) : c.toNat < 0xD800 ∨ 0xDFFF < c.toNat ∧ c.toNat < 0x110000 := c.valid

/-- What stands for a character alone is joined with nothing. -/
theorem joinUnits_toNat_cons (c : Char) (units : List Nat) :
    joinUnits (c.toNat :: units) = c :: joinUnits units := by
  have hvalid := toNat_valid c
  have halone : ¬(0xD800 ≤ c.toNat ∧ c.toNat ≤ 0xDFFF) := by omega
  cases units with
  | nil => rw [joinUnits, joinUnits, if_neg halone, Char.ofNat_toNat]
  | cons m rest => rw [joinUnits, if_neg (by omega), if_neg halone, Char.ofNat_toNat]

theorem joinUnits_unitsOf (ascii : Bool) (c : Char) (units : List Nat) :
    joinUnits (unitsOf ascii c ++ units) = c :: joinUnits units := by
  unfold unitsOf
  split
  · next hpair =>
    have hlow : 0x10000 ≤ c.toNat := of_decide_eq_true (Bool.and_eq_true_iff.mp hpair).2
    have hvalid := toNat_valid c
    have hjoined : 0x10000 + (0xD800 + (c.toNat - 0x10000) / 0x400 - 0xD800) * 0x400
        + (0xDC00 + (c.toNat - 0x10000) % 0x400 - 0xDC00) = c.toNat := by omega
    rw [List.cons_append, List.cons_append, List.nil_append, joinUnits, if_pos (by omega),
      hjoined, Char.ofNat_toNat]
  · exact joinUnits_toNat_cons c units

/-- **The units of a text are joined to that text.** -/
theorem joinUnits_flatMap (ascii : Bool) (s : List Char) :
    joinUnits (s.flatMap (unitsOf ascii)) = s := by
  induction s with
  | nil => rfl
  | cons c s ih => rw [List.flatMap_cons, joinUnits_unitsOf, ih]

/-! ## Reading what was written -/

theorem readUnits_unitEscape {n : Nat} (h : n < 0x10000) (units : List Nat) (rest : List Char) :
    readUnits units (unitEscape n ++ rest) = readUnits (n :: units) rest := by
  have hrun := hexRun?_hexDigits h
  rw [hexDigits_four] at hrun
  rw [unitEscape, hexDigits_four]
  simp only [List.cons_append, List.nil_append]
  rw [readUnits, hrun]

theorem readUnits_shortEscape {e : Char} {n : Nat} (he : e ≠ 'u') (h : shortEscape? e = some n)
    (units : List Nat) (rest : List Char) :
    readUnits units ('\\' :: e :: rest) = readUnits (n :: units) rest := by
  rw [readUnits, h]
  intro _ _ _ _ _ heq _
  exact absurd heq he

theorem readUnits_escapedUnits {c : Char} (units : List Nat) (rest : List Char) :
    readUnits units (escapedUnits c ++ rest)
      = readUnits ((unitsOf true c).reverse ++ units) rest := by
  have hvalid := toNat_valid c
  simp only [escapedUnits, unitsOf, Bool.true_and, decide_eq_true_eq]
  by_cases hsmall : c.toNat < 0x10000
  · rw [if_pos hsmall, if_neg (by omega)]
    exact readUnits_unitEscape hsmall units rest
  · rw [if_neg hsmall, if_pos (by omega), List.append_assoc, readUnits_unitEscape (by omega),
      readUnits_unitEscape (by omega)]
    rfl

/-- A character that stands for itself. -/
theorem readUnits_plain {c : Char} (hquote : c ≠ '"') (hslash : c ≠ '\\') (hlow : 0x20 ≤ c.toNat)
    (units : List Nat) (rest : List Char) :
    readUnits units (c :: rest) = readUnits (c.toNat :: units) rest := by
  rw [readUnits, if_neg (by omega)]
  · exact hquote
  · intro a b c' d rest' hc _
    exact hslash hc
  · intro e rest' hc _
    exact hslash hc

/-- What is escaped by its code alone is below the surrogates and counts as one unit. -/
theorem unitsOf_of_lt {c : Char} (ascii : Bool) (h : c.toNat < 0x10000) :
    unitsOf ascii c = [c.toNat] := by
  unfold unitsOf
  rw [if_neg]
  simp [h]

/-- How a character is written: by an escape of one letter, by its code, as one or two
    UTF-16 units, or as itself. -/
inductive Written (ascii : Bool) (c : Char) : List Char → Prop
  | short (e : Char) (hescape : shortEscape? e = some c.toNat) (hother : e ≠ 'u')
      (hletter : 0x20 ≤ e.toNat ∧ e.toNat < 0x80) (hlow : c.toNat < 0x80) :
    Written ascii c ['\\', e]
  | code (hlow : c.toNat < 0x20) : Written ascii c (unitEscape c.toNat)
  | units (hascii : ascii = true) : Written ascii c (escapedUnits c)
  | itself (hquote : c ≠ '"') (hslash : c ≠ '\\') (hlow : 0x20 ≤ c.toNat)
      (hascii : ascii = true → c.toNat < 0x7F) : Written ascii c [c]

theorem written_stringChar (ascii : Bool) (c : Char) : Written ascii c (stringChar ascii c) := by
  -- the branches come in the order in which the writer looks at the character
  unfold stringChar
  split
  · next h => subst h; exact .short _ rfl (by decide) (by decide) (by decide)
  split
  · next h => subst h; exact .short _ rfl (by decide) (by decide) (by decide)
  split
  · next h => subst h; exact .short _ rfl (by decide) (by decide) (by decide)
  split
  · next h => subst h; exact .short _ rfl (by decide) (by decide) (by decide)
  split
  · next h => subst h; exact .short _ rfl (by decide) (by decide) (by decide)
  split
  · next h => exact .short _ (by rw [h]; rfl) (by decide) (by decide) (by omega)
  split
  · next h => exact .short _ (by rw [h]; rfl) (by decide) (by decide) (by omega)
  split
  · next h => exact .code h
  split
  · next h => exact .units (Bool.and_eq_true_iff.mp h).1
  · next hquote hslash _ _ _ _ _ hlow hplain =>
    refine .itself hquote hslash (Nat.le_of_not_lt hlow) fun hascii => ?_
    simpa [hascii] using hplain

/-- **A written character is read as its units**, whatever follows. -/
theorem Written.readUnits {ascii : Bool} {c : Char} {s : List Char} (h : Written ascii c s)
    (units : List Nat) (rest : List Char) :
    readUnits units (s ++ rest) = readUnits ((unitsOf ascii c).reverse ++ units) rest := by
  cases h with
  | short e hescape hother _ hlow =>
    rw [unitsOf_of_lt ascii (by omega)]
    exact readUnits_shortEscape hother hescape units rest
  | code hlow =>
    rw [unitsOf_of_lt ascii (by omega)]
    exact readUnits_unitEscape (by omega) units rest
  | units hascii =>
    rw [hascii]
    exact readUnits_escapedUnits units rest
  | itself hquote hslash hlow hascii =>
    rw [List.singleton_append, readUnits_plain hquote hslash hlow]
    -- a character of two units is written as itself only where nothing is escaped
    cases ascii with
    | false => rfl
    | true =>
      have hsmall := hascii rfl
      rw [unitsOf_of_lt true (by omega)]
      rfl

theorem readUnits_flatMap (ascii : Bool) (s : List Char) (units : List Nat) (rest : List Char) :
    readUnits units (s.flatMap (stringChar ascii) ++ '"' :: rest)
      = some (units.reverse ++ s.flatMap (unitsOf ascii), rest) := by
  induction s generalizing units with
  | nil => rw [List.flatMap_nil, List.nil_append, readUnits, List.flatMap_nil, List.append_nil]
  | cons c s ih =>
    rw [List.flatMap_cons, List.append_assoc, (written_stringChar ascii c).readUnits, ih,
      List.flatMap_cons]
    simp

theorem toList_stringText (ascii : Bool) (s : String) :
    (stringText ascii s).toList = '"' :: (s.toList.flatMap (stringChar ascii) ++ ['"']) := by
  simp [stringText]

/-- **A written text is read back**, and the reader stops behind its closing quote. -/
theorem readString_stringText (ascii : Bool) (s : String) (rest : List Char) :
    readString (s.toList.flatMap (stringChar ascii) ++ '"' :: rest) = some (s, rest) := by
  unfold readString
  rw [readUnits_flatMap, Option.map_some, List.reverse_nil, List.nil_append]
  simp only [joinUnits_flatMap, String.ofList_toList]

/-! ## The characters of a text -/

/-- Printable, and in ASCII where that is asked for. -/
def IsShown (ascii : Bool) (c : Char) : Prop := 0x20 ≤ c.toNat ∧ (ascii = true → c.toNat < 0x80)

instance (ascii : Bool) (c : Char) : Decidable (IsShown ascii c) :=
  inferInstanceAs (Decidable (_ ∧ _))

theorem isShown_hexDigit (ascii : Bool) (n : Nat) : IsShown ascii (hexDigit (n % 16)) := by
  have hdigit : ∀ d < 16, 0x20 ≤ (hexDigit d).toNat ∧ (hexDigit d).toNat < 0x80 := by decide
  obtain ⟨hlow, hhigh⟩ := hdigit (n % 16) (Nat.mod_lt n (by decide))
  exact ⟨hlow, fun _ => hhigh⟩

theorem isShown_of_mem_unitEscape (ascii : Bool) {n : Nat} {c : Char} (hc : c ∈ unitEscape n) :
    IsShown ascii c := by
  rw [unitEscape, hexDigits_four] at hc
  simp only [List.mem_cons, List.not_mem_nil, or_false] at hc
  obtain rfl | rfl | rfl | rfl | rfl | rfl := hc
  · exact ⟨by decide, fun _ => by decide⟩
  · exact ⟨by decide, fun _ => by decide⟩
  all_goals exact isShown_hexDigit ascii _

theorem isShown_of_mem_escapedUnits (ascii : Bool) {d c : Char} (hc : c ∈ escapedUnits d) :
    IsShown ascii c := by
  simp only [escapedUnits] at hc
  split at hc
  · exact isShown_of_mem_unitEscape ascii hc
  · obtain hc | hc := List.mem_append.mp hc
    all_goals exact isShown_of_mem_unitEscape ascii hc

theorem isShown_of_mem_written {ascii : Bool} {d c : Char} {s : List Char} (h : Written ascii d s)
    (hc : c ∈ s) : IsShown ascii c := by
  cases h with
  | short e hescape _ hletter _ =>
    simp only [List.mem_cons, List.not_mem_nil, or_false] at hc
    obtain rfl | rfl := hc
    · exact ⟨by decide, fun _ => by decide⟩
    · exact ⟨hletter.1, fun _ => hletter.2⟩
  | code _ => exact isShown_of_mem_unitEscape ascii hc
  | units _ => exact isShown_of_mem_escapedUnits ascii hc
  | itself _ _ hlow hascii =>
    obtain rfl := List.mem_singleton.mp hc
    exact ⟨hlow, fun h => by have := hascii h; omega⟩

/-- **A text is written in printable characters**, of ASCII alone where that is asked for. -/
theorem isShown_of_mem_stringText {ascii : Bool} {s : String} {c : Char}
    (hc : c ∈ (stringText ascii s).toList) : IsShown ascii c := by
  rw [toList_stringText, List.mem_cons, List.mem_append, List.mem_singleton] at hc
  obtain rfl | hc | rfl := hc
  · exact ⟨by decide, fun _ => by decide⟩
  · obtain ⟨d, -, hd⟩ := List.mem_flatMap.mp hc
    exact isShown_of_mem_written (written_stringChar ascii d) hd
  · exact ⟨by decide, fun _ => by decide⟩

/-- All characters are ASCII. -/
def IsAscii (s : List Char) : Prop := ∀ c ∈ s, c.toNat < 0x80

end SourceCheck.Json
