import Mathlib.Data.List.DropRight
import SourceCheck.Proofs.Text.Octets
import SourceCheck.Text.Blank
import SourceCheck.Text.Casing

/-! # Words without blanks, in lower case

    Trimming takes the characters of a class away from both ends of a text.  What is left neither
    starts nor ends with one of them (`isTrimmed_trim`), and it is trimmed no further
    (`IsTrimmed.trim_eq`).

    The small letters beyond ASCII come from a table of runs.  What the table is used for here is
    read off the ends of its runs (`lands_of_mem`): a character beyond ASCII becomes neither a
    capital letter of ASCII nor a blank, and apart from two, the Kelvin sign among them, no letter
    of ASCII at all.  So a text becomes a word of plain letters in lower case just if it is made of
    ASCII letters.  Taking lower case again changes nothing there (`lower_lower_eq_iff`), nor does
    the place of a sigma count (`lowerAfter_eq_iff`).  A trimmed text stays trimmed
    (`isTrimmed_lower`). -/

namespace SourceCheck.Text

/-! ## Trimmed texts -/

section Trimming

/-- A text neither starts nor ends with a character of a class. -/
structure IsTrimmed (blank : Char → Bool) (s : List Char) : Prop where
  /-- It does not start with one. -/
  start : ∀ c, s.head? = some c → blank c = false
  /-- It does not end with one. -/
  ending : ∀ c, s.getLast? = some c → blank c = false

variable {blank : Char → Bool} {s : List Char}

theorem trimEnd_eq_rdropWhile (blank : Char → Bool) (s : List Char) :
    trimEnd blank s = s.rdropWhile blank := rfl

theorem head_trimStart {c : Char} (h : (trimStart blank s).head? = some c) : blank c = false := by
  have hhead := List.head?_dropWhile_not blank s
  unfold trimStart at h
  rw [h] at hhead
  exact hhead

/-- **Trimming leaves a trimmed text.** -/
theorem isTrimmed_trim (blank : Char → Bool) (s : List Char) : IsTrimmed blank (trim blank s) where
  start := by
    intro c hc
    -- what is cut off at the end leaves the start alone
    obtain ⟨cut, hcut⟩ := List.rdropWhile_prefix blank (l := trimStart blank s)
    apply head_trimStart (s := s)
    rw [← hcut, List.head?_append]
    unfold trim at hc
    rw [trimEnd_eq_rdropWhile] at hc
    rw [hc]
    rfl
  ending := by
    intro c hc
    unfold trim at hc
    rw [trimEnd_eq_rdropWhile] at hc
    have hne : (trimStart blank s).rdropWhile blank ≠ [] := by
      intro hnil
      rw [hnil] at hc
      contradiction
    rw [List.getLast?_eq_some_getLast hne] at hc
    rw [← Option.some.inj hc]
    exact Bool.eq_false_iff.mpr (List.rdropWhile_last_not blank _ hne)

/-- **A trimmed text** is left alone. -/
theorem IsTrimmed.trim_eq (h : IsTrimmed blank s) : trim blank s = s := by
  have hstart : trimStart blank s = s := by
    unfold trimStart
    cases s with
    | nil => rfl
    | cons c rest => exact List.dropWhile_cons_of_neg (Bool.eq_false_iff.mp (h.start c rfl))
  unfold trim
  rw [hstart, trimEnd_eq_rdropWhile, List.rdropWhile_eq_self_iff]
  intro hne
  exact Bool.eq_false_iff.mp (h.ending _ (List.getLast?_eq_some_getLast hne))

theorem isTrimmed_strip (s : String) : IsTrimmed isBlank (strip s).toList := by
  unfold strip
  rw [String.toList_ofList]
  exact isTrimmed_trim isBlank s.toList

theorem strip_of_isTrimmed {s : String} (h : IsTrimmed isBlank s.toList) : strip s = s := by
  unfold strip
  rw [h.trim_eq, String.ofList_toList]

end Trimming

/-! ## Letters -/

/-- A capital letter of ASCII. -/
def isCapital (c : Char) : Bool := 'A' ≤ c && c ≤ 'Z'

/-- A small letter of ASCII that only ASCII letters become: `k` is the small Kelvin sign, too. -/
def isPlainSmall (c : Char) : Bool := 0x61 ≤ c.toNat && c.toNat ≤ 0x7A && c != 'k'

theorem isCapital_iff {c : Char} : isCapital c = true ↔ 0x41 ≤ c.toNat ∧ c.toNat ≤ 0x5A := by
  unfold isCapital
  rw [Bool.and_eq_true, decide_eq_true_iff, decide_eq_true_iff, Char.le_def, Char.le_def,
    UInt32.le_iff_toNat_le, UInt32.le_iff_toNat_le]
  rfl

theorem isCapital_eq_false_iff {c : Char} :
    isCapital c = false ↔ c.toNat < 0x41 ∨ 0x5A < c.toNat := by
  rw [Bool.eq_false_iff, ne_eq, isCapital_iff]
  omega

theorem isPlainSmall_iff {c : Char} :
    isPlainSmall c = true ↔ 0x61 ≤ c.toNat ∧ c.toNat ≤ 0x7A ∧ c ≠ 'k' := by
  unfold isPlainSmall
  rw [Bool.and_eq_true, Bool.and_eq_true, decide_eq_true_iff, decide_eq_true_iff, bne_iff_ne,
    and_assoc]

/-- Which numbers blanks have. -/
theorem toNat_of_isBlank {c : Char} (h : isBlank c = true) :
    c.toNat ≤ 0x20 ∨ c.toNat = 0x85 ∨ c.toNat = 0xA0 ∨ c.toNat = 0x1680
      ∨ (0x2000 ≤ c.toNat ∧ c.toNat ≤ 0x205F) ∨ c.toNat = 0x3000 := by
  simp only [isBlank, isSpace, Bool.or_eq_true, Bool.and_eq_true, decide_eq_true_iff,
    beq_iff_eq] at h
  omega

/-! ## The table -/

/-- Stretches of characters beyond ASCII without blanks. -/
def blankFree : List (Nat × Nat) :=
  [(0xA1, 0x167F), (0x1681, 0x1FFF), (0x2060, 0x2FFF), (0x3001, 0xD7FF), (0xE000, 0x10FFFF)]

/-- The run of the Kelvin sign, which becomes the letter `k`. -/
def LowerRun.IsKelvin (r : LowerRun) : Prop := r.first = 0x212A ∧ r.last = 0x212A ∧ r.shift = -8383

/-- **Where the runs lead**: every one but that of the Kelvin sign leads into one stretch beyond
    ASCII that has no blanks. -/
theorem lands_of_mem {r : LowerRun} (h : r ∈ lowerRunsA ++ lowerRunsB) :
    (∃ stretch ∈ blankFree, (stretch.1 : Int) ≤ r.first + r.shift
      ∧ r.last + r.shift ≤ (stretch.2 : Int)) ∨ r.IsKelvin := by
  revert r
  unfold LowerRun.IsKelvin
  decide +kernel

/-! ## Single characters -/

theorem inRanges_blankFree_iff {n : Nat} : inRanges blankFree n = true
    ↔ (0xA1 ≤ n ∧ n ≤ 0x167F) ∨ (0x1681 ≤ n ∧ n ≤ 0x1FFF) ∨ (0x2060 ≤ n ∧ n ≤ 0x2FFF)
      ∨ (0x3001 ≤ n ∧ n ≤ 0xD7FF) ∨ (0xE000 ≤ n ∧ n ≤ 0x10FFFF) := by
  simp [inRanges, blankFree]

/-- The stretches hold characters only. -/
theorem isValidChar_of_blankFree {n : Nat} (h : inRanges blankFree n = true) : n.isValidChar := by
  rw [inRanges_blankFree_iff] at h
  unfold Nat.isValidChar
  omega

/-- A character in one of them is beyond ASCII and no blank. -/
theorem isBlank_eq_false_of_blankFree {c : Char} (h : inRanges blankFree c.toNat = true) :
    0x80 ≤ c.toNat ∧ isBlank c = false := by
  rw [inRanges_blankFree_iff] at h
  refine ⟨by omega, Bool.eq_false_iff.mpr fun hblank => ?_⟩
  have hnumber := toNat_of_isBlank hblank
  omega

/-- What a run of the table makes of a letter in it. -/
theorem small_of_holds {r : LowerRun} (hr : r ∈ lowerRunsA ++ lowerRunsB) {n : Nat}
    (hn : r.holds n = true) {d : Char} (hd : d = Char.ofNat (n + r.shift).toNat) :
    d = 'k' ∨ (0x80 ≤ d.toNat ∧ isBlank d = false) := by
  simp only [LowerRun.holds, Bool.and_eq_true, decide_eq_true_iff] at hn
  obtain ⟨⟨hfirst, hlast⟩, -⟩ := hn
  rcases lands_of_mem hr with ⟨stretch, hstretch, hlow, hhigh⟩ | ⟨hkelvin, hkelvin', hshift⟩
  · have hfree : inRanges blankFree (n + r.shift).toNat = true :=
      inRanges_iff.mpr ⟨stretch, hstretch, by omega, by omega⟩
    have hvalue : d.toNat = (n + r.shift).toNat := by
      rw [hd, toNat_ofNat (isValidChar_of_blankFree hfree)]
    rw [← hvalue] at hfree
    exact .inr (isBlank_eq_false_of_blankFree hfree)
  · obtain rfl : n = 0x212A := by omega
    rw [hd, hshift]
    exact .inl rfl

theorem lowerChar_of_ascii {c : Char} (h : c.toNat < 0x80) :
    lowerChar c = [if isCapital c then Char.ofNat (c.toNat + 0x20) else c] := by
  unfold lowerChar isCapital
  rw [if_pos h]

/-- **A character beyond ASCII** becomes the letter `i` with a dot above, stays itself, or becomes
    one other character, which is a `k` or beyond ASCII, and no blank. -/
theorem lowerChar_of_not_ascii {c : Char} (h : ¬c.toNat < 0x80) :
    lowerChar c = ['i', Char.ofNat 0x307] ∨ lowerChar c = [c]
      ∨ ∃ d, lowerChar c = [d] ∧ (d = 'k' ∨ (0x80 ≤ d.toNat ∧ isBlank d = false)) := by
  unfold lowerChar
  rw [if_neg h]
  split
  · exact .inl rfl
  · split
    · next r hfind =>
      have hr := List.mem_of_find?_eq_some hfind
      have hholds := List.find?_some hfind
      exact .inr (.inr ⟨_, rfl, small_of_holds hr hholds rfl⟩)
    · exact .inr (.inl rfl)

theorem lowerChar_ne_nil (c : Char) : lowerChar c ≠ [] := by
  by_cases h : c.toNat < 0x80
  · rw [lowerChar_of_ascii h]
    exact List.cons_ne_nil _ _
  · rcases lowerChar_of_not_ascii h with h | h | ⟨d, h, -⟩ <;> rw [h] <;> exact List.cons_ne_nil _ _

/-- A letter of ASCII has a small form, which is no capital and no blank. -/
theorem small_of_isCapital {c : Char} (h : isCapital c = true) :
    isCapital (Char.ofNat (c.toNat + 0x20)) = false
      ∧ isBlank (Char.ofNat (c.toNat + 0x20)) = false := by
  obtain ⟨hlow, hhigh⟩ := isCapital_iff.mp h
  have hvalue : (Char.ofNat (c.toNat + 0x20)).toNat = c.toNat + 0x20 := by
    apply toNat_ofNat
    unfold Nat.isValidChar
    omega
  constructor
  · rw [isCapital_eq_false_iff, hvalue]
    omega
  · rw [Bool.eq_false_iff]
    intro hblank
    have hnumber := toNat_of_isBlank hblank
    rw [hvalue] at hnumber
    omega

/-- **No character becomes a capital letter of ASCII**, and none becomes a blank but a blank. -/
theorem of_mem_lowerChar {c d : Char} (h : d ∈ lowerChar c) :
    isCapital d = false ∧ (isBlank d = true → isBlank c = true) := by
  -- within ASCII only the capitals change; beyond it the table says what becomes of a letter
  by_cases hascii : c.toNat < 0x80
  · rw [lowerChar_of_ascii hascii] at h
    obtain rfl := List.mem_singleton.mp h
    by_cases hcapital : isCapital c = true
    · obtain ⟨hno, hblank⟩ := small_of_isCapital hcapital
      rw [if_pos hcapital]
      exact ⟨hno, fun h => absurd h (Bool.eq_false_iff.mp hblank)⟩
    · rw [if_neg hcapital]
      exact ⟨Bool.eq_false_iff.mpr hcapital, id⟩
  -- beyond ASCII there is no capital of the plain alphabet
  · have hbeyond : ∀ d : Char, 0x80 ≤ d.toNat → isCapital d = false := by
      intro d hd
      rw [isCapital_eq_false_iff]
      omega
    rcases lowerChar_of_not_ascii hascii with hsmall | hsmall | ⟨e, hsmall, hk | ⟨he, hblank⟩⟩
    all_goals rw [hsmall] at h
    · simp only [List.mem_cons, List.not_mem_nil, or_false] at h
      rcases h with rfl | rfl
      · exact ⟨rfl, fun h => absurd h (by decide)⟩
      · exact ⟨rfl, fun h => absurd h (by decide)⟩
    · obtain rfl := List.mem_singleton.mp h
      exact ⟨hbeyond d (by omega), id⟩
    · obtain rfl := (List.mem_singleton.mp h).trans hk
      exact ⟨rfl, fun h => absurd h (by decide)⟩
    · obtain rfl := List.mem_singleton.mp h
      exact ⟨hbeyond d he, fun h => absurd h (Bool.eq_false_iff.mp hblank)⟩

/-- **Only ASCII letters become plain letters.** -/
theorem ascii_of_lowerChar {c : Char} (h : ∀ d ∈ lowerChar c, isPlainSmall d = true) :
    c.toNat < 0x80 := by
  by_contra hascii
  have hbeyond : ∀ d : Char, 0x80 ≤ d.toNat → ¬isPlainSmall d = true := by
    intro d hd
    rw [isPlainSmall_iff]
    omega
  rcases lowerChar_of_not_ascii hascii with hsmall | hsmall | ⟨e, hsmall, hk | ⟨he, -⟩⟩
  all_goals rw [hsmall] at h
  · exact hbeyond (Char.ofNat 0x307) (by decide) (h _ (by simp))
  · exact hbeyond c (by omega) (h c List.mem_cons_self)
  · rw [hk] at h
    exact absurd (h 'k' List.mem_cons_self) (by decide)
  · exact hbeyond e he (h e List.mem_cons_self)

/-! ## Texts -/

theorem lower_cons (c : Char) (s : List Char) : lower (c :: s) = lowerChar c ++ lower s := rfl

theorem lower_append (s t : List Char) : lower (s ++ t) = lower s ++ lower t := by
  unfold lower
  rw [List.flatMap_append]

/-- A text of ASCII without capital letters is in lower case. -/
theorem lower_eq_self {s : List Char} (h : ∀ c ∈ s, c.toNat < 0x80 ∧ isCapital c = false) :
    lower s = s := by
  induction s with
  | nil => rfl
  | cons c s ih =>
    obtain ⟨hascii, hcapital⟩ := h c List.mem_cons_self
    rw [lower_cons, lowerChar_of_ascii hascii, if_neg (Bool.eq_false_iff.mp hcapital),
      ih fun d hd => h d (List.mem_cons_of_mem c hd)]
    rfl

/-- A word of plain letters is in lower case. -/
theorem lower_of_isPlainSmall {x : List Char} (hx : ∀ c ∈ x, isPlainSmall c = true) :
    lower x = x := by
  apply lower_eq_self
  intro c hc
  have hplain := isPlainSmall_iff.mp (hx c hc)
  refine ⟨by omega, ?_⟩
  rw [isCapital_eq_false_iff]
  omega

/-- **Lower case is taken once**: what becomes a word of plain letters the second time is that word
    after the first. -/
theorem lower_lower_eq_iff {s x : List Char} (hx : ∀ c ∈ x, isPlainSmall c = true) :
    lower (lower s) = x ↔ lower s = x := by
  constructor
  · intro h
    -- what became plain letters was ASCII, and the first lower case left no capitals in it
    have hself : lower (lower s) = lower s := by
      apply lower_eq_self
      intro c hc
      constructor
      · apply ascii_of_lowerChar
        intro d hd
        exact hx d (h ▸ List.mem_flatMap.mpr ⟨c, hc, hd⟩)
      · obtain ⟨b, -, hb⟩ := List.mem_flatMap.mp hc
        exact (of_mem_lowerChar hb).1
    rw [← hself, h]
  · intro h
    rw [h, lower_of_isPlainSmall hx]

/-- **A trimmed text stays trimmed** in lower case. -/
theorem isTrimmed_lower {s : List Char} (h : IsTrimmed isBlank s) :
    IsTrimmed isBlank (lower s) where
  start := by
    intro d hd
    cases s with
    | nil => contradiction
    | cons c s =>
      rw [lower_cons, List.head?_append_of_ne_nil _ (lowerChar_ne_nil c)] at hd
      have hmem := List.mem_of_head? hd
      exact Bool.eq_false_iff.mpr fun hblank =>
        Bool.eq_false_iff.mp (h.start c rfl) ((of_mem_lowerChar hmem).2 hblank)
  ending := by
    intro d hd
    rcases List.eq_nil_or_concat' s with rfl | ⟨s, c, rfl⟩
    · contradiction
    -- the word ends as the last of its letters ends when written small
    · have hlast : lower [c] = lowerChar c := List.append_nil _
      rw [lower_append, hlast, List.getLast?_append_of_ne_nil _ (lowerChar_ne_nil c)] at hd
      have hmem := List.mem_of_getLast? hd
      exact Bool.eq_false_iff.mpr fun hblank =>
        Bool.eq_false_iff.mp (h.ending c List.getLast?_concat) ((of_mem_lowerChar hmem).2 hblank)

/-! ## Sigma -/

/-- A sigma becomes one of its small letters, wherever it stands. -/
theorem lowerSigma_mem_lowerAfter {s : List Char} (h : 'Σ' ∈ s) (before : List Char) :
    ∃ isLast, lowerSigma isLast ∈ lowerAfter before s := by
  induction s generalizing before with
  | nil => contradiction
  | cons c s ih =>
    by_cases hc : c = 'Σ'
    · refine ⟨endsWord before s, ?_⟩
      rw [lowerAfter, if_pos hc]
      exact List.mem_cons_self
    · obtain ⟨isLast, hmem⟩ := ih ((List.mem_cons.mp h).resolve_left (Ne.symm hc)) (c :: before)
      exact ⟨isLast, List.mem_append_right _ hmem⟩

theorem isPlainSmall_lowerSigma (isLast : Bool) : isPlainSmall (lowerSigma isLast) = false := by
  cases isLast <;> rfl

/-- **The place of a sigma does not count** for words of plain letters. -/
theorem lowerAfter_eq_iff {before s x : List Char} (hx : ∀ c ∈ x, isPlainSmall c = true) :
    lowerAfter before s = x ↔ lower s = x := by
  by_cases h : 'Σ' ∈ s
  · obtain ⟨isLast, hmem⟩ := lowerSigma_mem_lowerAfter h before
    have hsigma : lowerChar 'Σ' = [lowerSigma false] := rfl
    have hmem' : lowerSigma false ∈ lower s :=
      List.mem_flatMap.mpr ⟨'Σ', h, hsigma ▸ List.mem_cons_self⟩
    have hno : ∀ last, lowerSigma last ∉ x := fun last hin =>
      Bool.eq_false_iff.mp (isPlainSmall_lowerSigma last) (hx _ hin)
    exact ⟨fun heq => absurd (heq ▸ hmem) (hno isLast), fun heq => absurd (heq ▸ hmem') (hno false)⟩
  · rw [lowerAfter_of_not_mem h]

end SourceCheck.Text
