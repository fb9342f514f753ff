import Mathlib.Algebra.Group.Nat.Defs
import SourceCheck.Proofs.Text.Octets

/-! # Octets that form no character

    The text of any octets is told here without a reader (`Decodes`): where the octets of a
    character stand, that character is shown, and where no character stands, U+FFFD is shown for
    the longest start of a character there, or else for one octet.  Any octets stand for just one
    text in this way (`Decodes.unique`), and it is the one that is read (`decode_eq_iff`).

    Two things tie the reader to this.  A character that was begun can always be ended
    (`Begun.Fits`), so what is shown as ill-formed is the start of a character.  And an ill-formed
    piece is never taken back, so no longer start of a character stands there. -/

namespace SourceCheck.Text.Utf8

/-! ## Texts of octets -/

/-- Some octets start a character. -/
def IsStart (octets : List UInt8) : Prop := ∃ c, octets <+: encodeChar c

/-- A maximal ill-formed run at the front of some octets: no character stands there, and the run
    is the longest start of one, or else a single octet. -/
structure IsSubpart (run octets : List UInt8) : Prop where
  no_character : ∀ c, ¬encodeChar c <+: octets
  front : run <+: octets
  ne_nil : run ≠ []
  start : IsStart run ∨ run.length = 1
  maximal : ∀ s, s <+: octets → IsStart s → s.length ≤ run.length

/-- Octets stand for characters. -/
inductive Decodes : List UInt8 → List Char → Prop
  /-- No octets stand for none. -/
  | nil : Decodes [] []
  /-- The octets of a character stand for it. -/
  | scalar (c : Char) {rest : List UInt8} {cs : List Char} (h : Decodes rest cs) :
    Decodes (encodeChar c ++ rest) (c :: cs)
  /-- A maximal ill-formed run stands for U+FFFD. -/
  | illFormed {run rest : List UInt8} {cs : List Char} (hrun : IsSubpart run (run ++ rest))
    (h : Decodes rest cs) : Decodes (run ++ rest) (Char.ofNat 0xFFFD :: cs)

/-! ## Pieces that were cut -/

/-- What was cut stays. -/
theorem pieces_fresh_suffix (ps : List Piece) (b : UInt8) :
    ps <:+ (Progress.fresh ps b).pieces := by
  unfold Progress.fresh
  cases lead b with
  | single c => exact List.suffix_cons _ ps
  | begins g => exact List.suffix_refl ps
  | bad => exact List.suffix_cons _ ps

theorem pieces_step_suffix (p : Progress) (b : UInt8) : p.pieces <:+ (p.step b).pieces := by
  unfold Progress.step
  cases p.begun with
  | none => exact pieces_fresh_suffix p.pieces b
  | some g =>
    dsimp only
    split
    · split
      · exact List.suffix_cons _ p.pieces
      · exact List.suffix_refl p.pieces
    · exact (List.suffix_cons _ p.pieces).trans (pieces_fresh_suffix _ b)

theorem pieces_foldl_suffix (octets : List UInt8) (p : Progress) :
    p.pieces <:+ (octets.foldl Progress.step p).pieces := by
  induction octets generalizing p with
  | nil => exact List.suffix_refl p.pieces
  | cons b octets ih => exact (pieces_step_suffix p b).trans (ih (p.step b))

/-- The start of a character is cut into nothing but that character. -/
theorem pieces_of_isStart {c : Char} {s : List UInt8} (h : s <+: encodeChar c) :
    (s.foldl Progress.step ⟨none, []⟩).pieces <:+ [.scalar c] := by
  obtain ⟨t, ht⟩ := h
  have hend := foldl_step_encodeChar c []
  rw [← ht, List.foldl_append] at hend
  have hsuffix := pieces_foldl_suffix t (s.foldl Progress.step ⟨none, []⟩)
  rwa [hend] at hsuffix

theorem not_isStart_of_illFormed {s octets : List UInt8} {fault : Fault}
    (h : [.illFormed octets fault] <:+ (s.foldl Progress.step ⟨none, []⟩).pieces) :
    ¬IsStart s := by
  rintro ⟨c, hc⟩
  have hmem := (h.trans (pieces_of_isStart hc)).subset List.mem_cons_self
  cases List.mem_singleton.mp hmem

/-- **No character is the start of another.** -/
theorem eq_of_prefix_encodeChar {c d : Char} (h : encodeChar c <+: encodeChar d) : c = d := by
  have hpieces := pieces_of_isStart h
  rw [foldl_step_encodeChar] at hpieces
  exact Piece.scalar.inj (List.mem_singleton.mp (hpieces.subset List.mem_cons_self))

/-! ## Only one text -/

theorem encodeChar_ne_nil (c : Char) : encodeChar c ≠ [] := by
  intro hnil
  have hend := foldl_step_encodeChar c []
  rw [hnil] at hend
  cases congrArg Progress.pieces hend

theorem eq_of_prefix_of_prefix {c d : Char} {octets : List UInt8}
    (hc : encodeChar c <+: octets) (hd : encodeChar d <+: octets) : c = d := by
  rcases List.prefix_or_prefix_of_prefix hc hd with h | h
  · exact eq_of_prefix_encodeChar h
  · exact (eq_of_prefix_encodeChar h).symm

namespace IsSubpart

variable {run run' octets : List UInt8}

theorem length_le (h : IsSubpart run octets) (h' : IsSubpart run' octets) :
    run.length ≤ run'.length := by
  rcases h.start with hstart | hone
  · exact h'.maximal run h.front hstart
  · -- the other run is not empty
    rw [hone]
    exact List.length_pos_iff.mpr h'.ne_nil

theorem unique (h : IsSubpart run octets) (h' : IsSubpart run' octets) : run = run' :=
  (List.prefix_of_prefix_length_le h.front h'.front (h.length_le h')).eq_of_length
    (Nat.le_antisymm (h.length_le h') (h'.length_le h))

end IsSubpart

/-- **Octets stand for one text only.** -/
theorem Decodes.unique {octets : List UInt8} {cs ds : List Char} (h : Decodes octets cs)
    (h' : Decodes octets ds) : cs = ds := by
  -- at most one character stands in front, and a run only where none does
  induction h generalizing ds with
  | nil =>
    generalize hnil : ([] : List UInt8) = octets at h'
    cases h' with
    | nil => rfl
    | scalar c _ => exact absurd (List.append_eq_nil_iff.mp hnil.symm).1 (encodeChar_ne_nil c)
    | illFormed hrun _ => exact absurd (List.append_eq_nil_iff.mp hnil.symm).1 hrun.ne_nil
  | @scalar c rest cs _ ih =>
    generalize hoctets : encodeChar c ++ rest = octets at h'
    have hc : encodeChar c <+: octets := ⟨rest, hoctets⟩
    cases h' with
    | nil => exact absurd (List.append_eq_nil_iff.mp hoctets).1 (encodeChar_ne_nil c)
    | scalar d hrest =>
      obtain rfl := eq_of_prefix_of_prefix hc (List.prefix_append _ _)
      obtain rfl := List.append_cancel_left hoctets
      rw [ih hrest]
    | illFormed hrun _ => exact absurd hc (hrun.no_character c)
  | @illFormed run rest cs hrun _ ih =>
    generalize hoctets : run ++ rest = octets at h' hrun
    cases h' with
    | nil => exact absurd (List.append_eq_nil_iff.mp hoctets).1 hrun.ne_nil
    | scalar d _ => exact absurd (List.prefix_append _ _) (hrun.no_character d)
    | illFormed hrun' hrest =>
      obtain rfl := hrun.unique hrun'
      obtain rfl := List.append_cancel_left hoctets
      rw [ih hrest]

/-! ## Characters that were begun -/

theorem toUInt8_eq {n : Nat} {b : UInt8} (h : b.toNat = n) : n.toUInt8 = b := by
  subst h
  exact UInt8.ofNat_toNat

/-- The last octets of the character with a number. -/
def tailOctets (n : Nat) : Nat → List UInt8
  | 0 => []
  | k + 1 => (0x80 + n / 0x40 ^ k % 0x40).toUInt8 :: tailOctets n k

/-- A character that was begun can be ended with any octets within its bounds. -/
structure Begun.Fits (g : Begun) : Prop where
  owed : 0 < g.owed
  low : 0x80 ≤ g.low
  order : g.low ≤ g.high
  high : g.high ≤ 0xBF
  completes : ∀ n, n / 0x40 ^ g.owed = g.value →
    g.low ≤ 0x80 + n / 0x40 ^ (g.owed - 1) % 0x40 →
    0x80 + n / 0x40 ^ (g.owed - 1) % 0x40 ≤ g.high →
    ∃ c : Char, c.toNat = n ∧ encodeChar c = g.octets.reverse ++ tailOctets n g.owed

theorem exists_char {n : Nat} (h : n < 0xD800 ∨ 0xDFFF < n ∧ n < 0x110000) :
    ∃ c : Char, c.toNat = n :=
  ⟨Char.ofNat n, toNat_ofNat h⟩

theorem fits_two {b : UInt8} {value : Nat} (hb : b.toNat = 0xC0 + value) (hleast : 2 ≤ value)
    (hmost : value < 0x20) : Begun.Fits ⟨[b], 1, 0x80, 0xBF, value⟩ where
  owed := Nat.one_pos
  low := Nat.le_refl _
  order := by simp only [Nat.reduceLeDiff]
  high := Nat.le_refl _
  completes := by
    intro n hvalue _ _
    simp only [Nat.reducePow] at hvalue
    obtain ⟨c, hc⟩ := exists_char (n := n) (by omega)
    have hfirst : (0xC0 + n / 0x40).toUInt8 = b := toUInt8_eq (by omega)
    refine ⟨c, hc, ?_⟩
    unfold encodeChar
    dsimp only
    rw [hc, if_neg (by omega), if_pos (by omega), hfirst]
    simp only [tailOctets, Nat.pow_zero, Nat.div_one, List.reverse_singleton,
      List.singleton_append]

/-- The bounds rule out overlong octets and those of surrogates. -/
theorem fits_three {b : UInt8} {low high value : Nat} (hb : b.toNat = 0xE0 + value)
    (hmost : value < 0x10) (hlow : 0x80 ≤ low) (horder : low ≤ high) (hhigh : high ≤ 0xBF)
    (hoverlong : value = 0 → 0xA0 ≤ low) (hsurrogate : value = 0xD → high ≤ 0x9F) :
    Begun.Fits ⟨[b], 2, low, high, value⟩ where
  owed := Nat.two_pos
  low := hlow
  order := horder
  high := hhigh
  completes := by
    intro n hvalue hleast hgreatest
    simp only [Nat.reducePow, Nat.reduceSub] at hvalue hleast hgreatest
    obtain ⟨c, hc⟩ := exists_char (n := n) (by omega)
    have hfirst : (0xE0 + n / 0x1000).toUInt8 = b := toUInt8_eq (by omega)
    refine ⟨c, hc, ?_⟩
    unfold encodeChar
    dsimp only
    rw [hc, if_neg (by omega), if_neg (by omega), if_pos (by omega), hfirst]
    simp only [tailOctets, Nat.pow_zero, Nat.pow_one, Nat.div_one, List.reverse_singleton,
      List.singleton_append]

/-- The bounds rule out overlong octets and numbers that are too large. -/
theorem fits_four {b : UInt8} {low high value : Nat} (hb : b.toNat = 0xF0 + value)
    (hmost : value ≤ 4) (hlow : 0x80 ≤ low) (horder : low ≤ high) (hhigh : high ≤ 0xBF)
    (hoverlong : value = 0 → 0x90 ≤ low) (hlarge : value = 4 → high ≤ 0x8F) :
    Begun.Fits ⟨[b], 3, low, high, value⟩ where
  owed := Nat.succ_pos 2
  low := hlow
  order := horder
  high := hhigh
  completes := by
    intro n hvalue hleast hgreatest
    simp only [Nat.reducePow, Nat.reduceSub] at hvalue hleast hgreatest
    obtain ⟨c, hc⟩ := exists_char (n := n) (by omega)
    have hfirst : (0xF0 + n / 0x40000).toUInt8 = b := toUInt8_eq (by omega)
    refine ⟨c, hc, ?_⟩
    unfold encodeChar
    dsimp only
    rw [hc, if_neg (by omega), if_neg (by omega), if_neg (by omega), hfirst]
    simp only [tailOctets, Nat.pow_zero, Nat.pow_one, Nat.div_one, List.reverse_singleton,
      List.singleton_append, Nat.reducePow]

/-- **The first octet of a character** leaves a character that can be ended. -/
theorem fits_of_lead {b : UInt8} {g : Begun} (h : lead b = .begins g) :
    g.octets = [b] ∧ g.Fits := by
  -- the lead octets in rows, as the table of well-formed sequences has them
  unfold lead at h
  dsimp only at h
  split at h
  · contradiction
  split at h
  · contradiction
  split at h
  · obtain rfl := Lead.begins.inj h
    exact ⟨rfl, fits_two (by omega) (by omega) (by omega)⟩
  split at h
  · obtain rfl := Lead.begins.inj h
    exact ⟨rfl, fits_three (by omega) (by omega) (by omega) (by omega) (by omega) (by omega)
      (by omega)⟩
  split at h
  · obtain rfl := Lead.begins.inj h
    exact ⟨rfl, fits_three (by omega) (by omega) (by omega) (by omega) (by omega) (by omega)
      (by omega)⟩
  split at h
  · obtain rfl := Lead.begins.inj h
    exact ⟨rfl, fits_three (by omega) (by omega) (by omega) (by omega) (by omega) (by omega)
      (by omega)⟩
  split at h
  · obtain rfl := Lead.begins.inj h
    exact ⟨rfl, fits_four (by omega) (by omega) (by omega) (by omega) (by omega) (by omega)
      (by omega)⟩
  split at h
  · obtain rfl := Lead.begins.inj h
    exact ⟨rfl, fits_four (by omega) (by omega) (by omega) (by omega) (by omega) (by omega)
      (by omega)⟩
  split at h
  · obtain rfl := Lead.begins.inj h
    exact ⟨rfl, fits_four (by omega) (by omega) (by omega) (by omega) (by omega) (by omega)
      (by omega)⟩
  · contradiction

namespace Begun.Fits

variable {g : Begun} {b : UInt8}

/-- An octet within the bounds that is not the last one leaves a character that can be ended. -/
theorem next (h : g.Fits) (hmore : 1 < g.owed) (hlow : g.low ≤ b.toNat)
    (hhigh : b.toNat ≤ g.high) :
    Begun.Fits ⟨b :: g.octets, g.owed - 1, 0x80, 0xBF, g.value * 0x40 + (b.toNat - 0x80)⟩ where
  owed := Nat.sub_pos_of_lt hmore
  low := Nat.le_refl _
  order := by simp only [Nat.reduceLeDiff]
  high := Nat.le_refl _
  completes := by
    intro n hvalue _ _
    dsimp only at hvalue ⊢
    have hleast := h.low
    have hgreatest := h.high
    obtain ⟨k, hk⟩ : ∃ k, g.owed = k + 1 + 1 := ⟨g.owed - 2, by omega⟩
    have hdigits : n / 0x40 ^ (k + 1 + 1) = n / 0x40 ^ (k + 1) / 0x40 := by
      rw [Nat.pow_succ, Nat.div_div_eq_div_mul]
    rw [hk, Nat.add_sub_cancel] at hvalue ⊢
    -- the bits of the octet are those that the number has at its place
    have hbits : 0x80 + n / 0x40 ^ (k + 1) % 0x40 = b.toNat := by omega
    obtain ⟨c, hc, hoctets⟩ := h.completes n
      (by rw [hk, hdigits]; omega)
      (by rw [hk, Nat.add_sub_cancel, hbits]; exact hlow)
      (by rw [hk, Nat.add_sub_cancel, hbits]; exact hhigh)
    refine ⟨c, hc, ?_⟩
    rw [hoctets, hk, tailOctets, toUInt8_eq hbits.symm, List.reverse_cons, List.append_assoc,
      List.singleton_append]

/-- The last octet within the bounds ends the character. -/
theorem ends (h : g.Fits) (hone : g.owed = 1) (hlow : g.low ≤ b.toNat)
    (hhigh : b.toNat ≤ g.high) : ∃ c, encodeChar c = g.octets.reverse ++ [b] := by
  have hleast := h.low
  have hgreatest := h.high
  have hbits : (g.value * 0x40 + (b.toNat - 0x80)) % 0x40 = b.toNat - 0x80 := by omega
  obtain ⟨c, -, hoctets⟩ := h.completes (g.value * 0x40 + (b.toNat - 0x80))
    (by rw [hone, Nat.pow_one]; omega)
    (by rw [hone, Nat.sub_self, Nat.pow_zero, Nat.div_one]; omega)
    (by rw [hone, Nat.sub_self, Nat.pow_zero, Nat.div_one]; omega)
  have hlast : 0x80 + (g.value * 0x40 + (b.toNat - 0x80)) % 0x40 = b.toNat := by omega
  refine ⟨c, ?_⟩
  rw [hoctets, hone, tailOctets, tailOctets, Nat.pow_zero, Nat.div_one, toUInt8_eq hlast.symm]

/-- What was read of a character that can be ended is the start of one. -/
theorem isStart (h : g.Fits) : IsStart g.octets.reverse := by
  have hleast := h.low
  have horder := h.order
  have hgreatest := h.high
  obtain ⟨k, hk⟩ : ∃ k, g.owed = k + 1 := ⟨g.owed - 1, by have := h.owed; omega⟩
  have hpos : 0 < 0x40 ^ k := Nat.pow_pos (by omega)
  -- the least octet in its bounds, and then octets without bits
  obtain ⟨n, hn⟩ : ∃ n, n = (g.value * 0x40 + (g.low - 0x80)) * 0x40 ^ k := ⟨_, rfl⟩
  have hdigits : n / 0x40 ^ k = g.value * 0x40 + (g.low - 0x80) := by
    rw [hn, Nat.mul_div_cancel _ hpos]
  obtain ⟨c, -, hoctets⟩ := h.completes n
    (by rw [hk, Nat.pow_succ, ← Nat.div_div_eq_div_mul, hdigits]; omega)
    (by rw [hk, Nat.add_sub_cancel, hdigits]; omega)
    (by rw [hk, Nat.add_sub_cancel, hdigits]; omega)
  exact ⟨c, hoctets ▸ List.prefix_append _ _⟩

end Begun.Fits

/-! ## Reading -/

open Progress

theorem encodeChar_of_lead {b : UInt8} {c : Char} (h : lead b = .single c) :
    encodeChar c = [b] := by
  unfold lead at h
  dsimp only at h
  split at h
  · next hone =>
    obtain rfl := Lead.single.inj h
    obtain ⟨c, hc⟩ := exists_char (n := b.toNat) (by omega)
    rw [← hc, Char.ofNat_toNat]
    unfold encodeChar
    dsimp only
    rw [hc, if_pos hone, toUInt8_eq rfl]
  · -- no other octet is a character by itself
    repeat' split at h
    all_goals contradiction

theorem length_le_of_isStart {run rest s : List UInt8}
    (hcut : ∀ b t, rest = b :: t → ¬IsStart (run ++ [b])) (hs : s <+: run ++ rest)
    (hstart : IsStart s) : s.length ≤ run.length := by
  cases rest with
  | nil =>
    rw [List.append_nil] at hs
    exact hs.length_le
  | cons b t =>
    refine Nat.le_of_not_lt fun hlong => ?_
    have hlonger : run ++ [b] <+: s := by
      refine List.prefix_of_prefix_length_le ⟨t, ?_⟩ hs ?_
      · rw [List.append_assoc, List.singleton_append]
      · rw [List.length_append, List.length_singleton]
        omega
    obtain ⟨c, hc⟩ := hstart
    exact hcut b t rfl ⟨c, hlonger.trans hc⟩

/-- A reader that stands at `p`, behind the pieces `ps` and with the octets `ahead` read since,
    cuts off a maximal ill-formed run when it reads on. -/
def CutsOff (octets : List UInt8) (p : Progress) (ps : List Piece) (ahead : List UInt8) : Prop :=
  ∃ run rest fault, run ++ rest = ahead ++ octets ∧ IsSubpart run (run ++ rest)
    ∧ (octets.foldl step p).finish = (rest.foldl step ⟨none, .illFormed run fault :: ps⟩).finish

/-- **A character that is not ended** is cut off where it cannot go on, and its octets are a
    maximal ill-formed run. -/
theorem cutsOff_begun {g : Begun} (hfits : g.Fits) {rest : List UInt8} (ps : List Piece)
    (hread : g.octets.reverse.foldl step ⟨none, []⟩ = ⟨some g, []⟩)
    (hno : ∀ c, ¬encodeChar c <+: g.octets.reverse ++ rest) :
    CutsOff rest ⟨some g, ps⟩ ps g.octets.reverse := by
  have hne : g.octets.reverse ≠ [] := by
    intro hnil
    rw [hnil] at hread
    cases congrArg Progress.begun hread
  induction rest generalizing g with
  | nil =>
    refine ⟨g.octets.reverse, [], .ending, rfl, ⟨hno, List.prefix_append _ _, hne,
      .inl hfits.isStart, fun s => length_le_of_isStart ?_⟩, rfl⟩
    intro b t hcons
    contradiction
  | cons b rest ih =>
    have hstep : (g.octets.reverse ++ [b]).foldl step ⟨none, []⟩ = step ⟨some g, []⟩ b := by
      rw [List.foldl_append, hread]
      rfl
    by_cases hin : g.low ≤ b.toNat ∧ b.toNat ≤ g.high
    · obtain ⟨hlow, hhigh⟩ := hin
      have howed : 1 < g.owed := by
        -- otherwise a character would end here
        refine Nat.lt_of_not_le fun hlast => ?_
        obtain ⟨c, hc⟩ := hfits.ends (Nat.le_antisymm hlast hfits.owed) hlow hhigh
        refine hno c ⟨rest, ?_⟩
        rw [hc, List.append_assoc, List.singleton_append]
      have hmore : ∀ ps, step ⟨some g, ps⟩ b = ⟨some ⟨b :: g.octets, g.owed - 1, 0x80, 0xBF,
          g.value * 0x40 + (b.toNat - 0x80)⟩, ps⟩ := by
        intro ps
        unfold step
        dsimp only
        rw [if_pos ⟨hlow, hhigh⟩, if_neg (Nat.not_le.mpr howed)]
      obtain ⟨run, rest', fault, hoctets, hrun, hfinish⟩ := ih (hfits.next howed hlow hhigh)
        (by rw [List.reverse_cons, hstep, hmore])
        (by rwa [List.reverse_cons, List.append_assoc, List.singleton_append])
        (by rw [List.reverse_cons]; exact List.concat_ne_nil b _)
      refine ⟨run, rest', fault, ?_, hrun, ?_⟩
      · rw [hoctets, List.reverse_cons, List.append_assoc, List.singleton_append]
      · rw [List.foldl_cons, hmore, hfinish]
    · have hcut : ∀ ps, step ⟨some g, ps⟩ b
          = fresh (.illFormed g.octets.reverse .continuation :: ps) b := by
        intro ps
        unfold step
        dsimp only
        rw [if_neg hin]
      -- the octet is refused, so no character starts with the octets up to it
      have hlonger : ¬IsStart (g.octets.reverse ++ [b]) := by
        have hpieces := pieces_fresh_suffix [.illFormed g.octets.reverse .continuation] b
        rw [← hcut, ← hstep] at hpieces
        exact not_isStart_of_illFormed hpieces
      refine ⟨g.octets.reverse, b :: rest, .continuation, rfl, ⟨hno, List.prefix_append _ _, hne,
        .inl hfits.isStart, fun s => length_le_of_isStart ?_⟩, ?_⟩
      · intro b' t hcons
        obtain ⟨rfl, -⟩ := List.cons.inj hcons
        exact hlonger
      · rw [List.foldl_cons, List.foldl_cons, hcut]
        rfl

/-- **Where no character stands**, a maximal ill-formed run is cut off. -/
theorem cutsOff_of_no_character {octets : List UInt8} (ps : List Piece) (hne : octets ≠ [])
    (hno : ∀ c, ¬encodeChar c <+: octets) : CutsOff octets ⟨none, ps⟩ ps [] := by
  obtain ⟨b, rest, rfl⟩ := List.exists_cons_of_ne_nil hne
  cases hlead : lead b with
  | single c =>
    -- an octet that is a character of its own would be a character in front
    refine absurd ⟨rest, ?_⟩ (hno c)
    rw [encodeChar_of_lead hlead, List.singleton_append]
  | bad =>
    have hbad : ∀ ps, step ⟨none, ps⟩ b = ⟨none, .illFormed [b] .start :: ps⟩ := by
      intro ps
      unfold step fresh
      dsimp only
      rw [hlead]
    refine ⟨[b], rest, .start, rfl, ⟨hno, List.prefix_append _ _, List.cons_ne_nil b [],
      .inr rfl, fun s => length_le_of_isStart ?_⟩, ?_⟩
    · intro b' t _
      have hpieces : [.illFormed [b] .start]
          <:+ ([b, b'].foldl step ⟨none, []⟩).pieces := by
        rw [List.foldl_cons, hbad]
        exact pieces_step_suffix ⟨none, [.illFormed [b] .start]⟩ b'
      exact not_isStart_of_illFormed hpieces
    · rw [List.foldl_cons, hbad]
  -- a sequence was begun and does not end as a character, so it is cut off at some point
  | begins g =>
    obtain ⟨hoctets, hfits⟩ := fits_of_lead hlead
    have hreverse : g.octets.reverse = [b] := by rw [hoctets, List.reverse_singleton]
    obtain ⟨run, rest', fault, hsame, hrun, hfinish⟩ := cutsOff_begun hfits ps
      (by rw [hreverse, List.foldl_cons, List.foldl_nil, step_begins hlead])
      (by rwa [hreverse, List.singleton_append])
    refine ⟨run, rest', fault, ?_, hrun, ?_⟩
    · rw [hsame, hreverse, List.singleton_append, List.nil_append]
    · rw [List.foldl_cons, step_begins hlead, hfinish]

/-- **Reading goes on** with pieces that show what the octets stand for. -/
theorem exists_decodes (octets : List UInt8) (ps : List Piece) :
    ∃ qs, (octets.foldl step ⟨none, ps⟩).finish = ps.reverse ++ qs
      ∧ Decodes octets (qs.map Piece.shown) := by
  -- the induction is on the number of octets left, one piece at a time
  induction hlength : octets.length using Nat.strongRecOn generalizing octets ps with
  | _ n ih =>
    have hleft : ∀ {front rest : List UInt8}, front ++ rest = octets → front ≠ [] →
        rest.length < n := by
      rintro front rest rfl hfront
      have := List.length_pos_iff.mpr hfront
      rw [List.length_append] at hlength
      omega
    by_cases hchar : ∃ c, encodeChar c <+: octets
    · obtain ⟨c, rest, hoctets⟩ := hchar
      obtain ⟨qs, hfinish, hdecodes⟩ :=
        ih rest.length (hleft hoctets (encodeChar_ne_nil c)) rest (.scalar c :: ps) rfl
      refine ⟨.scalar c :: qs, ?_, hoctets ▸ .scalar c hdecodes⟩
      rw [← hoctets, List.foldl_append, foldl_step_encodeChar, hfinish, List.reverse_cons,
        List.append_assoc, List.singleton_append]
    · by_cases hnil : octets = []
      · subst hnil
        exact ⟨[], (List.append_nil _).symm, .nil⟩
      · obtain ⟨run, rest, fault, hoctets, hrun, hfinish⟩ :=
          cutsOff_of_no_character ps hnil (not_exists.mp hchar)
        rw [List.nil_append] at hoctets
        obtain ⟨qs, hqs, hdecodes⟩ :=
          ih rest.length (hleft hoctets hrun.ne_nil) rest (.illFormed run fault :: ps) rfl
        refine ⟨.illFormed run fault :: qs, ?_, hoctets ▸ .illFormed hrun hdecodes⟩
        rw [hfinish, hqs, List.reverse_cons, List.append_assoc, List.singleton_append]

theorem decodes_decode (octets : List UInt8) : Decodes octets (decode octets).toList := by
  obtain ⟨qs, hfinish, hdecodes⟩ := exists_decodes octets []
  unfold decode pieces
  rwa [hfinish, List.reverse_nil, List.nil_append, String.toList_ofList]

/-- **What is read is what the octets stand for.** -/
theorem decode_eq_iff {octets : List UInt8} {s : String} :
    decode octets = s ↔ Decodes octets s.toList := by
  constructor
  · rintro rfl
    exact decodes_decode octets
  · intro h
    exact String.toList_inj.mp ((decodes_decode octets).unique h)

end SourceCheck.Text.Utf8
