import SourceCheck.Text.Utf8

/-! # Text that is written as octets and read back

    The octets of a text are read back as that text (`Utf8.decode_encode`): the first octet of a
    character tells how many follow and within which bounds the second one lies, and the octets
    of a character always keep to them. -/

namespace SourceCheck

open SourceCheck.Text

/-- A character that is made from a valid number has this number. -/
theorem toNat_ofNat {n : Nat} (h : n.isValidChar) : (Char.ofNat n).toNat = n := by
  unfold Char.ofNat
  rw [dif_pos h]
  rfl

namespace Text.Utf8

/-! ## First octets -/

theorem toNat_toUInt8 {n : Nat} (h : n < 0x100) : n.toUInt8.toNat = n := Nat.mod_eq_of_lt h

theorem lead_one {n : Nat} (h : n < 0x80) : lead n.toUInt8 = .single (Char.ofNat n) := by
  have hb : n.toUInt8.toNat = n := toNat_toUInt8 (by omega)
  unfold lead
  dsimp only
  rw [hb, if_pos h]

theorem lead_two {n : Nat} (hlow : 0x80 ≤ n) (hhigh : n < 0x800) :
    lead (0xC0 + n / 0x40).toUInt8
      = .begins ⟨[(0xC0 + n / 0x40).toUInt8], 1, 0x80, 0xBF, n / 0x40⟩ := by
  have hb : (0xC0 + n / 0x40).toUInt8.toNat = 0xC0 + n / 0x40 := toNat_toUInt8 (by omega)
  unfold lead
  dsimp only
  rw [hb, if_neg (by omega), if_neg (by omega), if_pos (by omega), Nat.add_sub_cancel_left]

/-- The first of three octets sets bounds that the second one keeps to; that of a surrogate
    would not. -/
theorem lead_three {n : Nat} (hlow : 0x800 ≤ n) (hhigh : n < 0x10000)
    (hscalar : n < 0xD800 ∨ 0xDFFF < n) :
    ∃ low high, lead (0xE0 + n / 0x1000).toUInt8
        = .begins ⟨[(0xE0 + n / 0x1000).toUInt8], 2, low, high, n / 0x1000⟩
      ∧ low ≤ 0x80 + n / 0x40 % 0x40 ∧ 0x80 + n / 0x40 % 0x40 ≤ high := by
  have hb : (0xE0 + n / 0x1000).toUInt8.toNat = 0xE0 + n / 0x1000 := toNat_toUInt8 (by omega)
  unfold lead
  dsimp only
  rw [hb, if_neg (by omega), if_neg (by omega), if_neg (by omega)]
  by_cases hfirst : n / 0x1000 = 0
  · rw [if_pos (by omega), hfirst]
    exact ⟨0xA0, 0xBF, rfl, by omega, by omega⟩
  · rw [if_neg (by omega)]
    by_cases hsurrogate : n / 0x1000 = 0xD
    · rw [if_pos (by omega), hsurrogate]
      exact ⟨0x80, 0x9F, rfl, by omega, by omega⟩
    · rw [if_neg (by omega), if_pos (by omega), Nat.add_sub_cancel_left]
      exact ⟨0x80, 0xBF, rfl, by omega, by omega⟩

/-- The first of four octets sets bounds that the second one keeps to. -/
theorem lead_four {n : Nat} (hlow : 0x10000 ≤ n) (hhigh : n < 0x110000) :
    ∃ low high, lead (0xF0 + n / 0x40000).toUInt8
        = .begins ⟨[(0xF0 + n / 0x40000).toUInt8], 3, low, high, n / 0x40000⟩
      ∧ low ≤ 0x80 + n / 0x1000 % 0x40 ∧ 0x80 + n / 0x1000 % 0x40 ≤ high := by
  have hb : (0xF0 + n / 0x40000).toUInt8.toNat = 0xF0 + n / 0x40000 := toNat_toUInt8 (by omega)
  unfold lead
  dsimp only
  rw [hb, if_neg (by omega), if_neg (by omega), if_neg (by omega), if_neg (by omega),
    if_neg (by omega), if_neg (by omega)]
  -- the first and the last lead octet allow fewer second octets: no overlong forms, and nothing
  -- beyond the last code point
  by_cases hfirst : n / 0x40000 = 0
  · rw [if_pos (by omega), hfirst]
    exact ⟨0x90, 0xBF, rfl, by omega, by omega⟩
  · rw [if_neg (by omega)]
    by_cases hlast : n / 0x40000 = 4
    · rw [if_neg (by omega), if_pos (by omega), hlast]
      exact ⟨0x80, 0x8F, rfl, by omega, by omega⟩
    · rw [if_pos (by omega), Nat.add_sub_cancel_left]
      exact ⟨0x80, 0xBF, rfl, by omega, by omega⟩

/-! ## Characters -/

namespace Progress

variable {ps : List Piece} {octets : List UInt8} {low high value bits : Nat}

theorem step_begins {b : UInt8} {g : Begun} (h : lead b = .begins g) :
    step ⟨none, ps⟩ b = ⟨some g, ps⟩ := by
  unfold step fresh
  dsimp only
  rw [h]

/-- The last octet of a character that was begun ends it. -/
theorem step_last (hbits : bits < 0x40) (hlow : low ≤ 0x80 + bits) (hhigh : 0x80 + bits ≤ high) :
    step ⟨some ⟨octets, 1, low, high, value⟩, ps⟩ (0x80 + bits).toUInt8
      = ⟨none, .scalar (Char.ofNat (value * 0x40 + bits)) :: ps⟩ := by
  unfold step
  dsimp only
  rw [toNat_toUInt8 (by omega), if_pos ⟨hlow, hhigh⟩, if_pos (Nat.le_refl 1),
    Nat.add_sub_cancel_left]

/-- Any other octet of it leaves fewer to come, which have no bounds of their own. -/
theorem step_next {owed : Nat} (hbits : bits < 0x40) (hlow : low ≤ 0x80 + bits)
    (hhigh : 0x80 + bits ≤ high) :
    step ⟨some ⟨octets, owed + 2, low, high, value⟩, ps⟩ (0x80 + bits).toUInt8
      = ⟨some ⟨(0x80 + bits).toUInt8 :: octets, owed + 1, 0x80, 0xBF, value * 0x40 + bits⟩,
        ps⟩ := by
  unfold step
  dsimp only
  rw [toNat_toUInt8 (by omega), if_pos ⟨hlow, hhigh⟩, if_neg (by omega), Nat.add_sub_cancel_left]
  rfl

end Progress

open Progress in
/-- **The octets of a character** are read as that character. -/
theorem foldl_step_encodeChar (c : Char) (ps : List Piece) :
    (encodeChar c).foldl Progress.step ⟨none, ps⟩ = ⟨none, .scalar c :: ps⟩ := by
  obtain ⟨n, hn⟩ : ∃ n, n = c.toNat := ⟨_, rfl⟩
  have hvalid : n < 0xD800 ∨ 0xDFFF < n ∧ n < 0x110000 := hn ▸ c.valid
  have hchar : Char.ofNat n = c := hn ▸ Char.ofNat_toNat c
  have hbits : ∀ m, m % 0x40 < 0x40 := fun m => Nat.mod_lt m (by omega)
  unfold encodeChar
  dsimp only
  rw [← hn]
  split
  · next hone =>
    rw [List.foldl_cons, List.foldl_nil]
    unfold step fresh
    dsimp only
    rw [lead_one hone, hchar]
  split
  · next hone htwo =>
    -- the bits of both octets make the number of the character again
    have hvalue : n / 0x40 * 0x40 + n % 0x40 = n := by omega
    rw [List.foldl_cons, List.foldl_cons, List.foldl_nil, step_begins (lead_two (by omega) htwo),
      step_last (hbits n) (by omega) (by omega), hvalue, hchar]
  split
  · next hone htwo hthree =>
    obtain ⟨low, high, hlead, hlow, hhigh⟩ := lead_three (by omega) hthree (by omega)
    have hvalue : (n / 0x1000 * 0x40 + n / 0x40 % 0x40) * 0x40 + n % 0x40 = n := by omega
    rw [List.foldl_cons, List.foldl_cons, List.foldl_cons, List.foldl_nil, step_begins hlead,
      step_next (hbits _) hlow hhigh, step_last (hbits n) (by omega) (by omega), hvalue, hchar]
  · next hone htwo hthree =>
    obtain ⟨low, high, hlead, hlow, hhigh⟩ := lead_four (n := n) (by omega) (by omega)
    have hvalue : ((n / 0x40000 * 0x40 + n / 0x1000 % 0x40) * 0x40 + n / 0x40 % 0x40) * 0x40
        + n % 0x40 = n := by omega
    rw [List.foldl_cons, List.foldl_cons, List.foldl_cons, List.foldl_cons, List.foldl_nil,
      step_begins hlead, step_next (hbits _) hlow hhigh, step_next (hbits _) (by omega) (by omega),
      step_last (hbits n) (by omega) (by omega), hvalue, hchar]

/-! ## Texts -/

theorem foldl_step_flatMap (cs : List Char) (ps : List Piece) :
    (cs.flatMap encodeChar).foldl Progress.step ⟨none, ps⟩
      = ⟨none, (cs.map Piece.scalar).reverse ++ ps⟩ := by
  induction cs generalizing ps with
  | nil => rfl
  | cons c rest ih =>
    rw [List.flatMap_cons, List.foldl_append, foldl_step_encodeChar, ih, List.map_cons,
      List.reverse_cons, List.append_assoc]
    rfl

/-- The pieces of the octets of a text are its characters. -/
theorem pieces_encode (s : String) : pieces (encode s) = s.toList.map Piece.scalar := by
  unfold pieces encode
  rw [foldl_step_flatMap]
  unfold Progress.finish
  dsimp only
  rw [List.append_nil, List.reverse_reverse]

/-- **The octets of a text are read back as that text.** -/
theorem decode_encode (s : String) : decode (encode s) = s := by
  have hshown : (s.toList.map Piece.scalar).map Piece.shown = s.toList := by
    rw [List.map_map]
    exact List.map_id _
  unfold decode
  rw [pieces_encode, hshown, String.ofList_toList]

theorem firstRefusal_map_scalar (position : Nat) (cs : List Char) :
    firstRefusal position (cs.map Piece.scalar) = none := by
  induction cs generalizing position with
  | nil => rfl
  | cons c cs ih => exact ih _

/-- The octets of a text are well formed. -/
theorem decodeStrict_encode (s : String) : decodeStrict (encode s) = .ok s := by
  have hdecode := decode_encode s
  unfold decode at hdecode
  rw [pieces_encode] at hdecode
  unfold decodeStrict
  rw [pieces_encode]
  simp only [firstRefusal_map_scalar]
  rw [hdecode]

end Text.Utf8

end SourceCheck
