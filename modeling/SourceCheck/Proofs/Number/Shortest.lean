import Mathlib.Data.List.DropRight
import SourceCheck.Number.Shortest
import SourceCheck.Proofs.Number.Digits
import SourceCheck.Proofs.Number.Rounding

/-! # The shortest text of a number

    Of the decimals around a number the nearer one with seventeen digits is so close that it is
    rounded to the number again.  The search for the shortest decimal thus ends with one that
    stands for the number (`shortest_spec`).

    The text of a finite number is a numeral, with a fraction or an exponent in it, that stands for
    this decimal and so is rounded to the number too (`exists_numeral`). -/

namespace SourceCheck.Number

open Double SourceCheck.Text

/-! ## Powers of two and of ten -/

/-- A power is at most another if the ratio of their exponents is small enough. -/
theorem pow_le_pow_of_ratio {a b p q x y : ℕ} (hb : 0 < b) (hp : p ≠ 0) (hpow : a ^ p ≤ b ^ q)
    (hratio : q * x ≤ p * y) : a ^ x ≤ b ^ y := by
  refine (Nat.pow_le_pow_iff_left hp).mp ?_
  calc (a ^ x) ^ p = (a ^ p) ^ x := by rw [← pow_mul, ← pow_mul, mul_comm]
    _ ≤ (b ^ q) ^ x := Nat.pow_le_pow_left hpow x
    _ = b ^ (q * x) := (pow_mul ..).symm
    _ ≤ b ^ (p * y) := Nat.pow_le_pow_right hb hratio
    _ = (b ^ y) ^ p := by rw [mul_comm, pow_mul]

/-- Three digits of the decimal system hold at most ten of the binary one, and 28 hold 93 at
    least. -/
theorem ten_zpow_le_two_zpow {a b : ℤ}
    (h : 0 ≤ b ∧ 10 * a ≤ 3 * b ∨ b ≤ 0 ∧ 93 * a ≤ 28 * b) : (10 : ℚ) ^ a ≤ 2 ^ b := by
  -- the two ratios bound log 2 / log 10 from below and from above
  obtain ⟨hb, h⟩ | ⟨hb, h⟩ := h
  · obtain ⟨y, rfl⟩ := Int.eq_ofNat_of_zero_le hb
    have hpow : 10 ^ a.toNat ≤ 2 ^ y :=
      pow_le_pow_of_ratio (p := 3) (q := 10) (by decide) (by decide) (by decide) (by omega)
    calc (10 : ℚ) ^ a ≤ 10 ^ (a.toNat : ℤ) := zpow_le_zpow_right₀ (by norm_num) (by omega)
      _ ≤ 2 ^ (y : ℤ) := by exact_mod_cast hpow
  · obtain ⟨x, hx⟩ := Int.eq_ofNat_of_zero_le (show 0 ≤ -a by omega)
    obtain ⟨y, hy⟩ := Int.eq_ofNat_of_zero_le (show 0 ≤ -b by omega)
    obtain rfl : a = -x := by omega
    obtain rfl : b = -y := by omega
    have hpow : 2 ^ y ≤ 10 ^ x :=
      pow_le_pow_of_ratio (p := 93) (q := 28) (by decide) (by decide) (by decide) (by omega)
    rw [zpow_neg, zpow_neg]
    refine inv_anti₀ (by positivity) ?_
    exact_mod_cast hpow

theorem two_zpow_le_ten_zpow {a b : ℤ}
    (h : 0 ≤ b ∧ 28 * b ≤ 93 * a ∨ b ≤ 0 ∧ 3 * b ≤ 10 * a) : (2 : ℚ) ^ b ≤ 10 ^ a := by
  have hneg : (10 : ℚ) ^ (-a) ≤ 2 ^ (-b) := ten_zpow_le_two_zpow (by omega)
  rw [zpow_neg, zpow_neg] at hneg
  exact (inv_le_inv₀ (by positivity) (by positivity)).mp hneg

theorem ten_zpow_pos (e : ℤ) : (0 : ℚ) < 10 ^ e := zpow_pos (by norm_num) e

/-! ## The place of the first digit -/

theorem perPower_eq (num den : ℕ) (e : ℤ) :
    ((perPower num den e).1 / (perPower num den e).2 : ℚ) = num / den / 10 ^ e := by
  unfold perPower
  split
  · next h =>
    obtain ⟨n, rfl⟩ := Int.eq_ofNat_of_zero_le h
    simp [div_div]
  · next h =>
    obtain ⟨n, hn⟩ := Int.eq_ofNat_of_zero_le (show 0 ≤ -e by omega)
    obtain rfl : e = -n := by omega
    simp [div_mul_eq_mul_div]

theorem perPower_pos (num : ℕ) {den : ℕ} (hden : 0 < den) (e : ℤ) :
    0 < (perPower num den e).2 := by
  unfold perPower
  split
  · exact Nat.mul_pos hden (Nat.pow_pos (by decide))
  · exact hden

/-- A power of ten fits into a quotient as it should. -/
theorem perPower_le_iff (num : ℕ) {den : ℕ} (hden : 0 < den) (e : ℤ) :
    (perPower num den e).2 ≤ (perPower num den e).1 ↔ (10 : ℚ) ^ e ≤ num / den := by
  have hpos : (0 : ℚ) < (perPower num den e).2 := by exact_mod_cast perPower_pos num hden e
  have hone : (10 : ℚ) ^ e ≤ num / den ↔ 1 ≤ (num / den : ℚ) / 10 ^ e := by
    rw [le_div_iff₀ (ten_zpow_pos e), one_mul]
  rw [hone, ← perPower_eq, le_div_iff₀ hpos, one_mul]
  exact_mod_cast Iff.rfl

/-- **The decimal exponent** is that of the greatest power of ten that fits. -/
theorem decimalExponent_spec {num den : ℕ} (hnum : num ≠ 0) (hden : den ≠ 0)
    (hsize : ((Nat.log2 num : ℤ) - Nat.log2 den).natAbs ≤ 1100) :
    (10 : ℚ) ^ decimalExponent num den ≤ num / den
      ∧ (num / den : ℚ) < 10 ^ (decimalExponent num den + 1) := by
  have hq : (0 : ℚ) < num / den := by positivity
  obtain ⟨hlow, hhigh⟩ := log_div_mem hnum hden
  have hleast := (le_log_iff hq).mp hlow
  have hmost := (log_lt_iff hq).mp (Int.lt_add_one_iff.mpr hhigh)
  have hfits : ∀ e : ℤ, (perPower num den e).2 ≤ (perPower num den e).1
      ↔ (10 : ℚ) ^ e ≤ num / den := perPower_le_iff num (Nat.pos_of_ne_zero hden)
  unfold decimalExponent
  simp only [hfits]
  generalize (Nat.log2 num : ℤ) - Nat.log2 den = k at hsize hleast hmost ⊢
  generalize hguess : k * 30103 / 100000 - 1 = guess
  have hsmall : (10 : ℚ) ^ (guess - 1) ≤ 2 ^ (k - 1) := ten_zpow_le_two_zpow (by omega)
  have hlarge : (2 : ℚ) ^ (k + 1) ≤ 10 ^ (guess + 3 + 1) := two_zpow_le_ten_zpow (by omega)
  -- only the outermost of the five places rest on the guess alone
  split_ifs with h₃ h₂ h₁ h₀
  · exact ⟨h₃, hmost.trans_le hlarge⟩
  · exact ⟨h₂, by rw [add_assoc]; exact not_le.mp h₃⟩
  · exact ⟨h₁, by rw [add_assoc]; exact not_le.mp h₂⟩
  · exact ⟨h₀, not_le.mp h₁⟩
  · exact ⟨hsmall.trans hleast, by rw [sub_add_cancel]; exact not_le.mp h₀⟩

/-! ## The decimals around a number -/

/-- The decimals with so many digits are the next below and the next above. -/
theorem mem_neighbours {num den : ℕ} {top : ℤ} {count : ℕ} {x : Decimal} :
    x ∈ neighbours num den top count
      ↔ x.exponent = top - count + 1
        ∧ (x.digits = ⌊(num / den : ℚ) / 10 ^ (top - count + 1)⌋₊
          ∨ x.digits = ⌊(num / den : ℚ) / 10 ^ (top - count + 1)⌋₊ + 1) := by
  have hfloor : (perPower num den (top - count + 1)).1 / (perPower num den (top - count + 1)).2
      = ⌊(num / den : ℚ) / 10 ^ (top - count + 1)⌋₊ := by
    rw [← perPower_eq, Nat.floor_div_eq_div]
  unfold neighbours
  dsimp only
  rw [hfloor]
  obtain ⟨digits, exponent⟩ := x
  split <;> simp only [List.mem_cons, Decimal.mk.injEq, List.not_mem_nil, or_false] <;> tauto

/-- One of them is no further away than half a unit of the last digit. -/
theorem exists_neighbour_close (num den : ℕ) (top : ℤ) (count : ℕ) :
    ∃ x ∈ neighbours num den top count,
      |decimalRat x.digits x.exponent - num / den| ≤ 10 ^ (top - count + 1) / 2 := by
  generalize hq : (num / den : ℚ) = q
  generalize he : top - count + 1 = e
  have hunit := ten_zpow_pos e
  have hpos : 0 ≤ q / 10 ^ e := by subst hq; positivity
  have hlow := Nat.floor_le hpos
  have hhigh := Nat.lt_floor_add_one (q / 10 ^ e)
  have hmem : ∀ n, n = ⌊q / 10 ^ e⌋₊ ∨ n = ⌊q / 10 ^ e⌋₊ + 1 →
      (⟨n, e⟩ : Decimal) ∈ neighbours num den top count := by
    intro n hn
    rw [mem_neighbours, hq, he]
    exact ⟨rfl, hn⟩
  have hdistance : ∀ n : ℕ,
      |decimalRat n e - q| = |n - q / 10 ^ e| * 10 ^ e := by
    intro n
    rw [decimalRat, ← abs_of_pos hunit, ← abs_mul, sub_mul, abs_of_pos hunit,
      div_mul_cancel₀ _ hunit.ne']
  -- one of the two neighbours is at most half a unit away
  by_cases hhalf : q / 10 ^ e - ⌊q / 10 ^ e⌋₊ ≤ 1 / 2
  · refine ⟨⟨⌊q / 10 ^ e⌋₊, e⟩, hmem _ (.inl rfl), ?_⟩
    rw [hdistance, abs_of_nonpos (by linarith)]
    nlinarith
  · refine ⟨⟨⌊q / 10 ^ e⌋₊ + 1, e⟩, hmem _ (.inr rfl), ?_⟩
    push_cast [hdistance]
    rw [abs_of_nonneg (by linarith)]
    nlinarith

/-- A decimal around a number is neither much smaller nor much larger. -/
theorem neighbour_mem {num den : ℕ} {top : ℤ} {count : ℕ} (hcount : 1 ≤ count)
    (hlow : (10 : ℚ) ^ top ≤ num / den) (hhigh : (num / den : ℚ) < 10 ^ (top + 1)) {x : Decimal}
    (hx : x ∈ neighbours num den top count) :
    x.digits ≤ 10 ^ count ∧ (num / den : ℚ) / 2 ≤ decimalRat x.digits x.exponent
      ∧ decimalRat x.digits x.exponent ≤ 2 * (num / den) := by
  obtain ⟨digits, exponent⟩ := x
  obtain ⟨hexponent, hdigits⟩ := mem_neighbours.mp hx
  dsimp only at hexponent hdigits ⊢
  rw [← hexponent] at hdigits
  generalize (num / den : ℚ) = q at hlow hhigh hdigits ⊢
  have hunit := ten_zpow_pos exponent
  -- at least one digit stands in front of the unit, so the floor is not zero
  have hone : 1 ≤ q / 10 ^ exponent := by
    rw [le_div_iff₀ hunit, one_mul]
    exact (zpow_le_zpow_right₀ (by norm_num) (by omega)).trans hlow
  have hless : q / 10 ^ exponent < (10 ^ count : ℕ) := by
    rw [div_lt_iff₀ hunit, Nat.cast_pow, Nat.cast_ofNat, ← zpow_natCast,
      ← zpow_add₀ (by norm_num)]
    rwa [show (count : ℤ) + exponent = top + 1 by omega]
  have hq : q = q / 10 ^ exponent * 10 ^ exponent := (div_mul_cancel₀ _ hunit.ne').symm
  have hfloor := Nat.floor_le (zero_le_one.trans hone)
  have hfloor' := Nat.lt_floor_add_one (q / 10 ^ exponent)
  have hpositive : (1 : ℚ) ≤ ⌊q / 10 ^ exponent⌋₊ := by
    exact_mod_cast Nat.le_floor (by exact_mod_cast hone)
  have hdigits' : (⌊q / 10 ^ exponent⌋₊ : ℚ) ≤ digits
      ∧ (digits : ℚ) ≤ ⌊q / 10 ^ exponent⌋₊ + 1 := by
    obtain rfl | rfl := hdigits <;> push_cast <;> constructor <;> linarith
  refine ⟨?_, ?_, ?_⟩
  · have hmost := (Nat.floor_lt (zero_le_one.trans hone)).mpr hless
    omega
  · rw [decimalRat]
    nlinarith
  · rw [decimalRat]
    nlinarith

/-! ## The shortest decimal -/

section Magnitude

variable {m : ℕ} {e : ℤ}

theorem quotient_eq (m : ℕ) (e : ℤ) :
    ((quotient m e).1 / (quotient m e).2 : ℚ) = magnitude m e := by
  unfold quotient magnitude
  split
  · next h =>
    obtain ⟨n, rfl⟩ := Int.eq_ofNat_of_zero_le h
    simp
  · next h =>
    obtain ⟨n, hn⟩ := Int.eq_ofNat_of_zero_le (show 0 ≤ -e by omega)
    obtain rfl : e = -n := by omega
    simp [div_eq_mul_inv]

theorem quotient_pos (m : ℕ) (e : ℤ) : 0 < (quotient m e).2 := by
  unfold quotient
  split
  · exact one_pos
  · exact Nat.pow_pos two_pos

theorem quotient_ne_zero (hm : m ≠ 0) : (quotient m e).1 ≠ 0 ∧ (quotient m e).2 ≠ 0 := by
  refine ⟨?_, (quotient_pos m e).ne'⟩
  unfold quotient
  split
  · exact Nat.mul_ne_zero hm (Nat.pow_pos two_pos).ne'
  · exact hm

theorem magnitude_mem (hm : m ≠ 0) (hbinary : (finite false m e).IsBinary64) :
    (2 : ℚ) ^ (-1074 : ℤ) ≤ magnitude m e ∧ magnitude m e < 2 ^ (1024 : ℤ) := by
  obtain ⟨hdigits, hleast, hgreatest, -⟩ := hbinary
  have hunit := two_zpow_pos e
  -- the smallest number has one unit of the least exponent
  have hone : (1 : ℚ) ≤ m := by exact_mod_cast Nat.one_le_iff_ne_zero.mpr hm
  unfold magnitude
  -- the largest has fewer than 53 bits at the greatest exponent
  constructor
  · calc (2 : ℚ) ^ (-1074 : ℤ) ≤ 2 ^ e := zpow_le_zpow_right₀ one_le_two hleast
      _ ≤ m * 2 ^ e := le_mul_of_one_le_left hunit.le hone
  · calc (m * 2 ^ e : ℚ) < 2 ^ (53 : ℤ) * 2 ^ e := by
          gcongr
          exact_mod_cast hdigits
      _ = 2 ^ (53 + e) := (zpow_add₀ two_ne_zero _ _).symm
      _ ≤ 2 ^ (1024 : ℤ) := zpow_le_zpow_right₀ one_le_two (by
          have hgreatest' : e ≤ 971 := hgreatest
          omega)

/-- What is near a number is moderate. -/
theorem isModerate_of_near (hm : m ≠ 0) (hbinary : (finite false m e).IsBinary64)
    {digits : ℕ} {exponent : ℤ} (hdigits : digits < 10 ^ 40)
    (hlow : magnitude m e / 2 ≤ decimalRat digits exponent)
    (hhigh : decimalRat digits exponent ≤ 2 * magnitude m e) :
    IsModerate digits exponent := by
  obtain ⟨hleast, hmost⟩ := magnitude_mem hm hbinary
  refine ⟨hdigits, ?_, ?_⟩
  · calc (10 : ℚ) ^ (-350 : ℤ) ≤ 2 ^ (-1075 : ℤ) := ten_zpow_le_two_zpow (by omega)
      _ = 2 ^ (-1074 : ℤ) / 2 := by rw [div_eq_mul_inv, ← zpow_sub_one₀ two_ne_zero]; rfl
      _ ≤ magnitude m e / 2 := by linarith
      _ ≤ decimalRat digits exponent := hlow
  · calc decimalRat digits exponent ≤ 2 * magnitude m e := hhigh
      _ ≤ 2 * 2 ^ (1024 : ℤ) := by linarith
      _ = 2 ^ (1025 : ℤ) := by rw [← zpow_one_add₀ two_ne_zero]; rfl
      _ ≤ 10 ^ (350 : ℤ) := two_zpow_le_ten_zpow (by omega)

/-- The place of the first digit of a number. -/
def leadingPlace (m : ℕ) (e : ℤ) : ℤ := decimalExponent (quotient m e).1 (quotient m e).2

theorem leadingPlace_spec (hm : m ≠ 0) (hbinary : (finite false m e).IsBinary64) :
    (10 : ℚ) ^ leadingPlace m e ≤ magnitude m e ∧ magnitude m e < 10 ^ (leadingPlace m e + 1) := by
  obtain ⟨hnum, hden⟩ := quotient_ne_zero (e := e) hm
  obtain ⟨hleast, hmost⟩ := magnitude_mem hm hbinary
  have hpos := (two_zpow_pos (-1074)).trans_le hleast
  have hlog := log_div_mem hnum hden
  rw [quotient_eq] at hlog
  have hlow := (le_log_iff hpos).mpr hleast
  have hhigh := (log_lt_iff hpos).mpr hmost
  rw [← quotient_eq]
  exact decimalExponent_spec hnum hden (by omega)

/-- The decimals that are looked at, those with fewer digits first. -/
def candidates (m : ℕ) (e : ℤ) : List Decimal :=
  (List.range 17).flatMap fun i =>
    neighbours (quotient m e).1 (quotient m e).2 (leadingPlace m e) (i + 1)

theorem isModerate_of_mem_candidates (hm : m ≠ 0) (hbinary : (finite false m e).IsBinary64)
    {x : Decimal} (hx : x ∈ candidates m e) : IsModerate x.digits x.exponent := by
  obtain ⟨i, hi, hx⟩ := List.mem_flatMap.mp hx
  have hi := List.mem_range.mp hi
  have hplace := leadingPlace_spec hm hbinary
  rw [← quotient_eq] at hplace
  obtain ⟨hdigits, hlow, hhigh⟩ := neighbour_mem (Nat.succ_pos i) hplace.1 hplace.2 hx
  rw [quotient_eq] at hlow hhigh
  refine isModerate_of_near hm hbinary ?_ hlow hhigh
  calc x.digits ≤ 10 ^ (i + 1) := hdigits
    _ ≤ 10 ^ 17 := Nat.pow_le_pow_right (by decide) hi
    _ < 10 ^ 40 := by decide

/-- The nearer decimal with seventeen digits is rounded to the number. -/
theorem exists_candidate_readsBack (hm : m ≠ 0) (hbinary : (finite false m e).IsBinary64) :
    ∃ x ∈ candidates m e, readsBack m e x = true := by
  obtain ⟨x, hx, hclose⟩ :=
    exists_neighbour_close (quotient m e).1 (quotient m e).2 (leadingPlace m e) 17
  have hmem : x ∈ candidates m e := List.mem_flatMap.mpr ⟨16, List.mem_range.mpr (by decide), hx⟩
  refine ⟨x, hmem, beq_iff_eq.mpr ?_⟩
  rw [ofDecimal_eq false (isModerate_of_mem_candidates hm hbinary hmem)]
  rw [quotient_eq] at hclose
  have hunit := two_zpow_pos e
  -- the unit of the last digit is at most one in 10¹⁶
  have hstep : (10 : ℚ) ^ (leadingPlace m e - (17 : ℕ) + 1) * 10 ^ 16 ≤ m * 2 ^ e := by
    rw [← zpow_natCast, ← zpow_add₀ (by norm_num)]
    refine (zpow_le_zpow_right₀ (by norm_num) ?_).trans (leadingPlace_spec hm hbinary).1
    push_cast
    omega
  generalize (10 : ℚ) ^ (leadingPlace m e - (17 : ℕ) + 1) = step at hclose hstep
  have hdigits : (m : ℚ) + 1 ≤ 2 ^ 53 := by exact_mod_cast hbinary.1
  obtain ⟨hbelow, habove⟩ := abs_le.mp hclose
  refine ofRat_of_close false hm hbinary ?_ ?_ ?_
  · nlinarith
  · nlinarith
  · rintro rfl
    push_cast at hstep
    nlinarith

/-- **The shortest decimal** is rounded to its number. -/
theorem shortest_spec (hm : m ≠ 0) (hbinary : (finite false m e).IsBinary64) :
    IsModerate (shortest m e).digits (shortest m e).exponent
      ∧ ofRat false (decimalRat (shortest m e).digits (shortest m e).exponent)
        = .finite false m e := by
  obtain ⟨x, hx⟩ := Option.isSome_iff_exists.mp
    (List.find?_isSome.mpr (exists_candidate_readsBack hm hbinary))
  have hshortest : shortest m e = x := by
    change ((candidates m e).find? (readsBack m e)).getD ⟨m, 0⟩ = x
    rw [hx, Option.getD_some]
  have hmoderate := isModerate_of_mem_candidates hm hbinary (List.mem_of_find?_eq_some hx)
  have hread : readsBack m e x = true := List.find?_some hx
  rw [hshortest, ← ofDecimal_eq false hmoderate]
  exact ⟨hmoderate, beq_iff_eq.mp hread⟩

end Magnitude

/-! ## Significant digits -/

/-- Digits without a zero in front. -/
structure IsSignificant (ds : List Char) : Prop where
  nonempty : ds ≠ []
  isDigit : ∀ c ∈ ds, isAsciiDigit c = true
  head : ds.head? ≠ some '0'

/-- **The significant digits of a decimal** stand for the same number. -/
theorem significant_spec {x : Decimal} (hx : x.digits ≠ 0) :
    IsSignificant (significant x).1 ∧ digitsValue (significant x).1 ≤ x.digits
      ∧ decimalRat (digitsValue (significant x).1) ((significant x).2 - (significant x).1.length)
        = decimalRat x.digits x.exponent := by
  have hkept : (significant x).1 = (natDigits x.digits).rdropWhile (· == '0') := rfl
  have hpoint : (significant x).2 = (natDigits x.digits).length + x.exponent := rfl
  -- what is left out is a run of zeros
  obtain ⟨zeros, hzeros, hsplit⟩ : ∃ zeros, (∀ c ∈ zeros, c = '0')
      ∧ natDigits x.digits = (significant x).1 ++ zeros := by
    refine ⟨(natDigits x.digits).rtakeWhile (· == '0'), ?_, ?_⟩
    · intro c hc
      simpa using List.mem_rtakeWhile_imp hc
    · rw [hkept, List.rdropWhile_append_rtakeWhile]
  rw [List.eq_replicate_of_mem hzeros] at hsplit
  generalize zeros.length = n at hsplit
  have hvalue := digitsValue_natDigits x.digits
  rw [hsplit, digitsValue_append, digitsValue_replicate_zero, List.length_replicate, add_zero]
    at hvalue
  have hne : (significant x).1 ≠ [] := by
    intro hnil
    rw [hnil] at hvalue
    exact hx (by rw [← hvalue]; simp [digitsValue])
  refine ⟨⟨hne, ?_, ?_⟩, ?_, ?_⟩
  · intro c hc
    exact isAsciiDigit_of_mem_natDigits (hsplit ▸ List.mem_append_left _ hc)
  · have hhead := head?_natDigits_ne_zero hx
    rwa [hsplit, List.head?_append_of_ne_nil _ hne] at hhead
  · rw [← hvalue]
    exact Nat.le_mul_of_pos_right _ (Nat.pow_pos (by decide))
  · rw [hpoint, hsplit, List.length_append, List.length_replicate, decimalRat, decimalRat,
      ← hvalue]
    push_cast
    rw [mul_assoc, ← zpow_natCast, ← zpow_add₀ (by norm_num)]
    congr 2
    ring

/-! ## Numerals -/

/-- A numeral of a floating-point number: digits, then a fraction or an exponent. -/
structure Numeral where
  /-- The digits in front of the point. -/
  whole : List Char
  /-- The digits behind the point; there is no point if there are none. -/
  fraction : List Char
  /-- The exponent, if one is written. -/
  exponent : Option Int
  isDigit : ∀ c ∈ whole ++ fraction, isAsciiDigit c = true
  /-- No zero stands in front of other digits. -/
  isPlain : whole = ['0'] ∨ whole ≠ [] ∧ whole.head? ≠ some '0'
  /-- It is no integer. -/
  isBroken : fraction ≠ [] ∨ exponent ≠ none

namespace Numeral

theorem whole_ne_nil (d : Numeral) : d.whole ≠ [] := by
  obtain hzero | ⟨hne, -⟩ := d.isPlain
  · simp [hzero]
  · exact hne

/-- The text of a numeral. -/
def text (d : Numeral) : List Char :=
  d.whole ++ ((if d.fraction = [] then [] else '.' :: d.fraction)
    ++ d.exponent.elim [] fun e => 'e' :: exponentText e)

/-- The number that its digits write. -/
def digits (d : Numeral) : Nat := digitsValue (d.whole ++ d.fraction)

/-- The power of ten of its last digit. -/
def place (d : Numeral) : Int := d.exponent.getD 0 - d.fraction.length

/-- The rational number that it stands for. -/
def value (d : Numeral) : ℚ := decimalRat d.digits d.place

end Numeral

section Layout

variable {ds : List Char} {point : Int}

theorem isAsciiDigit_of_mem_zeros {n : ℕ} {c : Char} (hc : c ∈ List.replicate n '0') :
    isAsciiDigit c = true := by
  rw [(List.mem_replicate.mp hc).2]
  rfl

/-- Digits with a point among them. -/
theorem exists_pointed {whole fraction : List Char} {q : ℚ}
    (hdigit : ∀ c ∈ whole ++ fraction, isAsciiDigit c = true)
    (hplain : whole = ['0'] ∨ whole ≠ [] ∧ whole.head? ≠ some '0') (hne : fraction ≠ [])
    (hdigits : digitsValue (whole ++ fraction) < 10 ^ 40)
    (hvalue : decimalRat (digitsValue (whole ++ fraction)) (-fraction.length) = q) :
    ∃ d : Numeral, d.text = whole ++ '.' :: fraction ∧ d.digits < 10 ^ 40 ∧ d.value = q := by
  refine ⟨⟨whole, fraction, none, hdigit, hplain, .inl hne⟩, ?_, hdigits, ?_⟩
  · simp [Numeral.text, hne]
  · rw [← hvalue]
    simp [Numeral.value, Numeral.digits, Numeral.place]

/-- The point in front of the digits, with zeros between them. -/
-- zeros in front do not change the value
theorem exists_leading (h : IsSignificant ds) (hdigits : digitsValue ds < 10 ^ 40) (n : ℕ) :
    ∃ d : Numeral, d.text = '0' :: '.' :: (List.replicate n '0' ++ ds) ∧ d.digits < 10 ^ 40
      ∧ d.value = decimalRat (digitsValue ds) (-n - ds.length) := by
  have hdigits' : digitsValue (['0'] ++ (List.replicate n '0' ++ ds)) = digitsValue ds := by
    rw [← List.append_assoc, ← List.replicate_one, List.replicate_append_replicate,
      digitsValue_append, digitsValue_replicate_zero, zero_mul, zero_add]
  change ∃ d : Numeral, d.text = ['0'] ++ '.' :: (List.replicate n '0' ++ ds) ∧ _
  refine exists_pointed ?_ (.inl rfl) (by simp [h.nonempty]) ?_ ?_
  · simp only [List.mem_append, List.mem_singleton]
    rintro c (rfl | hc | hc)
    · rfl
    · exact isAsciiDigit_of_mem_zeros hc
    · exact h.isDigit c hc
  · rwa [hdigits']
  · rw [hdigits', List.length_append, List.length_replicate]
    congr 1
    push_cast
    ring

/-- The point behind the digits, with zeros between them and one behind it. -/
-- the zero behind the point joins those in front of it
theorem exists_trailing (h : IsSignificant ds) {n : ℕ} (hlength : ds.length + n ≤ 16) :
    ∃ d : Numeral, d.text = ds ++ List.replicate n '0' ++ ['.', '0'] ∧ d.digits < 10 ^ 40
      ∧ d.value = decimalRat (digitsValue ds) n := by
  have hzeros : ds ++ List.replicate n '0' ++ ['0'] = ds ++ List.replicate (n + 1) '0' := by
    rw [List.append_assoc, List.replicate_succ']
  have hisDigit : ∀ c ∈ ds ++ List.replicate (n + 1) '0', isAsciiDigit c = true := by
    intro c hc
    obtain hc | hc := List.mem_append.mp hc
    · exact h.isDigit c hc
    · exact isAsciiDigit_of_mem_zeros hc
  refine exists_pointed ?_ (.inr ⟨?_, ?_⟩) (by simp) ?_ ?_
  · rwa [hzeros]
  · simp [h.nonempty]
  · rw [List.head?_append_of_ne_nil _ h.nonempty]
    exact h.head
  · rw [hzeros]
    refine (digitsValue_lt hisDigit).trans_le (Nat.pow_le_pow_right (by decide) ?_)
    rw [List.length_append, List.length_replicate]
    omega
  · rw [hzeros, digitsValue_append, digitsValue_replicate_zero, List.length_replicate,
      decimalRat, decimalRat]
    push_cast
    rw [add_zero, mul_assoc, ← zpow_natCast, ← zpow_add₀ (by norm_num)]
    simp

/-- The point among the digits. -/
theorem exists_inner (h : IsSignificant ds) (hdigits : digitsValue ds < 10 ^ 40) {n : ℕ}
    (hn : n ≠ 0) (hless : n < ds.length) :
    ∃ d : Numeral, d.text = ds.take n ++ '.' :: ds.drop n ∧ d.digits < 10 ^ 40
      ∧ d.value = decimalRat (digitsValue ds) (n - ds.length) := by
  have hsplit := List.take_append_drop n ds
  refine exists_pointed ?_ (.inr ⟨?_, ?_⟩) ?_ ?_ ?_
  · rw [hsplit]
    exact h.isDigit
  · simpa [hn] using h.nonempty
  · rw [List.head?_take, if_neg hn]
    exact h.head
  · intro hnil
    have hle := List.drop_eq_nil_iff.mp hnil
    omega
  · rwa [hsplit]
  · rw [hsplit, List.length_drop]
    congr 1
    omega

/-- Digits without an exponent. -/
theorem exists_positional (h : IsSignificant ds) (hdigits : digitsValue ds < 10 ^ 40)
    (hpoint : point ≤ 16) :
    ∃ d : Numeral, d.text = positional ds point ∧ d.digits < 10 ^ 40
      -- the point stands in front of the digits
      ∧ d.value = decimalRat (digitsValue ds) (point - ds.length) := by
  unfold positional
  split
  · next hfront =>
    obtain ⟨n, hn⟩ := Int.eq_ofNat_of_zero_le (show 0 ≤ -point by omega)
    -- the point stands behind the digits
    have hleading := exists_leading h hdigits n
    rwa [← hn, neg_neg, ← Int.toNat_natCast n, ← hn] at hleading
  split
  · next hbehind =>
    -- the point stands among the digits
    obtain ⟨n, hn⟩ := Int.eq_ofNat_of_zero_le (show 0 ≤ point - ds.length by omega)
    rw [hn, Int.toNat_natCast]
    exact exists_trailing h (by omega)
  · next hfront hamong =>
    obtain ⟨n, rfl⟩ := Int.eq_ofNat_of_zero_le (show 0 ≤ point by omega)
    exact exists_inner h hdigits (by omega) (by omega)

/-- Digits with an exponent. -/
theorem exists_scientific (h : IsSignificant ds) (hdigits : digitsValue ds < 10 ^ 40) :
    ∃ d : Numeral, d.text = scientific ds point ∧ d.digits < 10 ^ 40
      ∧ d.value = decimalRat (digitsValue ds) (point - ds.length) := by
  obtain ⟨c, rest, rfl⟩ := List.exists_cons_of_ne_nil h.nonempty
  have hhead : c ≠ '0' := fun hc => h.head (by rw [hc]; rfl)
  refine ⟨⟨[c], rest, some (point - 1), h.isDigit, .inr ⟨by simp, by simpa using hhead⟩,
    .inr (by simp)⟩, ?_, hdigits, ?_⟩
  · cases rest <;> simp [Numeral.text, scientific]
  · simp only [Numeral.value, Numeral.digits, Numeral.place]
    congr 1
    simp
    ring

end Layout

/-- **The text of a finite number** is a numeral that is rounded to it. -/
theorem exists_numeral {negative : Bool} {m : ℕ} {e : ℤ}
    -- zero has no significant digits and is written on its own
    (hbinary : (finite negative m e).IsBinary64) :
    ∃ d : Numeral, d.text = magnitudeText m e
      ∧ ofDecimal negative d.digits d.place = .finite negative m e := by
  by_cases hm : m = 0
  · subst hm
    refine ⟨⟨['0'], ['0'], none, by simp [isAsciiDigit], .inl rfl, .inl (by simp)⟩, rfl, ?_⟩
    obtain rfl : e = leastExponent := by
      obtain ⟨-, -, -, hle | he⟩ := hbinary
      · exact absurd hle (by decide)
      · exact he
    rfl
  obtain ⟨hmoderate, hshortest⟩ := shortest_spec hm hbinary
  obtain ⟨hsignificant, hdigits, hvalue⟩ := significant_spec hmoderate.positive
  have hless := hdigits.trans_lt hmoderate.digits_lt
  have hnumeral : ∃ d : Numeral, d.text = magnitudeText m e ∧ d.digits < 10 ^ 40
      ∧ d.value = decimalRat (shortest m e).digits (shortest m e).exponent := by
    rw [← hvalue]
    unfold magnitudeText
    rw [if_neg hm]
    dsimp only
    split
    · next hplace => exact exists_positional hsignificant hless hplace.2
    -- reading rounds correctly as long as the decimal number is of moderate size
    · exact exists_scientific hsignificant hless
  obtain ⟨d, htext, hdigits, hd⟩ := hnumeral
  refine ⟨d, htext, ?_⟩
  have hmoderate' : IsModerate d.digits d.place :=
    ⟨hdigits, hmoderate.low.trans hd.ge, hd.le.trans hmoderate.high⟩
  rw [ofDecimal_eq negative hmoderate']
  exact ofRat_sign ((congrArg (ofRat false) hd).trans hshortest) negative

end SourceCheck.Number
