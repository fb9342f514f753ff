import Mathlib.Algebra.Order.Field.Power
import Mathlib.Algebra.Order.Floor.Semifield
import Mathlib.Data.Int.Log
import Mathlib.Data.Rat.Floor
import Mathlib.Tactic.FieldSimp
import Mathlib.Tactic.Linarith
import Mathlib.Tactic.Positivity
import Mathlib.Tactic.Ring
import SourceCheck.Number.Double

/-! # Rounding to floating-point numbers

    The number nearest to a quotient depends on nothing but the rational number that the
    quotient stands for (`ofQuotient_eq`, `ofDecimal_eq`).  A rational number that is closer to
    a floating-point number than half the distance to its neighbours is rounded to that number
    (`ofRat_of_close`). -/

namespace SourceCheck.Number.Double

/-! ## Integers -/

/-- The integer nearest to a rational number, a half going to the even neighbour. -/
def roundEven (q : ℚ) : ℕ :=
  if q - ⌊q⌋₊ < 1 / 2 then ⌊q⌋₊
  else if 1 / 2 < q - ⌊q⌋₊ then ⌊q⌋₊ + 1
  else if ⌊q⌋₊ % 2 = 0 then ⌊q⌋₊ else ⌊q⌋₊ + 1

theorem roundDiv_eq (num : ℕ) {den : ℕ} (hden : 0 < den) :
    roundDiv num den = roundEven (num / den) := by
  have hpos : (0 : ℚ) < den := by exact_mod_cast hden
  -- the fraction of the quotient is the remainder over the divisor
  have hrest : (num / den : ℚ) - (num / den : ℕ) = (num % den : ℕ) / den := by
    have hsplit : (num : ℚ) = den * (num / den : ℕ) + (num % den : ℕ) := by
      exact_mod_cast (Nat.div_add_mod num den).symm
    field_simp
    linarith
  -- comparing the fraction with a half is comparing twice the remainder with the divisor
  have hless : (num / den : ℚ) - (num / den : ℕ) < 1 / 2 ↔ 2 * (num % den) < den := by
    rw [hrest, div_lt_div_iff₀ hpos two_pos, one_mul, mul_comm]
    exact_mod_cast Iff.rfl
  have hmore : 1 / 2 < (num / den : ℚ) - (num / den : ℕ) ↔ den < 2 * (num % den) := by
    rw [hrest, div_lt_div_iff₀ two_pos hpos, one_mul, mul_comm (_ : ℚ) 2]
    exact_mod_cast Iff.rfl
  unfold roundDiv roundEven
  rw [Nat.floor_div_eq_div]
  simp only [hless, hmore]

theorem floor_le_roundEven (q : ℚ) : ⌊q⌋₊ ≤ roundEven q := by
  unfold roundEven
  split_ifs <;> omega

theorem roundEven_le_floor_succ (q : ℚ) : roundEven q ≤ ⌊q⌋₊ + 1 := by
  unfold roundEven
  split_ifs <;> omega

/-- What is closer than a half is the nearest. -/
theorem roundEven_of_close {q : ℚ} {m : ℕ} (hq : 0 ≤ q) (hlow : m - 1 / 2 < q)
    (hhigh : q < m + 1 / 2) : roundEven q = m := by
  unfold roundEven
  by_cases h : (m : ℚ) ≤ q
  · have hfloor : ⌊q⌋₊ = m :=
      (Nat.floor_eq_iff (m.cast_nonneg.trans h)).mpr ⟨h, by linarith⟩
    rw [hfloor, if_pos (by linarith)]
  · -- the number lies below, so the nearest integer is the one above its floor
    obtain ⟨n, rfl⟩ : ∃ n, m = n + 1 := by
      refine Nat.exists_eq_succ_of_ne_zero ?_
      rintro rfl
      exact h (by simpa using hq)
    push_cast at h hlow hhigh
    have hfloor : ⌊q⌋₊ = n :=
      (Nat.floor_eq_iff (by linarith [(n.cast_nonneg : (0 : ℚ) ≤ n)])).mpr
        ⟨by linarith, by linarith⟩
    rw [hfloor, if_neg (by linarith), if_pos (by linarith)]

theorem roundEven_mem {q : ℚ} {a b : ℕ} (hlow : a ≤ q) (hhigh : q < b) :
    a ≤ roundEven q ∧ roundEven q ≤ b := by
  have hfloor : a ≤ ⌊q⌋₊ := Nat.le_floor hlow
  have hless : ⌊q⌋₊ < b := (Nat.floor_lt (a.cast_nonneg.trans hlow)).mpr hhigh
  have hround := floor_le_roundEven q
  have hsucc := roundEven_le_floor_succ q
  omega

theorem roundEven_le {q : ℚ} {b : ℕ} (hq : 0 ≤ q) (h : q ≤ b) : roundEven q ≤ b := by
  obtain hless | rfl := h.lt_or_eq
  · exact (roundEven_mem (a := 0) (by exact_mod_cast hq) hless).2
  · exact (roundEven_of_close hq (by linarith) (by linarith)).le

/-! ## Powers of two -/

theorem two_zpow_pos (e : ℤ) : (0 : ℚ) < 2 ^ e := zpow_pos two_pos e

theorem div_two_zpow_lt_iff {q : ℚ} {e n : ℤ} : q / 2 ^ e < 2 ^ n ↔ q < 2 ^ (n + e) := by
  rw [div_lt_iff₀ (two_zpow_pos e), zpow_add₀ two_ne_zero]

theorem le_div_two_zpow_iff {q : ℚ} {e n : ℤ} : 2 ^ n ≤ q / 2 ^ e ↔ 2 ^ (n + e) ≤ q := by
  rw [le_div_iff₀ (two_zpow_pos e), zpow_add₀ two_ne_zero]

theorem le_log_iff {q : ℚ} (hq : 0 < q) {n : ℤ} : n ≤ Int.log 2 q ↔ 2 ^ n ≤ q := by
  exact_mod_cast (Int.zpow_le_iff_le_log one_lt_two hq).symm

theorem log_lt_iff {q : ℚ} (hq : 0 < q) {n : ℤ} : Int.log 2 q < n ↔ q < 2 ^ n := by
  exact_mod_cast (Int.lt_zpow_iff_log_lt one_lt_two hq).symm

/-- A quotient divided by a power of two, as a quotient. -/
theorem scaled_eq (num den : ℕ) (e : ℤ) :
    (num / den : ℚ) / 2 ^ e
      = if 0 ≤ e then (num : ℚ) / (den * Nat.pow 2 e.toNat : ℕ)
        else (num * Nat.pow 2 (-e).toNat : ℕ) / (den : ℚ) := by
  split
  · next h =>
    obtain ⟨n, rfl⟩ := Int.eq_ofNat_of_zero_le h
    simp [div_div]
  · next h =>
    obtain ⟨n, hn⟩ := Int.eq_ofNat_of_zero_le (show 0 ≤ -e by omega)
    obtain rfl : e = -n := by omega
    simp [div_mul_eq_mul_div]

theorem scaledRound_eq (num : ℕ) {den : ℕ} (hden : 0 < den) (e : ℤ) :
    scaledRound num den e = roundEven ((num / den) / 2 ^ e) := by
  rw [scaled_eq]
  unfold scaledRound
  split
  · exact roundDiv_eq num (Nat.mul_pos hden (Nat.pow_pos two_pos))
  · exact roundDiv_eq _ hden

theorem scaledFloor_eq (num den : ℕ) (e : ℤ) :
    scaledFloor num den e = ⌊(num / den : ℚ) / 2 ^ e⌋₊ := by
  rw [scaled_eq]
  unfold scaledFloor
  split
  · exact (Nat.floor_div_eq_div _ _).symm
  · exact (Nat.floor_div_eq_div _ _).symm

/-! ## Quotients -/

/-- The number nearest to a rational number that is not negative, with a sign. -/
def ofRat (negative : Bool) (q : ℚ) : Double :=
  if q = 0 then zero negative
  else
    let e := max (Int.log 2 q - 52) leastExponent
    let m := roundEven (q / 2 ^ e)
    let (m, e) := if m = 2 ^ 53 then (2 ^ 52, e + 1) else (m, e)
    if greatestExponent < e then .infinite negative else .finite negative m e

/-- The length of a number, less one, is its logarithm. -/
theorem two_zpow_log2_mem {n : ℕ} (hn : n ≠ 0) :
    (2 : ℚ) ^ (Nat.log2 n : ℤ) ≤ n ∧ (n : ℚ) < 2 ^ (Nat.log2 n + 1 : ℤ) :=
  ⟨by exact_mod_cast Nat.log2_self_le hn, by exact_mod_cast Nat.lt_log2_self⟩

/-- The logarithm of a quotient is the difference of the lengths, or one less. -/
theorem log_div_mem {num den : ℕ} (hnum : num ≠ 0) (hden : den ≠ 0) :
    (Nat.log2 num : ℤ) - Nat.log2 den - 1 ≤ Int.log 2 (num / den : ℚ)
      ∧ Int.log 2 (num / den : ℚ) ≤ Nat.log2 num - Nat.log2 den := by
  have hq : (0 : ℚ) < num / den := by positivity
  have hden₀ : (0 : ℚ) < den := by positivity
  obtain ⟨hnum, hnum'⟩ := two_zpow_log2_mem hnum
  obtain ⟨hden, hden'⟩ := two_zpow_log2_mem hden
  -- a quotient of two numbers between powers of two lies between the quotients of those powers
  constructor
  · rw [le_log_iff hq, le_div_iff₀ hden₀]
    calc (2 : ℚ) ^ ((Nat.log2 num : ℤ) - Nat.log2 den - 1) * den
        ≤ 2 ^ ((Nat.log2 num : ℤ) - Nat.log2 den - 1) * 2 ^ (Nat.log2 den + 1 : ℤ) := by gcongr
      _ = 2 ^ (Nat.log2 num : ℤ) := by
        rw [← zpow_add₀ two_ne_zero]
        congr 1
        ring
      _ ≤ num := hnum
  · rw [← Int.lt_add_one_iff, log_lt_iff hq, div_lt_iff₀ hden₀]
    calc (num : ℚ) < 2 ^ (Nat.log2 num + 1 : ℤ) := hnum'
      _ = 2 ^ ((Nat.log2 num : ℤ) - Nat.log2 den + 1) * 2 ^ (Nat.log2 den : ℤ) := by
        rw [← zpow_add₀ two_ne_zero]
        congr 1
        ring
      _ ≤ 2 ^ ((Nat.log2 num : ℤ) - Nat.log2 den + 1) * den := by gcongr

/-- **The number nearest to a quotient** is that nearest to the rational number. -/
theorem ofQuotient_eq (negative : Bool) (num : ℕ) {den : ℕ} (hden : den ≠ 0) :
    ofQuotient negative num den = ofRat negative (num / den) := by
  unfold ofQuotient ofRat
  by_cases hnum : num = 0
  · rw [if_pos (.inl hnum), hnum]
    simp
  rw [if_neg (by simp [hnum, hden]), if_neg (by positivity)]
  have hq : (0 : ℚ) < num / den := by positivity
  obtain ⟨hlow, hhigh⟩ := log_div_mem hnum hden
  -- the guess is one too high just if the quotient has one digit less than it might have
  have hless : scaledFloor num den (Nat.log2 num - Nat.log2 den - 52) < Nat.pow 2 52
      ↔ Int.log 2 (num / den : ℚ) < Nat.log2 num - Nat.log2 den := by
    rw [scaledFloor_eq, Nat.floor_lt (div_pos hq (two_zpow_pos _)).le, log_lt_iff hq]
    have hpow := div_two_zpow_lt_iff (q := num / den) (e := Nat.log2 num - Nat.log2 den - 52)
      (n := 52)
    rw [show (52 : ℤ) + (Nat.log2 num - Nat.log2 den - 52) = Nat.log2 num - Nat.log2 den by ring]
      at hpow
    exact_mod_cast hpow
  have hexponent : (if scaledFloor num den (Nat.log2 num - Nat.log2 den - 52) < Nat.pow 2 52
      then (Nat.log2 num : ℤ) - Nat.log2 den - 52 - 1 else Nat.log2 num - Nat.log2 den - 52)
        = Int.log 2 (num / den : ℚ) - 52 := by
    split
    · next h =>
      have h' := hless.mp h
      omega
    · next h =>
      have h' := mt hless.mpr h
      omega
  dsimp only
  rw [hexponent, scaledRound_eq num (Nat.pos_of_ne_zero hden)]
  rfl

/-! ## Numbers of 53 digits -/

/-- A number of 53 binary digits at most, of the full length unless its exponent is the least. -/
def IsBinary64 : Double → Prop
  | .finite _ m e => m < 2 ^ 53 ∧ leastExponent ≤ e ∧ e ≤ greatestExponent
      ∧ (2 ^ 52 ≤ m ∨ e = leastExponent)
  | _ => True

/-- The bounds of a rational number in units of its last digit. -/
theorem div_unit_mem {q : ℚ} (hq : 0 < q) :
    q / 2 ^ max (Int.log 2 q - 52) leastExponent < 2 ^ (53 : ℤ)
      ∧ (max (Int.log 2 q - 52) leastExponent ≠ leastExponent →
        2 ^ (52 : ℤ) ≤ q / 2 ^ max (Int.log 2 q - 52) leastExponent) := by
  constructor
  · refine div_two_zpow_lt_iff.mpr ((log_lt_iff hq).mp ?_)
    omega
  · intro h
    refine le_div_two_zpow_iff.mpr ((le_log_iff hq).mp ?_)
    omega

theorem isBinary64_zero (negative : Bool) : (zero negative).IsBinary64 :=
  ⟨by decide, by decide, by decide, .inr rfl⟩

/-- **What rounding gives** is a number of 53 digits. -/
theorem isBinary64_ofRat (negative : Bool) {q : ℚ} (hq : 0 ≤ q) :
    (ofRat negative q).IsBinary64 := by
  unfold ofRat
  split
  · exact isBinary64_zero negative
  next hne =>
  obtain ⟨hless, hnormal⟩ := div_unit_mem (hq.lt_of_ne (Ne.symm hne))
  have hleast := le_max_right (Int.log 2 q - 52) leastExponent
  dsimp only
  generalize max (Int.log 2 q - 52) leastExponent = e at hless hnormal hleast ⊢
  have hround : roundEven (q / 2 ^ e) ≤ 2 ^ 53 :=
    (roundEven_mem (a := 0) (by positivity) (by exact_mod_cast hless)).2
  -- a carry out of the digits moves the number to the next power of two
  by_cases hcarry : roundEven (q / 2 ^ e) = 2 ^ 53
  · rw [if_pos hcarry]
    dsimp only
    split
    · trivial
    · exact ⟨by decide, by omega, by omega, .inl le_rfl⟩
  · rw [if_neg hcarry]
    dsimp only
    split
    · trivial
    · refine ⟨by omega, hleast, by omega, ?_⟩
      -- only the smallest exponent may go with fewer digits
      by_cases he : e = leastExponent
      · exact .inr he
      · exact .inl (roundEven_mem (by exact_mod_cast hnormal he) (by exact_mod_cast hless)).1

theorem isBinary64_ofQuotient (negative : Bool) (num den : ℕ) :
    (ofQuotient negative num den).IsBinary64 := by
  by_cases hden : den = 0
  · unfold ofQuotient
    rw [if_pos (.inr hden)]
    exact isBinary64_zero negative
  · rw [ofQuotient_eq negative num hden]
    exact isBinary64_ofRat negative (by positivity)

theorem isBinary64_ofInt (n : ℤ) : (ofInt n).IsBinary64 := isBinary64_ofQuotient _ _ _

/-- The rational number that a magnitude stands for. -/
def magnitude (m : ℕ) (e : ℤ) : ℚ := m * 2 ^ e

theorem roundEven_div_of_close {q : ℚ} {m : ℕ} {e : ℤ} (hq : 0 < q)
    (hlow : magnitude m e - 2 ^ e / 2 < q) (hhigh : q < magnitude m e + 2 ^ e / 2) :
    roundEven (q / 2 ^ e) = m := by
  have hunit := two_zpow_pos e
  unfold magnitude at hlow hhigh
  refine roundEven_of_close (by positivity) ?_ ?_
  · rw [lt_div_iff₀ hunit]
    linarith
  · rw [div_lt_iff₀ hunit]
    linarith

/-- What lies close below a power of two has a unit half as large, and is rounded up to it. -/
theorem ofRat_below_power (negative : Bool) {q : ℚ} {e : ℤ} (hleast : leastExponent < e)
    (hgreatest : e ≤ greatestExponent) (hlow : magnitude (2 ^ 52) e - 2 ^ e / 4 < q)
    (hhigh : q < magnitude (2 ^ 52) e) : ofRat negative q = .finite negative (2 ^ 52) e := by
  have hunit := two_zpow_pos e
  have hhalf : (2 : ℚ) ^ e = 2 * 2 ^ (e - 1) := by
    rw [← zpow_one_add₀ two_ne_zero, add_sub_cancel]
  -- below the power the unit is half as large, so the digits are twice as many
  have hcarried : magnitude (2 ^ 53) (e - 1) = magnitude (2 ^ 52) e := by
    simp only [magnitude, hhalf]
    push_cast
    ring
  have hq : 0 < q := by
    unfold magnitude at hlow
    push_cast at hlow
    linarith
  have hexponent : max (Int.log 2 q - 52) leastExponent = e - 1 := by
    have hmost : Int.log 2 q < 52 + e := by
      rw [log_lt_iff hq, zpow_add₀ two_ne_zero]
      exact_mod_cast hhigh
    have hfewest : 51 + e ≤ Int.log 2 q := by
      unfold magnitude at hlow
      rw [le_log_iff hq, zpow_add₀ two_ne_zero]
      norm_num at hlow ⊢
      linarith
    omega
  -- rounding carries back up to the power itself
  have hround : roundEven (q / 2 ^ (e - 1)) = 2 ^ 53 := by
    refine roundEven_div_of_close hq ?_ ?_
    · rw [hcarried]
      linarith
    · rw [hcarried]
      exact lt_add_of_lt_of_pos hhigh (half_pos (two_zpow_pos (e - 1)))
  unfold ofRat
  rw [if_neg hq.ne']
  dsimp only
  rw [hexponent, hround, if_pos rfl, sub_add_cancel]
  exact if_neg (by omega)

/-- **A rational number close to a number of 53 digits** is rounded to it.  Below a power of two
    the neighbours are half as far away. -/
theorem ofRat_of_close (negative : Bool) {q : ℚ} {m : ℕ} {e : ℤ} (hm : m ≠ 0)
    (hbinary : (finite negative m e).IsBinary64) (hhigh : q < magnitude m e + 2 ^ e / 2)
    (hlow : magnitude m e - 2 ^ e / 2 < q)
    (hpower : m = 2 ^ 52 → magnitude m e - 2 ^ e / 4 < q) :
    ofRat negative q = .finite negative m e := by
  obtain ⟨hdigits, hleast, hgreatest, hnormal⟩ := hbinary
  have hunit := two_zpow_pos e
  have hq : 0 < q := by
    have hm' : (1 : ℚ) ≤ m := by exact_mod_cast Nat.one_le_iff_ne_zero.mpr hm
    unfold magnitude at hlow
    nlinarith
  have hlog : Int.log 2 q < 53 + e := by
    have hdigits' : (m : ℚ) + 1 ≤ 2 ^ (53 : ℤ) := by exact_mod_cast hdigits
    unfold magnitude at hhigh
    rw [log_lt_iff hq, zpow_add₀ two_ne_zero]
    nlinarith
  -- usually the unit found is the unit of the double
  by_cases hexponent : max (Int.log 2 q - 52) leastExponent = e
  · unfold ofRat
    rw [if_neg hq.ne']
    dsimp only
    rw [hexponent, roundEven_div_of_close hq hlow hhigh, if_neg (show m ≠ 2 ^ 53 by omega)]
    exact if_neg (by omega)
  · -- the unit of the rational number is smaller, so that it lies below the power of two
    -- this can only be a power of two, where the double below is half as far away
    have hbelow : q < magnitude (2 ^ 52) e := by
      have hlog' := (log_lt_iff hq).mp (show Int.log 2 q < 52 + e by omega)
      rw [zpow_add₀ two_ne_zero] at hlog'
      exact_mod_cast hlog'
    obtain rfl : m = 2 ^ 52 := by
      refine le_antisymm (Nat.le_of_lt_succ ?_) (by omega)
      unfold magnitude at hlow hbelow
      have hless : (m : ℚ) < (2 ^ 52 : ℕ) + 1 := by nlinarith
      exact_mod_cast hless
    exact ofRat_below_power negative (by omega) hgreatest (hpower rfl) hbelow

/-- The sign has no part in the rounding. -/
theorem ofRat_sign {q : ℚ} {m : ℕ} {e : ℤ} (h : ofRat false q = .finite false m e)
    (negative : Bool) : ofRat negative q = .finite negative m e := by
  -- the sign takes no part in finding the digits
  have hsign : ∀ (k : ℕ) (unit : ℤ),
      (if greatestExponent < unit then Double.infinite false else .finite false k unit)
        = .finite false m e →
      (if greatestExponent < unit then Double.infinite negative else .finite negative k unit)
        = .finite negative m e := by
    intro k unit h
    split at h
    · contradiction
    · next hgreatest =>
      obtain ⟨-, rfl, rfl⟩ := Double.finite.inj h
      exact if_neg hgreatest
  unfold ofRat at h ⊢
  split at h
  · next hzero =>
    obtain ⟨-, rfl, rfl⟩ := Double.finite.inj h
    exact if_pos hzero
  · next hne =>
    rw [if_neg hne]
    exact hsign _ _ h

/-- A rational number is rounded to a multiple of its unit. -/
theorem magnitude_ofRat {negative sign : Bool} {q : ℚ} {m : ℕ} {e : ℤ} (hq : q ≠ 0)
    (h : ofRat negative q = .finite sign m e) :
    sign = negative ∧ magnitude m e
      = roundEven (q / 2 ^ max (Int.log 2 q - 52) leastExponent)
        * 2 ^ max (Int.log 2 q - 52) leastExponent := by
  unfold ofRat at h
  rw [if_neg hq] at h
  dsimp only at h
  generalize max (Int.log 2 q - 52) leastExponent = unit at h ⊢
  -- a carry doubles the unit and halves the digits, which is the same value
  by_cases hcarry : roundEven (q / 2 ^ unit) = 2 ^ 53
  · rw [if_pos hcarry] at h
    dsimp only at h
    split at h
    · contradiction
    · obtain ⟨rfl, rfl, rfl⟩ := Double.finite.inj h
      refine ⟨rfl, ?_⟩
      rw [hcarry, magnitude, zpow_add_one₀ two_ne_zero]
      push_cast
      ring
  · rw [if_neg hcarry] at h
    dsimp only at h
    split at h
    · contradiction
    · obtain ⟨rfl, rfl, rfl⟩ := Double.finite.inj h
      exact ⟨rfl, rfl⟩

/-- What is at most a power of two is not rounded beyond it. -/
theorem magnitude_ofRat_le {negative sign : Bool} {q : ℚ} {m : ℕ} {e k : ℤ} (hq : 0 ≤ q)
    (hle : q ≤ 2 ^ k) (hk : leastExponent ≤ k) (h : ofRat negative q = .finite sign m e) :
    sign = negative ∧ magnitude m e ≤ 2 ^ k := by
  obtain rfl | hpos := hq.eq_or_lt
  · obtain ⟨rfl, rfl, rfl⟩ := Double.finite.inj h
    refine ⟨rfl, ?_⟩
    rw [magnitude, Nat.cast_zero, zero_mul]
    exact (two_zpow_pos k).le
  obtain ⟨hsign, hmagnitude⟩ := magnitude_ofRat hpos.ne' h
  have hunit : max (Int.log 2 q - 52) leastExponent ≤ k := by
    have hlog : Int.log 2 q < k + 1 := by
      rw [log_lt_iff hpos]
      exact hle.trans_lt (zpow_lt_zpow_right₀ one_lt_two (lt_add_one k))
    omega
  generalize max (Int.log 2 q - 52) leastExponent = unit at hunit hmagnitude
  -- the power of two is a multiple of the unit itself
  obtain ⟨n, hn⟩ := Int.eq_ofNat_of_zero_le (show 0 ≤ k - unit by omega)
  have hpow : ((2 ^ n : ℕ) : ℚ) * 2 ^ unit = 2 ^ k := by
    rw [Nat.cast_pow, Nat.cast_ofNat, ← zpow_natCast, ← zpow_add₀ two_ne_zero, ← hn,
      sub_add_cancel]
  have hscaled : q / 2 ^ unit ≤ (2 ^ n : ℕ) := by
    rw [div_le_iff₀ (two_zpow_pos unit), hpow]
    exact hle
  have hround : (roundEven (q / 2 ^ unit) : ℚ) ≤ (2 ^ n : ℕ) := by
    exact_mod_cast roundEven_le (by positivity) hscaled
  refine ⟨hsign, ?_⟩
  rw [hmagnitude, ← hpow]
  gcongr

/-! ## Decimals -/

/-- The rational number that a decimal stands for. -/
def decimalRat (digits : ℕ) (exponent : ℤ) : ℚ := digits * 10 ^ exponent

/-- A decimal that is neither far too large nor far too small. -/
structure IsModerate (digits : ℕ) (exponent : ℤ) : Prop where
  digits_lt : digits < 10 ^ 40
  low : 10 ^ (-350 : ℤ) ≤ decimalRat digits exponent
  high : decimalRat digits exponent ≤ 10 ^ (350 : ℤ)

theorem IsModerate.positive {digits : ℕ} {exponent : ℤ} (h : IsModerate digits exponent) :
    digits ≠ 0 := by
  rintro rfl
  have hlow := h.low
  rw [decimalRat, Nat.cast_zero, zero_mul] at hlow
  exact absurd hlow (not_le.mpr (by positivity))

/-- Its exponent lies in the range that is not cut off. -/
theorem IsModerate.exponent_mem {digits : ℕ} {exponent : ℤ} (h : IsModerate digits exponent) :
    -390 < exponent ∧ exponent ≤ 350 := by
  have hpow : (0 : ℚ) < 10 ^ exponent := by positivity
  have hpositive := h.positive
  obtain ⟨hdigits, hlow, hhigh⟩ := h
  unfold decimalRat at hlow hhigh
  -- the digits are few, so bounds on the number are bounds on its exponent
  constructor
  · have hless : (10 : ℚ) ^ (-350 : ℤ) < 10 ^ (40 + exponent) := by
      refine hlow.trans_lt ?_
      rw [zpow_add₀ (by norm_num)]
      exact mul_lt_mul_of_pos_right (by exact_mod_cast hdigits) hpow
    have hexponent := (zpow_lt_zpow_iff_right₀ (by norm_num)).mp hless
    omega
  · have hle : (10 : ℚ) ^ exponent ≤ 10 ^ (350 : ℤ) := by
      refine le_trans ?_ hhigh
      have hone : (1 : ℚ) ≤ digits := by exact_mod_cast Nat.one_le_iff_ne_zero.mpr hpositive
      exact le_mul_of_one_le_left hpow.le hone
    exact (zpow_le_zpow_iff_right₀ (by norm_num)).mp hle

/-- **The number nearest to a decimal** is that nearest to the rational number. -/
theorem ofDecimal_eq (negative : Bool) {digits : ℕ} {exponent : ℤ}
    (h : IsModerate digits exponent) :
    ofDecimal negative digits exponent = ofRat negative (decimalRat digits exponent) := by
  obtain ⟨hlow, hhigh⟩ := h.exponent_mem
  have hlength : Nat.log2 digits < 133 := by
    rw [Nat.log2_lt h.positive]
    exact h.digits_lt.trans (by norm_num)
  unfold ofDecimal decimalRat
  rw [if_neg h.positive]
  dsimp only
  -- the shortcuts for numbers far out of range do not apply to a moderate one
  rw [if_neg (by omega), if_neg (by omega)]
  split
  · next hexponent =>
    obtain ⟨n, rfl⟩ := Int.eq_ofNat_of_zero_le hexponent
    rw [ofQuotient_eq negative _ one_ne_zero]
    simp
  · next hexponent =>
    obtain ⟨n, hn⟩ := Int.eq_ofNat_of_zero_le (show 0 ≤ -exponent by omega)
    obtain rfl : exponent = -n := by omega
    have hden : Nat.pow 10 (- -(n : ℤ)).toNat ≠ 0 := (Nat.pow_pos (by decide)).ne'
    rw [ofQuotient_eq negative _ hden]
    simp [div_eq_mul_inv]

theorem isBinary64_ofDecimal (negative : Bool) (digits : ℕ) (exponent : ℤ) :
    (ofDecimal negative digits exponent).IsBinary64 := by
  unfold ofDecimal
  split
  · exact isBinary64_zero negative
  dsimp only
  split
  · trivial
  split
  · exact isBinary64_zero negative
  split
  · exact isBinary64_ofQuotient _ _ _
  · exact isBinary64_ofQuotient _ _ _

end SourceCheck.Number.Double
