import Mathlib.Data.Rat.Floor
import SourceCheck.Log.Entry
import SourceCheck.Proofs.Number.Shortest

/-! # Times that can be told

    An entry that was written in the years from 1 to 9999 can be dated (`time_of_isDated`): the
    microseconds that its seconds are split into stay within those years, and the calendar has a
    year of four digits for each of their days. -/

namespace SourceCheck.Calendar

/-- The last sixty days of a year that begins in March are those of January and February. -/
theorem month_le_two {day : Nat} (hlow : 306 ≤ day) (hhigh : day < 366) :
    (if (5 * day + 2) / 153 < 10 then (5 * day + 2) / 153 + 3 else (5 * day + 2) / 153 - 9)
      ≤ 2 := by
  rw [if_neg (by omega)]
  omega

/-- The days before them are those of the other months. -/
theorem two_lt_month {day : Nat} (h : day < 306) :
    2 < if (5 * day + 2) / 153 < 10 then (5 * day + 2) / 153 + 3 else (5 * day + 2) / 153 - 9 := by
  rw [if_pos (by omega)]
  omega

/-- **The days of four-digit years** are those from 0001-01-01 to 9999-12-31. -/
theorem year_civilFromDays_mem {days : Int} (hlow : -719162 ≤ days) (hhigh : days ≤ 2932896) :
    1 ≤ (civilFromDays days).1 ∧ (civilFromDays days).1 ≤ 9999 := by
  unfold civilFromDays
  dsimp only
  rw [Int.fdiv_eq_ediv_of_nonneg _ (by decide), Int.fmod_eq_emod_of_nonneg _ (by decide)]
  have hera : 0 ≤ (days + 719468) / 146097 ∧ (days + 719468) / 146097 ≤ 24 := by omega
  have hofEra : (((days + 719468) % 146097).toNat : Int)
      = days + 719468 - 146097 * ((days + 719468) / 146097) := by omega
  have hlength : ((days + 719468) % 146097).toNat < 146097 := by omega
  generalize (days + 719468) / 146097 = era at hera hofEra ⊢
  generalize ((days + 719468) % 146097).toNat = ofEra at hofEra hlength ⊢
  have hyear : (ofEra - ofEra / 1460 + ofEra / 36524 - ofEra / 146096) / 365 ≤ 399 := by omega
  have hzero : (ofEra - ofEra / 1460 + ofEra / 36524 - ofEra / 146096) / 365 = 0 → ofEra < 366 := by
    omega
  generalize (ofEra - ofEra / 1460 + ofEra / 36524 - ofEra / 146096) / 365 = yearOfEra
    at hyear hzero ⊢
  -- years begin in March: of the first one only January and February count, and the last one
  -- ends before them
  have hfirst : era = 0 → yearOfEra = 0 →
      306 ≤ ofEra - (365 * yearOfEra + yearOfEra / 4 - yearOfEra / 100)
        ∧ ofEra - (365 * yearOfEra + yearOfEra / 4 - yearOfEra / 100) < 366 := by omega
  have hlast : era = 24 → yearOfEra = 399 →
      ofEra - (365 * yearOfEra + yearOfEra / 4 - yearOfEra / 100) < 306 := by omega
  generalize ofEra - (365 * yearOfEra + yearOfEra / 4 - yearOfEra / 100) = ofYear at hfirst hlast ⊢
  have hlate := @month_le_two ofYear
  have hearly := @two_lt_month ofYear
  generalize (if (5 * ofYear + 2) / 153 < 10 then (5 * ofYear + 2) / 153 + 3
    else (5 * ofYear + 2) / 153 - 9) = month at hlate hearly ⊢
  split <;> omega

end SourceCheck.Calendar

namespace SourceCheck.Log

open SourceCheck.Number SourceCheck.Number.Double SourceCheck.Calendar

/-! ## Points in time -/

/-- A point in time of the years from 1 to 9999 can be told. -/
theorem text_of_micros_mem {i : Instant} (hlow : -62135596800 * 1000000 ≤ i.micros)
    (hhigh : i.micros < 253402300800 * 1000000) : ∃ time, i.text = .ok time := by
  unfold Instant.text
  dsimp only
  -- the divisors are positive, so rounding down is the integer division `omega` knows
  rw [Int.fdiv_eq_ediv_of_nonneg _ (by decide), Int.fdiv_eq_ediv_of_nonneg _ (by decide)]
  have hseconds : -62135596800 ≤ i.micros / 1000000 ∧ i.micros / 1000000 < 253402300800 := by omega
  generalize i.micros / 1000000 = seconds at hseconds ⊢
  obtain ⟨hfirst, hlast⟩ :=
    year_civilFromDays_mem (show -719162 ≤ seconds / 86400 by omega) (by omega)
  have hlimit : secondsLimit = 9223372036854775808 := rfl
  -- a year of four digits is within what the system's clock can tell
  have hhost : isYearOfHost (civilFromDays (seconds / 86400)).1 = true := by
    unfold isYearOfHost
    rw [Bool.and_eq_true, decide_eq_true_eq, decide_eq_true_eq]
    have hpow : (Nat.pow 2 31 : Int) = 2147483648 := rfl
    omega
  rw [if_neg (by omega), hhost, if_neg (by decide), if_neg (by omega)]
  exact ⟨_, rfl⟩

/-! ## Seconds -/

theorem product_eq (negative : Bool) (m n : ℕ) (e f : ℤ) :
    product negative m n e f = ofRat negative (magnitude m e * magnitude n f) := by
  have hvalue : magnitude m e * magnitude n f = (m * n : ℕ) * 2 ^ (e + f) := by
    rw [magnitude, magnitude, zpow_add₀ two_ne_zero]
    push_cast
    ring
  rw [hvalue]
  unfold product
  dsimp only
  -- a negative power of two becomes a quotient, and `ofQuotient` rounds that
  split
  · next h =>
    obtain ⟨k, hk⟩ := Int.eq_ofNat_of_zero_le h
    rw [hk, ofQuotient_eq negative _ one_ne_zero]
    simp
  · next h =>
    obtain ⟨k, hk⟩ := Int.eq_ofNat_of_zero_le (show 0 ≤ -(e + f) by omega)
    obtain hk' : e + f = -k := by omega
    have hden : Nat.pow 2 (-(e + f)).toNat ≠ 0 := (Nat.pow_pos (by decide)).ne'
    rw [ofQuotient_eq negative _ hden, hk']
    simp [div_eq_mul_inv]

theorem natAbs_roundToInt_le {negative : Bool} {m b : ℕ} {e : ℤ} (h : magnitude m e ≤ b) :
    (roundToInt negative m e).natAbs ≤ b := by
  have hround : roundDiv (quotient m e).1 (quotient m e).2 ≤ b := by
    rw [roundDiv_eq _ (quotient_pos m e), quotient_eq]
    refine roundEven_le ?_ h
    unfold magnitude
    positivity
  unfold roundToInt
  dsimp only
  split <;> omega

/-- A fraction of a second makes at most 2 ^ 20 microseconds. -/
theorem micros_ofSeconds (negative : Bool) (m : ℕ) (e : ℤ) :
    ∃ micros : ℤ, micros.natAbs ≤ 2 ^ 20 ∧ (Instant.ofSeconds negative m e).micros
      = (if negative then -(truncate m e : ℤ) else truncate m e) * 1000000 + micros := by
  unfold Instant.ofSeconds
  dsimp only
  refine ⟨_, ?_, rfl⟩
  have hden := quotient_pos m e
  have hless : ((quotient m e).1 % (quotient m e).2 : ℕ) ≤ ((quotient m e).2 : ℚ) := by
    exact_mod_cast (Nat.mod_lt _ hden).le
  rw [ofQuotient_eq negative _ hden.ne']
  -- the fraction of a second is below one, so a millionfold of it fits in twenty bits
  have hfraction : (((quotient m e).1 % (quotient m e).2 : ℕ) / (quotient m e).2 : ℚ)
      ≤ 2 ^ (0 : ℤ) := by
    rw [zpow_zero]
    exact div_le_one_of_le₀ hless (by positivity)
  split
  · next neg m' e' hfinite =>
    have hone := (magnitude_ofRat_le (by positivity) hfraction (by decide) hfinite).2
    rw [product_eq]
    have hmillion : magnitude m' e' * magnitude 15625 6 ≤ 2 ^ (20 : ℤ) := by
      have hfactor : magnitude 15625 6 = 1000000 := by norm_num [magnitude]
      rw [hfactor]
      norm_num at hone ⊢
      linarith
    have hpos : 0 ≤ magnitude m' e' * magnitude 15625 6 := by
      unfold magnitude
      positivity
    split
    · next hproduct =>
      refine natAbs_roundToInt_le ?_
      exact_mod_cast (magnitude_ofRat_le hpos hmillion (by decide) hproduct).2
    · decide
  · decide

/-! ## Entries -/

/-- A number of seconds that lies in the years from 1 to 9999. -/
def IsDated : Value → Prop
  | .double (.finite negative m e) =>
    magnitude m e ≤ if negative then 62135596798 else 253402300798
  | .int n => -62135596800 ≤ n ∧ n < 253402300800
  | .bool _ => True
  | _ => False

theorem truncate_le {m b : ℕ} {e : ℤ} (h : magnitude m e ≤ b) : truncate m e ≤ b := by
  have hden := quotient_pos m e
  have hfloor : truncate m e = ⌊magnitude m e⌋₊ := by
    rw [← quotient_eq, Nat.floor_div_eq_div]
    rfl
  rw [hfloor]
  exact Nat.floor_le_of_le h

theorem instant_of_isDated {v : Value} (h : IsDated v) : ∃ i, Instant.ofValue v = .ok i
    ∧ -62135596800 * 1000000 ≤ i.micros ∧ i.micros < 253402300800 * 1000000 := by
  unfold IsDated at h
  split at h
  · next negative m e =>
    obtain ⟨micros, hmicros, hsum⟩ := micros_ofSeconds negative m e
    have hmem : -62135596800 * 1000000 ≤ (Instant.ofSeconds negative m e).micros
        ∧ (Instant.ofSeconds negative m e).micros < 253402300800 * 1000000 := by
      -- the whole seconds leave a second to spare on either side for the microseconds
      rw [hsum]
      cases negative with
      | true =>
        have hwhole : truncate m e ≤ 62135596798 := truncate_le (by exact_mod_cast h)
        simp only [if_true]
        omega
      | false =>
        have hwhole : truncate m e ≤ 253402300798 := truncate_le (by exact_mod_cast h)
        simp only [Bool.false_eq_true, if_false]
        omega
    refine ⟨Instant.ofSeconds negative m e, ?_, hmem⟩
    unfold Instant.ofValue Instant.ofDouble
    dsimp only
    rw [if_neg]
    -- the instant that stands for an overflow lies beyond the last year
    intro hlimit
    have hmost := hmem.2
    rw [hlimit] at hmost
    exact absurd hmost (by decide)
  · exact ⟨_, rfl, by simp only [Instant.ofInt]; omega, by simp only [Instant.ofInt]; omega⟩
  · next b => cases b <;> exact ⟨_, rfl, by decide, by decide⟩
  · contradiction

/-- **An entry of the years from 1 to 9999** can be dated. -/
theorem time_of_isDated {e : Entry} (h : IsDated e.created) : ∃ time, e.time = .ok time := by
  obtain ⟨i, hi, hlow, hhigh⟩ := instant_of_isDated h
  obtain ⟨time, htime⟩ := text_of_micros_mem hlow hhigh
  refine ⟨time, ?_⟩
  rw [Entry.time, hi]
  exact congrArg (Except.mapError EntryFault.instant) htime

end SourceCheck.Log
