import Mathlib.Algebra.Group.Nat.Defs
import Mathlib.Data.List.Induction
import SourceCheck.Number.Shortest
import SourceCheck.Text.DecimalDigit

/-! # The digits of a number

    The digits that a number is written in are digits of ASCII, write that number
    (`digitsValue_natDigits`) and have no zero in front (`head?_natDigits_ne_zero`). -/

namespace SourceCheck.Number

open SourceCheck.Text

theorem bounds_of_mem_natDigits {n : Nat} {c : Char} (h : c ∈ natDigits n) :
    '0' ≤ c ∧ c ≤ '9' := by
  have hdigit : c.isDigit = true := Nat.isDigit_of_mem_toDigits (by decide) (by decide) h
  simpa [Char.isDigit, Char.le_def] using hdigit

theorem isAsciiDigit_of_mem_natDigits {n : Nat} {c : Char} (h : c ∈ natDigits n) :
    isAsciiDigit c = true := by
  have hbounds := bounds_of_mem_natDigits h
  simp [isAsciiDigit, hbounds.1, hbounds.2]

theorem bounds_of_isAsciiDigit {c : Char} (h : isAsciiDigit c = true) :
    0x30 ≤ c.toNat ∧ c.toNat ≤ 0x39 := by
  unfold isAsciiDigit at h
  rw [Bool.and_eq_true, decide_eq_true_eq, decide_eq_true_eq] at h
  exact ⟨UInt32.le_iff_toNat_le.mp h.1, UInt32.le_iff_toNat_le.mp h.2⟩

/-- A digit of ASCII stands for its place behind the zero. -/
theorem digitValue?_of_isAsciiDigit {c : Char} (h : isAsciiDigit c = true) :
    digitValue? c = some (c.toNat - 0x30) := by
  have hascii : c.toNat < 0x80 := Nat.lt_of_le_of_lt (bounds_of_isAsciiDigit h).2 (by decide)
  unfold digitValue?
  rw [if_pos hascii]
  exact if_pos h

/-- The digits of a number in the decimal system are decimal digits with their value. -/
theorem digitValue?_of_mem_natDigits {n : Nat} {c : Char} (h : c ∈ natDigits n) :
    digitValue? c = some (c.toNat - 0x30) :=
  digitValue?_of_isAsciiDigit (isAsciiDigit_of_mem_natDigits h)

theorem isDecimalDigit_of_mem_natDigits {n : Nat} {c : Char} (h : c ∈ natDigits n) :
    isDecimalDigit c = true := by
  unfold isDecimalDigit
  rw [digitValue?_of_mem_natDigits h]
  rfl

theorem natDigits_ne_nil (n : Nat) : natDigits n ≠ [] := Nat.toDigits_ne_nil

/-- The digits of a number write that number. -/
theorem digitsValue_natDigits (n : Nat) : digitsValue (natDigits n) = n := by
  -- the induction goes over any digits of the number, from any value before them
  have hfold : ∀ (ds : List Char) (m : Nat), (∀ c ∈ ds, c ∈ natDigits n) →
      ds.foldl (fun n c => 10 * n + (digitValue? c).getD 0) m = Nat.ofDigitChars 10 ds m := by
    intro ds
    induction ds with
    | nil => intro m _; rfl
    | cons c ds ih =>
      intro m hmem
      rw [List.foldl_cons, Nat.ofDigitChars_cons,
        ih _ fun d hd => hmem d (List.mem_cons_of_mem c hd),
        digitValue?_of_mem_natDigits (hmem c List.mem_cons_self)]
      rfl
  unfold digitsValue
  rw [hfold (natDigits n) 0 fun c hc => hc]
  exact Nat.ofDigitChars_ten_toDigits

theorem digitsValue_concat (ds : List Char) (c : Char) :
    digitsValue (ds ++ [c]) = 10 * digitsValue ds + (digitValue? c).getD 0 := by
  unfold digitsValue
  rw [List.foldl_append]
  rfl

theorem digitsValue_append (ds more : List Char) :
    digitsValue (ds ++ more) = digitsValue ds * 10 ^ more.length + digitsValue more := by
  -- the induction goes over the digits behind, from the last one on
  induction more using List.reverseRecOn with
  | nil => simp [digitsValue]
  | append_singleton more c ih =>
    rw [← List.append_assoc, digitsValue_concat, ih, digitsValue_concat, List.length_append,
      List.length_singleton, Nat.pow_succ, Nat.mul_add, ← Nat.mul_assoc, Nat.mul_comm 10,
      Nat.mul_right_comm, Nat.mul_assoc, Nat.add_assoc]

theorem digitsValue_replicate_zero (n : Nat) : digitsValue (List.replicate n '0') = 0 := by
  induction n with
  | zero => rfl
  | succ n ih => rw [List.replicate_succ', digitsValue_concat, ih]; rfl

/-- So many digits write a number below that power of ten. -/
theorem digitsValue_lt {ds : List Char} (h : ∀ c ∈ ds, isAsciiDigit c = true) :
    digitsValue ds < 10 ^ ds.length := by
  induction ds using List.reverseRecOn with
  | nil => decide
  | append_singleton ds c ih =>
    have hc := h c (List.mem_append_right ds List.mem_cons_self)
    have hbounds := bounds_of_isAsciiDigit hc
    have hds := ih fun d hd => h d (List.mem_append_left [c] hd)
    rw [digitsValue_concat, digitValue?_of_isAsciiDigit hc, Option.getD_some, List.length_append,
      List.length_singleton, Nat.pow_succ]
    omega

/-- A number other than zero has no zero in front. -/
theorem head?_natDigits_ne_zero {n : Nat} (h : n ≠ 0) : (natDigits n).head? ≠ some '0' := by
  unfold natDigits
  induction n using Nat.strongRecOn with
  | ind n ih =>
    by_cases hsmall : n < 10
    · have hdigit : ∀ m < 10, m ≠ 0 → m.digitChar ≠ '0' := by decide
      rw [Nat.toDigits_of_lt_base hsmall]
      simpa using hdigit n hsmall h
    · rw [Nat.toDigits_of_base_le (by decide) (by omega), List.head?_append]
      intro hzero
      obtain hzero | ⟨hnone, -⟩ := Option.or_eq_some_iff.mp hzero
      · exact ih (n / 10) (by omega) (by omega) hzero
      · exact Nat.toDigits_ne_nil (List.head?_eq_none_iff.mp hnone)

end SourceCheck.Number
