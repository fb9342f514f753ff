import SourceCheck.Json.Reader
import SourceCheck.Proofs.Number.Shortest

/-! # Numbers in JSON

    An integer (`readNumber_natDigits`) and the numeral of a floating-point number
    (`readNumber_numeral`) are read to their end: neither goes on with what may stand behind a
    number (`Stops`). -/

namespace SourceCheck.Json

open SourceCheck.Number SourceCheck.Text

/-- What may stand behind a number: it does not go on with it. -/
def Stops (s : List Char) : Prop :=
  ∀ c ∈ s.head?, isAsciiDigit c = false ∧ c ≠ '.' ∧ c ≠ 'e' ∧ c ≠ 'E'

theorem stops_nil : Stops [] := by simp [Stops]

theorem stops_cons {c : Char} (h : isAsciiDigit c = false ∧ c ≠ '.' ∧ c ≠ 'e' ∧ c ≠ 'E')
    (s : List Char) : Stops (c :: s) := by
  intro d hd
  rwa [← Option.some.inj hd]

/-! ## The parts of a number -/

/-- No digit opens the text. -/
def EndsDigits (s : List Char) : Prop := ∀ c ∈ s.head?, isAsciiDigit c = false

theorem Stops.endsDigits {s : List Char} (h : Stops s) : EndsDigits s := fun c hc => (h c hc).1

theorem endsDigits_cons {c : Char} (h : isAsciiDigit c = false) (s : List Char) :
    EndsDigits (c :: s) := by
  intro d hd
  rwa [← Option.some.inj hd]

theorem readDigits_append {ds rest : List Char} (hds : ∀ c ∈ ds, isAsciiDigit c = true)
    (hrest : EndsDigits rest) : readDigits (ds ++ rest) = (ds, rest) := by
  unfold readDigits
  rw [List.takeWhile_append_of_pos hds, List.dropWhile_append_of_pos hds]
  cases rest with
  | nil => simp
  | cons c rest =>
    have hc : ¬isAsciiDigit c = true := by rw [hrest c rfl]; decide
    rw [List.takeWhile_cons_of_neg hc, List.dropWhile_cons_of_neg hc, List.append_nil]

theorem isPlainRun_iff {ds : List Char} :
    isPlainRun ds = true ↔ ds = ['0'] ∨ ds ≠ [] ∧ ds.head? ≠ some '0' := by
  unfold isPlainRun
  split
  · simp
  · simp
  · next c more hsingle =>
    have hne : c :: more ≠ ['0'] := by
      intro heq
      exact hsingle (List.cons.inj heq).1 (List.cons.inj heq).2
    simp [hne]

theorem readFraction_of_ne_point {s : List Char} (h : s.head? ≠ some '.') :
    readFraction s = (none, s) := by
  unfold readFraction
  split
  · exact absurd rfl h
  · rfl

theorem readFraction_point {ds rest : List Char} (hne : ds ≠ [])
    (hds : ∀ c ∈ ds, isAsciiDigit c = true) (hrest : EndsDigits rest) :
    readFraction ('.' :: (ds ++ rest)) = (some ds, rest) := by
  have hdigits := readDigits_append hds hrest
  obtain ⟨c, ds, rfl⟩ := List.exists_cons_of_ne_nil hne
  rw [List.cons_append, readFraction, if_pos (hds c List.mem_cons_self), ← List.cons_append,
    hdigits]

theorem readExponent_of_stops {rest : List Char} (h : Stops rest) :
    readExponent rest = some (0, rest) := by
  cases rest with
  | nil => rfl
  | cons c rest =>
    have hc := h c rfl
    rw [readExponent, if_neg (by simp [hc.2.2.1, hc.2.2.2])]

/-- An exponent is written with a sign and digits. -/
theorem exponentText_eq (e : Int) :
    ∃ ds, ds ≠ [] ∧ (∀ c ∈ ds, isAsciiDigit c = true) ∧ digitsValue ds = e.natAbs
      ∧ exponentText e = (if e < 0 then '-' else '+') :: ds := by
  by_cases hshort : (natDigits e.natAbs).length < 2
  · refine ⟨'0' :: natDigits e.natAbs, by simp, ?_, ?_, ?_⟩
    · rw [List.forall_mem_cons]
      exact ⟨rfl, fun c => isAsciiDigit_of_mem_natDigits⟩
    · rw [← List.singleton_append, digitsValue_append, digitsValue_natDigits]
      exact (congrArg (· + _) (Nat.zero_mul _)).trans (Nat.zero_add _)
    · simp only [exponentText, if_pos hshort]
  · refine ⟨natDigits e.natAbs, natDigits_ne_nil _, fun c => isAsciiDigit_of_mem_natDigits,
      digitsValue_natDigits _, ?_⟩
    simp only [exponentText, if_neg hshort]

/-- An exponent is read as it is written. -/
theorem readExponent_exponentText (e : Int) {rest : List Char} (h : Stops rest) :
    readExponent ('e' :: (exponentText e ++ rest)) = some (e, rest) := by
  obtain ⟨ds, hne, hds, hvalue, htext⟩ := exponentText_eq e
  have hsign : readSign (exponentText e ++ rest) = (decide (e < 0), ds ++ rest) := by
    rw [htext]
    by_cases he : e < 0 <;> simp [he, readSign]
  have hsigned : (if decide (e < 0) = true then -(e.natAbs : Int) else e.natAbs) = e := by
    simp only [decide_eq_true_eq]
    split <;> omega
  rw [readExponent, if_pos (.inl rfl), hsign]
  simp only [readDigits_append hds h.endsDigits]
  rw [if_neg (by simpa using hne), hvalue, hsigned]

/-! ## Numbers -/

/-- A digit is not a minus. -/
theorem head_ne_minus {ds : List Char} (hds : ∀ c ∈ ds, isAsciiDigit c = true) (hne : ds ≠ [])
    (rest tail : List Char) : ds ++ rest ≠ '-' :: tail := by
  obtain ⟨c, ds, rfl⟩ := List.exists_cons_of_ne_nil hne
  intro heq
  have hc := hds c List.mem_cons_self
  rw [(List.cons.inj heq).1] at hc
  contradiction

/-- A number is read part by part; without a fraction and an exponent it is an integer. -/
theorem readNumber_append (negative : Bool) {whole s tail rest : List Char}
    {fraction : Option (List Char)} {e : Int} (hwhole : ∀ c ∈ whole, isAsciiDigit c = true)
    (hplain : isPlainRun whole = true) (hs : EndsDigits s)
    (hfraction : readFraction s = (fraction, tail))
    (hexponent : readExponent tail = some (e, rest)) :
    readNumber ((if negative then ['-'] else []) ++ (whole ++ s))
      = some (if fraction = none ∧ tail.head? ≠ some 'e' ∧ tail.head? ≠ some 'E'
          then .int (if negative then -(digitsValue whole : Int) else digitsValue whole)
          else .double (Double.ofDecimal negative (digitsValue (whole ++ fraction.getD []))
            (e - (fraction.getD []).length)), rest) := by
  have hne : whole ≠ [] := by
    rintro rfl
    exact Bool.false_ne_true hplain
  unfold readNumber
  split
  next sign body hsign =>
  -- a digit is never a minus sign, so the sign read is the sign written
  have hparts : sign = negative ∧ body = whole ++ s := by
    cases negative with
    | true => exact ⟨(Prod.mk.inj hsign).1.symm, (Prod.mk.inj hsign).2.symm⟩
    | false =>
      split at hsign
      · next tail heq => exact absurd heq (head_ne_minus hwhole hne s tail)
      · exact ⟨(Prod.mk.inj hsign).1.symm, (Prod.mk.inj hsign).2.symm⟩
  obtain ⟨rfl, rfl⟩ := hparts
  simp only [readDigits_append hwhole hs, hplain, hfraction, hexponent]
  -- with a fraction the number is a double, whatever follows
  cases fraction with
  | some ds => simp
  | none =>
    cases tail with
    | nil => simp
    | cons c tail =>
      -- without a fraction only a mark of the exponent makes it a double
      by_cases hmark : c = 'e' ∨ c = 'E'
      · obtain rfl | rfl := hmark <;> simp
      · simp only [not_or] at hmark
        simp [hmark]

/-- **The digits of a number** are read as an integer, with or without a minus in front. -/
theorem readNumber_natDigits (negative : Bool) (n : Nat) {rest : List Char} (h : Stops rest) :
    readNumber ((if negative then ['-'] else []) ++ (natDigits n ++ rest))
      = some (.int (if negative then -n else n), rest) := by
  have hplain : isPlainRun (natDigits n) = true := by
    refine isPlainRun_iff.mpr ?_
    by_cases hn : n = 0
    · exact .inl (by rw [hn]; rfl)
    · exact .inr ⟨natDigits_ne_nil n, head?_natDigits_ne_zero hn⟩
  have hfraction := readFraction_of_ne_point fun hpoint => (h '.' hpoint).2.1 rfl
  rw [readNumber_append negative (fun c => isAsciiDigit_of_mem_natDigits) hplain h.endsDigits
    hfraction (readExponent_of_stops h), digitsValue_natDigits, if_pos]
  exact ⟨rfl, fun he => (h 'e' he).2.2.1 rfl, fun he => (h 'E' he).2.2.2 rfl⟩

/-- What stands behind the fraction of a numeral is read as its exponent. -/
theorem readExponent_numeral (d : Numeral) {rest : List Char} (h : Stops rest) :
    readExponent ((d.exponent.elim [] fun e => 'e' :: exponentText e) ++ rest)
      = some (d.exponent.getD 0, rest) := by
  cases d.exponent with
  | none => exact readExponent_of_stops h
  | some e => exact readExponent_exponentText e h

theorem endsDigits_exponent (d : Numeral) {rest : List Char} (h : Stops rest) :
    EndsDigits ((d.exponent.elim [] fun e => 'e' :: exponentText e) ++ rest) := by
  cases d.exponent with
  | none => exact h.endsDigits
  | some e => exact endsDigits_cons rfl _

/-- **A numeral** is read as the number that its decimal is rounded to. -/
theorem readNumber_numeral (negative : Bool) (d : Numeral) {rest : List Char} (h : Stops rest) :
    readNumber ((if negative then ['-'] else []) ++ (d.text ++ rest))
      = some (.double (Double.ofDecimal negative d.digits d.place), rest) := by
  have hwhole : ∀ c ∈ d.whole, isAsciiDigit c = true :=
    fun c hc => d.isDigit c (List.mem_append_left _ hc)
  have hfraction : ∀ c ∈ d.fraction, isAsciiDigit c = true :=
    fun c hc => d.isDigit c (List.mem_append_right _ hc)
  have hplain := isPlainRun_iff.mpr d.isPlain
  have hexponent := readExponent_numeral d h
  have hends := endsDigits_exponent d h
  unfold Numeral.text Numeral.digits Numeral.place
  rw [List.append_assoc, List.append_assoc]
  -- a numeral without a fraction has an exponent, so that it cannot be read as an integer
  by_cases hnone : d.fraction = []
  · obtain ⟨e, he⟩ := Option.ne_none_iff_exists'.mp (d.isBroken.resolve_left (not_not.mpr hnone))
    rw [if_pos hnone, List.nil_append]
    rw [he] at hexponent hends ⊢
    rw [readNumber_append negative hwhole hplain hends
      (readFraction_of_ne_point (by simp)) hexponent, if_neg (by simp), hnone]
    rfl
  · rw [if_neg hnone, List.cons_append]
    rw [readNumber_append negative hwhole hplain (endsDigits_cons rfl _)
      (readFraction_point hnone hfraction hends) hexponent, if_neg (by simp)]
    rfl

end SourceCheck.Json
