import SourceCheck.Finding.Severity
import SourceCheck.Proofs.Text.Words

/-! # Words for severities

    A word is first brought into its normal form, then it may lose the `s` of a plural and be
    exchanged for the name of a severity, and what comes out is read as a name, for which its normal
    form is taken once more.  The second normal form never makes a difference (`read?_normalWord`),
    so a word means a severity just if its normal form is one of a few words (`understood`,
    `ofWord_of_mem`, `ofWord_of_not_mem`).  Words for errors and warnings are told in
    `ofWord_iff`; all others mean an information. -/

namespace SourceCheck.Severity

open SourceCheck.Text

variable {word x : String} {s : Severity}

/-! ## Normal forms -/

/-- A word of plain letters. -/
def isPlainWord (x : String) : Bool := x.toList.all isPlainSmall

theorem isPlainWord_iff : isPlainWord x = true ↔ ∀ c ∈ x.toList, isPlainSmall c = true := by
  unfold isPlainWord
  rw [List.all_eq_true]

theorem toList_normalWord (word : String) :
    (normalWord word).toList = lower (trim isBlank word.toList) := String.toList_ofList

/-- The normal form is the word in lower case without blanks at its ends, if that is a word of plain
    letters. -/
theorem normalWord_eq_iff (hx : isPlainWord x = true) :
    normalWord word = x ↔ lowerText (strip word) = x := by
  have hstrip : (strip word).toList = trim isBlank word.toList := String.toList_ofList
  unfold lowerText
  rw [hstrip, ← String.toList_inj, ← String.toList_inj, toList_normalWord, String.toList_ofList,
    lowerAfter_eq_iff (isPlainWord_iff.mp hx)]

/-- **The normal form is taken once**: what has a word of plain letters as its normal form, and is a
    normal form itself, is that word. -/
theorem normalWord_normalWord_eq_iff (hx : isPlainWord x = true) :
    normalWord (normalWord word) = x ↔ normalWord word = x := by
  have htrimmed := isTrimmed_lower (isTrimmed_trim isBlank word.toList)
  rw [← String.toList_inj, ← String.toList_inj, toList_normalWord, toList_normalWord,
    htrimmed.trim_eq, lower_lower_eq_iff (isPlainWord_iff.mp hx)]

/-! ## Names -/

theorem isPlainWord_name (s : Severity) : isPlainWord s.name = true := by
  cases s <;> rfl

theorem ofName?_eq_some_iff : ofName? word = some s ↔ word = s.name := by
  constructor
  · intro h
    unfold ofName? at h
    have hfound := List.find?_some h
    exact (beq_iff_eq.mp hfound).symm
  · rintro rfl
    exact ofName?_name s

theorem read?_eq_some_iff : read? word = some s ↔ normalWord word = s.name :=
  ofName?_eq_some_iff

/-- Whether a word names a severity does not change in its normal form. -/
theorem read?_normalWord (word : String) : read? (normalWord word) = read? word := by
  apply Option.ext
  intro s
  rw [read?_eq_some_iff, read?_eq_some_iff, normalWord_normalWord_eq_iff (isPlainWord_name s)]

/-! ## Words that are understood -/

/-- The normal forms of the words for a severity: its name, its plural, and other forms. -/
def understood : Severity → List String
  | .error => ["error", "errors", "err"]
  | .warning => ["warning", "warnings", "warn"]
  | .info => ["info", "infos", "information", "note"]

theorem isPlainWord_of_mem (h : x ∈ understood s) : isPlainWord x = true := by
  have hall : ∀ y ∈ understood s, isPlainWord y = true := by cases s <;> decide
  exact hall x h

theorem name_mem_understood (s : Severity) : s.name ∈ understood s := by
  cases s <;> exact List.mem_cons_self

theorem plural_mem_understood (s : Severity) : s.name ++ "s" ∈ understood s := by
  cases s <;> exact List.mem_cons_of_mem _ List.mem_cons_self

/-- Whether the normal form of a word is one of these. -/
theorem normalWord_mem_iff :
    normalWord word ∈ understood s ↔ lowerText (strip word) ∈ understood s := by
  constructor
  · intro h
    rwa [← (normalWord_eq_iff (isPlainWord_of_mem h)).mp rfl] at h
  · intro h
    rwa [← (normalWord_eq_iff (isPlainWord_of_mem h)).mpr rfl] at h

/-- A word that is understood means its severity. -/
theorem ofWord_of_mem (h : normalWord word ∈ understood s) : ofWord word = s := by
  have hall : ∀ x ∈ understood s, (read? (synonym (singular x))).getD .info = s := by
    cases s <;> decide +kernel
  exact hall _ h

/-- A word loses its `s` only as the plural of a name. -/
theorem singular_eq_self (h : ∀ s : Severity, x ≠ s.name ++ "s") : singular x = x := by
  unfold singular
  split
  · next rest hback =>
    -- only a word that ends in s is cut, so it is the cut word with an s behind it
    have hx : x = String.ofList rest.reverse ++ "s" := by
      have hword := congrArg List.reverse hback
      rw [List.reverse_reverse, List.reverse_cons] at hword
      rw [← String.toList_inj, String.toList_append, String.toList_ofList, hword]
      rfl
    dsimp only
    split
    · next hname =>
      obtain ⟨s, hs⟩ := Option.isSome_iff_exists.mp hname
      rw [ofName?_eq_some_iff.mp hs] at hx
      exact absurd hx (h s)
    · rfl
  · rfl

/-- Only words that are understood are exchanged. -/
theorem synonym_eq_self (h : ∀ s, x ∉ understood s) : synonym x = x := by
  have hne : ∀ s, ∀ y ∈ understood s, x ≠ y := fun s y hy heq => h s (heq ▸ hy)
  unfold synonym
  rw [if_neg (hne .info "information" (by decide)), if_neg (hne .info "note" (by decide)),
    if_neg (hne .error "err" (by decide)), if_neg (hne .warning "warn" (by decide))]

/-- **Any other word** means an information: it goes unchanged through all three readings. -/
theorem ofWord_of_not_mem (h : ∀ s, normalWord word ∉ understood s) : ofWord word = .info := by
  have hplural : ∀ s : Severity, normalWord word ≠ s.name ++ "s" :=
    fun s heq => h s (heq ▸ plural_mem_understood s)
  have hnone : read? word = none := by
    rw [Option.eq_none_iff_forall_ne_some]
    intro s hs
    exact h s (read?_eq_some_iff.mp hs ▸ name_mem_understood s)
  unfold ofWord
  rw [singular_eq_self hplural, synonym_eq_self h, read?_normalWord, hnone, Option.getD_none]

/-- A word means an error or a warning just if it is understood so. -/
theorem ofWord_eq_iff (hs : s ≠ .info) :
    ofWord word = s ↔ lowerText (strip word) ∈ understood s := by
  rw [← normalWord_mem_iff]
  constructor
  · rintro rfl
    by_contra hno
    have hother : ∀ t, normalWord word ∉ understood t := by
      intro t ht
      rw [← ofWord_of_mem ht] at ht
      exact hno ht
    exact hs (ofWord_of_not_mem hother)
  · exact ofWord_of_mem

/-- **The severity that a word means**, told by the word in lower case without blanks at its ends:
    there are three words for an error and three for a warning, and every other word means an
    information.  A word that names a severity, its case and blanks at its ends aside, means that
    severity. -/
theorem ofWord_iff (word : String) :
    (ofWord word = .error ↔ lowerText (strip word) ∈ ["error", "errors", "err"])
      ∧ (ofWord word = .warning ↔ lowerText (strip word) ∈ ["warning", "warnings", "warn"])
      ∧ (ofWord word = .info ↔ lowerText (strip word) ∉ ["error", "errors", "err"]
        ∧ lowerText (strip word) ∉ ["warning", "warnings", "warn"])
      ∧ (∀ s, read? word = some s ↔ lowerText (strip word) = s.name)
      ∧ ∀ s, read? word = some s → ofWord word = s := by
  have herror : ofWord word = .error ↔ lowerText (strip word) ∈ ["error", "errors", "err"] :=
    ofWord_eq_iff (by decide)
  have hwarning :
      ofWord word = .warning ↔ lowerText (strip word) ∈ ["warning", "warnings", "warn"] :=
    ofWord_eq_iff (by decide)
  refine ⟨herror, hwarning, ?_, ?_, ?_⟩
  · rw [← herror, ← hwarning]
    cases ofWord word <;> decide
  · intro s
    rw [read?_eq_some_iff, normalWord_eq_iff (isPlainWord_name s)]
  · intro s hs
    exact ofWord_of_mem (read?_eq_some_iff.mp hs ▸ name_mem_understood s)

/-- A name in mixed case, between blanks. -/
theorem ofWord_iff_paddedName :
    read? "\u2003 WarNing\u001F\t" = some .warning
      ∧ ofWord "\u2003 WarNing\u001F\t" = .warning
      ∧ lowerText (strip "\u2003 WarNing\u001F\t") = "warning" := by
  obtain ⟨-, -, -, hread, hagree⟩ := ofWord_iff "\u2003 WarNing\u001F\t"
  have hlower : lowerText (strip "\u2003 WarNing\u001F\t") = "warning" := by decide +kernel
  have hname := (hread .warning).mpr hlower
  exact ⟨hname, hagree .warning hname, hlower⟩

-- a plural of a plural, a plural of a short form, and a capital letter with a dot above
example : ofWord "errorss" = .info := by decide +kernel
example : ofWord "errs" = .info := by decide +kernel
example : ofWord "WARNİNGS" = .info := by decide +kernel

end SourceCheck.Severity
