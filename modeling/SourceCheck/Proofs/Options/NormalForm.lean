import SourceCheck.Proofs.Options.Spellings
import SourceCheck.Proofs.Text.Words

/-! # The normal form of options

    Options of a valid mapping are normal: the linter has a name, neither it nor the build tags
    start or end with a blank, and the time limit is one that is let through (`Options.IsNormal`).
    Normal options are fixed points of validation: given back under any of their keys, they are
    valid and stay as they are (`Options.IsNormal.validate_eq`).  So validating what was validated
    changes nothing (`Options.validate_normal`).  In particular flags that were cut out of a text
    are given back as a list, which is not cut again. -/

namespace SourceCheck

open Text

/-! ## Normal options -/

/-- **Options are normal.** -/
structure Options.IsNormal (o : Options) : Prop where
  /-- The linter has a name. -/
  linter_ne : o.linter ≠ ""
  /-- Its name has no blanks at its ends. -/
  linter_trimmed : IsTrimmed isBlank o.linter.toList
  /-- The build tags have no blanks at their ends. -/
  tags_trimmed : IsTrimmed isBlank o.buildTags.toList
  /-- The time limit is one that is let through. -/
  timeout_accepted : IsAccepted o.timeout

theorem isTrimmed_of_checkTags {v : Value} {tags : String} (h : checkTags v = .ok tags) :
    IsTrimmed isBlank tags.toList := by
  unfold checkTags at h
  split at h
  · rw [← Except.ok.inj h]
    exact ⟨fun c hc => by contradiction, fun c hc => by contradiction⟩
  · split at h
    · next s _ =>
      rw [← Except.ok.inj h]
      exact isTrimmed_strip s
    · contradiction

theorem isTrimmed_defaultLinter : IsTrimmed isBlank defaultLinter.toList where
  start := by
    rintro c hc
    rw [← Option.some.inj hc]
    rfl
  ending := by
    rintro c hc
    rw [← Option.some.inj hc]
    rfl

/-- A linter that is accepted has a name without blanks at its ends. -/
theorem isTrimmed_of_checkLinter {v : Value} {linter : String} (h : checkLinter v = .ok linter) :
    linter ≠ "" ∧ IsTrimmed isBlank linter.toList := by
  unfold checkLinter at h
  split at h
  -- nothing given: the default linter
  · rw [← Except.ok.inj h]
    exact ⟨by decide, isTrimmed_defaultLinter⟩
  · split at h
    -- a blank text counts as nothing given
    · next s _ =>
      rw [← Except.ok.inj h]
      split
      · exact ⟨by decide, isTrimmed_defaultLinter⟩
      · next hempty =>
        refine ⟨?_, isTrimmed_strip s⟩
        intro hnil
        rw [hnil] at hempty
        exact hempty rfl
    · contradiction

namespace OptionName

variable {options : List (String × Value)} {o : Options}

/-- What an option holds is its default, or what the check makes of some value. -/
theorem exists_check_of_validate (h : Options.validate options = .ok o) (n : OptionName) :
    ∃ v, n.check v = .ok (n.content o) := by
  refine ⟨n.value options, ?_⟩
  have hread := content_of_validate h n
  cases hgiven : n.given? options with
  | none =>
    rw [read_of_given?_none hgiven] at hread
    rw [value_of_given?_none hgiven, check_null, Except.ok.inj hread]
  | some member =>
    rw [read_of_given? hgiven] at hread
    rw [value_of_given? hgiven]
    exact eq_ok_of_mapError hread

end OptionName

open OptionName

/-- **Options of a valid mapping** are normal. -/
theorem Options.isNormal_of_validate {options : List (String × Value)} {o : Options}
    (h : Options.validate options = .ok o) : o.IsNormal := by
  obtain ⟨linter, hlinter⟩ := exists_check_of_validate h .linter
  obtain ⟨tags, htags⟩ := exists_check_of_validate h .buildTags
  exact {
    linter_ne := (isTrimmed_of_checkLinter hlinter).1
    linter_trimmed := (isTrimmed_of_checkLinter hlinter).2
    tags_trimmed := isTrimmed_of_checkTags htags
    timeout_accepted := isAccepted_of_validate h }

/-! ## Options given back -/

theorem allTexts_map_text (texts : List String) : allTexts (texts.map Value.text) = some texts := by
  induction texts with
  | nil => rfl
  | cons s rest ih => simp only [List.map_cons, allTexts, Value.text?_text, ih, Option.map_some]

/-- **A list of flags** is taken over as it is. -/
theorem checkFlags_textList (texts : List String) :
    checkFlags (Options.textList texts) = .ok texts := by
  unfold checkFlags Options.textList
  dsimp only
  rw [allTexts_map_text]

theorem checkTags_of_isTrimmed {s : String} (h : IsTrimmed isBlank s.toList) :
    checkTags (.text s) = .ok s := by
  simp only [checkTags, Value.text?_text, strip_of_isTrimmed h]

theorem checkLinter_of_isTrimmed {s : String} (hne : s ≠ "") (h : IsTrimmed isBlank s.toList) :
    checkLinter (.text s) = .ok s := by
  simp only [checkLinter, Value.text?_text, strip_of_isTrimmed h]
  rw [if_neg (String.isEmpty_iff.not.mpr hne)]

theorem IsAccepted.checkTimeout_eq {t : Option Seconds} (h : IsAccepted t) :
    checkTimeout (Options.timeoutValue t) = .ok t := by
  cases t with
  | none => rfl
  | some s =>
    obtain ⟨x, rfl, hx⟩ := h s rfl
    unfold checkTimeout numberOf Options.timeoutValue Seconds.toValue
    dsimp only
    rw [hx]
    rfl

namespace OptionName

/-- The value that stands for what an option holds. -/
def toValue : (n : OptionName) → n.Content → Value
  | .build, b | .lint, b | .vet, b | .cover, b => .bool b
  | .buildFlags, texts | .lintFlags, texts | .vetFlags, texts => Options.textList texts
  | .buildTags, s | .linter, s => .text s
  | .timeout, t => Options.timeoutValue t

/-- **What a normal option holds** is what its check makes of the value that stands for it. -/
theorem check_toValue {o : Options} (h : o.IsNormal) (n : OptionName) :
    n.check (n.toValue (n.content o)) = .ok (n.content o) := by
  cases n with
  | build => rfl
  | lint => rfl
  | vet => rfl
  | cover => rfl
  | buildFlags => exact checkFlags_textList o.buildFlags
  | lintFlags => exact checkFlags_textList o.lintFlags
  | vetFlags => exact checkFlags_textList o.vetFlags
  | buildTags => exact checkTags_of_isTrimmed h.tags_trimmed
  | linter => exact checkLinter_of_isTrimmed h.linter_ne h.linter_trimmed
  | timeout => exact h.timeout_accepted.checkTimeout_eq

end OptionName

/-- Options as a mapping, each under a key of its own. -/
def Options.namedBy (o : Options) (key : OptionName → String) : List (String × Value) :=
  all.map fun n => (key n, n.toValue (n.content o))

/-- Every option is given a key of its own, in one of its two spellings. -/
def IsSpelling (key : OptionName → String) : Prop := ∀ n : OptionName, key n = n.camel ∨ key n = n.snake

theorem IsSpelling.named_namedBy {key : OptionName → String} (h : IsSpelling key) (o : Options) :
    named (o.namedBy key) = all := by
  unfold named Options.namedBy
  rw [List.filterMap_map]
  have hsome : ∀ n ∈ all, ((fun m : String × Value => ofKey? m.1) ∘
      fun n => (key n, n.toValue (n.content o))) n = some n := fun n _ => ofKey?_of_eq (h n)
  rw [List.filterMap_congr hsome, List.filterMap_some]

namespace OptionName

variable {options : List (String × Value)} {o : Options}

/-- A mapping is valid if each option is read from it. -/
theorem validate_of_read (h : ∀ n : OptionName, n.read options = .ok (n.content o)) :
    Options.validate options = .ok o := by
  rw [validate_eq_ok_iff]
  constructor
  · refine List.flatMap_eq_nil_iff.mpr fun n _ => ?_
    rw [h n]
    rfl
  · unfold optionsOf
    rw [h .build, h .buildFlags, h .buildTags, h .lint, h .linter, h .lintFlags, h .vet,
      h .vetFlags, h .cover, h .timeout]
    rfl

end OptionName

/-- **Normal options given back** under any of their keys are valid and stay as they are. -/
theorem Options.IsNormal.validate_eq {o : Options} (h : o.IsNormal) {key : OptionName → String}
    (hkey : IsSpelling key) {members : List (String × Value)}
    (hperm : members.Perm (o.namedBy key)) : Options.validate members = .ok o := by
  have hone : HasOneSpelling (o.namedBy key) := by
    unfold HasOneSpelling
    rw [hkey.named_namedBy]
    decide
  refine validate_of_read fun n => ?_
  have hmem : (key n, n.toValue (n.content o)) ∈ o.namedBy key :=
    List.mem_map_of_mem (f := fun n => (key n, n.toValue (n.content o))) n.mem_all
  have hgiven : n.given? members = some (key n, n.toValue (n.content o)) := by
    rw [hone.given?_of_perm hperm, hone.given?_eq_some_iff]
    exact ⟨hmem, ofKey?_of_eq (hkey n)⟩
  rw [read_of_given? hgiven, check_toValue h n]
  rfl

/-- **Validated options are normal, and validating them again changes nothing.**  The linter of a
    valid mapping has a name, neither it nor the build tags start or end with a blank; and its
    options, given back as a mapping under any of their keys and in any order, are valid and are
    the same again. -/
theorem Options.validate_normal {options : List (String × Value)} {o : Options}
    (hvalid : Options.validate options = .ok o) :
    o.linter ≠ ""
      ∧ IsTrimmed isBlank o.linter.toList
      ∧ IsTrimmed isBlank o.buildTags.toList
      ∧ ∀ key, IsSpelling key → ∀ members : List (String × Value),
          members.Perm (o.namedBy key) → Options.validate members = .ok o := by
  have hnormal := Options.isNormal_of_validate hvalid
  exact ⟨hnormal.linter_ne, hnormal.linter_trimmed, hnormal.tags_trimmed,
    fun key hkey members hperm => hnormal.validate_eq hkey hperm⟩

/-- Members with blanks around texts, flags to be cut and a limit that is no number. -/
def paddedMembers : List (String × Value) :=
  [("linter", .text " revive\t"), ("buildTags", .text "\u00a0linux cgo\n"),
    ("lint_flags", .text "-a 'b c'"), ("toolTimeout", .text "nan")]

/-- The options that they give. -/
def trimmedOptions : Options :=
  { Options.default with
    linter := "revive"
    buildTags := "linux cgo"
    lintFlags := ["-a", "b c"]
    timeout := some (.real .nan) }

/-- Keys in both spellings. -/
def mixedKey (n : OptionName) : String :=
  if n = .lintFlags ∨ n = .timeout then n.snake else n.camel

theorem isSpelling_mixedKey : IsSpelling mixedKey := by
  intro n
  unfold mixedKey
  split
  · exact .inr rfl
  · exact .inl rfl

theorem Options.validate_normal_paddedMembers :
    Options.validate paddedMembers = .ok trimmedOptions
      ∧ trimmedOptions.linter ≠ ""
      ∧ IsTrimmed isBlank trimmedOptions.linter.toList
      ∧ IsTrimmed isBlank trimmedOptions.buildTags.toList
      ∧ IsSpelling mixedKey
      ∧ Options.validate (trimmedOptions.namedBy mixedKey).reverse = .ok trimmedOptions := by
  have hvalid : Options.validate paddedMembers = .ok trimmedOptions := by rfl
  obtain ⟨hne, hlinter, htags, hagain⟩ := Options.validate_normal hvalid
  exact ⟨hvalid, hne, hlinter, htags, isSpelling_mixedKey,
    hagain mixedKey isSpelling_mixedKey _ (List.reverse_perm _)⟩

end SourceCheck
