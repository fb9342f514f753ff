import SourceCheck.Proofs.Options.NormalForm
import SourceCheck.Proofs.Text.Quotations
import SourceCheck.Tool.Invocation

/-! # Flags as texts and as lists

    The flags of a check are given as a list of texts, or as one text that is cut into words.  A
    list and a text with the same words are the same to validation, whatever else a mapping holds
    (`validate_replace`).  A list is written as one text with each flag in single quotes, and a text
    of flags is refused just if it ends inside a quotation or after a backslash
    (`Options.validate_flagTexts`). -/

namespace SourceCheck

open SourceCheck.Text

/-! ## Values in place of others -/

/-- A lookup finds the same in a mapping with one value replaced, or it finds that value. -/
theorem Value.lookup_replace (k key : String) (v w : Value) (before after : List (String × Value)) :
    Value.lookup k (before ++ (key, w) :: after) = Value.lookup k (before ++ (key, v) :: after)
      ∨ k = key ∧ Value.lookup k (before ++ (key, w) :: after) = some w
        ∧ Value.lookup k (before ++ (key, v) :: after) = some v := by
  -- only a look at the replaced key itself, and with no earlier member of that key, sees a change
  induction before with
  | nil =>
    by_cases hk : key = k
    · subst hk
      exact .inr ⟨rfl, Value.lookup_cons_self key w after, Value.lookup_cons_self key v after⟩
    · left
      rw [List.nil_append, List.nil_append, Value.lookup_cons_of_ne hk, Value.lookup_cons_of_ne hk]
  | cons m rest ih =>
    obtain ⟨l, u⟩ := m
    rw [List.cons_append, List.cons_append]
    by_cases hl : l = k
    · subst hl
      left
      rw [Value.lookup_cons_self, Value.lookup_cons_self]
    · rwa [Value.lookup_cons_of_ne hl, Value.lookup_cons_of_ne hl]

namespace OptionName

variable {n : OptionName} {key : String} {v w : Value}

/-- What is given for an option is the same in a mapping with one value replaced, or it is that
    value. -/
theorem given?_replace (n : OptionName) (key : String) (v w : Value)
    (before after : List (String × Value)) :
    n.given? (before ++ (key, w) :: after) = n.given? (before ++ (key, v) :: after)
      ∨ n.given? (before ++ (key, w) :: after) = some (key, w)
        ∧ n.given? (before ++ (key, v) :: after) = some (key, v) := by
  unfold given? SourceCheck.given?
  rcases Value.lookup_replace n.camel key v w before after with hcamel | ⟨rfl, hw, hv⟩
  · rw [hcamel]
    cases Value.lookup n.camel (before ++ (key, v) :: after) with
    | some u => exact .inl rfl
    | none =>
      rcases Value.lookup_replace n.snake key v w before after with hsnake | ⟨rfl, hw, hv⟩
      · exact .inl (congrArg (Option.map _) hsnake)
      · rw [hw, hv]
        exact .inr ⟨rfl, rfl⟩
  · rw [hw, hv]
    exact .inr ⟨rfl, rfl⟩

/-- **A value may be replaced** by one that the check of its option takes for the same. -/
theorem validate_replace {a : n.Content} (hkey : ofKey? key = some n) (hv : n.check v = .ok a)
    (hw : n.check w = .ok a) (before after : List (String × Value)) :
    Options.validate (before ++ (key, w) :: after)
      = Options.validate (before ++ (key, v) :: after) := by
  refine validate_congr fun m => ?_
  rcases m.given?_replace key v w before after with hsame | ⟨hgivenw, hgivenv⟩
  · exact read_eq_of_given? hsame
  · obtain rfl : m = n := Option.some.inj ((ofKey?_of_given? hgivenv).symm.trans hkey)
    rw [read_of_given? hgivenw, read_of_given? hgivenv, hv, hw]
    rfl

end OptionName

open OptionName

/-! ## Flags of a check -/

namespace ToolCheck

/-- The option with the flags of a check. -/
def flagsOption : ToolCheck → OptionName
  | .build => .buildFlags
  | .lint => .lintFlags
  | .vet => .vetFlags

/-- Options with flags for one check. -/
def withFlags (flags : List String) : ToolCheck → Options
  | .build => { Options.default with buildFlags := flags }
  | .lint => { Options.default with lintFlags := flags }
  | .vet => { Options.default with vetFlags := flags }

variable {c : ToolCheck} {key : String} {v : Value} {flags : List String}

/-- What is read as flags is what the option of the check holds. -/
theorem check_flagsOption (h : checkFlags v = .ok flags) :
    c.flagsOption.check v = .ok (c.flagsOption.content (c.withFlags flags)) := by
  cases c with
  | build => exact h
  | lint => exact h
  | vet => exact h

theorem check_flagsOption_error {complaint : Complaint} (h : checkFlags v = .error complaint) :
    c.flagsOption.check v = .error complaint := by
  cases c with
  | build => exact h
  | lint => exact h
  | vet => exact h

/-- All other options are at their defaults. -/
theorem content_withFlags_of_ne {n : OptionName} (h : n ≠ c.flagsOption) (flags : List String) :
    n.content (c.withFlags flags) = n.missing := by
  cases c <;> cases n <;> first | rfl | exact absurd rfl h

/-- **Flags that stand alone** and are accepted. -/
theorem validate_flags (hkey : key = c.flagsOption.camel ∨ key = c.flagsOption.snake)
    (h : checkFlags v = .ok flags) : Options.validate [(key, v)] = .ok (c.withFlags flags) := by
  refine validate_of_read fun n => ?_
  by_cases hn : n = c.flagsOption
  · subst hn
    rw [read_of_given? (given?_singleton hkey v), check_flagsOption h]
    rfl
  · rw [read_of_given?_none (given?_singleton_of_ne hn (ofKey?_of_eq hkey) v),
      content_withFlags_of_ne hn]

/-- **Flags that stand alone** and are not accepted. -/
theorem validate_flags_error (hkey : key = c.flagsOption.camel ∨ key = c.flagsOption.snake)
    {complaint : Complaint} (h : checkFlags v = .error complaint) :
    Options.validate [(key, v)] = .error [⟨key, complaint, v⟩] := by
  have hgiven := given?_singleton hkey v
  have hread : c.flagsOption.read [(key, v)] = .error ⟨key, complaint, v⟩ := by
    rw [read_of_given? hgiven, check_flagsOption_error h]
    rfl
  have halone : c.flagsOption.alone [(key, v)] = [(key, v)] := by
    unfold alone
    rw [hgiven]
    rfl
  rw [← halone]
  exact validate_alone_of_error hread

end ToolCheck

theorem checkFlags_text_of_ok {s : String} {words : List String}
    (h : ShellWords.split s = .ok words) : checkFlags (.text s) = .ok words := by
  simp only [checkFlags, Value.text?_text, h]

theorem checkFlags_text_of_error {s : String} {fault : ShellWords.Fault}
    (h : ShellWords.split s = .error fault) : checkFlags (.text s) = .error (.unreadFlags fault) := by
  simp only [checkFlags, Value.text?_text, h]

/-- A text of flags alone is refused with a fault just if it cannot be cut for that fault. -/
theorem validate_flagText_error_iff {c : ToolCheck} {key : String}
    (hkey : key = c.flagsOption.camel ∨ key = c.flagsOption.snake) (s : String)
    (fault : ShellWords.Fault) :
    Options.validate [(key, .text s)] = .error [⟨key, .unreadFlags fault, .text s⟩]
      ↔ ShellWords.split s = .error fault := by
  cases hsplit : ShellWords.split s with
  | ok words =>
    rw [c.validate_flags hkey (checkFlags_text_of_ok hsplit)]
    simp
  | error fault' =>
    rw [c.validate_flags_error hkey (checkFlags_text_of_error hsplit)]
    simp

open ShellWords in
/-- **Flags as a text and as a list.**  Texts that are written as one, each in single quotes and
    with blanks between them, are accepted as the flags of a check and are the same as the list of
    them, in any mapping.  And any text of flags is refused for an open quotation just if it ends
    inside one, for an open escape just if it ends after a backslash, and for nothing else. -/
theorem Options.validate_flagTexts (c : ToolCheck) {key : String}
    (hkey : key = c.flagsOption.camel ∨ key = c.flagsOption.snake) :
    (∀ (flags : List String) (s : String), WritesWords flags s.toList →
        Options.validate [(key, .text s)] = .ok (c.withFlags flags)
          ∧ ∀ before after : List (String × Value),
              Options.validate (before ++ (key, .text s) :: after)
                = Options.validate (before ++ (key, Options.textList flags) :: after))
      ∧ ∀ s : String,
          (Options.validate [(key, .text s)]
              = .error [⟨key, .unreadFlags .openQuotation, .text s⟩] ↔ EndsInQuotation s.toList)
            ∧ (Options.validate [(key, .text s)]
              = .error [⟨key, .unreadFlags .openEscape, .text s⟩] ↔ EndsAfterBackslash s.toList)
            ∧ ((∃ is, Options.validate [(key, .text s)] = .error is)
              ↔ EndsInQuotation s.toList ∨ EndsAfterBackslash s.toList) := by
  constructor
  · intro flags s hwritten
    have htext : checkFlags (.text s) = .ok flags :=
      checkFlags_text_of_ok (split_of_writesWords hwritten)
    refine ⟨c.validate_flags hkey htext, fun before after => ?_⟩
    exact validate_replace (ofKey?_of_eq hkey) (c.check_flagsOption (checkFlags_textList flags))
      (c.check_flagsOption htext) before after
  · intro s
    have hquotation := (validate_flagText_error_iff hkey s .openQuotation).trans
      split_eq_openQuotation_iff
    have hescape := (validate_flagText_error_iff hkey s .openEscape).trans
      split_eq_openEscape_iff
    refine ⟨hquotation, hescape, ?_⟩
    rw [← hquotation, ← hescape]
    constructor
    -- a text that splits is no error, so the fault is one of the two
    · rintro ⟨is, his⟩
      cases hsplit : split s with
      | ok words =>
        rw [c.validate_flags hkey (checkFlags_text_of_ok hsplit)] at his
        contradiction
      | error fault =>
        rw [c.validate_flags_error hkey (checkFlags_text_of_error hsplit)]
        cases fault with
        | openQuotation => exact .inl rfl
        | openEscape => exact .inr rfl
    · rintro (hopen | hopen)
      · exact ⟨_, hopen⟩
      · exact ⟨_, hopen⟩

/-- Flags with blanks, quotes and a line feed, and an empty one. -/
def quotedFlags : List String := ["a b", "", "it's", "#\n\\\""]

/-- These flags as one text. -/
def quotedText : String := "'a b'\t\r\n'' 'it'\"'\"'s'  '#\n\\\"'"

open ShellWords in
theorem writesWords_quotedText : WritesWords quotedFlags quotedText.toList := by
  have htext : quotedText.toList = inQuotes "a b" ++ ['\t', '\r', '\n']
      ++ (inQuotes "" ++ [' '] ++ (inQuotes "it's" ++ [' ', ' '] ++ inQuotes "#\n\\\"")) := by decide
  rw [htext]
  exact .cons _ (by decide) (by simp [isSeparator])
    (.cons _ (by decide) (by simp [isSeparator])
      (.cons _ (by decide) (by simp [isSeparator]) (.singleton _)))

open ShellWords in
theorem Options.validate_flagTexts_quotedText :
    "lintFlags" = ToolCheck.lint.flagsOption.camel
      ∧ WritesWords quotedFlags quotedText.toList
      ∧ Options.validate [("lintFlags", .text quotedText)] = .ok (ToolCheck.lint.withFlags quotedFlags)
      ∧ Options.validate
          ([("linter", .int 3)] ++ ("lintFlags", .text quotedText) :: [("toolTimeout", .int 0)])
        = Options.validate
          ([("linter", .int 3)] ++ ("lintFlags", Options.textList quotedFlags)
            :: [("toolTimeout", .int 0)])
      ∧ Options.validate [("lintFlags", .text "-x 'y")]
        = .error [⟨"lintFlags", .unreadFlags .openQuotation, .text "-x 'y"⟩]
      ∧ EndsInQuotation "-x 'y".toList
      ∧ Options.validate [("lintFlags", .text "-x \"y\\")]
        = .error [⟨"lintFlags", .unreadFlags .openEscape, .text "-x \"y\\"⟩]
      ∧ EndsAfterBackslash "-x \"y\\".toList := by
  obtain ⟨hwritten, hrefused⟩ := Options.validate_flagTexts .lint (.inl (Eq.refl "lintFlags"))
  obtain ⟨halone, hamong⟩ := hwritten quotedFlags quotedText writesWords_quotedText
  have hquotation : Options.validate [("lintFlags", .text "-x 'y")]
      = .error [⟨"lintFlags", .unreadFlags .openQuotation, .text "-x 'y"⟩] := by rfl
  have hescape : Options.validate [("lintFlags", .text "-x \"y\\")]
      = .error [⟨"lintFlags", .unreadFlags .openEscape, .text "-x \"y\\"⟩] := by rfl
  exact ⟨rfl, writesWords_quotedText, halone, hamong _ _, hquotation,
    (hrefused _).1.mp hquotation, hescape, (hrefused _).2.1.mp hescape⟩

end SourceCheck
