import Mathlib.Data.List.Forall2
import SourceCheck.Proofs.Options.Limits

/-! # Options one by one

    Validation reads ten options out of a mapping, each under one of two keys.  Here the options
    are a type (`OptionName`), with the keys, the check and the default of each; a severity passes
    every check as the text of its name does (`check_severity`).  The validation is put together
    from them (`Options.validate_eq`): it goes well just if what is given for each option is
    accepted, and otherwise has one issue for each option that is not, in the order of the
    options.  The issue is the one that the option has in a mapping of its own, and whatever the
    mapping holds besides what is given for the options does not matter
    (`Options.validate_independent`). -/

namespace SourceCheck

open SourceCheck.Number

/-! ## The options -/

/-- An option of a check. -/
inductive OptionName where
  /-- Run the build check. -/
  | build
  /-- Arguments for the build. -/
  | buildFlags
  /-- The build tags. -/
  | buildTags
  /-- Run the lint check. -/
  | lint
  /-- The linter. -/
  | linter
  /-- Arguments for the linter. -/
  | lintFlags
  /-- Run the vet check. -/
  | vet
  /-- Arguments for the vet tool. -/
  | vetFlags
  /-- Ask for gaps in the coverage. -/
  | cover
  /-- How long a tool may run. -/
  | timeout
  deriving DecidableEq, Repr

namespace OptionName

/-- The options, in the order in which they are declared. -/
def all : List OptionName :=
  [.build, .buildFlags, .buildTags, .lint, .linter, .lintFlags, .vet, .vetFlags, .cover, .timeout]

theorem mem_all (n : OptionName) : n ∈ all := by
  cases n <;> decide

/-- The camel-case key of an option. -/
def camel : OptionName → String
  | .build => "buildOnSave"
  | .buildFlags => "buildFlags"
  | .buildTags => "buildTags"
  | .lint => "lintOnSave"
  | .linter => "linter"
  | .lintFlags => "lintFlags"
  | .vet => "vetOnSave"
  | .vetFlags => "vetFlags"
  | .cover => "coverOnSave"
  | .timeout => "toolTimeout"

/-- The snake-case key of an option. -/
def snake : OptionName → String
  | .build => "build_on_save"
  | .buildFlags => "build_flags"
  | .buildTags => "build_tags"
  | .lint => "lint_on_save"
  | .linter => "linter"
  | .lintFlags => "lint_flags"
  | .vet => "vet_on_save"
  | .vetFlags => "vet_flags"
  | .cover => "cover_on_save"
  | .timeout => "tool_timeout"

/-- What an option holds once it is valid. -/
abbrev Content : OptionName → Type
  | .build | .lint | .vet | .cover => Bool
  | .buildFlags | .lintFlags | .vetFlags => List String
  | .buildTags | .linter => String
  | .timeout => Option Seconds

/-- The check of the values that are given for an option. -/
def check : (n : OptionName) → Value → Except Complaint n.Content
  | .build | .lint | .vet | .cover => checkSwitch
  | .buildFlags | .lintFlags | .vetFlags => checkFlags
  | .buildTags => checkTags
  | .linter => checkLinter
  | .timeout => checkTimeout

/-- **A severity** passes for the text of its name, whatever the option. -/
theorem check_severity (n : OptionName) (s : Severity) :
    n.check (.severity s) = n.check (.text s.name) := by
  cases n <;> rfl

/-- What an option holds if nothing is given for it. -/
def missing : (n : OptionName) → n.Content
  | .build | .lint | .vet | .cover => false
  | .buildFlags | .lintFlags | .vetFlags => ([] : List String)
  | .buildTags => ""
  | .linter => defaultLinter
  | .timeout => none

/-- What an option holds. -/
def content (o : Options) : (n : OptionName) → n.Content
  | .build => o.build
  | .buildFlags => o.buildFlags
  | .buildTags => o.buildTags
  | .lint => o.lint
  | .linter => o.linter
  | .lintFlags => o.lintFlags
  | .vet => o.vet
  | .vetFlags => o.vetFlags
  | .cover => o.cover
  | .timeout => o.timeout

/-! ### Keys -/

/-- The option that a key is for. -/
def ofKey? (key : String) : Option OptionName := all.find? fun n => n.camel == key || n.snake == key

theorem ofKey?_camel (n : OptionName) : ofKey? n.camel = some n := by
  cases n <;> rfl

theorem ofKey?_snake (n : OptionName) : ofKey? n.snake = some n := by
  cases n <;> rfl

/-- A key is that of some option. -/
def isKey (key : String) : Bool := (ofKey? key).isSome

theorem isKey_camel (n : OptionName) : isKey n.camel = true := by
  unfold isKey
  rw [ofKey?_camel]
  rfl

theorem isKey_snake (n : OptionName) : isKey n.snake = true := by
  unfold isKey
  rw [ofKey?_snake]
  rfl

/-! ### One option of a mapping -/

variable {options others : List (String × Value)}

/-- What is given for an option, with its key: the value under the camel-case key, or else that
    under the snake-case key. -/
def given? (n : OptionName) (options : List (String × Value)) : Option (String × Value) :=
  SourceCheck.given? n.camel n.snake options

/-- What a mapping makes of an option. -/
def read (n : OptionName) (options : List (String × Value)) : Except Issue n.Content :=
  option n.camel n.snake n.check n.missing options

/-- A mapping with just what is given for an option. -/
def alone (n : OptionName) (options : List (String × Value)) : List (String × Value) :=
  (n.given? options).toList

/-- What is given for an option passes its check; nothing needs to be given. -/
def accepts (n : OptionName) (options : List (String × Value)) : Bool :=
  match n.given? options with
  | none => true
  | some (_, v) => (n.check v).isOk

theorem read_of_given?_none {n : OptionName} (h : n.given? options = none) :
    n.read options = .ok n.missing := by
  unfold given? at h
  unfold read option
  rw [h]

theorem read_of_given? {n : OptionName} {key : String} {v : Value}
    (h : n.given? options = some (key, v)) :
    n.read options = (n.check v).mapError (⟨key, ·, v⟩) := by
  unfold given? at h
  unfold read option
  rw [h]
  dsimp only
  cases n.check v <;> rfl

/-- An option depends on what is given for it, and on nothing else. -/
theorem read_eq_of_given? {n : OptionName} (h : n.given? others = n.given? options) :
    n.read others = n.read options := by
  cases hgiven : n.given? options with
  | none => rw [read_of_given?_none hgiven, read_of_given?_none (h.trans hgiven)]
  | some member => rw [read_of_given? hgiven, read_of_given? (h.trans hgiven)]

theorem isOk_read (n : OptionName) (options : List (String × Value)) :
    (n.read options).isOk = n.accepts options := by
  unfold accepts
  cases hgiven : n.given? options with
  | none =>
    rw [read_of_given?_none hgiven]
    rfl
  | some member =>
    obtain ⟨key, v⟩ := member
    rw [read_of_given? hgiven]
    dsimp only
    cases n.check v <;> rfl

/-! ### Mappings with one option -/

/-- A member under a key of an option is what is given for it, if it stands alone. -/
theorem given?_singleton {n : OptionName} {key : String} (hkey : key = n.camel ∨ key = n.snake)
    (v : Value) : n.given? [(key, v)] = some (key, v) := by
  unfold given? SourceCheck.given?
  by_cases hcamel : key = n.camel
  · rw [hcamel, Value.lookup_cons_self]
  · obtain rfl : key = n.snake := hkey.resolve_left hcamel
    rw [Value.lookup_cons_of_ne hcamel, Value.lookup_cons_self]
    rfl

/-- A member under a key of another option gives nothing. -/
theorem given?_singleton_of_ne {m n : OptionName} (hne : m ≠ n) {key : String}
    (hkey : ofKey? key = some n) (v : Value) : m.given? [(key, v)] = none := by
  have hcamel : key ≠ m.camel := by
    rintro rfl
    rw [ofKey?_camel] at hkey
    exact hne (Option.some.inj hkey)
  have hsnake : key ≠ m.snake := by
    rintro rfl
    rw [ofKey?_snake] at hkey
    exact hne (Option.some.inj hkey)
  unfold given? SourceCheck.given?
  rw [Value.lookup_cons_of_ne hcamel, Value.lookup_cons_of_ne hsnake]
  rfl

theorem key_of_given? {n : OptionName} {key : String} {v : Value}
    (h : n.given? options = some (key, v)) : key = n.camel ∨ key = n.snake := by
  unfold given? SourceCheck.given? at h
  split at h
  · exact .inl (congrArg Prod.fst (Option.some.inj h)).symm
  · obtain ⟨w, -, hw⟩ := Option.map_eq_some_iff.mp h
    exact .inr (congrArg Prod.fst hw).symm

theorem ofKey?_of_given? {n : OptionName} {key : String} {v : Value}
    (h : n.given? options = some (key, v)) : ofKey? key = some n := by
  rcases key_of_given? h with rfl | rfl
  · exact n.ofKey?_camel
  · exact n.ofKey?_snake

/-- Alone an option is given as it is among the others. -/
theorem given?_alone (n : OptionName) (options : List (String × Value)) :
    n.given? (n.alone options) = n.given? options := by
  unfold alone
  cases hgiven : n.given? options with
  | none => rfl
  | some member => exact given?_singleton (key_of_given? hgiven) member.2

/-- And nothing is given for any other. -/
theorem given?_alone_of_ne {m n : OptionName} (hne : m ≠ n) (options : List (String × Value)) :
    m.given? (n.alone options) = none := by
  unfold alone
  cases hgiven : n.given? options with
  | none => rfl
  | some member => exact given?_singleton_of_ne hne (ofKey?_of_given? hgiven) member.2

/-! ### Lookups -/

/-- With each key once, a lookup finds just the members. -/
theorem lookup_eq_some_iff {key : String} {v : Value} (hnodup : (options.map Prod.fst).Nodup) :
    Value.lookup key options = some v ↔ (key, v) ∈ options := by
  induction options with
  | nil => simp [Value.lookup]
  | cons member rest ih =>
    obtain ⟨k, w⟩ := member
    obtain ⟨hk, hrest⟩ := List.nodup_cons.mp hnodup
    by_cases hkey : k = key
    · subst hkey
      -- a later member with this key would be a second one
      have hnot : (k, v) ∉ rest := by
        intro hmem
        exact hk (List.mem_map.mpr ⟨(k, v), hmem, rfl⟩)
      rw [Value.lookup_cons_self, List.mem_cons]
      simp [hnot, eq_comm]
    · have hne : (key, v) ≠ (k, w) := fun h => hkey (congrArg Prod.fst h).symm
      rw [Value.lookup_cons_of_ne hkey, ih hrest, List.mem_cons]
      simp [hne]

theorem lookup_of_perm (hperm : others.Perm options) (hnodup : (options.map Prod.fst).Nodup)
    (key : String) : Value.lookup key others = Value.lookup key options := by
  have hothers : (others.map Prod.fst).Nodup := (hperm.map Prod.fst).nodup_iff.mpr hnodup
  refine Option.ext fun v => ?_
  rw [lookup_eq_some_iff hothers, lookup_eq_some_iff hnodup, hperm.mem_iff]

/-- Members under other keys than those of the options are not found. -/
theorem lookup_filter_isKey {key : String} (hkey : isKey key = true) :
    Value.lookup key (options.filter fun m => isKey m.1) = Value.lookup key options := by
  induction options with
  | nil => rfl
  | cons member rest ih =>
    obtain ⟨k, w⟩ := member
    rw [List.filter_cons]
    by_cases hk : isKey k = true
    · rw [if_pos hk]
      by_cases hsame : k = key
      · rw [hsame, Value.lookup_cons_self, Value.lookup_cons_self]
      · rw [Value.lookup_cons_of_ne hsame, Value.lookup_cons_of_ne hsame, ih]
    · have hne : k ≠ key := fun hsame => hk (hsame ▸ hkey)
      rw [if_neg hk, Value.lookup_cons_of_ne hne, ih]

theorem given?_of_lookup {n : OptionName}
    (hcamel : Value.lookup n.camel others = Value.lookup n.camel options)
    (hsnake : Value.lookup n.camel options = none →
      Value.lookup n.snake others = Value.lookup n.snake options) :
    n.given? others = n.given? options := by
  unfold given? SourceCheck.given?
  rw [hcamel]
  cases hlookup : Value.lookup n.camel options with
  | none => rw [hsnake hlookup]
  | some v => rfl

/-- A value under a snake-case key does not count if there is one under the camel-case key of the
    same option. -/
theorem given?_of_shadowed {n : OptionName} {v : Value}
    (hcamel : Value.lookup n.camel options = some v)
    (hothers : ∀ key, key = n.camel ∨ key ≠ n.snake →
      Value.lookup key others = Value.lookup key options) (m : OptionName) :
    m.given? others = m.given? options := by
  by_cases hm : m = n
  · subst hm
    refine given?_of_lookup (hothers _ (.inl rfl)) fun hnone => ?_
    rw [hcamel] at hnone
    contradiction
  · -- the keys of another option are none of the two
    have hkeys : ∀ key, ofKey? key = some m → key ≠ n.snake := by
      rintro key hkey rfl
      rw [ofKey?_snake] at hkey
      exact hm (Option.some.inj hkey).symm
    exact given?_of_lookup (hothers _ (.inr (hkeys _ m.ofKey?_camel)))
      fun _ => hothers _ (.inr (hkeys _ m.ofKey?_snake))

end OptionName

/-! ## Validation -/

namespace OptionName

variable {options : List (String × Value)}

/-- The issues with the options of a mapping. -/
def issues (options : List (String × Value)) : List Issue :=
  all.flatMap fun n => issueOf (n.read options)

/-- The options of a mapping, with the default in place of what is not valid. -/
def optionsOf (options : List (String × Value)) : Options where
  build := valueOr (missing .build) (read .build options)
  buildFlags := valueOr (missing .buildFlags) (read .buildFlags options)
  buildTags := valueOr (missing .buildTags) (read .buildTags options)
  lint := valueOr (missing .lint) (read .lint options)
  linter := valueOr (missing .linter) (read .linter options)
  lintFlags := valueOr (missing .lintFlags) (read .lintFlags options)
  vet := valueOr (missing .vet) (read .vet options)
  vetFlags := valueOr (missing .vetFlags) (read .vetFlags options)
  cover := valueOr (missing .cover) (read .cover options)
  timeout := valueOr (missing .timeout) (read .timeout options)

theorem content_optionsOf (n : OptionName) (options : List (String × Value)) :
    n.content (optionsOf options) = valueOr n.missing (n.read options) := by
  cases n <;> rfl

/-- **Validation option by option.** -/
theorem validate_eq (options : List (String × Value)) :
    Options.validate options = if (issues options).isEmpty then .ok (optionsOf options)
      else .error (issues options) := by
  have hissues : issues options = issueOf (read .build options)
      ++ issueOf (read .buildFlags options) ++ issueOf (read .buildTags options)
      ++ issueOf (read .lint options) ++ issueOf (read .linter options)
      ++ issueOf (read .lintFlags options) ++ issueOf (read .vet options)
      ++ issueOf (read .vetFlags options) ++ issueOf (read .cover options)
      ++ issueOf (read .timeout options) := by
    simp [issues, all]
  rw [hissues]
  rfl

theorem issueOf_eq_nil_iff {α : Type} {x : Except Issue α} : issueOf x = [] ↔ x.isOk = true := by
  cases x with
  | ok a => exact ⟨fun _ => rfl, fun _ => rfl⟩
  | error i => exact ⟨fun h => by contradiction, fun h => by contradiction⟩

theorem issues_eq_nil_iff : issues options = [] ↔ ∀ n : OptionName, n.accepts options = true := by
  unfold issues
  rw [List.flatMap_eq_nil_iff]
  constructor
  · intro h n
    rw [← isOk_read]
    exact issueOf_eq_nil_iff.mp (h n n.mem_all)
  · intro h n _
    rw [issueOf_eq_nil_iff, isOk_read]
    exact h n

theorem validate_eq_ok_iff {o : Options} :
    Options.validate options = .ok o ↔ issues options = [] ∧ optionsOf options = o := by
  rw [validate_eq]
  split
  · next h => simp [List.isEmpty_iff.mp h]
  · next h => simp [List.isEmpty_iff.not.mp h]

theorem validate_eq_error_iff {is : List Issue} :
    Options.validate options = .error is ↔ issues options ≠ [] ∧ issues options = is := by
  rw [validate_eq]
  split
  · next h => simp [List.isEmpty_iff.mp h]
  · next h => simp [List.isEmpty_iff.not.mp h]

/-- What the options of two mappings are read as is all that matters to validation. -/
theorem validate_congr {others : List (String × Value)}
    (h : ∀ n : OptionName, n.read others = n.read options) :
    Options.validate others = Options.validate options := by
  rw [validate_eq, validate_eq]
  unfold issues optionsOf
  simp only [h]

theorem validate_of_given? {others : List (String × Value)}
    (h : ∀ n : OptionName, n.given? others = n.given? options) :
    Options.validate others = Options.validate options :=
  validate_congr fun n => read_eq_of_given? (h n)

/-! ### Issues -/

/-- The options that are not accepted have their issues in order. -/
theorem forall₂_issueOf (options : List (String × Value)) (ns : List OptionName) :
    List.Forall₂ (fun n i => n.read options = .error i)
      (ns.filter fun n => !n.accepts options) (ns.flatMap fun n => issueOf (n.read options)) := by
  induction ns with
  | nil => exact .nil
  | cons n rest ih =>
    rw [List.filter_cons, List.flatMap_cons, ← isOk_read]
    cases hread : n.read options with
    | ok a => exact ih
    | error i => exact .cons hread ih

theorem flatMap_of_only {α β : Type} {f : α → List β} {a : α} {l : List α} (hmem : a ∈ l)
    (hnodup : l.Nodup) (h : ∀ b, b ≠ a → f b = []) : l.flatMap f = f a := by
  obtain ⟨before, after, rfl⟩ := List.append_of_mem hmem
  obtain ⟨-, htail, hdisjoint⟩ := List.nodup_append.mp hnodup
  have hbefore : before.flatMap f = [] := List.flatMap_eq_nil_iff.mpr fun b hb =>
    h b (hdisjoint b hb a List.mem_cons_self)
  have hafter : after.flatMap f = [] := List.flatMap_eq_nil_iff.mpr fun b hb =>
    h b fun hba => (List.nodup_cons.mp htail).1 (hba ▸ hb)
  rw [List.flatMap_append, List.flatMap_cons, hbefore, hafter, List.append_nil, List.nil_append]

/-- The issues of an option that stands alone are those that it has among the others. -/
theorem issues_alone (n : OptionName) (options : List (String × Value)) :
    issues (n.alone options) = issueOf (n.read options) := by
  have hothers : ∀ m : OptionName, m ≠ n → issueOf (m.read (n.alone options)) = [] := by
    intro m hm
    rw [read_of_given?_none (given?_alone_of_ne hm options)]
    rfl
  unfold issues
  rw [flatMap_of_only n.mem_all (by decide) hothers, read_eq_of_given? (given?_alone n options)]

theorem validate_alone_of_error {n : OptionName} {i : Issue} (h : n.read options = .error i) :
    Options.validate (n.alone options) = .error [i] := by
  have hissues : issues (n.alone options) = [i] := by
    rw [issues_alone, h]
    rfl
  rw [validate_eq_error_iff, hissues]
  exact ⟨List.cons_ne_nil i [], rfl⟩

/-- A content is what the check makes of the value that is given, or the default. -/
theorem content_of_validate {o : Options} (h : Options.validate options = .ok o)
    (n : OptionName) : n.read options = .ok (n.content o) := by
  obtain ⟨hissues, rfl⟩ := validate_eq_ok_iff.mp h
  have hok : issueOf (n.read options) = [] :=
    List.flatMap_eq_nil_iff.mp hissues n n.mem_all
  rw [content_optionsOf]
  exact eq_ok_of_issueOf hok

end OptionName

open OptionName in
/-- **Options are validated one by one.**  A mapping is valid exactly if what is given for each
    option is accepted, and each option then holds what its check makes of the value that is
    given, or else its default.  A mapping that is not valid has one issue for each option that is
    not accepted, in the order of the options, and this is the issue that the option has alone.
    So neither the order of the members matters, nor members under other keys, nor what stands
    under a snake-case key besides the camel-case key of the same option. -/
theorem Options.validate_independent (options : List (String × Value)) :
    ((∃ o, Options.validate options = .ok o) ↔ ∀ n : OptionName, n.accepts options = true)
      ∧ (∀ o, Options.validate options = .ok o → ∀ n : OptionName,
          (n.given? options = none → n.content o = n.missing)
            ∧ ∀ key v, n.given? options = some (key, v) → n.check v = .ok (n.content o))
      ∧ (∀ is, Options.validate options = .error is →
          List.Forall₂ (fun n i => Options.validate (n.alone options) = .error [i])
            (all.filter fun n => !n.accepts options) is)
      ∧ (∀ others, others.Perm options → (options.map Prod.fst).Nodup →
          Options.validate others = Options.validate options)
      ∧ (∀ others, (others.filter fun m => isKey m.1) = (options.filter fun m => isKey m.1) →
          Options.validate others = Options.validate options)
      ∧ ∀ (n : OptionName) (v : Value) (others : List (String × Value)),
          Value.lookup n.camel options = some v →
          (∀ key, key = n.camel ∨ key ≠ n.snake →
            Value.lookup key others = Value.lookup key options) →
          Options.validate others = Options.validate options := by
  -- every part goes through what one option alone is given and how it is read
  refine ⟨?_, ?_, ?_, ?_, ?_, ?_⟩
  · rw [← issues_eq_nil_iff]
    constructor
    · rintro ⟨o, hvalid⟩
      exact (validate_eq_ok_iff.mp hvalid).1
    · intro hissues
      exact ⟨optionsOf options, validate_eq_ok_iff.mpr ⟨hissues, rfl⟩⟩
  · intro o hvalid n
    have hread := content_of_validate hvalid n
    constructor
    · intro hnone
      rw [read_of_given?_none hnone] at hread
      exact (Except.ok.inj hread).symm
    · intro key v hgiven
      rw [read_of_given? hgiven] at hread
      exact eq_ok_of_mapError hread
  · intro is hvalid
    obtain ⟨-, rfl⟩ := validate_eq_error_iff.mp hvalid
    exact (forall₂_issueOf options all).imp fun n i hread => validate_alone_of_error hread
  -- without repeated keys the order in which members stand is not looked at
  · intro others hperm hnodup
    have hlookup := lookup_of_perm hperm hnodup
    exact validate_of_given? fun n => given?_of_lookup (hlookup n.camel) fun _ => hlookup n.snake
  · intro others hfilter
    have hlookup : ∀ key, isKey key = true →
        Value.lookup key others = Value.lookup key options := by
      intro key hkey
      rw [← lookup_filter_isKey hkey, hfilter, lookup_filter_isKey hkey]
    exact validate_of_given? fun n =>
      given?_of_lookup (hlookup _ n.isKey_camel) fun _ => hlookup _ n.isKey_snake
  · intro n v others hcamel hothers
    exact validate_of_given? (given?_of_shadowed hcamel hothers)

/-- Options with two values that are not accepted, one that does not count and one that is for no
    option. -/
def spoiledMembers : List (String × Value) :=
  [("toolTimeout", .int 0), ("buildOnSave", .bool true), ("build_on_save", .text "maybe"),
    ("colour", .int 1), ("lint_flags", .list [.int 3])]

/-- The issues with them. -/
def spoiledIssues : List Issue :=
  [⟨"lint_flags", .notFlagTexts, .list [.int 3]⟩, ⟨"toolTimeout", .notPositive, .int 0⟩]

/-- The members of these that are accepted. -/
def soundMembers : List (String × Value) :=
  [("buildOnSave", .bool true), ("build_on_save", .text "maybe"), ("colour", .int 1)]

open OptionName in
theorem Options.validate_independent_spoiled :
    Options.validate spoiledMembers = .error spoiledIssues
      ∧ List.Forall₂
        (fun (n : OptionName) i => Options.validate (n.alone spoiledMembers) = .error [i])
        [.lintFlags, .timeout] spoiledIssues
      ∧ Options.validate spoiledMembers.reverse = .error spoiledIssues
      ∧ Options.validate (("size", .null) :: spoiledMembers) = .error spoiledIssues
      ∧ Options.validate (Value.insert "build_on_save" (.list []) spoiledMembers)
        = .error spoiledIssues
      ∧ Options.validate soundMembers = .ok { Options.default with build := true }
      ∧ checkSwitch (.bool true) = .ok true := by
  have hinvalid : Options.validate spoiledMembers = .error spoiledIssues := by rfl
  have hvalid : Options.validate soundMembers = .ok { Options.default with build := true } := by rfl
  obtain ⟨-, -, hissues, hperm, hunknown, hshadowed⟩ :=
    Options.validate_independent spoiledMembers
  obtain ⟨-, hcontents, -⟩ := Options.validate_independent soundMembers
  refine ⟨hinvalid, hissues _ hinvalid, ?_, ?_, ?_, hvalid, ?_⟩
  · rw [hperm _ (List.reverse_perm _) (by decide), hinvalid]
  · rw [hunknown _ (by rfl), hinvalid]
  · have hothers : ∀ key, key = camel .build ∨ key ≠ snake .build →
        Value.lookup key (Value.insert "build_on_save" (.list []) spoiledMembers)
          = Value.lookup key spoiledMembers := by
      rintro key (rfl | hkey)
      · rfl
      · exact Value.lookup_insert_of_ne hkey _ _
    rw [hshadowed .build (.bool true) _ (by rfl) hothers, hinvalid]
  · exact (hcontents _ hvalid .build).2 "buildOnSave" (.bool true) (by rfl)

end SourceCheck
