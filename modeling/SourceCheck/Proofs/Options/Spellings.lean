import SourceCheck.Proofs.Options.Independence

/-! # Spellings and nulls

    An option may be given under either of its two keys, and a null stands for nothing.  A mapping
    that has each option under one key at most can be written anew: keys change to the other
    spelling, nulls go, and the members come in another order (`Respells`).  Validation makes the
    same of it, with the issues under the new keys (`Options.validate_respelled`).  All that a
    mapping says of an option is a value, null where nothing is given (`OptionName.value`), and
    every check takes a null for the default of its option (`OptionName.check_null`). -/

namespace SourceCheck

namespace OptionName

variable {options others : List (String × Value)} {n : OptionName} {key : String}

/-! ## Values, null where nothing is given -/

/-- The value that a mapping gives an option, null if it gives none. -/
def value (n : OptionName) (options : List (String × Value)) : Value :=
  ((n.given? options).map Prod.snd).getD .null

/-- **A null is the default** of every option. -/
theorem check_null (n : OptionName) : n.check .null = .ok n.missing := by
  cases n <;> rfl

theorem eq_of_ofKey? (h : ofKey? key = some n) : key = n.camel ∨ key = n.snake := by
  have hfound := List.find?_some h
  rcases Bool.or_eq_true_iff.mp hfound with hcamel | hsnake
  · exact .inl (eq_of_beq hcamel).symm
  · exact .inr (eq_of_beq hsnake).symm

theorem ofKey?_of_eq (h : key = n.camel ∨ key = n.snake) : ofKey? key = some n := by
  rcases h with rfl | rfl
  · exact n.ofKey?_camel
  · exact n.ofKey?_snake

theorem value_of_given?_none (h : n.given? options = none) : n.value options = .null := by
  unfold value
  rw [h]
  rfl

theorem value_of_given? {v : Value} (h : n.given? options = some (key, v)) :
    n.value options = v := by
  unfold value
  rw [h]
  rfl

/-- An option is read from its value, up to the key that an issue is under. -/
theorem read_mapError {β : Type} {f : Issue → β} {g : Complaint → β}
    (hf : ∀ key c, ofKey? key = some n → f ⟨key, c, n.value options⟩ = g c) :
    (n.read options).mapError f = (n.check (n.value options)).mapError g := by
  cases hgiven : n.given? options with
  | none =>
    rw [value_of_given?_none hgiven, check_null, read_of_given?_none hgiven]
    rfl
  | some member =>
    obtain ⟨key, v⟩ := member
    have hkey := ofKey?_of_given? hgiven
    rw [value_of_given? hgiven] at hf ⊢
    rw [read_of_given? hgiven]
    cases n.check v with
    | ok a => rfl
    | error c => exact congrArg Except.error (hf key c hkey)

/-! ### Members of a mapping -/

theorem mem_of_lookup {v : Value} (h : Value.lookup key options = some v) :
    (key, v) ∈ options := by
  induction options with
  | nil => contradiction
  | cons m rest ih =>
    obtain ⟨k, w⟩ := m
    by_cases hk : k = key
    · subst hk
      rw [Value.lookup_cons_self] at h
      rw [Option.some.inj h]
      exact List.mem_cons_self
    · rw [Value.lookup_cons_of_ne hk] at h
      exact List.mem_cons_of_mem _ (ih h)

/-- What is given for an option is a member of the mapping. -/
theorem mem_of_given? {member : String × Value} (h : n.given? options = some member) :
    member ∈ options := by
  unfold given? SourceCheck.given? at h
  split at h
  · next v hcamel =>
    rw [← Option.some.inj h]
    exact mem_of_lookup hcamel
  · obtain ⟨v, hsnake, rfl⟩ := Option.map_eq_some_iff.mp h
    exact mem_of_lookup hsnake

/-- A member for another option changes nothing that is given for this one. -/
theorem given?_cons_of_ne {member : String × Value} (h : ofKey? member.1 ≠ some n) :
    n.given? (member :: options) = n.given? options := by
  have hcamel : member.1 ≠ n.camel := by
    intro hkey
    exact h (ofKey?_of_eq (.inl hkey))
  have hsnake : member.1 ≠ n.snake := by
    intro hkey
    exact h (ofKey?_of_eq (.inr hkey))
  unfold given? SourceCheck.given?
  rw [Value.lookup_cons_of_ne hcamel, Value.lookup_cons_of_ne hsnake]

/-- A member for an option is what is given for it if no other one is for the same option. -/
theorem given?_cons_of_eq {member : String × Value} (h : ofKey? member.1 = some n)
    (hrest : ∀ m ∈ options, ofKey? m.1 ≠ some n) :
    n.given? (member :: options) = some member := by
  obtain ⟨key, v⟩ := member
  unfold given? SourceCheck.given?
  by_cases hcamel : key = n.camel
  · rw [hcamel, Value.lookup_cons_self]
  · obtain rfl : key = n.snake := (eq_of_ofKey? h).resolve_left hcamel
    have hnone : Value.lookup n.camel options = none := by
      refine Value.lookup_eq_none fun hmem => ?_
      obtain ⟨m, hm, hkey⟩ := List.mem_map.mp hmem
      exact hrest m hm (ofKey?_of_eq (.inl hkey))
    rw [Value.lookup_cons_of_ne hcamel, hnone, Value.lookup_cons_self]
    rfl

/-- The options that the members of a mapping are for. -/
def named (options : List (String × Value)) : List OptionName :=
  options.filterMap fun m => ofKey? m.1

theorem named_cons_of_none {member : String × Value} (h : ofKey? member.1 = none) :
    named (member :: options) = named options := List.filterMap_cons_none h

theorem named_cons_of_some {member : String × Value} (h : ofKey? member.1 = some n) :
    named (member :: options) = n :: named options := List.filterMap_cons_some h

theorem mem_named {member : String × Value} (hmem : member ∈ options)
    (h : ofKey? member.1 = some n) : n ∈ named options := List.mem_filterMap.mpr ⟨member, hmem, h⟩

end OptionName

open OptionName

/-! ## Mappings written anew -/

/-- **A mapping with one spelling**: no two of its members are for the same option. -/
def HasOneSpelling (options : List (String × Value)) : Prop := (named options).Nodup

instance (options : List (String × Value)) : Decidable (HasOneSpelling options) :=
  inferInstanceAs (Decidable (List.Nodup _))

/-- **A mapping is written anew**: any of its keys are replaced by a key of the same option, and
    any of its options that are null are left out. -/
inductive Respells : List (String × Value) → List (String × Value) → Prop
  /-- Nothing is left to write. -/
  | nil : Respells [] []
  /-- A member stays as it is. -/
  | keep (member : String × Value) {options others : List (String × Value)} :
    Respells options others → Respells (member :: options) (member :: others)
  /-- A member comes under a key of the same option. -/
  | rename (n : OptionName) {key key' : String} (v : Value) {options others : List (String × Value)}
      (hkey : key = n.camel ∨ key = n.snake) (hkey' : key' = n.camel ∨ key' = n.snake) :
    Respells options others → Respells ((key, v) :: options) ((key', v) :: others)
  /-- An option that is null is left out. -/
  | drop (n : OptionName) {key : String} {options others : List (String × Value)}
      (hkey : key = n.camel ∨ key = n.snake) :
    Respells options others → Respells ((key, .null) :: options) others

theorem HasOneSpelling.perm {options others : List (String × Value)}
    (h : HasOneSpelling options) (hperm : others.Perm options) : HasOneSpelling others :=
  (hperm.filterMap _).nodup_iff.mpr h

theorem HasOneSpelling.of_cons {member : String × Value} {options : List (String × Value)}
    (h : HasOneSpelling (member :: options)) : HasOneSpelling options :=
  List.Nodup.sublist ((List.sublist_cons_self _ _).filterMap _) h

/-- With one spelling, no other member is for the same option as the first one. -/
theorem HasOneSpelling.ne_of_mem {member : String × Value} {options : List (String × Value)}
    (h : HasOneSpelling (member :: options)) {n : OptionName} (hmember : ofKey? member.1 = some n) :
    ∀ m ∈ options, ofKey? m.1 ≠ some n := by
  intro m hm hsame
  unfold HasOneSpelling at h
  rw [named_cons_of_some hmember] at h
  exact (List.nodup_cons.mp h).1 (mem_named hm hsame)

/-- **With one spelling**, what is given for an option is the member that is for it. -/
theorem HasOneSpelling.given?_eq_some_iff {options : List (String × Value)}
    (h : HasOneSpelling options) {n : OptionName} {member : String × Value} :
    n.given? options = some member ↔ member ∈ options ∧ ofKey? member.1 = some n := by
  constructor
  · intro hgiven
    exact ⟨mem_of_given? hgiven, ofKey?_of_given? hgiven⟩
  · rintro ⟨hmem, hkey⟩
    induction options with
    | nil => contradiction
    | cons first rest ih =>
      rcases List.mem_cons.mp hmem with rfl | hrest
      · exact given?_cons_of_eq hkey (h.ne_of_mem hkey)
      · have hfirst : ofKey? first.1 ≠ some n := fun hsame => h.ne_of_mem hsame _ hrest hkey
        rw [given?_cons_of_ne hfirst, ih h.of_cons hrest]

/-- So the order of the members does not matter. -/
theorem HasOneSpelling.given?_of_perm {options others : List (String × Value)}
    (h : HasOneSpelling options) (hperm : others.Perm options) (n : OptionName) :
    n.given? others = n.given? options := by
  refine Option.ext fun member => ?_
  rw [(h.perm hperm).given?_eq_some_iff, h.given?_eq_some_iff, hperm.mem_iff]

namespace Respells

variable {options others : List (String × Value)}

/-- Written anew, a mapping is for some of the same options. -/
theorem named_sublist (h : Respells options others) : (named others).Sublist (named options) := by
  -- a rename keeps the option and a drop only removes one, so the options named get fewer
  induction h with
  | nil => exact List.Sublist.refl _
  | keep member _ ih =>
    cases hkey : ofKey? member.1 with
    | none => rwa [named_cons_of_none hkey, named_cons_of_none hkey]
    | some n =>
      rw [named_cons_of_some hkey, named_cons_of_some hkey]
      exact ih.cons_cons n
  | rename n v hkey hkey' _ ih =>
    rw [named_cons_of_some (ofKey?_of_eq hkey'), named_cons_of_some (ofKey?_of_eq hkey)]
    exact ih.cons_cons n
  | drop n hkey _ ih =>
    rw [named_cons_of_some (ofKey?_of_eq hkey)]
    exact ih.cons n

theorem hasOneSpelling (h : Respells options others) (hone : HasOneSpelling options) :
    HasOneSpelling others := List.Nodup.sublist h.named_sublist hone

/-- What is written for an option was there under one of its keys. -/
theorem exists_of_written (h : Respells options others) {n : OptionName} {key : String} {v : Value}
    (hmem : (key, v) ∈ others) (hkey : ofKey? key = some n) :
    ∃ before, (before, v) ∈ options ∧ ofKey? before = some n := by
  induction h with
  | nil => contradiction
  | keep member _ ih =>
    rcases List.mem_cons.mp hmem with rfl | hrest
    · exact ⟨key, List.mem_cons_self, hkey⟩
    · obtain ⟨before, hbefore, hsame⟩ := ih hrest
      exact ⟨before, List.mem_cons_of_mem _ hbefore, hsame⟩
  | @rename m old new w _ _ hold hnew _ ih =>
    rcases List.mem_cons.mp hmem with hfirst | hrest
    · obtain ⟨rfl, rfl⟩ := Prod.mk.inj hfirst
      rw [ofKey?_of_eq hnew] at hkey
      exact ⟨old, List.mem_cons_self, (ofKey?_of_eq hold).trans hkey⟩
    · obtain ⟨before, hbefore, hsame⟩ := ih hrest
      exact ⟨before, List.mem_cons_of_mem _ hbefore, hsame⟩
  | drop _ _ _ ih =>
    obtain ⟨before, hbefore, hsame⟩ := ih hmem
    exact ⟨before, List.mem_cons_of_mem _ hbefore, hsame⟩

/-- What was there for an option is null, or it is written under one of the keys. -/
theorem null_or_exists_written (h : Respells options others) {n : OptionName} {key : String}
    {v : Value} (hmem : (key, v) ∈ options) (hkey : ofKey? key = some n) :
    v = .null ∨ ∃ after, (after, v) ∈ others ∧ ofKey? after = some n := by
  induction h with
  | nil => contradiction
  -- the member stays under its name, gets the other one, or was null and may go
  | keep member _ ih =>
    rcases List.mem_cons.mp hmem with rfl | hrest
    · exact .inr ⟨key, List.mem_cons_self, hkey⟩
    · refine (ih hrest).imp_right ?_
      rintro ⟨after, hafter, hsame⟩
      exact ⟨after, List.mem_cons_of_mem _ hafter, hsame⟩
  | @rename m old new w _ _ hold hnew _ ih =>
    rcases List.mem_cons.mp hmem with hfirst | hrest
    · obtain ⟨rfl, rfl⟩ := Prod.mk.inj hfirst
      rw [ofKey?_of_eq hold] at hkey
      exact .inr ⟨new, List.mem_cons_self, (ofKey?_of_eq hnew).trans hkey⟩
    · refine (ih hrest).imp_right ?_
      rintro ⟨after, hafter, hsame⟩
      exact ⟨after, List.mem_cons_of_mem _ hafter, hsame⟩
  | drop _ _ _ ih =>
    rcases List.mem_cons.mp hmem with hfirst | hrest
    · exact .inl (Prod.mk.inj hfirst).2
    · exact ih hrest

/-- **Written anew, a mapping gives each option the same value**, null where there is none. -/
theorem value_eq (h : Respells options others) (hone : HasOneSpelling options) (n : OptionName) :
    n.value others = n.value options := by
  have hothers := h.hasOneSpelling hone
  cases hnew : n.given? others with
  -- the member was written from one in the mapping, which no other spelling hides
  | some member =>
    obtain ⟨key, v⟩ := member
    obtain ⟨hmem, hkey⟩ := hothers.given?_eq_some_iff.mp hnew
    obtain ⟨before, hbefore, hsame⟩ := h.exists_of_written hmem hkey
    rw [value_of_given? hnew, value_of_given? (hone.given?_eq_some_iff.mpr ⟨hbefore, hsame⟩)]
  | none =>
    rw [value_of_given?_none hnew]
    -- no member is left, so there was none or one that held null
    cases hold : n.given? options with
    | none => rw [value_of_given?_none hold]
    | some member =>
      obtain ⟨key, v⟩ := member
      obtain ⟨hmem, hkey⟩ := hone.given?_eq_some_iff.mp hold
      rcases h.null_or_exists_written hmem hkey with rfl | ⟨after, hafter, hsame⟩
      · rw [value_of_given? hold]
      · rw [hothers.given?_eq_some_iff.mpr ⟨hafter, hsame⟩] at hnew
        contradiction

end Respells

/-! ## Validation -/

/-- An issue up to the key that it is under: the option that the key is for, what is wrong, and the
    value that was given. -/
def Issue.apartFromKey (i : Issue) : Option OptionName × Complaint × Value :=
  (ofKey? i.key, i.complaint, i.given)

namespace OptionName

variable {options others : List (String × Value)} {n : OptionName}

theorem map_issueOf {α β : Type} {f : Issue → β} {x y : Except Issue α}
    (h : x.mapError f = y.mapError f) : (issueOf x).map f = (issueOf y).map f := by
  cases x with
  | ok a =>
    cases y with
    | ok b => rfl
    | error j => contradiction
  | error i =>
    cases y with
    | ok b => contradiction
    | error j => exact congrArg (fun b => [b]) (Except.error.inj h)

theorem valueOr_eq_of_mapError {α β : Type} {f : Issue → β} {other : α} {x y : Except Issue α}
    (h : x.mapError f = y.mapError f) : valueOr other x = valueOr other y := by
  cases x with
  | ok a =>
    cases y with
    | ok b => exact Except.ok.inj h
    | error j => contradiction
  | error i =>
    cases y with
    | ok b => contradiction
    | error j => rfl

/-- What is told of the issues with an option is told of the issues with all of them. -/
theorem validate_mapError {β : Type} {f : Issue → β}
    (h : ∀ n : OptionName, (n.read others).mapError f = (n.read options).mapError f) :
    (Options.validate others).mapError (·.map f) = (Options.validate options).mapError (·.map f) := by
  have hissues : (issues others).map f = (issues options).map f := by
    unfold issues
    rw [List.map_flatMap, List.map_flatMap]
    exact congrArg all.flatMap (funext fun n => map_issueOf (h n))
  have hempty : (issues others).isEmpty = (issues options).isEmpty := by
    rw [← List.isEmpty_map (f := f), hissues, List.isEmpty_map]
  have hoptions : optionsOf others = optionsOf options := by
    unfold optionsOf
    simp only [valueOr_eq_of_mapError (h _)]
  rw [validate_eq, validate_eq, hempty, hoptions]
  split
  · rfl
  · exact congrArg Except.error hissues

/-- An issue is with a member of the mapping. -/
theorem mem_of_issue {is : List Issue} (h : Options.validate options = .error is) {i : Issue}
    (hi : i ∈ is) : (i.key, i.given) ∈ options := by
  obtain ⟨-, rfl⟩ := validate_eq_error_iff.mp h
  obtain ⟨n, -, hn⟩ := List.mem_flatMap.mp hi
  have hread : n.read options = .error i := by
    cases hread : n.read options with
    | ok a =>
      rw [hread] at hn
      contradiction
    | error j =>
      rw [hread] at hn
      rw [List.mem_singleton.mp hn]
  -- without a member the default is read, and a default passes its check
  cases hgiven : n.given? options with
  | none =>
    rw [read_of_given?_none hgiven] at hread
    contradiction
  | some member =>
    obtain ⟨key, v⟩ := member
    rw [read_of_given? hgiven] at hread
    obtain ⟨c, -, rfl⟩ : ∃ c, n.check v = .error c ∧ Issue.mk key c v = i := by
      cases hcheck : n.check v with
      | ok a =>
        rw [hcheck] at hread
        contradiction
      | error c =>
        rw [hcheck] at hread
        exact ⟨c, rfl, Except.error.inj hread⟩
    exact mem_of_given? hgiven

end OptionName

/-- **Spellings and nulls do not matter.**  A mapping that has each option under one key at most is
    written anew: any of its keys become the other key of the same option, any of its options that
    are null are left out, and the members come in any order.  Then it is valid just if it was, with
    the same options; and if it is not, it has the same issues in the same order, up to the keys,
    and these are the keys that it has now. -/
theorem Options.validate_respelled {options written others : List (String × Value)}
    (hone : HasOneSpelling options) (hwritten : Respells options written)
    (hperm : others.Perm written) :
    (Options.validate others).mapError (·.map Issue.apartFromKey)
        = (Options.validate options).mapError (·.map Issue.apartFromKey)
      ∧ ∀ is, Options.validate others = .error is → ∀ i ∈ is, (i.key, i.given) ∈ others := by
  refine ⟨validate_mapError fun n => ?_, fun is his i hi => mem_of_issue his hi⟩
  have hvalue : n.value others = n.value options := by
    unfold value
    rw [(hwritten.hasOneSpelling hone).given?_of_perm hperm]
    exact hwritten.value_eq hone n
  -- the issue that an option has does not depend on the key
  have hread : ∀ mapping : List (String × Value),
      (n.read mapping).mapError Issue.apartFromKey
        = (n.check (n.value mapping)).mapError (some n, ·, n.value mapping) := by
    intro mapping
    refine read_mapError fun key c hkey => ?_
    unfold Issue.apartFromKey
    rw [hkey]
  rw [hread, hread, hvalue]

/-- Members with keys of both kinds, two nulls and a value that is not accepted. -/
def mixedMembers : List (String × Value) :=
  [("build_on_save", .bool true), ("linter", .null), ("lintFlags", .list [.int 3]),
    ("colour", .null), ("toolTimeout", .null)]

/-- Two of its keys in the other spelling. -/
def respelledMembers : List (String × Value) :=
  [("buildOnSave", .bool true), ("lint_flags", .list [.int 3]), ("colour", .null),
    ("tool_timeout", .null)]

theorem respells_mixedMembers : Respells mixedMembers respelledMembers :=
  .rename .build _ (.inr rfl) (.inl rfl) <| .drop .linter (.inl rfl) <|
    .rename .lintFlags _ (.inl rfl) (.inr rfl) <| .keep _ <|
      .rename .timeout _ (.inl rfl) (.inr rfl) .nil

theorem Options.validate_respelled_mixedMembers :
    HasOneSpelling mixedMembers
      ∧ Respells mixedMembers respelledMembers
      ∧ respelledMembers.reverse.Perm respelledMembers
      ∧ Options.validate mixedMembers
        = .error [⟨"lintFlags", .notFlagTexts, .list [.int 3]⟩]
      ∧ (Options.validate respelledMembers.reverse).mapError (·.map Issue.apartFromKey)
        = .error [(some .lintFlags, .notFlagTexts, .list [.int 3])]
      ∧ Options.validate respelledMembers.reverse
        = .error [⟨"lint_flags", .notFlagTexts, .list [.int 3]⟩]
      ∧ ("lint_flags", Value.list [.int 3]) ∈ respelledMembers.reverse := by
  have hone : HasOneSpelling mixedMembers := by decide
  have hperm : respelledMembers.reverse.Perm respelledMembers := List.reverse_perm _
  have hmixed : Options.validate mixedMembers
      = .error [⟨"lintFlags", .notFlagTexts, .list [.int 3]⟩] := by rfl
  have hrespelled : Options.validate respelledMembers.reverse
      = .error [⟨"lint_flags", .notFlagTexts, .list [.int 3]⟩] := by rfl
  obtain ⟨hsame, hkeys⟩ := Options.validate_respelled hone respells_mixedMembers hperm
  refine ⟨hone, respells_mixedMembers, hperm, hmixed, ?_, hrespelled,
    hkeys _ hrespelled _ (List.mem_singleton_self _)⟩
  rw [hsame, hmixed]
  rfl

end SourceCheck
