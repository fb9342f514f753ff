import SourceCheck.Command.Request
import SourceCheck.Proofs.Results

/-! # What a command line sets

    A command line is read in several passes: its arguments are told apart, options take their
    values, operands and commands are consumed.  Whatever the order and the spelling of the
    arguments, each setting that is read comes from one part of the grammar: an option that is
    set, a value that an option takes, an operand, or a command (`Grammar.CanSet`).  So what all
    parts of a grammar guarantee for their settings holds for every command line that is
    accepted (`Grammar.canSet_of_readSome`). -/

namespace SourceCheck.CommandLine

open SourceCheck.Text

variable {α : Type} {g : Grammar α}

/-- A setting that some part of a grammar makes. -/
inductive Grammar.CanSet (g : Grammar α) : α → Prop
  /-- An option without a value is set. -/
  | flag {o : OptionForm α} {setting : String → α} (ho : o ∈ g.options)
    (huse : o.use = .flag setting) (name : String) : CanSet g (setting name)
  /-- The value of an option was dropped. -/
  | bare {o : OptionForm α} {read : String → Except String α} {bare : α} (ho : o ∈ g.options)
    (huse : o.use = .value read bare) : CanSet g bare
  /-- The value of an option is accepted. -/
  | value {o : OptionForm α} {read : String → Except String α} {bare a : α} {s : String}
    (ho : o ∈ g.options) (huse : o.use = .value read bare) (hread : read s = .ok a) : CanSet g a
  /-- An operand is read. -/
  | operand {name : String} {read : String → α} (hoperands : g.operands = .one name read)
    (s : String) : CanSet g (read s)
  /-- A command reads the arguments after it. -/
  | command {name first : String} {names args : List String}
    {read : String → List String → Except Stop (Parsed α)} {p : Parsed α} {a : α}
    (hoperands : g.operands = .command name names read) (hread : read first args = .ok p)
    (ha : a ∈ p.settings) : CanSet g a

/-! ## Arguments told apart -/

/-- An argument spells a name, with this value in the same argument. -/
inductive Spells (arg name : String) : Option String → Prop
  /-- It is the name or the start of it. -/
  | alone (hname : startsWith name arg = true) : Spells arg name none
  /-- A value stands behind an equals sign. -/
  | equals {start value : String} (harg : arg.toList = start.toList ++ '=' :: value.toList)
    (hname : startsWith name start = true) : Spells arg name (some value)
  /-- A value follows the name at once. -/
  | attached {value : String} (harg : arg.toList = name.toList ++ value.toList) :
    Spells arg name (some value)

/-- An argument that was told apart: if it is an option of some name, the grammar has that
    option under that name, and the argument spells it. -/
def Grammar.Knows (g : Grammar α) (arg : Argument α) : Prop :=
  ∀ given o, arg.2 = .option given → given.form = some o →
    (given.name, o) ∈ g.names ∧ Spells arg.1 given.name given.value

theorem Grammar.mem_options_of_mem_names {name : String} {o : OptionForm α}
    (h : (name, o) ∈ g.names) : o ∈ g.options := by
  obtain ⟨o', ho', hname⟩ := List.mem_flatMap.mp h
  obtain ⟨_, -, heq⟩ := List.mem_map.mp hname
  obtain ⟨-, rfl⟩ := Prod.mk.inj heq
  exact ho'

theorem Grammar.mem_names_of_option? {name : String} {o : OptionForm α}
    (h : g.option? name = some o) : (name, o) ∈ g.names := by
  obtain ⟨before, after, hnames, -⟩ := List.lookup_eq_some_iff.mp h
  rw [hnames]
  exact List.mem_append_right before List.mem_cons_self

theorem startsWith_self (s : String) : startsWith s s = true :=
  List.isPrefixOf_iff_prefix.mpr (List.prefix_refl _)

/-- Without an equals sign there is no value, and with one it stands behind the first. -/
theorem spells_atEquals {arg name : String} (h : startsWith name (atEquals arg).1 = true) :
    Spells arg name (atEquals arg).2 := by
  have hchars : arg.toList.takeWhile (· != '=') ++ arg.toList.dropWhile (· != '=') = arg.toList :=
    List.takeWhile_append_dropWhile
  unfold atEquals at h ⊢
  dsimp only at h ⊢
  split at h
  · next hdrop =>
    rw [hdrop, List.append_nil] at hchars
    rw [hchars, String.ofList_toList] at h
    exact .alone h
  · next c after hdrop =>
    -- what `dropWhile` leaves starts with the first character that is an equals sign
    have hc : c = '=' := by
      have hne : arg.toList.dropWhile (· != '=') ≠ [] := by simp [hdrop]
      have hnot := List.head_dropWhile_not (· != '=') hne
      simpa [hdrop] using hnot
    subst hc
    refine .equals ?_ h
    rw [String.toList_ofList, String.toList_ofList, ← hdrop]
    exact hchars.symm

theorem Grammar.spells_of_fitting {arg : String} {given : Given α} {o : OptionForm α}
    (hgiven : given ∈ g.fitting arg) (ho : given.form = some o) :
    (given.name, o) ∈ g.names ∧ Spells arg given.name given.value := by
  unfold fitting at hgiven
  -- a long name: the part before the equals sign starts the option's name
  split at hgiven
  · obtain ⟨⟨name, o'⟩, hmem, rfl⟩ := List.mem_map.mp hgiven
    obtain rfl := Option.some.inj ho
    obtain ⟨hmem, hstarts⟩ := List.mem_filter.mp hmem
    exact ⟨hmem, spells_atEquals hstarts⟩
  -- a short name: either the value is attached to the letter or the name is alone
  · obtain ⟨⟨name, o'⟩, hmem, hsome⟩ := List.mem_filterMap.mp hgiven
    dsimp only at hsome
    split at hsome
    · next hname =>
      obtain rfl := Option.some.inj hsome
      obtain rfl := Option.some.inj ho
      refine ⟨hmem, .attached ?_⟩
      rw [hname, String.toList_ofList, String.toList_ofList, List.take_append_drop]
    · split at hsome
      · next hstarts =>
        obtain rfl := Option.some.inj hsome
        obtain rfl := Option.some.inj ho
        exact ⟨hmem, .alone hstarts⟩
      · contradiction

theorem Grammar.knows_of_shortened {arg : String} {kind : Kind α}
    (h : Grammar.kindOf.shortened g arg = .ok kind) : g.Knows (arg, kind) := by
  intro given o hkind ho
  unfold Grammar.kindOf.shortened at h
  split at h
  · next only hfitting =>
    obtain rfl := Except.ok.inj h
    obtain rfl := Kind.option.inj hkind
    exact spells_of_fitting (hfitting ▸ List.mem_singleton_self _) ho
  · split at h
    · rw [← Except.ok.inj h] at hkind
      contradiction
    · rw [← Except.ok.inj h] at hkind
      obtain rfl := Kind.option.inj hkind
      contradiction
  · contradiction

theorem Grammar.knows_of_kindOf {arg : String} {kind : Kind α} (h : g.kindOf arg = .ok kind) :
    g.Knows (arg, kind) := by
  unfold kindOf at h
  -- only three of the cases give an option: the exact name, the name before an equals sign, and a
  -- shortened name
  split at h
  · intro given o hkind
    rw [← Except.ok.inj h] at hkind
    contradiction
  · split at h
    · next o' hoption =>
      intro given o hkind ho
      rw [← Except.ok.inj h] at hkind
      obtain rfl := Kind.option.inj hkind
      obtain rfl := Option.some.inj ho
      exact ⟨mem_names_of_option? hoption, .alone (startsWith_self arg)⟩
    · split at h
      · intro given o hkind
        rw [← Except.ok.inj h] at hkind
        contradiction
      · split at h
        · next name value hequals =>
          split at h
          · next o' hoption =>
            intro given o hkind ho
            rw [← Except.ok.inj h] at hkind
            obtain rfl := Kind.option.inj hkind
            obtain rfl := Option.some.inj ho
            have hspells : startsWith name (atEquals arg).1 = true := by
              rw [hequals]
              exact startsWith_self name
            refine ⟨mem_names_of_option? hoption, ?_⟩
            have hvalue := spells_atEquals hspells
            rwa [hequals] at hvalue
          · exact knows_of_shortened h
        · exact knows_of_shortened h

theorem Grammar.knows_operand (arg : String) : g.Knows (arg, .operand) := by
  intro given o hkind
  contradiction

/-- **All arguments told apart** are known. -/
theorem Grammar.knows_of_tellApart {args : List String} {known : List (Argument α)}
    (h : g.tellApart args = .ok known) : ∀ arg ∈ known, g.Knows arg := by
  induction args generalizing known with
  | nil =>
    obtain rfl := Except.ok.inj h
    exact List.forall_mem_nil _
  | cons first rest ih =>
    rw [tellApart.eq_def] at h
    split at h
    · contradiction
    · next rest' heq =>
      -- behind the double dash there are operands only
      obtain rfl := Except.ok.inj h
      intro arg harg
      rcases List.mem_cons.mp harg with rfl | harg
      · intro given o hkind
        contradiction
      · obtain ⟨s, -, rfl⟩ := List.mem_map.mp harg
        exact knows_operand s
    · next first' rest' _ heq =>
      obtain ⟨rfl, rfl⟩ := List.cons.inj heq
      split at h
      · contradiction
      · next kind hkind =>
        obtain ⟨known', hrest, rfl⟩ := eq_ok_of_map h
        intro arg harg
        rcases List.mem_cons.mp harg with rfl | harg
        · exact knows_of_kindOf hkind
        · exact ih hrest arg harg

/-! ## Options and operands -/

/-- **The options in one argument** are options of the grammar, and what is left are
    arguments that were there. -/
theorem Grammar.mem_of_take {fuel : Nat} {o : OptionForm α} {name : String}
    {value : Option String} {rest : List (Argument α)} {t : Taken α} (ho : o ∈ g.options)
    (h : g.take rest fuel o name value = .ok t) :
    (∀ u ∈ t.uses, u.form ∈ g.options) ∧ ∀ arg ∈ t.rest, arg ∈ rest := by
  induction fuel generalizing o name value t with
  | zero =>
    obtain rfl := Except.ok.inj h
    exact ⟨List.forall_mem_nil _, fun _ harg => harg⟩
  | succ fuel ih =>
    have hone : ∀ value', ∀ u ∈ [(⟨o, name, value'⟩ : Use α)], u.form ∈ g.options := by
      intro value' u hu
      rw [List.mem_singleton.mp hu]
      exact ho
    unfold take at h
    split at h
    · -- the value stands in the same argument
      obtain rfl := Except.ok.inj h
      exact ⟨hone _, fun _ harg => harg⟩
    · -- the rest of the argument holds options of one letter
      dsimp only at h
      split at h
      · unfold misuse at h
        contradiction
      · next o' hoption =>
        obtain ⟨t', htake, rfl⟩ := eq_ok_of_map h
        have ho' : o' ∈ g.options := by
          split at hoption
          · contradiction
          · exact mem_options_of_mem_names (mem_names_of_option? hoption)
        obtain ⟨huses, hrest⟩ := ih ho' htake
        exact ⟨List.forall_mem_cons.mpr ⟨ho, huses⟩, hrest⟩
    · split at h
      · -- the value is the next argument
        obtain rfl := Except.ok.inj h
        exact ⟨hone _, fun _ harg => List.mem_cons_of_mem _ harg⟩
      · unfold misuse at h
        contradiction
    · obtain rfl := Except.ok.inj h
      exact ⟨hone _, fun _ harg => harg⟩

/-- The settings of options of the grammar are settings it can make. -/
theorem Grammar.canSet_of_settingsOf {uses : List (Use α)} {settings : List α}
    (huses : ∀ u ∈ uses, u.form ∈ g.options) (h : g.settingsOf uses = .ok settings) :
    ∀ a ∈ settings, g.CanSet a := by
  -- each use gives one setting, so the list is walked once
  induction uses generalizing settings with
  | nil =>
    obtain rfl := Except.ok.inj h
    exact List.forall_mem_nil _
  | cons u rest ih =>
    obtain ⟨hu, hrest⟩ := List.forall_mem_cons.mp huses
    unfold settingsOf at h
    split at h
    · contradiction
    · next setting huse =>
      obtain ⟨settings', hok, rfl⟩ := eq_ok_of_map h
      exact List.forall_mem_cons.mpr ⟨.flag hu huse u.name, ih hrest hok⟩
    · next read bare huse =>
      split at h
      · unfold misuse at h
        contradiction
      · next a hread =>
        obtain ⟨settings', hok, rfl⟩ := eq_ok_of_map h
        refine List.forall_mem_cons.mpr ⟨?_, ih hrest hok⟩
        split at hread
        · obtain rfl := Except.ok.inj hread
          exact .bare hu huse
        · exact .value hu huse hread

/-- What operands come to are settings the grammar can make, and what is left are arguments
    that were there. -/
theorem Grammar.canSet_of_consume {complete : Bool} {args : List (Argument α)} {c : Consumed α}
    (h : g.consume complete args = .ok c) :
    (∀ a ∈ c.parsed.settings, g.CanSet a) ∧ ∀ arg ∈ c.rest, arg ∈ args := by
  unfold consume at h
  dsimp only at h
  split at h
  · obtain rfl := Except.ok.inj h
    exact ⟨List.forall_mem_nil _, fun _ harg => harg⟩
  · split at h
    · obtain rfl := Except.ok.inj h
      exact ⟨List.forall_mem_nil _, fun _ harg => harg⟩
    · next name read hoperands =>
      obtain rfl := Except.ok.inj h
      refine ⟨?_, ?_⟩
      · intro a ha
        rw [List.mem_singleton.mp ha]
        exact .operand hoperands _
      -- the arguments left over are a part of those given
      · intro arg harg
        have hdrop := (List.dropWhile_sublist _).subset harg
        exact (List.dropWhile_sublist _).subset (List.mem_of_mem_drop hdrop)
    · next name names read hoperands =>
      split at h
      · obtain ⟨p, hread, rfl⟩ := eq_ok_of_map h
        exact ⟨fun a ha => .command hoperands hread ha, List.forall_mem_nil _⟩
      · unfold misuse at h
        contradiction

/-! ## Whole command lines -/

theorem Grammar.canSet_of_append {p q : Parsed α} (hp : ∀ a ∈ p.settings, g.CanSet a)
    (hq : ∀ a ∈ q.settings, g.CanSet a) : ∀ a ∈ (p.append q).settings, g.CanSet a := by
  intro a ha
  rcases List.mem_append.mp ha with ha | ha
  · exact hp a ha
  · exact hq a ha

theorem Grammar.canSet_of_extras (extras : List String) :
    ∀ a ∈ (⟨[], extras⟩ : Parsed α).settings, g.CanSet a :=
  List.forall_mem_nil _

theorem Grammar.canSet_of_finish {complete : Bool} {args : List (Argument α)} {p : Parsed α}
    (h : g.finish complete args = .ok p) : ∀ a ∈ p.settings, g.CanSet a := by
  unfold finish at h
  split at h
  · contradiction
  · next c hconsume =>
    split at h
    · contradiction
    · obtain rfl := Except.ok.inj h
      exact canSet_of_append (canSet_of_consume hconsume).1 (canSet_of_extras _)

/-- **Arguments used from left to right** make settings that the grammar can make. -/
theorem Grammar.canSet_of_use {fuel : Nat} {complete : Bool} {args : List (Argument α)}
    {p : Parsed α} (hknown : ∀ arg ∈ args, g.Knows arg) (h : g.use fuel complete args = .ok p) :
    ∀ a ∈ p.settings, g.CanSet a := by
  -- the invariant: what is still to be read consists of arguments the grammar knows
  induction fuel generalizing complete args p with
  | zero => exact canSet_of_finish h
  | succ fuel ih =>
    unfold use at h
    split at h
    · exact canSet_of_finish h
    · split at h
      · next arg given rest _ =>
        obtain ⟨harg, hrest⟩ := List.forall_mem_cons.mp hknown
        split at h
        · obtain ⟨q, huse, rfl⟩ := eq_ok_of_map h
          exact canSet_of_append (canSet_of_extras _) (ih hrest huse)
        · next o ho =>
          split at h
          · contradiction
          · next t htake =>
            have hform := mem_options_of_mem_names (harg given o rfl ho).1
            obtain ⟨huses, hleft⟩ := mem_of_take hform htake
            split at h
            · contradiction
            · next settings hsettings =>
              obtain ⟨q, huse, rfl⟩ := eq_ok_of_map h
              have hmade := canSet_of_settingsOf huses hsettings
              exact canSet_of_append hmade (ih (fun arg' h' => hrest arg' (hleft arg' h')) huse)
      · split at h
        · contradiction
        · next c hconsume =>
          obtain ⟨hmade, hleft⟩ := canSet_of_consume hconsume
          split at h
          · obtain ⟨q, huse, rfl⟩ := eq_ok_of_map h
            exact canSet_of_append hmade (ih (fun arg' h' => hknown arg' (hleft arg' h')) huse)
          · -- operands that have no use are left over
            obtain ⟨q, huse, rfl⟩ := eq_ok_of_map h
            have hafter : ∀ arg ∈ args.drop (args.takeWhile (!isOption ·)).length, g.Knows arg :=
              fun arg harg => hknown arg (List.mem_of_mem_drop harg)
            exact canSet_of_append (canSet_of_extras _) (ih hafter huse)

/-- **Every setting that is read comes from a part of the grammar.** -/
theorem Grammar.canSet_of_readSome {args : List String} {p : Parsed α}
    (h : g.readSome args = .ok p) : ∀ a ∈ p.settings, g.CanSet a := by
  unfold readSome at h
  split at h
  · contradiction
  · next known htold => exact canSet_of_use (knows_of_tellApart htold) h

theorem Grammar.canSet_of_read {args : List String} {settings : List α}
    (h : g.read args = .ok settings) : ∀ a ∈ settings, g.CanSet a := by
  unfold read at h
  split at h
  · contradiction
  · next settings' hread =>
    obtain rfl := Except.ok.inj h
    exact canSet_of_readSome hread
  · contradiction

/-- An option makes only settings with a property. -/
structure OptionForm.Makes (P : α → Prop) (o : OptionForm α) : Prop where
  flag : ∀ setting, o.use = .flag setting → ∀ name, P (setting name)
  value : ∀ read bare, o.use = .value read bare → P bare ∧ ∀ s a, read s = .ok a → P a

/-- What all parts of a grammar guarantee for their settings holds for every setting it can
    make. -/
theorem Grammar.forall_of_canSet {P : α → Prop} (hoptions : ∀ o ∈ g.options, o.Makes P)
    (hoperand : ∀ name read, g.operands = .one name read → ∀ s, P (read s))
    (hcommand : ∀ name names read, g.operands = .command name names read →
      ∀ first args p, read first args = .ok p → ∀ a ∈ p.settings, P a)
    {a : α} (h : g.CanSet a) : P a := by
  cases h with
  | flag ho huse name => exact (hoptions _ ho).flag _ huse name
  | bare ho huse => exact ((hoptions _ ho).value _ _ huse).1
  | value ho huse hread => exact ((hoptions _ ho).value _ _ huse).2 _ _ hread
  | operand hone s => exact hoperand _ _ hone s
  | command hcommands hread ha => exact hcommand _ _ _ hcommands _ _ _ hread _ ha

/-! ## Requests -/

/-- What some settings say comes from one of them. -/
theorem exists_of_lastOf {β : Type} {tells : Setting → Option β} {settings : List Setting} {b : β}
    (h : lastOf tells settings = some b) : ∃ a ∈ settings, tells a = some b := by
  obtain ⟨a, ha, htells⟩ := List.exists_of_findSome?_eq_some h
  exact ⟨a, List.mem_reverse.mp ha, htells⟩

/-- A check that is asked for is that of the settings that were read. -/
theorem exists_settings_of_readRequest {args : List String} {log : LogRequest} {r : CheckRequest}
    (h : readRequest args = .ok (.check log r)) :
    ∃ settings, programGrammar.read args = .ok settings ∧ r = checkRequest settings := by
  unfold readRequest at h
  split at h
  · contradiction
  · next settings hread =>
    refine ⟨settings, hread, ?_⟩
    unfold requestOf at h
    split at h
    · cases Except.ok.inj h
    · split at h
      · contradiction
      · exact (Request.check.inj (Except.ok.inj h)).2.symm
      · cases Except.ok.inj h

section Makes

variable {P : Setting → Prop}

theorem makes_helpOption : helpOption.Makes P where
  flag _ huse := by contradiction
  value _ _ huse := by contradiction

theorem makes_plainOption {name : String} {a : Setting} (h : P a) :
    (plainOption name a).Makes P where
  flag _ huse _ := by
    obtain rfl := OptionUse.flag.inj huse
    exact h
  value _ _ huse := by contradiction

theorem makes_switchOption {name : String} {s : Switch} (h : ∀ on, P (.switch s on)) :
    (switchOption name s).Makes P where
  flag _ huse given := by
    obtain rfl := OptionUse.flag.inj huse
    exact h _
  value _ _ huse := by contradiction

theorem makes_choiceOption {β : Type} {optionName : String} {name : β → String}
    {setting : Option β → Setting} {choices : List β} (hnone : P (setting none))
    (hsome : ∀ b ∈ choices, P (setting (some b))) :
    (choiceOption optionName name setting choices).Makes P where
  flag _ huse := by contradiction
  value read bare huse := by
    obtain ⟨rfl, rfl⟩ := OptionUse.value.inj huse
    refine ⟨hnone, fun word a hread => ?_⟩
    unfold choice at hread
    split at hread
    · next b hfind =>
      rw [← Except.ok.inj hread]
      exact hsome b (List.mem_of_find?_eq_some hfind)
    · contradiction

theorem makes_pathOption {names : List String} {setting : Option Path → Setting}
    (h : ∀ p, P (setting p)) : (pathOption names setting).Makes P where
  flag _ huse := by contradiction
  value read bare huse := by
    obtain ⟨rfl, rfl⟩ := OptionUse.value.inj huse
    refine ⟨h none, fun s a hread => ?_⟩
    rw [← Except.ok.inj hread]
    exact h _

/-- A property of every setting that the program can make: a level is one that can be chosen,
    and a number of seconds is one that is read. -/
structure HoldsOfSettings (P : Setting → Prop) : Prop where
  level : ∀ l ∈ Log.Level.choices, P (.logLevel (some l))
  timeout : ∀ word a, readTimeout word = .ok a → P a
  others : ∀ a, (∀ l, a ≠ .logLevel (some l)) → (∀ s, a ≠ .timeout (some s)) → P a

variable (h : HoldsOfSettings P)

include h

theorem makes_timeoutOption :
    OptionForm.Makes P ⟨["--timeout"], .value readTimeout (.timeout none)⟩ where
  flag _ huse := by contradiction
  value read bare huse := by
    obtain ⟨rfl, rfl⟩ := OptionUse.value.inj huse
    exact ⟨h.others _ nofun nofun, h.timeout⟩

theorem makes_linterOption :
    OptionForm.Makes P ⟨["--linter"], .value (fun s => .ok (.linter s)) (.linter "")⟩ where
  flag _ huse := by contradiction
  value read bare huse := by
    obtain ⟨rfl, rfl⟩ := OptionUse.value.inj huse
    refine ⟨h.others _ nofun nofun, fun s a hread => ?_⟩
    rw [← Except.ok.inj hread]
    exact h.others _ nofun nofun

theorem makes_logOptions : ∀ o ∈ logOptions, o.Makes P := by
  simp only [logOptions, List.forall_mem_cons]
  exact ⟨makes_choiceOption (h.others _ nofun nofun) fun _ _ => h.others _ nofun nofun,
    makes_choiceOption (h.others _ nofun nofun) h.level, List.forall_mem_nil _⟩

theorem makes_checkGrammar : ∀ o ∈ checkGrammar.options, o.Makes P := by
  simp only [checkGrammar, List.cons_append, List.forall_mem_cons, List.forall_mem_append]
  have hswitch : ∀ s on, P (.switch s on) := fun _ _ => h.others _ nofun nofun
  exact ⟨makes_helpOption, makes_logOptions h, makes_pathOption fun _ => h.others _ nofun nofun,
    makes_switchOption (hswitch _), makes_switchOption (hswitch _),
    makes_switchOption (hswitch _), makes_switchOption (hswitch _),
    makes_linterOption h, makes_timeoutOption h,
    makes_choiceOption (h.others _ nofun nofun) fun _ _ => h.others _ nofun nofun,
    makes_plainOption (h.others _ nofun nofun), List.forall_mem_nil _⟩

theorem makes_initGrammar : ∀ o ∈ initGrammar.options, o.Makes P := by
  simp only [initGrammar, List.cons_append, List.forall_mem_cons, List.forall_mem_append]
  exact ⟨makes_helpOption, makes_logOptions h, makes_pathOption fun _ => h.others _ nofun nofun,
    makes_plainOption (h.others _ nofun nofun), List.forall_mem_nil _⟩

theorem makes_programGrammar : ∀ o ∈ programGrammar.options, o.Makes P := by
  simp only [programGrammar, List.cons_append, List.forall_mem_cons, List.forall_mem_append]
  exact ⟨makes_helpOption, makes_logOptions h, makes_plainOption (h.others _ nofun nofun),
    List.forall_mem_nil _⟩

theorem holds_checkGrammar {a : Setting} (ha : checkGrammar.CanSet a) : P a := by
  refine Grammar.forall_of_canSet (makes_checkGrammar h) ?_ ?_ ha
  · intro name read hone s
    obtain ⟨-, rfl⟩ := Operands.one.inj hone
    exact h.others _ nofun nofun
  · intro name names read hcommand
    contradiction

theorem holds_initGrammar {a : Setting} (ha : initGrammar.CanSet a) : P a := by
  refine Grammar.forall_of_canSet (makes_initGrammar h) ?_ ?_ ha
  · intro name read hone
    contradiction
  · intro name names read hcommand
    contradiction

omit h in
theorem eq_of_lookup_commands {name : String} {g : Grammar Setting}
    (hg : commands.lookup name = some g) :
    (name = "check" ∧ g = checkGrammar) ∨ (name = "init" ∧ g = initGrammar) := by
  obtain ⟨before, after, hcommands, -⟩ := List.lookup_eq_some_iff.mp hg
  have hmem : (name, g) ∈ commands := by
    rw [hcommands]
    exact List.mem_append_right before List.mem_cons_self
  simpa only [commands, List.mem_cons, List.not_mem_nil, or_false, Prod.mk.injEq] using hmem

theorem holds_of_readCommand {name : String} {args : List String} {p : Parsed Setting}
    (hread : readCommand name args = .ok p) : ∀ a ∈ p.settings, P a := by
  unfold readCommand at hread
  split at hread
  · next g hg =>
    obtain ⟨q, hq, rfl⟩ := eq_ok_of_map hread
    have hmade : ∀ a ∈ q.settings, P a := by
      intro a ha
      have hset := Grammar.canSet_of_readSome hq a ha
      rcases eq_of_lookup_commands hg with ⟨-, rfl⟩ | ⟨-, rfl⟩
      · exact holds_checkGrammar h hset
      · exact holds_initGrammar h hset
    exact List.forall_mem_cons.mpr ⟨h.others _ nofun nofun, hmade⟩
  · obtain rfl := Except.ok.inj hread
    exact List.forall_mem_nil _

/-- **Every setting that is read from a command line** has the property. -/
theorem holds_of_read {args : List String} {settings : List Setting}
    (hread : programGrammar.read args = .ok settings) : ∀ a ∈ settings, P a := by
  intro a ha
  refine Grammar.forall_of_canSet (makes_programGrammar h) ?_ ?_ (Grammar.canSet_of_read hread a ha)
  · intro name read hone
    contradiction
  · intro name names read hcommand first args p hread
    obtain ⟨-, -, rfl⟩ := Operands.command.inj hcommand
    exact holds_of_readCommand h hread

end Makes

end SourceCheck.CommandLine
