import SourceCheck.Proofs.Command.Settings

/-! # Command lines from left to right

    A command line that is accepted is a row of options, of values that follow their options,
    of operands, and perhaps a command that has the rest for itself (`Grammar.Reads`).  Each
    part makes its own setting, whatever stands around it, and the settings are in the order
    of the parts (`Grammar.reads_of_readSome`).  There is one such row only
    (`Grammar.Reads.unique`). -/

namespace SourceCheck.CommandLine

open SourceCheck.Text

variable {α : Type} {g : Grammar α}

/-- Some arguments make some settings, one part after the other; `commands` says what a
    command makes of the arguments after it. -/
inductive Grammar.Reads (g : Grammar α) (commands : String → List String → List α → Prop) :
    List String → List α → Prop
  /-- Nothing is left. -/
  | nil : Reads g commands [] []
  /-- An option without a value. -/
  | flag {arg name : String} {o : OptionForm α} {setting : String → α} {rest : List String}
    {settings : List α} (harg : arg ≠ "--")
    (hkind : g.kindOf arg = .ok (.option ⟨some o, name, none⟩)) (huse : o.use = .flag setting)
    (hrest : Reads g commands rest settings) :
    Reads g commands (arg :: rest) (setting name :: settings)
  /-- An option with its value in the same argument; a double dash is no value. -/
  | inline {arg name value : String} {o : OptionForm α} {read : String → Except String α}
    {bare a : α} {rest : List String} {settings : List α} (harg : arg ≠ "--")
    (hkind : g.kindOf arg = .ok (.option ⟨some o, name, some value⟩))
    (huse : o.use = .value read bare)
    (hread : (if value = "--" then .ok bare else read value) = .ok a)
    (hrest : Reads g commands rest settings) : Reads g commands (arg :: rest) (a :: settings)
  /-- An option with its value in the next argument. -/
  | next {arg name value : String} {o : OptionForm α} {read : String → Except String α}
    {bare a : α} {rest : List String} {settings : List α} (harg : arg ≠ "--")
    (hkind : g.kindOf arg = .ok (.option ⟨some o, name, none⟩)) (huse : o.use = .value read bare)
    (hvalue : value ≠ "--") (hread : read value = .ok a)
    (hrest : Reads g commands rest settings) :
    Reads g commands (arg :: value :: rest) (a :: settings)
  /-- An operand. -/
  | operand {arg name : String} {read : String → α} {rest : List String} {settings : List α}
    (harg : arg ≠ "--") (hkind : g.kindOf arg = .ok .operand)
    (hone : g.operands = .one name read) (hrest : Reads g commands rest settings) :
    Reads g commands (arg :: rest) (read arg :: settings)
  /-- The double dash, and operands after it whatever they look like. -/
  | separator {name : String} {read : String → α} (hone : g.operands = .one name read)
    (rest : List String) : Reads g commands ("--" :: rest) (rest.map read)
  /-- A command with all arguments after it. -/
  | command {first name : String} {names : List String}
    {read : String → List String → Except Stop (Parsed α)} {rest : List String}
    {settings : List α} (harg : first ≠ "--") (hkind : g.kindOf first = .ok .operand)
    (hcommand : g.operands = .command name names read) (hread : commands first rest settings) :
    Reads g commands (first :: rest) settings

variable {commands : String → List String → List α → Prop}

/-! ## One reading only -/

/-- **The settings are determined by the arguments**, if those of a command are. -/
theorem Grammar.Reads.unique
    (hcommands : ∀ first rest s s', commands first rest s → commands first rest s' → s = s')
    {args : List String} {s s' : List α} (h : g.Reads commands args s)
    (h' : g.Reads commands args s') : s = s' := by
  -- `kindOf` and `use` are functions, so the first argument already decides which rule applies;
  -- every pair of different rules gives two kinds or two uses for one argument
  induction h generalizing s' with
  | nil => cases h' with | nil => rfl
  | flag harg hkind huse _ ih =>
    cases h' with
    | flag _ hkind' huse' hrest =>
      cases hkind.symm.trans hkind'
      cases huse.symm.trans huse'
      rw [ih hrest]
    | inline _ hkind' => cases hkind.symm.trans hkind'
    | next _ hkind' huse' =>
      cases hkind.symm.trans hkind'
      cases huse.symm.trans huse'
    | operand _ hkind' => cases hkind.symm.trans hkind'
    | separator => contradiction
    | command _ hkind' => cases hkind.symm.trans hkind'
  | inline harg hkind huse hread _ ih =>
    cases h' with
    | flag _ hkind' => cases hkind.symm.trans hkind'
    | inline _ hkind' huse' hread' hrest =>
      cases hkind.symm.trans hkind'
      cases huse.symm.trans huse'
      cases hread.symm.trans hread'
      rw [ih hrest]
    | next _ hkind' => cases hkind.symm.trans hkind'
    | operand _ hkind' => cases hkind.symm.trans hkind'
    | separator => contradiction
    | command _ hkind' => cases hkind.symm.trans hkind'
  | next harg hkind huse _ hread _ ih =>
    cases h' with
    | flag _ hkind' huse' =>
      cases hkind.symm.trans hkind'
      cases huse.symm.trans huse'
    | inline _ hkind' => cases hkind.symm.trans hkind'
    | next _ hkind' huse' _ hread' hrest =>
      cases hkind.symm.trans hkind'
      cases huse.symm.trans huse'
      cases hread.symm.trans hread'
      rw [ih hrest]
    | operand _ hkind' => cases hkind.symm.trans hkind'
    | separator => contradiction
    | command _ hkind' => cases hkind.symm.trans hkind'
  | operand harg hkind hone _ ih =>
    cases h' with
    | flag _ hkind' => cases hkind.symm.trans hkind'
    | inline _ hkind' => cases hkind.symm.trans hkind'
    | next _ hkind' => cases hkind.symm.trans hkind'
    | operand _ _ hone' hrest =>
      cases hone.symm.trans hone'
      rw [ih hrest]
    | separator => contradiction
    | command _ _ hcommand => cases hone.symm.trans hcommand
  | separator hone rest =>
    cases h' with
    | separator hone' =>
      cases hone.symm.trans hone'
      rfl
    | _ => contradiction
  | command harg hkind hcommand hread =>
    cases h' with
    | flag _ hkind' => cases hkind.symm.trans hkind'
    | inline _ hkind' => cases hkind.symm.trans hkind'
    | next _ hkind' => cases hkind.symm.trans hkind'
    | operand _ _ hone => cases hcommand.symm.trans hone
    | separator => contradiction
    | command _ _ _ hread' => exact hcommands _ _ _ _ hread hread'

/-! ## Arguments told apart -/

theorem Grammar.eq_nil_of_tellApart {args : List String} (h : g.tellApart args = .ok []) :
    args = [] := by
  rw [tellApart.eq_def] at h
  split at h
  · rfl
  · cases Except.ok.inj h
  · split at h
    · contradiction
    · obtain ⟨_, _, hcons⟩ := eq_ok_of_map h
      contradiction

/-- The first argument that was told apart is the double dash or one of its own kind. -/
theorem Grammar.tellApart_eq_cons {args : List String} {first : Argument α}
    {told : List (Argument α)} (h : g.tellApart args = .ok (first :: told)) :
    ∃ arg rest, args = arg :: rest
      ∧ ((arg = "--" ∧ first = ("--", .separator) ∧ told = rest.map (·, .operand))
        ∨ (arg ≠ "--" ∧ ∃ kind, first = (arg, kind) ∧ g.kindOf arg = .ok kind
          ∧ g.tellApart rest = .ok told)) := by
  rw [tellApart.eq_def] at h
  split at h
  · cases Except.ok.inj h
  · next rest =>
    obtain ⟨rfl, rfl⟩ := List.cons.inj (Except.ok.inj h)
    exact ⟨_, rest, rfl, .inl ⟨rfl, rfl, rfl⟩⟩
  · next arg rest hne =>
    split at h
    · contradiction
    · next kind hkind =>
      obtain ⟨told', hrest, hcons⟩ := eq_ok_of_map h
      obtain ⟨rfl, rfl⟩ := List.cons.inj hcons
      exact ⟨arg, rest, rfl, .inr ⟨hne, kind, rfl, hkind, hrest⟩⟩

/-- Before the double dash there are operands, and options, which start with a dash. -/
theorem Grammar.operand_or_option {arg : String} {kind : Kind α} (h : g.kindOf arg = .ok kind) :
    kind = .operand ∨ ∃ given, kind = .option given ∧ arg.length ≠ 0 := by
  unfold kindOf at h
  split at h
  · exact .inl (Except.ok.inj h).symm
  · next hdash =>
    have hlength : arg.length ≠ 0 := by
      intro hlength
      rw [String.length_eq_zero_iff.mp hlength] at hdash
      exact hdash rfl
    -- the two places that look for a shortened name share this argument
    have hshortened : Grammar.kindOf.shortened g arg = .ok kind →
        kind = .operand ∨ ∃ given, kind = .option given ∧ arg.length ≠ 0 := by
      intro hshortened
      unfold Grammar.kindOf.shortened at hshortened
      split at hshortened
      · exact .inr ⟨_, (Except.ok.inj hshortened).symm, hlength⟩
      · split at hshortened
        · exact .inl (Except.ok.inj hshortened).symm
        · exact .inr ⟨_, (Except.ok.inj hshortened).symm, hlength⟩
      · contradiction
    split at h
    · exact .inr ⟨_, (Except.ok.inj h).symm, hlength⟩
    · split at h
      · exact .inl (Except.ok.inj h).symm
      · split at h
        · split at h
          · exact .inr ⟨_, (Except.ok.inj h).symm, hlength⟩
          · exact hshortened h
        · exact hshortened h

theorem Grammar.map_fst_of_tellApart {args : List String} {told : List (Argument α)}
    (h : g.tellApart args = .ok told) : told.map Prod.fst = args := by
  induction told generalizing args with
  | nil => rw [eq_nil_of_tellApart h, List.map_nil]
  | cons first told ih =>
    obtain ⟨arg, rest, rfl, ⟨rfl, rfl, rfl⟩ | ⟨-, kind, rfl, -, hrest⟩⟩ := tellApart_eq_cons h
    · simp [Function.comp_def]
    · rw [List.map_cons, ih hrest]

theorem not_isOption_operands (args : List String) :
    (args.map (·, Kind.operand) : List (Argument α)).any isOption = false := by
  induction args with
  | nil => rfl
  | cons _ args ih => exact ih

theorem dropWhile_isSeparator_operands (args : List String) :
    (args.map (·, Kind.operand) : List (Argument α)).dropWhile isSeparator
      = args.map (·, Kind.operand) := by
  cases args with
  | nil => rfl
  | cons _ args => rfl

/-- If only double dashes are left, there is one at most. -/
theorem Grammar.eq_separator_of_dropWhile {args : List String} {told : List (Argument α)}
    (htold : g.tellApart args = .ok told) (h : told.dropWhile isSeparator = []) :
    args = [] ∨ args = ["--"] := by
  cases told with
  | nil => exact .inl (eq_nil_of_tellApart htold)
  | cons first told =>
    obtain ⟨arg, rest, rfl, ⟨rfl, rfl, rfl⟩ | ⟨-, kind, rfl, hkind, -⟩⟩ := tellApart_eq_cons htold
    · rw [List.dropWhile_cons_of_pos rfl, dropWhile_isSeparator_operands] at h
      rw [List.map_eq_nil_iff.mp h]
      exact .inr rfl
    · rcases operand_or_option hkind with rfl | ⟨given, rfl, -⟩ <;> cases h

/-- In front of an option there is no double dash. -/
theorem Grammar.dropWhile_isSeparator_of_any {args : List String} {told : List (Argument α)}
    (htold : g.tellApart args = .ok told) (h : told.any isOption = true) :
    told.dropWhile isSeparator = told := by
  cases told with
  | nil => rfl
  | cons first told =>
    obtain ⟨arg, rest, rfl, ⟨rfl, rfl, rfl⟩ | ⟨-, kind, rfl, hkind, -⟩⟩ := tellApart_eq_cons htold
    · rw [List.any_cons, not_isOption_operands] at h
      cases h
    · rcases operand_or_option hkind with rfl | ⟨given, rfl, -⟩ <;> rfl

/-! ## Options -/

/-- What an option with the arguments after it comes to: the arguments that are left, and its
    settings. -/
inductive Grammar.Takes (o : OptionForm α) (name : String) :
    Option String → List (Argument α) → List (Argument α) → List α → Prop
  | flag {setting : String → α} (huse : o.use = .flag setting) (rest : List (Argument α)) :
    Takes o name none rest rest [setting name]
  | inline {read : String → Except String α} {bare a : α} {value : String}
    (huse : o.use = .value read bare)
    (hread : (if value = "--" then .ok bare else read value) = .ok a)
    (rest : List (Argument α)) : Takes o name (some value) rest rest [a]
  | next {read : String → Except String α} {bare a : α} {value : String}
    (huse : o.use = .value read bare)
    (hread : (if value = "--" then .ok bare else read value) = .ok a)
    (rest : List (Argument α)) : Takes o name none ((value, .operand) :: rest) rest [a]

theorem takesValue_of_flag {o : OptionForm α} {setting : String → α}
    (huse : o.use = .flag setting) : o.takesValue = false := by
  unfold OptionForm.takesValue
  rw [huse]

theorem takesValue_of_value {o : OptionForm α} {read : String → Except String α} {bare : α}
    (huse : o.use = .value read bare) : o.takesValue = true := by
  unfold OptionForm.takesValue
  rw [huse]

/-- An option alone has one setting. -/
theorem Grammar.eq_singleton_of_settingsOf {u : Use α} {settings : List α}
    (h : g.settingsOf [u] = .ok settings) :
    (∃ setting, u.form.use = .flag setting ∧ settings = [setting u.name])
      ∨ ∃ read bare a, u.form.use = .value read bare
        ∧ (if u.value = some "--" then .ok bare else read (u.value.getD "")) = .ok a
        ∧ settings = [a] := by
  unfold settingsOf at h
  split at h
  · contradiction
  · next setting huse =>
    obtain ⟨_, hnil, rfl⟩ := eq_ok_of_map h
    obtain rfl := Except.ok.inj hnil
    exact .inl ⟨setting, huse, rfl⟩
  · next read bare huse =>
    split at h
    · contradiction
    · next a hread =>
      obtain ⟨_, hnil, rfl⟩ := eq_ok_of_map h
      obtain rfl := Except.ok.inj hnil
      exact .inr ⟨read, bare, a, huse, hread, rfl⟩

/-- An option whose name has more than one letter, or that takes a value or asks for help,
    shares its argument with no other. -/
theorem Grammar.takes_of_take {fuel : Nat} {o : OptionForm α} {name : String}
    {value : Option String} {rest : List (Argument α)} {t : Taken α} {settings : List α}
    (hletters : ∀ setting, o.use = .flag setting → startsWith name "--" = true)
    (htake : g.take rest (fuel + 1) o name value = .ok t)
    (hsettings : g.settingsOf t.uses = .ok settings) : Takes o name value rest t.rest settings := by
  unfold take at htake
  split at htake
  · next text htakes =>
    obtain rfl := Except.ok.inj htake
    obtain ⟨setting, huse, -⟩ | ⟨read, bare, a, huse, hread, rfl⟩ :=
      eq_singleton_of_settingsOf hsettings
    · cases htakes.symm.trans (takesValue_of_flag huse)
    · refine .inline huse ?_ rest
      simpa using hread
  · next text htakes =>
    -- only a flag or a call for help may be followed by more letters
    dsimp only at htake
    split at htake
    · contradiction
    · next o' hoption =>
      obtain ⟨t', -, rfl⟩ := eq_ok_of_map htake
      unfold settingsOf at hsettings
      split at hsettings
      · contradiction
      · next setting huse =>
        rw [hletters setting huse] at hoption
        contradiction
      · next read bare huse => cases htakes.symm.trans (takesValue_of_value huse)
  · next htakes =>
    split at htake
    · obtain rfl := Except.ok.inj htake
      obtain ⟨setting, huse, -⟩ | ⟨read, bare, a, huse, hread, rfl⟩ :=
        eq_singleton_of_settingsOf hsettings
      · cases htakes.symm.trans (takesValue_of_flag huse)
      · refine .next huse ?_ _
        simpa using hread
    · contradiction
  · next htakes =>
    obtain rfl := Except.ok.inj htake
    obtain ⟨setting, huse, rfl⟩ | ⟨read, bare, a, huse, hread, rfl⟩ :=
      eq_singleton_of_settingsOf hsettings
    · exact .flag huse rest
    · cases htakes.symm.trans (takesValue_of_value huse)

/-! ## Operands -/

/-- What is asked of a grammar: no option without a value has a name of one letter, so that no
    two options share an argument; and what a command reads is what `commands` says. -/
structure Grammar.IsPlain (g : Grammar α) (commands : String → List String → List α → Prop) :
    Prop where
  letters : ∀ name o setting, (name, o) ∈ g.names → o.use = .flag setting →
    startsWith name "--" = true
  command : ∀ name names read, g.operands = .command name names read → "--" ∉ names
    ∧ ∀ first rest settings, first ∈ names → read first rest = .ok ⟨settings, []⟩ →
      commands first rest settings

/-- What operands at the start of some arguments come to: what is set, and the arguments that
    are left. -/
inductive Grammar.Consumes (g : Grammar α) (commands : String → List String → List α → Prop) :
    List String → List (Argument α) → List α → List (Argument α) → Prop
  /-- Nothing is taken. -/
  | nothing (args : List String) (told : List (Argument α)) : Consumes g commands args told [] told
  /-- One operand, and double dashes after it. -/
  | operand {arg name : String} {read : String → α} {rest : List String}
    {told : List (Argument α)} (harg : arg ≠ "--") (hkind : g.kindOf arg = .ok .operand)
    (hone : g.operands = .one name read) (htold : g.tellApart rest = .ok told) :
    Consumes g commands (arg :: rest) ((arg, .operand) :: told) [read arg]
      (told.dropWhile isSeparator)
  /-- One operand behind the double dash. -/
  | separator {name : String} {read : String → α} (hone : g.operands = .one name read)
    (arg : String) (rest : List String) : Consumes g commands ("--" :: arg :: rest)
      (("--", .separator) :: (arg, .operand) :: rest.map (·, .operand)) [read arg]
      (rest.map (·, .operand))
  /-- A command with all arguments after it. -/
  | command {args : List String} {told : List (Argument α)} {settings : List α}
    (hreads : g.Reads commands args settings) : Consumes g commands args told settings []

/-- **Operands are taken** in one of these ways. -/
theorem Grammar.consumes_of_consume (hplain : g.IsPlain commands) {complete : Bool}
    {args : List String} {told : List (Argument α)} {c : Consumed α}
    (htold : g.tellApart args = .ok told) (h : g.consume complete told = .ok c)
    (hextras : c.parsed.extras = []) :
    g.Consumes commands args told c.parsed.settings c.rest := by
  unfold consume at h
  dsimp only at h
  split at h
  · obtain rfl := Except.ok.inj h
    exact .nothing args told
  · next hstart =>
    cases told with
    | nil => simp at hstart
    | cons first told =>
    obtain ⟨arg, rest, rfl, ⟨rfl, rfl, rfl⟩ | ⟨hne, kind, rfl, hkind, hrest⟩⟩ :=
      tellApart_eq_cons htold
    · -- behind the double dash there are operands only
      rw [List.dropWhile_cons_of_pos rfl, dropWhile_isSeparator_operands] at h hstart
      split at h
      · obtain rfl := Except.ok.inj h
        exact .nothing _ _
      · next name read hone =>
        obtain rfl := Except.ok.inj h
        cases rest with
        | nil => simp at hstart
        | cons arg rest =>
          change g.Consumes commands ("--" :: arg :: rest)
            (("--", .separator) :: (arg, .operand) :: rest.map (·, .operand)) [read arg]
            ((rest.map (·, Kind.operand)).dropWhile isSeparator)
          rw [dropWhile_isSeparator_operands]
          exact .separator hone arg rest
      · next name names read hcommand =>
        have hdash := (hplain.command _ _ _ hcommand).1
        rw [if_neg (by simpa using hdash)] at h
        contradiction
    -- the first argument is not the double dash
    · obtain rfl | ⟨given, rfl, -⟩ := operand_or_option hkind
      · rw [List.dropWhile_cons_of_neg (by simp [isSeparator])] at h
        split at h
        · obtain rfl := Except.ok.inj h
          exact .nothing _ _
        · next name read hone =>
          obtain rfl := Except.ok.inj h
          exact .operand hne hkind hone hrest
        · next name names read hcommand =>
          have hargs := map_fst_of_tellApart hrest
          rw [List.map_cons, List.head?_cons, Option.getD_some, List.drop_one, List.tail_cons,
            hargs] at h
          split at h
          · next hfirst =>
            obtain ⟨⟨settings, extras⟩, hread, rfl⟩ := eq_ok_of_map h
            obtain rfl : extras = [] := hextras
            have hmade := (hplain.command _ _ _ hcommand).2 _ _ _ (by simpa using hfirst) hread
            exact .command (.command hne hkind hcommand hmade)
          · contradiction
      · simp [isSeparator, isOperand] at hstart

theorem Grammar.eq_nil_of_append {p q : Parsed α} {settings : List α}
    (h : p.append q = ⟨settings, []⟩) :
    p.extras = [] ∧ q = ⟨q.settings, []⟩ ∧ settings = p.settings ++ q.settings := by
  obtain ⟨hsettings, hextras⟩ := Parsed.mk.inj h
  obtain ⟨hp, hq⟩ := List.append_eq_nil_iff.mp hextras
  refine ⟨hp, ?_, hsettings.symm⟩
  rw [← hq]

/-- Operands of which nothing is left are all there is. -/
theorem Grammar.Consumes.reads {args : List String} {told left : List (Argument α)}
    {settings : List α} (h : g.Consumes commands args told settings left)
    (htold : g.tellApart args = .ok told) (hleft : left = []) : g.Reads commands args settings := by
  cases h with
  | nothing =>
    rw [hleft] at htold
    rw [eq_nil_of_tellApart htold]
    exact .nil
  | operand harg hkind hone hrest =>
    refine .operand harg hkind hone ?_
    obtain rfl | rfl := eq_separator_of_dropWhile hrest hleft
    · exact .nil
    · exact .separator hone []
  | separator hone arg rest =>
    obtain rfl := List.map_eq_nil_iff.mp hleft
    exact .separator hone [arg]
  | command hreads => exact hreads

theorem Grammar.reads_of_finish (hplain : g.IsPlain commands) {complete : Bool}
    {args : List String} {told : List (Argument α)} {settings : List α}
    (htold : g.tellApart args = .ok told) (h : g.finish complete told = .ok ⟨settings, []⟩) :
    g.Reads commands args settings := by
  unfold finish at h
  split at h
  · contradiction
  · next c hconsume =>
    split at h
    · contradiction
    · obtain ⟨hextras, hrest, rfl⟩ := eq_nil_of_append (Except.ok.inj h)
      have hleft : c.rest = [] := List.map_eq_nil_iff.mp (Parsed.mk.inj hrest).2
      rw [List.append_nil]
      exact (consumes_of_consume hplain htold hconsume hextras).reads htold hleft

/-! ## Whole command lines -/

/-- Operands in front of an option are read before what follows them. -/
theorem Grammar.Consumes.reads_append {args : List String} {told left : List (Argument α)}
    {settings after : List α} (h : g.Consumes commands args told settings left)
    (htold : g.tellApart args = .ok told) (hoption : told.any isOption = true)
    (hless : left.length < told.length)
    (hafter : ∀ rest, g.tellApart rest = .ok left → g.Reads commands rest after) :
    g.Reads commands args (settings ++ after) := by
  cases h with
  | nothing => exact absurd hless (Nat.lt_irrefl _)
  | operand harg hkind hone hrest =>
    rw [dropWhile_isSeparator_of_any hrest hoption] at hafter
    exact .operand harg hkind hone (hafter _ hrest)
  | separator hone arg rest =>
    have hnone := not_isOption_operands (α := α) (arg :: rest)
    rw [List.map_cons] at hnone
    rw [List.any_cons, hnone] at hoption
    contradiction
  | command hreads =>
    cases hafter [] rfl
    rw [List.append_nil]
    exact hreads

/-- An option, with its value if it has one, is read before what follows it. -/
theorem Grammar.Takes.reads_append {arg name : String} {o : OptionForm α} {value : Option String}
    {args : List String} {rest left : List (Argument α)} {made after : List α}
    (h : Takes o name value rest left made) (harg : arg ≠ "--")
    (hkind : g.kindOf arg = .ok (.option ⟨some o, name, value⟩))
    (hrest : g.tellApart args = .ok rest)
    (hafter : ∀ args, g.tellApart args = .ok left → g.Reads commands args after) :
    g.Reads commands (arg :: args) (made ++ after) := by
  cases h with
  | flag huse => exact .flag harg hkind huse (hafter _ hrest)
  | inline huse hread => exact .inline harg hkind huse hread (hafter _ hrest)
  | next huse hread =>
    obtain ⟨text, args, rfl, ⟨-, heq, -⟩ | ⟨hne, kind, heq, -, hleft⟩⟩ := tellApart_eq_cons hrest
    · cases heq
    obtain ⟨rfl, -⟩ := Prod.mk.inj heq
    rw [if_neg hne] at hread
    exact .next harg hkind huse hne hread (hafter _ hleft)

/-- In front of an option, what is no option is left over. -/
theorem takeWhile_ne_nil {told : List (Argument α)} (hoption : told.any isOption = true)
    (hfirst : ∀ arg given rest, told = (arg, .option given) :: rest → False) :
    told.takeWhile (!isOption ·) ≠ [] := by
  cases told with
  | nil => contradiction
  | cons first told =>
    obtain ⟨arg, kind⟩ := first
    cases kind with
    | option given => exact (hfirst arg given told rfl).elim
    | operand => simp [isOption]
    | separator => simp [isOption]

/-- **Arguments used from left to right** are read one part after the other, if nothing is
    left over. -/
theorem Grammar.reads_of_use (hplain : g.IsPlain commands) {fuel : Nat} {complete : Bool}
    {args : List String} {told : List (Argument α)} {settings : List α}
    (htold : g.tellApart args = .ok told) (h : g.use fuel complete told = .ok ⟨settings, []⟩) :
    g.Reads commands args settings := by
  -- the induction is on the fuel, which every round spends on a nonempty argument
  induction fuel generalizing complete args told settings with
  | zero => exact reads_of_finish hplain htold h
  | succ fuel ih =>
    unfold use at h
    split at h
    · exact reads_of_finish hplain htold h
    · next hoption =>
      split at h
      · next first given rest =>
        obtain ⟨arg, args, rfl, ⟨-, heq, -⟩ | ⟨hne, kind, heq, hkind, hrest⟩⟩ :=
          tellApart_eq_cons htold
        -- a double dash is never in front here, it would have been skipped
        · cases heq
        obtain ⟨rfl, rfl⟩ := Prod.mk.inj heq
        obtain hoperand | ⟨_, -, hlength⟩ := operand_or_option hkind
        · cases hoperand
        split at h
        · obtain ⟨q, -, hq⟩ := eq_ok_of_map h
          cases (eq_nil_of_append hq).1
        · next o hform =>
          split at h
          · contradiction
          · next t htake =>
            split at h
            · contradiction
            · next made hmade =>
              obtain ⟨q, huse, happend⟩ := eq_ok_of_map h
              obtain ⟨-, hq, rfl⟩ := eq_nil_of_append happend
              rw [hq] at huse
              obtain ⟨hname, -⟩ := knows_of_kindOf hkind given o rfl hform
              -- the fuel for the letters of one argument is that argument's length
              obtain ⟨n, hn⟩ := Nat.exists_eq_succ_of_ne_zero hlength
              rw [hn] at htake
              have htakes := takes_of_take (fun setting => hplain.letters _ _ setting hname)
                htake hmade
              obtain ⟨form, name, value⟩ := given
              obtain rfl : form = some o := hform
              exact htakes.reads_append hne hkind hrest fun args hleft => ih hleft huse
      -- operands stand in front of the next option
      · next hfirst =>
        have hany : told.any isOption = true := by simpa using hoption
        split at h
        · contradiction
        · next c hconsume =>
          split at h
          · next hless =>
            obtain ⟨q, huse, happend⟩ := eq_ok_of_map h
            obtain ⟨hextras, hq, rfl⟩ := eq_nil_of_append happend
            rw [hq] at huse
            have hconsumes := consumes_of_consume hplain htold hconsume hextras
            exact hconsumes.reads_append htold hany hless fun rest hrest => ih hrest huse
          · -- nothing is taken, and the first argument is left over
            obtain ⟨q, -, happend⟩ := eq_ok_of_map h
            have hbefore := List.map_eq_nil_iff.mp (eq_nil_of_append happend).1
            exact absurd hbefore (takeWhile_ne_nil hany hfirst)

/-- **A command line of which nothing is left over** is read from left to right. -/
theorem Grammar.reads_of_readSome (hplain : g.IsPlain commands) {args : List String}
    {settings : List α} (h : g.readSome args = .ok ⟨settings, []⟩) :
    g.Reads commands args settings := by
  unfold readSome at h
  split at h
  · contradiction
  · next told htold => exact reads_of_use hplain htold h

theorem Grammar.reads_of_read (hplain : g.IsPlain commands) {args : List String}
    {settings : List α} (h : g.read args = .ok settings) : g.Reads commands args settings := by
  unfold read at h
  split at h
  · contradiction
  · next settings' hread =>
    obtain rfl := Except.ok.inj h
    exact reads_of_readSome hplain hread
  · contradiction

end SourceCheck.CommandLine
