import SourceCheck.Proofs.Command.Answers
import SourceCheck.Proofs.Command.LeftToRight

/-! # The last option counts

    Options may come again, contradict each other, and stand before the command and after it.
    What counts is the last occurrence in the whole command line: for the form and the level of
    the log, and for each option of a check on its own.  An option of a check that does not
    occur is that of the file, and the options that no argument can change are those of the
    file in any case (`readRequest_lastCounts`).

    A value is dropped where it is a double dash behind an equals sign.  Then the log is left
    to the environment (`not_readRequest_lastCounts`). -/

namespace SourceCheck.CommandLine

open SourceCheck SourceCheck.Text

/-! ## The arguments of the program -/

/-- A command has no commands after it. -/
def noCommands (_ : String) (_ : List String) (_ : List Setting) : Prop := False

/-- A command, and what its own arguments set. -/
inductive CommandReads : String → List String → List Setting → Prop
  | command {name : String} {g : Grammar Setting} {rest : List String} {settings : List Setting}
    (hname : commands.lookup name = some g) (hreads : g.Reads noCommands rest settings) :
    CommandReads name rest (.command name :: settings)

/-- A command line sets this, one part after the other. -/
def LineReads (args : List String) (settings : List Setting) : Prop :=
  programGrammar.Reads CommandReads args settings

theorem LineReads.unique {args : List String} {s s' : List Setting} (h : LineReads args s)
    (h' : LineReads args s') : s = s' := by
  refine Grammar.Reads.unique ?_ h h'
  rintro name rest _ _ ⟨hname, hreads⟩ ⟨hname', hreads'⟩
  obtain rfl := Option.some.inj (hname.symm.trans hname')
  rw [hreads.unique (fun _ _ _ _ hnone => hnone.elim) hreads']

/-- All options without a value have long names. -/
def Grammar.hasLongFlags (g : Grammar Setting) : Bool :=
  g.names.all fun (name, o) =>
    match o.use with
    | .flag _ => startsWith name "--"
    | _ => true

theorem startsWith_of_hasLongFlags {g : Grammar Setting} (h : g.hasLongFlags = true)
    {name : String} {o : OptionForm Setting} {setting : String → Setting}
    (hname : (name, o) ∈ g.names) (huse : o.use = .flag setting) :
    startsWith name "--" = true := by
  have hall := List.all_eq_true.mp h _ hname
  dsimp only at hall
  rwa [huse] at hall

theorem isPlain_of_lookup {name : String} {g : Grammar Setting}
    (h : commands.lookup name = some g) : g.IsPlain noCommands := by
  obtain ⟨-, rfl⟩ | ⟨-, rfl⟩ := eq_of_lookup_commands h
  · exact ⟨fun _ _ _ => startsWith_of_hasLongFlags (by decide +kernel), nofun⟩
  · exact ⟨fun _ _ _ => startsWith_of_hasLongFlags (by decide +kernel), nofun⟩

theorem commandReads_of_readCommand {name : String} {rest : List String}
    {settings : List Setting} (hname : name ∈ commands.map (·.1))
    (h : readCommand name rest = .ok ⟨settings, []⟩) : CommandReads name rest settings := by
  unfold readCommand at h
  split at h
  · next g hg =>
    obtain ⟨q, hread, happend⟩ := eq_ok_of_map h
    obtain ⟨-, hq, rfl⟩ := Grammar.eq_nil_of_append happend
    rw [hq] at hread
    exact .command hg (Grammar.reads_of_readSome (isPlain_of_lookup hg) hread)
  · next hnone =>
    obtain ⟨p, hp, rfl⟩ := List.mem_map.mp hname
    exact absurd (List.lookup_eq_none_iff.mp hnone p hp) (by simp)

theorem isPlain_programGrammar : programGrammar.IsPlain CommandReads where
  letters _ _ _ := startsWith_of_hasLongFlags (by decide +kernel)
  command name names read hcommand := by
    obtain ⟨-, rfl, rfl⟩ := Operands.command.inj hcommand
    exact ⟨by decide, fun _ _ _ => commandReads_of_readCommand⟩

/-! ## The last setting that says something -/

/-- What the last setting says that says something, and a default if none does. -/
inductive LastOr {β : Type} (tells : Setting → Option β) (settings : List Setting) (default : β) :
    β → Prop
  | last {before after : List Setting} {a : Setting} {b : β}
    (hsettings : settings = before ++ a :: after) (htells : tells a = some b)
    (hafter : ∀ a' ∈ after, tells a' = none) : LastOr tells settings default b
  | default (hnone : ∀ a ∈ settings, tells a = none) : LastOr tells settings default default

theorem lastOr_lastOf {β : Type} (tells : Setting → Option β) (settings : List Setting) (b : β) :
    LastOr tells settings b ((lastOf tells settings).getD b) := by
  cases h : lastOf tells settings with
  | none =>
    refine .default fun a ha => ?_
    exact List.findSome?_eq_none_iff.mp h a (List.mem_reverse.mpr ha)
  | some b' =>
    obtain ⟨after, a, before, hreverse, htells, hafter⟩ := List.findSome?_eq_some_iff.mp h
    have hsettings : settings = before.reverse ++ a :: after.reverse := by
      rw [← List.reverse_reverse settings, hreverse]
      simp
    exact .last hsettings htells fun a' ha' => hafter a' (List.mem_reverse.mp ha')

theorem LastOr.eq {β : Type} {tells : Setting → Option β} {settings : List Setting} {d b : β}
    (h : LastOr tells settings d b) : b = (lastOf tells settings).getD d := by
  unfold lastOf
  cases h with
  | last hsettings htells hafter =>
    have hnone := List.findSome?_eq_none_iff.mpr fun a ha => hafter a (List.mem_reverse.mp ha)
    rw [hsettings, List.reverse_append, List.reverse_cons, List.append_assoc,
      List.findSome?_append, hnone]
    simp [htells]
  | default hnone =>
    rw [List.findSome?_eq_none_iff.mpr fun a ha => hnone a (List.mem_reverse.mp ha)]
    rfl

theorem lastOf_map {β γ : Type} {tells : Setting → Option β} {tells' : Setting → Option γ}
    {f : β → γ} (h : ∀ a, tells' a = (tells a).map f) (settings : List Setting) :
    lastOf tells' settings = (lastOf tells settings).map f := by
  rw [lastOf, lastOf, List.map_findSome?]
  exact congrArg (List.findSome? · _) (funext h)

/-! ## The log -/

/-- What a setting says about the form of the log. -/
def Setting.logFormat? : Setting → Option (Option Log.Format)
  | .logFormat f => some f
  | _ => none

/-- What a setting says about the level of the log. -/
def Setting.logLevel? : Setting → Option (Option Log.Level)
  | .logLevel l => some l
  | _ => none

/-- The form of the log, and that of the environment where it is missing. -/
def formatIn (vs : Variables) : Option Log.Format → Except Log.SetupFault Log.Format
  | some f => .ok f
  | none => Log.readFormat ((vs.nonEmpty? Log.formatVariable).getD Log.Format.text.name)

/-- The level of the log, and that of the environment where it is missing. -/
def levelIn (vs : Variables) : Option Log.Level → Log.Level
  | some l => l
  | none => (Log.Level.read? ((vs.nonEmpty? Log.levelVariable).getD Log.Level.info.name)).getD .info

/-- A level that is set is one that can be chosen. -/
def SetsChoice : Setting → Prop
  | .logLevel (some l) => l ∈ Log.Level.choices
  | _ => True

theorem holdsOfSettings_setsChoice : HoldsOfSettings SetsChoice where
  level _ hl := hl
  timeout word a hread := by
    unfold readTimeout at hread
    split at hread
    · contradiction
    · split at hread
      · contradiction
      · obtain rfl := Except.ok.inj hread
        trivial
  others a hlevel _ := by
    cases a with
    | logLevel l =>
      cases l with
      | none => trivial
      | some l => exact absurd rfl (hlevel l)
    | _ => trivial

/-- A level that is asked for is one that can be chosen. -/
theorem level_of_read {args : List String} {settings : List Setting}
    (hread : programGrammar.read args = .ok settings) :
    ∀ l, (logRequest settings).level = some l → l ∈ Log.Level.choices := by
  intro l hl
  change (lastOf Setting.logLevel? settings).getD (some .warning) = some l at hl
  cases hlast : lastOf Setting.logLevel? settings with
  | none =>
    rw [hlast] at hl
    -- without the option the default holds, which is one of the choices
    obtain rfl := Option.some.inj hl
    decide
  | some level =>
    rw [hlast] at hl
    obtain rfl : level = some l := hl
    obtain ⟨a, ha, htells⟩ := exists_of_lastOf hlast
    have hchoice := holds_of_read holdsOfSettings_setsChoice hread a ha
    cases a with
    | logLevel level =>
      obtain rfl := Option.some.inj htells
      exact hchoice
    | _ => contradiction

theorem readFormat_name (f : Log.Format) : Log.readFormat f.name = .ok f := by
  have hread : Log.Format.read? f.name = some f := by cases f <;> decide +kernel
  unfold Log.readFormat
  rw [hread]

theorem read?_name {l : Log.Level} (h : l ∈ Log.Level.choices) :
    Log.Level.read? l.name = some l := by
  revert l
  decide +kernel

/-- A form and a level that are given are set up, whatever the environment says. -/
theorem setup_eq {log : LogRequest} (h : ∀ l, log.level = some l → l ∈ Log.Level.choices)
    (vs : Variables) :
    log.setup vs = (formatIn vs log.format).map (⟨·, levelIn vs log.level⟩) := by
  obtain ⟨format, level⟩ := log
  have hformat : Log.readFormat ((Log.nonEmpty (format.map Log.Format.name)
      <|> vs.nonEmpty? Log.formatVariable).getD Log.Format.text.name) = formatIn vs format := by
    cases format with
    | none => rfl
    | some f =>
      -- a format's name is never empty, so it wins over the variable
      rw [Option.map_some, show Log.nonEmpty (some f.name) = some f.name by cases f <;> rfl]
      exact readFormat_name f
  have hlevel : (Log.Level.read? ((Log.nonEmpty (level.map Log.Level.name)
      <|> vs.nonEmpty? Log.levelVariable).getD Log.Level.info.name)).getD .info
        = levelIn vs level := by
    cases level with
    | none => rfl
    | some l =>
      rw [Option.map_some, show Log.nonEmpty (some l.name) = some l.name by cases l <;> rfl]
      rw [Option.orElse_eq_orElse, Option.orElse_some, Option.getD_some, read?_name (h l rfl)]
      rfl
  unfold LogRequest.setup Log.setup
  dsimp only
  rw [hformat, hlevel]

/-! ## The options of a check -/

/-- The option that switches a check on. -/
def Switch.option : Switch → String
  | .build => "build_on_save"
  | .lint => "lint_on_save"
  | .vet => "vet_on_save"
  | .cover => "cover_on_save"

/-- The option of a check that a setting changes, and its new value: an empty list for a time
    limit without its number of seconds. -/
def Setting.change? : Setting → Option (String × Value)
  | .switch s on => some (s.option, .bool on)
  | .linter name => some ("linter", .text name)
  | .timeout (some s) => some ("tool_timeout", s.toValue)
  | .timeout none => some ("tool_timeout", .list [])
  | _ => none

/-- The value that a setting gives to an option of a check. -/
def Setting.valueOf? (name : String) (a : Setting) : Option Value :=
  a.change?.bind fun (changed, v) => if changed = name then some v else none

/-- The options that arguments can change. -/
def changedOptions : List String :=
  ["build_on_save", "lint_on_save", "linter", "vet_on_save", "cover_on_save", "tool_timeout"]

theorem mem_changedOptions {a : Setting} {name : String} {v : Value}
    (h : a.change? = some (name, v)) : name ∈ changedOptions := by
  unfold Setting.change? at h
  split at h
  · next s on =>
    rw [← (Prod.mk.inj (Option.some.inj h)).1]
    cases s <;> decide
  · rw [← (Prod.mk.inj (Option.some.inj h)).1]
    decide
  · rw [← (Prod.mk.inj (Option.some.inj h)).1]
    decide
  · rw [← (Prod.mk.inj (Option.some.inj h)).1]
    decide
  · contradiction

variable (settings : List Setting) (o : Options)

theorem value_switch (s : Switch) :
    ((checkRequest settings).optionsOn o).toNamed.value s.option
      = (lastOf (Setting.valueOf? s.option) settings).getD (o.toNamed.value s.option) := by
  have hlast : lastOf (Setting.valueOf? s.option) settings = (switched s settings).map .bool := by
    refine lastOf_map (fun a => ?_) settings
    cases a with
    | switch t on => cases s <;> cases t <;> rfl
    | timeout t => cases s <;> cases t <;> rfl
    | linter name => cases s <;> rfl
    | _ => rfl
  rw [hlast]
  unfold CheckRequest.optionsOn
  dsimp only
  cases s <;> split <;> exact (Option.getD_map Value.bool _ _).symm

theorem value_linter :
    ((checkRequest settings).optionsOn o).toNamed.value "linter"
      = (lastOf (Setting.valueOf? "linter") settings).getD (o.toNamed.value "linter") := by
  have hlast : lastOf (Setting.valueOf? "linter") settings
      = (overridesOf settings).linter.map .text := by
    refine lastOf_map (fun a => ?_) settings
    cases a with
    | switch t on => cases t <;> rfl
    | timeout t => cases t <;> rfl
    | _ => rfl
  rw [hlast]
  unfold CheckRequest.optionsOn
  dsimp only
  split <;> exact (Option.getD_map Value.text _ _).symm

/-- A time limit as a value: an empty list if it lacks its number of seconds. -/
def limitValue : Option Seconds → Value
  | some s => s.toValue
  | none => .list []

theorem value_timeout :
    ((checkRequest settings).optionsOn o).toNamed.value "tool_timeout"
      = (lastOf (Setting.valueOf? "tool_timeout") settings).getD
        (o.toNamed.value "tool_timeout") := by
  have hlast : lastOf (Setting.valueOf? "tool_timeout") settings
      = (lastTimeout settings).map limitValue := by
    refine lastOf_map (fun a => ?_) settings
    cases a with
    | switch t on => cases t <;> rfl
    | timeout t => cases t <;> rfl
    | _ => rfl
  rw [hlast]
  have hlacks : (checkRequest settings).lacksTimeout = decide (lastTimeout settings = some none) :=
    rfl
  unfold CheckRequest.optionsOn
  dsimp only
  rw [hlacks]
  -- three cases: the option is absent, lost its value to the double dash, or has a number
  cases hlimit : lastTimeout settings with
  | none =>
    rw [if_neg (by simp)]
    have hnone : (checkRequest settings).overrides.timeout = none :=
      congrArg (Option.getD · none) hlimit
    change Options.timeoutValue ((checkRequest settings).overrides.timeout <|> o.timeout) = _
    rw [hnone]
    rfl
  | some t =>
    cases t with
    | none =>
      rw [if_pos (by simp)]
      rfl
    | some s =>
      rw [if_neg (by simp)]
      have hsome : (checkRequest settings).overrides.timeout = some s :=
        congrArg (Option.getD · none) hlimit
      change Options.timeoutValue ((checkRequest settings).overrides.timeout <|> o.timeout) = _
      rw [hsome]
      rfl

section Lookup

variable {name : String} {members members' : List (String × Value)}

theorem lookup_skip {key : String} {v v' : Value} (h : key ≠ name)
    (hrest : Value.lookup name members = Value.lookup name members') :
    Value.lookup name ((key, v) :: members) = Value.lookup name ((key, v') :: members') := by
  rw [Value.lookup_cons_of_ne h, Value.lookup_cons_of_ne h, hrest]

theorem lookup_keep (m : String × Value)
    (hrest : Value.lookup name members = Value.lookup name members') :
    Value.lookup name (m :: members) = Value.lookup name (m :: members') := by
  rw [Value.lookup, Value.lookup, hrest]

end Lookup

omit settings o in
/-- Named options with another value for one name have the values they had under all others. -/
theorem value_override_of_ne {key name : String} (h : key ≠ name) (v : Value)
    (options : NamedOptions) :
    (options.override [(key, v)]).value name = options.value name := by
  suffices hlookup : Value.lookup name (options.override [(key, v)])
      = Value.lookup name options from congrArg (Option.getD · Value.null) hlookup
  unfold NamedOptions.override
  -- other members are kept or changed, but the looked up one is never the one changed
  induction options with
  | nil => rfl
  | cons m options ih =>
    obtain ⟨n, old⟩ := m
    rw [List.map_cons]
    dsimp only
    by_cases hn : n = name
    · subst hn
      rw [Value.lookup_cons_of_ne h]
      exact lookup_keep _ ih
    · split
      · split <;> exact lookup_skip hn ih
      · exact lookup_keep _ ih

theorem value_of_fixed {name : String} (h : name ∉ changedOptions) :
    ((checkRequest settings).optionsOn o).toNamed.value name = o.toNamed.value name := by
  have hne : ∀ changed ∈ changedOptions, changed ≠ name := by
    rintro changed hchanged rfl
    exact h hchanged
  simp only [changedOptions, List.forall_mem_cons] at hne
  obtain ⟨hbuild, hlint, hlinter, hvet, hcover, htimeout, -⟩ := hne
  -- the remaining overrides touch the members of `changedOptions` and no other
  have hoverride : ∀ c, (o.override c).toNamed.value name = o.toNamed.value name := by
    intro c
    refine congrArg (Option.getD · Value.null) ?_
    exact lookup_skip hbuild <| lookup_keep _ <| lookup_keep _ <| lookup_skip hlint <|
      lookup_skip hlinter <| lookup_keep _ <| lookup_skip hvet <| lookup_keep _ <|
      lookup_skip hcover <| lookup_skip htimeout rfl
  unfold CheckRequest.optionsOn
  dsimp only
  split
  · exact (value_override_of_ne htimeout _ _).trans (hoverride _)
  · exact hoverride _

/-- **Each option of a check** has the value of the last setting that changes it, else that of
    the file. -/
theorem value_optionsOn (name : String) :
    ((checkRequest settings).optionsOn o).toNamed.value name
      = (lastOf (Setting.valueOf? name) settings).getD (o.toNamed.value name) := by
  by_cases h : name ∈ changedOptions
  · simp only [changedOptions, List.mem_cons, List.not_mem_nil, or_false] at h
    -- one case per option the line can change
    obtain rfl | rfl | rfl | rfl | rfl | rfl := h
    · exact value_switch settings o .build
    · exact value_switch settings o .lint
    · exact value_linter settings o
    · exact value_switch settings o .vet
    · exact value_switch settings o .cover
    · exact value_timeout settings o
  · have hnone : lastOf (Setting.valueOf? name) settings = none := by
      refine List.findSome?_eq_none_iff.mpr fun a _ => ?_
      unfold Setting.valueOf?
      cases hchange : a.change? with
      | none => rfl
      | some change =>
        obtain ⟨changed, v⟩ := change
        have hne : changed ≠ name := by
          rintro rfl
          exact h (mem_changedOptions hchange)
        exact if_neg hne
    rw [hnone]
    exact value_of_fixed settings o h

/-! ## Requests -/

/-- How a request wants the log. -/
def Request.log? : Request → Option LogRequest
  | .version => none
  | .check log _ => some log
  | .init log _ => some log

theorem log_of_requestOf {settings : List Setting} {request : Request} {log : LogRequest}
    (h : requestOf settings = .ok request) (hlog : request.log? = some log) :
    log = logRequest settings := by
  unfold requestOf at h
  split at h
  · obtain rfl := Except.ok.inj h
    contradiction
  · split at h
    · contradiction
    · obtain rfl := Except.ok.inj h
      exact (Option.some.inj hlog).symm
    · obtain rfl := Except.ok.inj h
      exact (Option.some.inj hlog).symm

/-- **The last occurrence counts.**  A command line that is accepted sets something in one way
    only, part after part.  The log has the form and the level that were set last, before the
    command or after it, else text and warning; one whose value was dropped is left to the
    environment.  The checks run with the options of the file, but each that an argument can
    change has the value that was set last for it, if one was. -/
theorem readRequest_lastCounts {args : List String} {request : Request}
    (h : readRequest args = .ok request) :
    ∃ settings, (∀ s, LineReads args s ↔ s = settings)
      ∧ (∀ log, request.log? = some log → ∃ format level,
        LastOr Setting.logFormat? settings (some .text) format
          ∧ LastOr Setting.logLevel? settings (some .warning) level
          ∧ ∀ vs, log.setup vs = (formatIn vs format).map (⟨·, levelIn vs level⟩))
      ∧ ∀ log r, request = .check log r →
        (∀ o name, LastOr (Setting.valueOf? name) settings (o.toNamed.value name)
          ((r.optionsOn o).toNamed.value name))
        ∧ (∀ o, ∀ name ∉ changedOptions,
          (r.optionsOn o).toNamed.value name = o.toNamed.value name)
        ∧ ∀ (x : Executor) order h time setup loaded, log.setup h.environment = .ok setup →
          r.config ≠ some none → r.load h = .ok loaded →
            ∃ records, runIn x order h time args
              = runLoadedIn x order h time setup r (r.target h) loaded.options records := by
  have hrequest := h
  unfold readRequest at h
  split at h
  · contradiction
  next settings hread =>
  have hreads : LineReads args settings := Grammar.reads_of_read isPlain_programGrammar hread
  -- the reading is unique because a line that `read` accepts reads in one way only
  refine ⟨settings, fun s => ⟨fun hs => hs.unique hreads, fun hs => hs ▸ hreads⟩, ?_, ?_⟩
  · intro log hlog
    obtain rfl := log_of_requestOf h hlog
    exact ⟨_, _, lastOr_lastOf _ settings _, lastOr_lastOf _ settings _,
      setup_eq (level_of_read hread)⟩
  · rintro log r rfl
    obtain ⟨settings', hread', rfl⟩ := exists_settings_of_readRequest hrequest
    obtain rfl := Except.ok.inj (hread.symm.trans hread')
    refine ⟨fun o name => ?_, fun o name => value_of_fixed settings o, ?_⟩
    · rw [value_optionsOn]
      exact lastOr_lastOf _ settings _
    · intro x order h time setup loaded hsetup hconfig hload
      rw [runIn_of_readRequest x order time hrequest hsetup]
      exact runCheckIn_of_load_ok x order time setup hconfig hload

/-- Options that come again and contradict each other, before the command and after it. -/
def mixedArgs : List String :=
  ["--log-level", "debug", "--log-format=json", "check", "--build", "--timeout", "5", "a.go",
    "--no-build", "--log-level=error", "--linte", "golint", "--timeout=7"]

/-- What they set. -/
def mixedSettings : List Setting :=
  [.logLevel (some .debug), .logFormat (some .json), .command "check", .switch .build true,
    .timeout (some (.real (.ofInt 5))), .file (Path.ofText "a.go"), .switch .build false,
    .logLevel (some .error), .linter "golint", .timeout (some (.real (.ofInt 7)))]

theorem read_mixedArgs : programGrammar.read mixedArgs = .ok mixedSettings :=
  eq_ok_of_toOption (by decide +kernel)

theorem readRequest_mixedArgs :
    readRequest mixedArgs = .ok (.check (logRequest mixedSettings) (checkRequest mixedSettings)) := by
  unfold readRequest
  rw [read_mixedArgs]
  rfl

/-- The level of the last option, which stands after the command, and the form of one before it;
    no build, seven seconds, and the file decides whether the linter runs. -/
theorem readRequest_lastCounts_mixedArgs :
    ∃ log r, readRequest mixedArgs = .ok (.check log r) ∧ LineReads mixedArgs mixedSettings
      ∧ (∀ vs, log.setup vs = .ok ⟨.json, .error⟩)
      ∧ ∀ o : Options, (r.optionsOn o).toNamed.value "build_on_save" = .bool false
        ∧ (r.optionsOn o).toNamed.value "tool_timeout" = .double (.ofInt 7)
        ∧ (r.optionsOn o).toNamed.value "lint_on_save" = .bool o.lint
        ∧ (r.optionsOn o).toNamed.value "vet_flags" = Options.textList o.vetFlags := by
  obtain ⟨settings, hreads, hlog, hcheck⟩ := readRequest_lastCounts readRequest_mixedArgs
  obtain rfl : mixedSettings = settings :=
    (hreads _).mp (Grammar.reads_of_read isPlain_programGrammar read_mixedArgs)
  obtain ⟨hvalues, hfixed, -⟩ := hcheck _ _ rfl
  refine ⟨_, _, readRequest_mixedArgs, (hreads _).mpr rfl, fun vs => ?_, fun o => ?_⟩
  · obtain ⟨format, level, hformat, hlevel, hsetup⟩ := hlog _ rfl
    rw [hsetup vs, hformat.eq, hlevel.eq]
    rfl
  · refine ⟨?_, ?_, ?_, hfixed o "vet_flags" (by decide)⟩
    · exact (hvalues o "build_on_save").eq
    · exact (hvalues o "tool_timeout").eq
    · exact (hvalues o "lint_on_save").eq

/-- The level is a double dash behind an equals sign. -/
def droppedArgs : List String := ["check", "main.go", "--lint", "--log-level=--"]

/-- What they set. -/
def droppedSettings : List Setting :=
  [.command "check", .file (Path.ofText "main.go"), .switch .lint true, .logLevel none]

/-- A level that is dropped counts neither as a level nor as none: no argument names a level, and
    yet the level is not that of a command line without one. -/
theorem not_readRequest_lastCounts :
    ∃ log r settings, readRequest droppedArgs = .ok (.check log r)
      ∧ LineReads droppedArgs settings ∧ (∀ a ∈ settings, ∀ l, a ≠ .logLevel (some l))
      ∧ log.setup [] = .ok ⟨.text, .info⟩ := by
  have hread : programGrammar.read droppedArgs = .ok droppedSettings :=
    eq_ok_of_toOption (by decide +kernel)
  have hrequest : readRequest droppedArgs
      = .ok (.check (logRequest droppedSettings) (checkRequest droppedSettings)) := by
    unfold readRequest
    rw [hread]
    rfl
  refine ⟨_, _, droppedSettings, hrequest, Grammar.reads_of_read isPlain_programGrammar hread,
    ?_, rfl⟩
  simp [droppedSettings]

end SourceCheck.CommandLine
