import SourceCheck.Tool.Run

/-! # What a run of a tool lets others see

    By its fate, a run of a tool writes a block of lines, a header alone or nothing to
    the run log (`ToolRun.lines_effects`) and tells the user that the tool is missing or
    nothing (`ToolRun.notices_effects`).  It writes to the run log in its last step only
    (`ToolRun.writesLast`).

    A tool that is missing, is refused by the system or takes too long gives no findings, and
    one whose output cannot be read fails as such: these runs are answered
    (`ToolRun.IsAnswered`).  Any other failure is a breakdown (`Outcome.breakdown?`).  On a
    host a run breaks down just if a text of its command or of its directory holds a NUL
    character, or if its process starts and its time limit is too large to be counted
    (`Invocation.run_isAnswered_iff`).  A run that breaks down writes nothing to the run log
    and tells the user nothing (`Invocation.taskOf_of_breakdown`). -/

namespace SourceCheck

/-! ## Effects -/

namespace Effect

theorem lines_append (es fs : List Effect) : lines (es ++ fs) = lines es ++ lines fs :=
  List.filterMap_append

theorem notices_append (es fs : List Effect) : notices (es ++ fs) = notices es ++ notices fs :=
  List.filterMap_append

theorem lines_map_line {α : Type} (f : α → String) (as : List α) :
    lines (as.map fun a => .line (f a)) = as.map f := by
  unfold lines
  rw [List.filterMap_map]
  exact congrFun List.filterMap_eq_map as

theorem notices_map_line {α : Type} (f : α → String) (as : List α) :
    notices (as.map fun a => .line (f a)) = [] := by
  unfold notices
  rw [List.filterMap_map]
  exact List.filterMap_eq_nil_iff.mpr fun _ _ => rfl

/-- Some effects are neither lines nor notices. -/
def Quiet (es : List Effect) : Prop := lines es = [] ∧ notices es = []

theorem Quiet.nil : Quiet [] := ⟨rfl, rfl⟩

theorem Quiet.append {es fs : List Effect} (he : Quiet es) (hf : Quiet fs) : Quiet (es ++ fs) := by
  obtain ⟨hel, hen⟩ := he
  obtain ⟨hfl, hfn⟩ := hf
  constructor
  · rw [lines_append, hel, hfl]
    rfl
  · rw [notices_append, hen, hfn]
    rfl

end Effect

/-! ## Tasks that write at their end -/

/-- A task writes to the run log in its last step only. -/
def Task.WritesLast : Task → Prop
  | .last _ _ => True
  | .step es _ _ rest => Effect.lines es = [] ∧ rest.WritesLast

/-! ## Finished tools -/

namespace Invocation

/-- What a tool that ended adds to the run log: its block, or its header alone if its
    output cannot be read. -/
def piece (i : Invocation) (read : OutputReader) (output errors : String) : List String :=
  match read i.origin (i.stream output errors) with
  | .ok fs => i.block fs
  | .error _ => [i.header]

theorem quiet_statusRecords (i : Invocation) (status : Int) (micros : Nat) :
    Effect.Quiet (i.statusRecords status micros) := by
  unfold statusRecords
  split
  · exact .nil
  · exact ⟨rfl, rfl⟩

theorem lines_finish (i : Invocation) (read : OutputReader) (status : Int)
    (output errors : String) (micros : Nat) :
    Effect.lines (i.finish read status output errors micros).1 = i.piece read output errors := by
  obtain ⟨hstatus, -⟩ := i.quiet_statusRecords status micros
  unfold finish piece
  dsimp only
  cases read i.origin (i.stream output errors) with
  | error cause =>
    simp only [Effect.lines_append, hstatus]
    rfl
  | ok fs =>
    simp only [Effect.lines_append, hstatus, Effect.lines_map_line]
    exact List.append_nil _

theorem notices_finish (i : Invocation) (read : OutputReader) (status : Int)
    (output errors : String) (micros : Nat) :
    Effect.notices (i.finish read status output errors micros).1 = [] := by
  obtain ⟨-, hstatus⟩ := i.quiet_statusRecords status micros
  unfold finish
  dsimp only
  cases read i.origin (i.stream output errors) with
  | error cause =>
    simp only [Effect.notices_append, hstatus]
    rfl
  | ok fs =>
    simp only [Effect.notices_append, hstatus, Effect.notices_map_line]
    rfl

end Invocation

/-! ## Runs of tools -/

namespace ToolRun

/-- What a run adds to the run log if it runs alone. -/
def piece (read : OutputReader) (r : ToolRun) : List String :=
  match r.fate with
  | .started (.finished _ output errors _) => r.invocation.piece read output errors
  | _ => []

/-- The tool of a run ended, so there is output to be read. -/
def hasOutput (r : ToolRun) : Bool :=
  match r.fate with
  | .started (.finished _ _ _ _) => true
  | _ => false

theorem piece_of_not_hasOutput {read : OutputReader} {r : ToolRun} (h : r.hasOutput = false) :
    r.piece read = [] := by
  unfold hasOutput at h
  unfold piece
  split at h
  · contradiction
  · rfl

/-- What the user is told of a run: that the tool is missing, if no program was found or
    the system refused to start it. -/
def notice? (r : ToolRun) : Option String :=
  match r.fate with
  | .missing => some r.invocation.missing
  | .started (.refused _ _) => some r.invocation.missing
  | _ => none

theorem lines_effects (read : OutputReader) (r : ToolRun) :
    Effect.lines (r.task read).effects = r.piece read := by
  obtain ⟨i, fate⟩ := r
  cases fate with
  | missing => rfl
  | spoiled f => rfl
  | started outcome =>
    cases outcome with
    | finished status output errors micros =>
      exact i.lines_finish read status output errors micros
    | refused _ _ | noProgram | unpassable | uncountable | unmeasurable _ | timedOut => rfl

theorem notices_effects (read : OutputReader) (r : ToolRun) :
    Effect.notices (r.task read).effects = r.notice?.toList := by
  obtain ⟨i, fate⟩ := r
  cases fate with
  | missing => rfl
  | spoiled f => rfl
  | started outcome =>
    cases outcome with
    | finished status output errors micros =>
      exact i.notices_finish read status output errors micros
    | refused _ _ | noProgram | unpassable | uncountable | unmeasurable _ | timedOut => rfl

theorem writesLast (read : OutputReader) (r : ToolRun) : (r.task read).WritesLast := by
  obtain ⟨i, fate⟩ := r
  cases fate with
  | missing => trivial
  | spoiled f => trivial
  | started outcome =>
    cases outcome with
    | finished _ _ _ _ => exact ⟨rfl, rfl, trivial⟩
    | timedOut => exact ⟨rfl, rfl, rfl, trivial⟩
    | uncountable | unmeasurable _ => exact ⟨rfl, trivial⟩
    | refused _ _ | noProgram | unpassable => trivial

end ToolRun

open SourceCheck.Text

/-! ## Answers and breakdowns -/

/-- A run is answered: it gives findings, or it fails since the output of its tool cannot be
    read. -/
def ToolRun.IsAnswered (read : OutputReader) (r : ToolRun) : Prop :=
  (∃ fs, (r.task read).result = .ok fs)
    ∨ ∃ cause, (r.task read).result = .error (.unreadable r.invocation.tool cause)

/-- The failure of a process that broke down. -/
def Outcome.breakdown? : Outcome → Option CheckFailure
  | .noProgram => some .noProgram
  | .unpassable => some .unpassable
  | .uncountable => some .uncountable
  | .unmeasurable kind => some (.unmeasurable kind)
  | .refused _ _ | .timedOut | .finished _ _ _ _ => none

/-- A breakdown is no fault of the output. -/
theorem Outcome.ne_unreadable_of_breakdown {outcome : Outcome} {f : CheckFailure}
    (h : outcome.breakdown? = some f) (tool cause : String) : f ≠ .unreadable tool cause := by
  rintro rfl
  cases outcome <;> simp [breakdown?] at h

namespace Invocation

/-- What a tool that ended gives. -/
theorem result_finish (i : Invocation) (read : OutputReader) (status : Int)
    (output errors : String) (micros : Nat) :
    (i.finish read status output errors micros).2
      = (read i.origin (i.stream output errors)).mapError (.unreadable i.tool) := by
  unfold finish
  dsimp only
  cases read i.origin (i.stream output errors) <;> rfl

/-- **A process that broke down** fails its run; nothing is written to the run log and the user
    is told nothing. -/
theorem taskOf_of_breakdown {outcome : Outcome} {f : CheckFailure}
    (h : outcome.breakdown? = some f) (i : Invocation) (read : OutputReader) :
    (i.taskOf read outcome).result = .error f
      ∧ Effect.Quiet (i.taskOf read outcome).effects := by
  cases outcome with
  | refused _ _ | timedOut | finished _ _ _ _ => contradiction
  | noProgram | unpassable | uncountable | unmeasurable _ =>
    obtain rfl := Option.some.inj h
    exact ⟨rfl, rfl, rfl⟩

/-- **Any other process** answers its run. -/
theorem isAnswered_of_breakdown_none {outcome : Outcome} (h : outcome.breakdown? = none)
    (i : Invocation) (read : OutputReader) :
    ToolRun.IsAnswered read ⟨i, .started outcome⟩ := by
  cases outcome with
  | noProgram | unpassable | uncountable | unmeasurable _ => contradiction
  | refused _ _ | timedOut => exact .inl ⟨[], rfl⟩
  | finished status output errors micros =>
    have hresult := i.result_finish read status output errors micros
    cases hread : read i.origin (i.stream output errors) with
    | ok fs =>
      rw [hread] at hresult
      exact .inl ⟨fs, hresult⟩
    | error cause =>
      rw [hread] at hresult
      exact .inr ⟨cause, hresult⟩

theorem isAnswered_started_iff (i : Invocation) (read : OutputReader) (outcome : Outcome) :
    ToolRun.IsAnswered read ⟨i, .started outcome⟩ ↔ outcome.breakdown? = none := by
  constructor
  -- a breakdown is an error of its own and never the one of an unreadable answer
  · intro hanswered
    cases hdown : outcome.breakdown? with
    | none => rfl
    | some f =>
      have hresult : (ToolRun.task read ⟨i, .started outcome⟩).result = .error f :=
        (taskOf_of_breakdown hdown i read).1
      rcases hanswered with ⟨fs, hok⟩ | ⟨cause, herror⟩
      · rw [hresult] at hok
        contradiction
      · rw [hresult] at herror
        exact absurd (Except.error.inj herror) (Outcome.ne_unreadable_of_breakdown hdown _ _)
  · intro hdown
    exact isAnswered_of_breakdown_none hdown i read

theorem run_of_no_binary (x : Executor) (h : Host) {i : Invocation} (hbinary : i.binary = none) :
    (i.run x h).1 = ⟨i, .missing⟩ := by
  unfold run
  rw [hbinary]

theorem run_of_binary (x : Executor) {h : Host} {i : Invocation} {binary : String}
    (hbinary : i.binary = some binary) :
    (i.run x h).1 = ⟨i, .started (x h i.argv i.directory i.timeout).1⟩ := by
  unfold run
  rw [hbinary]

/-- **Runs under any system.**  A run is answered unless its process is tried and breaks
    down. -/
theorem isAnswered_run (x : Executor) (h : Host) (i : Invocation) (read : OutputReader) :
    (i.run x h).1.IsAnswered read
      ↔ i.binary = none ∨ (x h i.argv i.directory i.timeout).1.breakdown? = none := by
  cases hbinary : i.binary with
  | none =>
    rw [run_of_no_binary x h hbinary]
    exact ⟨fun _ => .inl rfl, fun _ => .inl ⟨[], rfl⟩⟩
  | some binary =>
    rw [run_of_binary x hbinary, isAnswered_started_iff]
    simp

/-! ## Processes of a host -/

/-- A text of the command or of the directory cannot be passed to the system. -/
def holdsNul (i : Invocation) : Bool := i.argv.any Host.hasNul || Host.hasNul i.directory.text

/-- The system enters the directory and starts the program there. -/
def starts (s : System) (h : Host) (i : Invocation) : Bool :=
  match h.files.enter h.cwd i.directory.text with
  | .error _ => false
  | .ok place =>
    (startFirst s { h with cwd := place } (i.timeout.bind Seconds.micros?) i.argv .notFound
      (programPaths h i.program)).isOk

theorem breakdown_ofEnding (ending : Ending) : (Outcome.ofEnding ending).breakdown? = none := by
  cases ending <;> rfl

/-- **Breakdowns on a host**, by what is asked for. -/
theorem breakdown_execute (s : System) (h : Host) (i : Invocation) :
    (execute s h i.argv i.directory i.timeout).1.breakdown?
      = if i.holdsNul then some .unpassable
        else if i.starts s h && i.timeout.any Seconds.isTooLarge then some .uncountable
        else none := by
  have hcommand : i.argv.isEmpty = false := rfl
  have hprogram : i.argv.head?.getD "" = i.program := rfl
  have hnul : (i.argv.any Host.hasNul || Host.hasNul i.directory.text) = i.holdsNul := rfl
  unfold execute starts
  dsimp only
  rw [hcommand, hprogram, hnul, if_neg Bool.false_ne_true]
  -- null characters are refused before the directory is entered and the program is looked for
  cases i.holdsNul with
  | true => rfl
  | false =>
    rw [if_neg Bool.false_ne_true, if_neg Bool.false_ne_true]
    cases h.files.enter h.cwd i.directory.text with
    | error e => rfl
    | ok place =>
      dsimp only
      split
      · next e hstart =>
        simp only [hstart]
        rfl
      · next ending files hstart =>
        simp only [hstart]
        cases i.timeout.any Seconds.isTooLarge with
        | true => rfl
        | false => exact breakdown_ofEnding ending

/-- **When a run is answered.**  Whatever becomes of processes, a run of a tool gives findings or
    fails since output cannot be read, unless its process breaks down.  On a host with any system
    that runs files it breaks down just if a NUL character is to be passed, or if the process
    starts under a time limit that is too large to be counted. -/
theorem run_isAnswered_iff (i : Invocation) (read : OutputReader) :
    (∀ (x : Executor) (h : Host), (i.run x h).1.IsAnswered read
        ↔ i.binary = none ∨ (x h i.argv i.directory i.timeout).1.breakdown? = none)
      ∧ ∀ (s : System) (h : Host), (i.run (execute s) h).1.IsAnswered read
        ↔ i.binary = none ∨ i.holdsNul = false
          ∧ ¬(i.starts s h = true ∧ i.timeout.any Seconds.isTooLarge = true) := by
  refine ⟨fun x h => isAnswered_run x h i read, fun s h => ?_⟩
  rw [isAnswered_run, breakdown_execute]
  cases i.holdsNul <;> cases i.starts s h <;> cases i.timeout.any Seconds.isTooLarge <;> simp

/-- A command with a NUL character. -/
def nulInvocation : Invocation where
  check := .lint
  tool := "golint"
  binary := some "/bin/echo"
  directory := Path.ofText "."
  severity := .warning
  readsErrors := false
  missing := "missing"
  args := ["a\x00b"]
  timeout := none

/-- **A run that is not answered**, whatever the system runs: a NUL character in an argument makes
    it fail for another reason than its output. -/
theorem not_isAnswered_nulInvocation :
    nulInvocation.argv = ["/bin/echo", "a\x00b"]
      ∧ ∀ s : System,
        ((nulInvocation.run (execute s) default).1.task (readFindings ⟨.slash, ["w"]⟩)).result
          = .error .unpassable
        ∧ ¬(nulInvocation.run (execute s) default).1.IsAnswered (readFindings ⟨.slash, ["w"]⟩) := by
  refine ⟨rfl, fun s => ?_⟩
  have hresult : ((nulInvocation.run (execute s) default).1.task
      (readFindings ⟨.slash, ["w"]⟩)).result = .error .unpassable := by rfl
  refine ⟨hresult, ?_⟩
  rintro (⟨fs, hok⟩ | ⟨cause, herror⟩)
  · rw [hresult] at hok
    contradiction
  · rw [hresult] at herror
    cases herror

end Invocation

end SourceCheck
