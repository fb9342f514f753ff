import SourceCheck.Check.RunLog
import SourceCheck.Proofs.Check.Runs
import SourceCheck.Proofs.Tool.Traces

/-! # Accounts of runs

    Three things are left when a run of a tool is over: what it gives, what the user was told, and
    what the run log holds (`Account`).  The run takes its steps one at a time, but a task that
    runs alone is not disturbed (`Alone`): as long as it goes on, what others saw of it with what
    they will still see of it stays the same, and so does what it will give.

    So the account hangs on the outcome of the process alone (`Account.IsFor`), and of a process
    that ended only on the part of its output that is read: its exit status and the other part
    decide nothing (`account_run`). -/

namespace SourceCheck

/-! ## A task alone -/

/-- A run of one task that has come to a stage. -/
structure Alone (t : Task) (p : Progress) (s : Stage) : Prop where
  stages : p.stages = [s]
  outcome : s.outcome? = some t.result
  effects : p.effects ++ s.pending = t.effects
  failure : p.failure = s.failure?
  keptUp : p.givenUp = false

namespace Alone

variable {t : Task} {p : Progress} {s : Stage}

theorem start (t : Task) : Alone t (Progress.start [t]) (.ready t) := ⟨rfl, rfl, rfl, rfl, rfl⟩

theorem eq_of_getElem? (h : Alone t p s) {i : Nat} {s' : Stage} (hs : p.stages[i]? = some s') :
    i = 0 ∧ s' = s := by
  rw [h.stages, List.getElem?_singleton] at hs
  split at hs
  · next hi => exact ⟨hi, (Option.some.inj hs).symm⟩
  · contradiction

/-- The task goes on. -/
theorem advance (h : Alone t p s) : Alone t (p.enter 0 s.advance) s.advance.2 where
  stages := by
    simp only [Progress.enter]
    rw [h.stages]
    rfl
  outcome := s.outcome?_advance.trans h.outcome
  effects := by
    simp only [Progress.enter]
    rw [List.append_assoc, s.advance_append_pending, h.effects]
  failure := by
    simp only [Progress.enter]
    rw [h.failure]
    cases hf : s.failure? with
    | none => rfl
    | some e =>
      -- a task that has failed stays as it is
      rw [Stage.eq_ended_of_failure? hf]
      rfl
  keptUp := h.keptUp

/-- The check only stops if the task has failed, and then it stays as it is. -/
theorem cancel (h : Alone t p s) (hstop : p.isStopping = true) :
    Alone t (p.enter 0 s.cancel) s := by
  have hfailure : p.failure.isSome = true := by
    unfold Progress.isStopping at hstop
    rwa [h.keptUp, Bool.or_false] at hstop
  -- the one task has failed, and a task that has ended cannot be cancelled any more
  rw [h.failure] at hfailure
  obtain ⟨e, he⟩ := Option.isSome_iff_exists.mp hfailure
  have hsame : s.cancel = ([], s) := by
    rw [Stage.eq_ended_of_failure? he]
    rfl
  rw [hsame]
  refine ⟨?_, h.outcome, ?_, ?_, h.keptUp⟩
  · simp only [Progress.enter]
    rw [h.stages]
    rfl
  · simp only [Progress.enter]
    rw [List.append_nil, h.effects]
  · simp only [Progress.enter]
    rw [h.failure, he]
    rfl

/-- **One move** leaves the task alone. -/
theorem move (h : Alone t p s) (m : Move) : ∃ s', Alone t (p.move m) s' := by
  cases m with
  | advance i =>
    change ∃ s', Alone t (p.advance i) s'
    rcases p.advance_cases i with ⟨-, hsame⟩ | ⟨s', hs, henter⟩
    · exact ⟨s, by rwa [hsame]⟩
    · obtain ⟨rfl, rfl⟩ := h.eq_of_getElem? hs
      exact ⟨s'.advance.2, by rw [henter]; exact h.advance⟩
  | cancel i =>
    change ∃ s', Alone t (p.cancel i) s'
    rcases p.cancel_cases i with ⟨-, hsame⟩ | ⟨s', hstop, hs, henter⟩
    · exact ⟨s, by rwa [hsame]⟩
    · obtain ⟨rfl, rfl⟩ := h.eq_of_getElem? hs
      exact ⟨s', by rw [henter]; exact h.cancel hstop⟩

/-- **Many moves** leave the task alone. -/
theorem moves (h : Alone t p s) (ms : List Move) : ∃ s', Alone t (p.moves ms) s' := by
  induction ms generalizing p s with
  | nil => exact ⟨s, h⟩
  | cons m rest ih =>
    obtain ⟨s', hmove⟩ := h.move m
    exact ih hmove

/-- A run that is over has given what the task gives and shown what it shows. -/
theorem of_isOver (h : Alone t p s) (hover : p.isOver = true) :
    p.result = t.result ∧ p.effects = t.effects := by
  have hclosed : s.isOpen = false := by
    have hs := List.all_eq_true.mp hover s (by rw [h.stages]; exact List.mem_singleton_self s)
    simpa using hs
  have heffects := h.effects
  rw [Stage.pending_of_not_isOpen hclosed, List.append_nil] at heffects
  refine ⟨?_, heffects⟩
  have houtcome := h.outcome
  unfold Progress.result
  rw [h.failure, h.stages]
  -- only a task that has ended has an outcome and makes no more moves
  cases s with
  | ended result =>
    obtain rfl := Option.some.inj houtcome
    cases t.result with
    | error e => rfl
    | ok fs => exact congrArg Except.ok (List.append_nil fs)
  | ready _ | waiting _ _ | closing | cancelled => contradiction

end Alone

/-- **A task that runs alone** gives what it gives and lets others see what it lets others see, in
    whatever order moves are made. -/
theorem runTasks_singleton {order : Order} {t : Task} (hover : (runTasks order [t]).isOver = true) :
    (runTasks order [t]).result = t.result ∧ (runTasks order [t]).effects = t.effects := by
  obtain ⟨s, halone⟩ := (Alone.start t).moves (order [t])
  exact halone.of_isOver hover

/-! ## Accounts -/

/-- What is left of a run of a tool. -/
structure Account where
  /-- What the run gives. -/
  result : Except CheckFailure (List Finding)
  /-- What the user was told. -/
  notices : List String
  /-- The run log. -/
  log : RunLog
  deriving Repr

/-- The account of a run that found a run log and was made in an order. -/
def ToolRun.accountIn (order : Order) (read : OutputReader) (before : RunLog) (r : ToolRun) :
    Account :=
  let p := runTasks order [r.task read]
  ⟨p.result, Effect.notices p.effects, before.appendAll (Effect.lines p.effects)⟩

theorem ToolRun.accountIn_eq {order : Order} {read : OutputReader} {r : ToolRun}
    (hover : (runTasks order [r.task read]).isOver = true) (before : RunLog) :
    r.accountIn order read before
      = ⟨(r.task read).result, r.notice?.toList, before.appendAll (r.piece read)⟩ := by
  obtain ⟨hresult, heffects⟩ := runTasks_singleton hover
  unfold accountIn
  dsimp only
  rw [hresult, heffects, r.notices_effects, r.lines_effects]

/-- **An account by the outcome** of the process. -/
structure Account.IsFor (a : Account) (i : Invocation) (read : OutputReader) (before : RunLog)
    (outcome : Outcome) : Prop where
  /-- A process that the system refuses to start gives nothing, and the user is told once that the
      tool is missing. -/
  refused : ∀ cause file, outcome = .refused cause file → a = ⟨.ok [], [i.missing], before⟩
  /-- A process that takes too long gives nothing, and nothing else happens. -/
  timedOut : outcome = .timedOut → a = ⟨.ok [], [], before⟩
  /-- A process that ended gives what is read of its output; the run log goes on with the header,
      one entry for each finding, and an empty line. -/
  finished : ∀ status output errors micros fs, outcome = .finished status output errors micros →
    read i.origin (i.stream output errors) = .ok fs →
    a = ⟨.ok fs, [], before.appendAll (i.header :: fs.map Finding.logLine ++ [""])⟩
  /-- If its output cannot be read, the run fails with the name of the tool; the run log goes on
      with the header. -/
  unreadable : ∀ status output errors micros cause,
    outcome = .finished status output errors micros →
    read i.origin (i.stream output errors) = .error cause →
    a = ⟨.error (.unreadable i.tool cause), [], before.append i.header⟩
  /-- A process that breaks down makes the run fail, and nothing else happens. -/
  brokenDown : ∀ f, outcome.breakdown? = some f → a = ⟨.error f, [], before⟩

namespace Invocation

/-- The account of a tool that ended, by the part of its output that is read. -/
theorem accountIn_finished {order : Order} {i : Invocation} {read : OutputReader} {status : Int}
    {output errors : String} {micros : Nat}
    (hover : (runTasks order [i.taskOf read (.finished status output errors micros)]).isOver = true)
    (before : RunLog) :
    ToolRun.accountIn order read before ⟨i, .started (.finished status output errors micros)⟩
      = ⟨(read i.origin (i.stream output errors)).mapError (.unreadable i.tool), [],
          before.appendAll (i.piece read output errors)⟩ := by
  rw [ToolRun.accountIn_eq hover]
  have hresult : (ToolRun.task read ⟨i, .started (.finished status output errors micros)⟩).result
      = (i.finish read status output errors micros).2 := rfl
  rw [hresult, i.result_finish]
  rfl

/-- **A tool that was found** has an account by the outcome of its process. -/
theorem isFor_accountIn {order : Order} {i : Invocation} {read : OutputReader} {outcome : Outcome}
    (hover : (runTasks order [i.taskOf read outcome]).isOver = true) (before : RunLog) :
    (ToolRun.accountIn order read before ⟨i, .started outcome⟩).IsFor i read before outcome where
  refused := by
    rintro cause file rfl
    exact ToolRun.accountIn_eq hover before
  timedOut := by
    rintro rfl
    exact ToolRun.accountIn_eq hover before
  finished := by
    rintro status output errors micros fs rfl hread
    rw [accountIn_finished hover, piece, hread]
    rfl
  unreadable := by
    rintro status output errors micros cause rfl hread
    rw [accountIn_finished hover, piece, hread]
    rfl
  brokenDown := by
    intro f hdown
    obtain ⟨hresult, hlines, hnotices⟩ := taskOf_of_breakdown hdown i read
    obtain ⟨hgiven, hseen⟩ := runTasks_singleton hover
    have htask : ToolRun.task read ⟨i, .started outcome⟩ = i.taskOf read outcome := rfl
    unfold ToolRun.accountIn
    dsimp only
    rw [htask, hgiven, hseen, hresult, hlines, hnotices]
    rfl

/-- **Two processes that ended** with the same in the part of their output that is read have the
    same account. -/
theorem accountIn_eq_of_stream {order order' : Order} {i : Invocation} {read : OutputReader}
    {status status' : Int} {output output' errors errors' : String} {micros micros' : Nat}
    (hover : (runTasks order [i.taskOf read (.finished status output errors micros)]).isOver = true)
    (hover' : (runTasks order' [i.taskOf read (.finished status' output' errors' micros')]).isOver
      = true)
    (hstream : i.stream output errors = i.stream output' errors') (before : RunLog) :
    ToolRun.accountIn order read before ⟨i, .started (.finished status output errors micros)⟩
      = ToolRun.accountIn order' read before
          ⟨i, .started (.finished status' output' errors' micros')⟩ := by
  rw [accountIn_finished hover, accountIn_finished hover']
  unfold piece
  rw [hstream]

/-- **What is left of a run.**  Whatever the system does, and in whatever order moves are made, a
    run that is over has this account:

    - if its tool was not found, it gives nothing and the user is told so once,
    - else it has an account by the outcome of its process (`Account.IsFor`),
    - if its process ended, it has the same account as every run, on any system, whose process
      ended with the same in the part of its output that is read, whatever the exit status and
      the other part.

    The usual order brings every run to its end. -/
theorem account_run (i : Invocation) (read : OutputReader) (before : RunLog) {x : Executor}
    {h : Host} {order : Order}
    (hover : (runTasks order [(i.run x h).1.task read]).isOver = true) :
    (i.binary = none →
        (i.run x h).1.accountIn order read before = ⟨.ok [], [i.missing], before⟩)
      ∧ (i.binary ≠ none → ((i.run x h).1.accountIn order read before).IsFor i read before
          (x h i.argv i.directory i.timeout).1)
      ∧ (∀ (x' : Executor) (h' : Host) (order' : Order) (status status' : Int)
          (output output' errors errors' : String) (micros micros' : Nat),
          (runTasks order' [(i.run x' h').1.task read]).isOver = true →
          (x h i.argv i.directory i.timeout).1 = .finished status output errors micros →
          (x' h' i.argv i.directory i.timeout).1 = .finished status' output' errors' micros' →
          i.stream output errors = i.stream output' errors' →
          (i.run x h).1.accountIn order read before = (i.run x' h').1.accountIn order' read before)
      ∧ (runTasks usualMoves [(i.run x h).1.task read]).isOver = true := by
  have hends := runTasks_usualMoves_isOver [(i.run x h).1.task read]
  cases hbinary : i.binary with
  | none =>
    -- without a binary nothing runs and only the notice is left
    have hmissing : (i.run x h).1.accountIn order read before = ⟨.ok [], [i.missing], before⟩ := by
      rw [ToolRun.accountIn_eq hover, run_of_no_binary x h hbinary]
      rfl
    refine ⟨fun _ => hmissing, fun hne => absurd rfl hne, ?_, hends⟩
    intro x' h' order' _ _ _ _ _ _ _ _ hover' _ _ _
    rw [hmissing, ToolRun.accountIn_eq hover', run_of_no_binary x' h' hbinary]
    rfl
  | some binary =>
    rw [run_of_binary x hbinary] at hover ⊢
    refine ⟨fun hnone => absurd hnone (Option.some_ne_none binary),
      fun _ => isFor_accountIn hover before, ?_, ?_⟩
    · intro x' h' order' status status' output output' errors errors' micros micros' hover'
        hended hended' hstream
      -- of a finished process only the stream is read, so one stream gives one account
      rw [run_of_binary x' hbinary] at hover' ⊢
      rw [hended] at hover ⊢
      rw [hended'] at hover' ⊢
      exact accountIn_eq_of_stream hover hover' hstream before
    · rwa [run_of_binary x hbinary] at hends

/-- A linter that was found; what it says on its standard output is read. -/
def foundLinter : Invocation where
  check := .lint
  tool := "golint"
  binary := some "/bin/golint"
  directory := ⟨.slash, ["w"]⟩
  severity := .warning
  readsErrors := false
  missing := "missing"
  args := ["a.go"]
  timeout := none

/-- Every process says the same on its standard output and ends. -/
def endsWith (status : Int) (errors : String) : Executor := fun h _ _ _ =>
  (.finished status "a.go:7: odd\n\thint" errors 40, h.files)

theorem account_run_endsWith :
    (foundLinter.run (endsWith 3 "noise") default).1.accountIn usualMoves
          (readFindings ⟨.slash, ["w"]⟩) (.memory ["before"])
        = ⟨.ok [⟨⟨.slash, ["w", "a.go"]⟩, 7, 1, "odd\n\thint", .warning, some "golint",
              some .lint⟩], [],
            .memory ["before", "Finished running tool: /bin/golint a.go",
              "/w/a.go:7:1: odd\n\thint", ""]⟩
      ∧ (foundLinter.run (endsWith 3 "noise") default).1.accountIn usualMoves
          (readFindings ⟨.slash, ["w"]⟩) (.memory ["before"])
        = (foundLinter.run (endsWith 0 "") default).1.accountIn usualMoves
            (readFindings ⟨.slash, ["w"]⟩) (.memory ["before"]) := by
  obtain ⟨-, hfound, hsame, -⟩ := account_run foundLinter (readFindings ⟨.slash, ["w"]⟩)
    (.memory ["before"]) (runTasks_usualMoves_isOver
      [(foundLinter.run (endsWith 3 "noise") default).1.task (readFindings ⟨.slash, ["w"]⟩)])
  constructor
  · exact (hfound (by decide)).finished 3 _ _ _ _ rfl (by rfl)
  · exact hsame (endsWith 0 "") default usualMoves 3 0 _ _ _ _ _ _
      (runTasks_usualMoves_isOver _) rfl rfl rfl

end Invocation

end SourceCheck
