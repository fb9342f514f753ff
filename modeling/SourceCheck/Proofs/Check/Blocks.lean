import SourceCheck.Proofs.Check.Prepare
import SourceCheck.Proofs.Check.Runs

/-! # Blocks of the run log

    All tasks of a check write to one run log, but each writes in its last step only, and
    nothing else happens during a step.  So the run log is always what the tasks that
    ended write alone, one after the other in the order in which they ended
    (`logAt_blocks`), also while a check is stopping. -/

namespace SourceCheck

/-! ## One task -/

namespace Stage

/-- The task has come to its end. -/
def hasEnded : Stage → Bool
  | .ended _ => true
  | .ready _ | .waiting _ _ | .closing | .cancelled => false

theorem eq_ended_of_hasEnded {s : Stage} (h : s.hasEnded = true) : ∃ result, s = .ended result := by
  cases s with
  | ended result => exact ⟨result, rfl⟩
  | ready _ | waiting _ _ | closing | cancelled => contradiction

/-- A task that may go on has written nothing yet, and will write in its last step what
    it writes alone. -/
def HoldsBack (t : Task) : Stage → Prop
  | .ready u | .waiting _ u => u.WritesLast ∧ Effect.lines u.effects = Effect.lines t.effects
  | .closing | .ended _ | .cancelled => True

/-- Something happens to a task without a line in the run log. -/
structure Silent (t : Task) (s : Stage) (next : List Effect × Stage) : Prop where
  lines : Effect.lines next.1 = []
  hasEnded : next.2.hasEnded = s.hasEnded
  holdsBack : next.2.HoldsBack t

/-- A task comes to its end and writes all its lines. -/
structure Final (t : Task) (s : Stage) (next : List Effect × Stage) : Prop where
  lines : Effect.lines next.1 = Effect.lines t.effects
  notEnded : s.hasEnded = false
  hasEnded : next.2.hasEnded = true
  holdsBack : next.2.HoldsBack t

theorem next_silent_or_final {t u : Task} {s : Stage} (hs : s.hasEnded = false)
    (hlast : u.WritesLast) (hlines : Effect.lines u.effects = Effect.lines t.effects) :
    Silent t s u.next ∨ Final t s u.next := by
  cases u with
  | last es result => exact .inr ⟨hlines, hs, rfl, trivial⟩
  | step es w time rest =>
    -- the lines of the whole task are those of the steps that are left
    obtain ⟨hes, hrest⟩ := hlast
    have hsame : Effect.lines rest.effects = Effect.lines t.effects := by
      rw [← hlines, Task.effects, Effect.lines_append, hes, List.nil_append]
    exact .inl ⟨hes, hs.symm, hrest, hsame⟩

/-- **One step** of a task: it writes nothing, or it is the last one and writes all. -/
theorem advance_silent_or_final {t : Task} {s : Stage} (h : s.HoldsBack t) :
    Silent t s s.advance ∨ Final t s s.advance := by
  cases s with
  | ready u => exact next_silent_or_final rfl h.1 h.2
  | waiting w u => exact next_silent_or_final rfl h.1 h.2
  | closing | ended _ | cancelled => exact .inl ⟨rfl, rfl, trivial⟩

/-- A task that is cancelled writes nothing. -/
theorem cancel_silent (t : Task) (s : Stage) : Silent t s s.cancel := by
  cases s with
  | waiting w u => cases w <;> exact ⟨rfl, rfl, trivial⟩
  | ready _ | closing | ended _ | cancelled => exact ⟨rfl, rfl, trivial⟩

end Stage

/-! ## All tasks -/

/-- What the task of a number writes to the run log if it runs alone. -/
def linesOf (tasks : List Task) (i : Nat) : List String :=
  (tasks[i]?.map fun t => Effect.lines t.effects).getD []

/-- The run log holds what the tasks that ended write alone, in the order in which they
    ended. -/
structure LogInOrder (tasks : List Task) (order : List Nat) (p : Progress) : Prop where
  holdsBack : ∀ (i : Nat) (s : Stage), p.stages[i]? = some s →
    ∃ t, tasks[i]? = some t ∧ s.HoldsBack t
  nodup : order.Nodup
  mem_iff : ∀ i : Nat, i ∈ order ↔ ∃ s : Stage, p.stages[i]? = some s ∧ s.hasEnded = true
  lines : Effect.lines p.effects = order.flatMap (linesOf tasks)

namespace LogInOrder

variable {tasks : List Task} {order : List Nat} {p : Progress}

theorem start (hlast : ∀ t ∈ tasks, t.WritesLast) : LogInOrder tasks [] (Progress.start tasks) where
  holdsBack := by
    intro i s hs
    simp only [Progress.start, List.getElem?_map, Option.map_eq_some_iff] at hs
    obtain ⟨t, ht, rfl⟩ := hs
    exact ⟨t, ht, hlast t (List.mem_of_getElem? ht), rfl⟩
  nodup := List.nodup_nil
  mem_iff := by
    intro i
    constructor
    · intro hi
      exact absurd hi List.not_mem_nil
    -- nothing has ended before the first move
    · rintro ⟨s, hs, hended⟩
      simp only [Progress.start, List.getElem?_map, Option.map_eq_some_iff] at hs
      obtain ⟨t, -, rfl⟩ := hs
      contradiction
  lines := rfl

theorem holdsBack_enter (h : LogInOrder tasks order p) {i : Nat} {s : Stage} {t : Task}
    {next : List Effect × Stage} (hs : p.stages[i]? = some s) (ht : tasks[i]? = some t)
    (hnext : next.2.HoldsBack t) :
    ∀ (j : Nat) (s' : Stage), (p.enter i next).stages[j]? = some s' →
      ∃ t, tasks[j]? = some t ∧ s'.HoldsBack t :=
  Progress.forall_enter h.holdsBack hs ⟨t, ht, hnext⟩

/-- A silent move keeps the order. -/
theorem enter_silent (h : LogInOrder tasks order p) {i : Nat} {s : Stage} {t : Task}
    {next : List Effect × Stage} (hs : p.stages[i]? = some s) (ht : tasks[i]? = some t)
    (hnext : Stage.Silent t s next) : LogInOrder tasks order (p.enter i next) where
  holdsBack := h.holdsBack_enter hs ht hnext.holdsBack
  nodup := h.nodup
  mem_iff := by
    intro j
    rw [h.mem_iff, Progress.enter_stages_eq hs]
    split
    · next hij =>
      subst hij
      simp [hs, hnext.hasEnded]
    · rfl
  lines := by
    simp only [Progress.enter]
    rw [Effect.lines_append, hnext.lines, List.append_nil, h.lines]

/-- The end of a task puts it last in the order. -/
theorem enter_final (h : LogInOrder tasks order p) {i : Nat} {s : Stage} {t : Task}
    {next : List Effect × Stage} (hs : p.stages[i]? = some s) (ht : tasks[i]? = some t)
    (hnext : Stage.Final t s next) : LogInOrder tasks (order ++ [i]) (p.enter i next) where
  holdsBack := h.holdsBack_enter hs ht hnext.holdsBack
  nodup := by
    -- a task ends once: where it ends now it had not ended before
    have hi : i ∉ order := by
      rw [h.mem_iff]
      rintro ⟨s', hs', hended⟩
      obtain rfl := Option.some.inj (hs.symm.trans hs')
      rw [hnext.notEnded] at hended
      contradiction
    refine List.nodup_append.mpr ⟨h.nodup, List.pairwise_singleton _ i, ?_⟩
    rintro j hj k hk rfl
    obtain rfl := List.mem_singleton.mp hk
    exact hi hj
  mem_iff := by
    intro j
    rw [List.mem_append, List.mem_singleton, h.mem_iff, Progress.enter_stages_eq hs]
    split
    · next hij =>
      subst hij
      simp [hnext.hasEnded]
    · next hij => simp [Ne.symm hij]
  lines := by
    simp only [Progress.enter]
    rw [Effect.lines_append, h.lines, hnext.lines, List.flatMap_append]
    simp [linesOf, ht]

end LogInOrder

/-- **Every state of a run**: the run log holds what the tasks that ended write alone. -/
theorem exists_logInOrder {tasks : List Task} (hlast : ∀ t ∈ tasks, t.WritesLast) {p : Progress}
    (h : Reachable tasks p) : ∃ order, LogInOrder tasks order p := by
  refine h.invariant (P := fun p => ∃ order, LogInOrder tasks order p) ⟨[], .start hlast⟩ ?_ ?_ ?_
  · rintro p i s ⟨order, hp⟩ hs
    obtain ⟨t, ht, hback⟩ := hp.holdsBack i s hs
    rcases Stage.advance_silent_or_final hback with hsilent | hfinal
    · exact ⟨order, hp.enter_silent hs ht hsilent⟩
    · exact ⟨order ++ [i], hp.enter_final hs ht hfinal⟩
  · rintro p i s ⟨order, hp⟩ - hs
    obtain ⟨t, ht, -⟩ := hp.holdsBack i s hs
    exact ⟨order, hp.enter_silent hs ht (Stage.cancel_silent t s)⟩
  · rintro p ⟨order, hp⟩
    exact ⟨order, hp.holdsBack, hp.nodup, hp.mem_iff, hp.lines⟩

/-! ## Checks -/

theorem RunLog.appendAll_memory (before added : List String) :
    (RunLog.memory before).appendAll added = .memory (before ++ added) := by
  induction added generalizing before with
  | nil => rw [List.append_nil]; rfl
  | cons line rest ih =>
    change (RunLog.memory (before ++ [line])).appendAll rest = _
    rw [ih, List.append_assoc]
    rfl

namespace Prepared

variable {c : Prepared} {means : Means}

/-- What the run of a number adds to the run log if it runs alone. -/
def pieceAt (c : Prepared) (means : Means) (i : Nat) : List String :=
  (c.runs[i]?.map (ToolRun.piece means.reader)).getD []

theorem tasks_writeLast : ∀ t ∈ c.tasks means, t.WritesLast := by
  intro t ht
  unfold tasks at ht
  rcases List.mem_append.mp ht with hrun | hcoverage
  · obtain ⟨r, -, rfl⟩ := List.mem_map.mp hrun
    exact r.writesLast means.reader
  · split at hcoverage
    · obtain rfl := List.mem_singleton.mp hcoverage
      trivial
    · exact absurd hcoverage List.not_mem_nil

theorem linesOf_tasks (i : Nat) : linesOf (c.tasks means) i = c.pieceAt means i := by
  unfold linesOf pieceAt tasks
  by_cases hi : i < c.runs.length
  · rw [List.getElem?_append_left (by rwa [List.length_map]), List.getElem?_map,
      List.getElem?_eq_getElem hi]
    exact ToolRun.lines_effects means.reader c.runs[i]
  · -- behind the runs there is at most the coverage, which writes nothing
    rw [List.getElem?_append_right (by rw [List.length_map]; omega),
      List.getElem?_eq_none (l := c.runs) (by omega)]
    split
    · cases i - (c.runs.map (ToolRun.task means.reader)).length <;> rfl
    · rfl

theorem pieceAt_eq_nil {i : Nat} (h : c.runs[i]?.any ToolRun.hasOutput = false) :
    c.pieceAt means i = [] := by
  unfold pieceAt
  cases hr : c.runs[i]? with
  | none => rfl
  | some r =>
    rw [hr] at h
    exact ToolRun.piece_of_not_hasOutput h

theorem flatMap_pieceAt (order : List Nat) :
    (order.filter fun i => c.runs[i]?.any ToolRun.hasOutput).flatMap (c.pieceAt means)
      = order.flatMap (c.pieceAt means) := by
  induction order with
  | nil => rfl
  | cons i rest ih =>
    rw [List.filter_cons, List.flatMap_cons, ← ih]
    split
    · rw [List.flatMap_cons]
    · next hi => rw [pieceAt_eq_nil (by simpa using hi), List.nil_append]

/-- The end of a check adds nothing to the run log. -/
theorem conclude_log (p : Progress) (before : RunLog) :
    (c.conclude means p).log before = c.logAt p before := by
  unfold conclude logAt CheckRun.log
  cases p.result with
  | error e => rfl
  | ok fs =>
    have hrecord : Effect.lines [.record (summaryRecord c.target (c.tasks means) fs)] = [] := rfl
    simp only [if_true]
    rw [Effect.lines_append, hrecord, List.append_nil]

end Prepared

/-- The run log of a check after some moves: a row of pieces, one for each run whose tool
    ended and whose task has come to its end. -/
theorem exists_pieces {x : Executor} {h : Host} {means : Means} {target : Path}
    {o : UsableOptions} {c : Prepared} {p : Progress}
    (hprepare : prepare x h means target o = .ok c) (hp : Reachable (c.tasks means) p) :
    ∃ order : List Nat, order.Nodup
      ∧ (∀ i, i ∈ order ↔ ∃ r result, c.runs[i]? = some r ∧ r.hasOutput = true
          ∧ p.stages[i]? = some (.ended result))
      ∧ ∀ before, c.logAt p before
          = before.clear.appendAll (order.flatMap (c.pieceAt means)) := by
  obtain ⟨order, hlog⟩ := exists_logInOrder Prepared.tasks_writeLast hp
  -- tasks that ended without output wrote nothing and are left out of the order
  refine ⟨order.filter fun i => c.runs[i]?.any ToolRun.hasOutput, hlog.nodup.filter _, ?_, ?_⟩
  · intro i
    rw [List.mem_filter, hlog.mem_iff, Option.any_eq_true]
    constructor
    · rintro ⟨⟨s, hs, hended⟩, r, hr, houtput⟩
      obtain ⟨result, rfl⟩ := Stage.eq_ended_of_hasEnded hended
      exact ⟨r, result, hr, houtput, hs⟩
    · rintro ⟨r, result, hr, houtput, hs⟩
      exact ⟨⟨.ended result, hs, rfl⟩, r, hr, houtput⟩
  · intro before
    have hsame : linesOf (c.tasks means) = c.pieceAt means := funext Prepared.linesOf_tasks
    unfold Prepared.logAt
    rw [Effect.lines_append, (prepare_quiet hprepare).1, List.nil_append, hlog.lines, hsame,
      Prepared.flatMap_pieceAt]

/-- **Blocks never interleave**: a check that cannot be made ready leaves the run log
    cleared, and any other one leaves it as it is in the last state of its tasks.  In every
    state of such a check, in whatever order its tasks go on and also while it is stopping,
    what the run log holds since it was cleared is a row of pieces, one for each tool that
    ended and whose task has come to its end.  Each piece is what the run writes to an empty
    run log if it runs alone: its whole block, or its header if its output cannot be read. -/
theorem logAt_blocks (x : Executor) (h : Host) (means : Means) (target : Path)
    (o : UsableOptions) :
    (∀ e order before, prepare x h means target o = .error e →
        (checkWith x order h means target o).log before = before.clear)
      ∧ (∀ c order before, prepare x h means target o = .ok c →
        (checkWith x order h means target o).log before
          = c.logAt (runTasks order (c.tasks means)) before)
      ∧ ∀ c p, prepare x h means target o = .ok c → Reachable (c.tasks means) p →
        (∀ r ∈ c.runs,
            (RunLog.memory []).appendAll (Effect.lines (r.task means.reader).effects)
              = .memory (r.piece means.reader))
          ∧ ∃ order : List Nat, order.Nodup
            ∧ (∀ i, i ∈ order ↔ ∃ r result, c.runs[i]? = some r ∧ r.hasOutput = true
                ∧ p.stages[i]? = some (.ended result))
            ∧ ∀ before, c.logAt p before
                = before.clear.appendAll (order.flatMap (c.pieceAt means)) := by
  refine ⟨?_, ?_, ?_⟩
  · intro e order before hprepare
    simp only [checkWith, hprepare]
    rfl
  · intro c order before hprepare
    simp only [checkWith, hprepare]
    exact Prepared.conclude_log _ before
  · intro c p hprepare hp
    refine ⟨?_, exists_pieces hprepare hp⟩
    intro r _
    rw [RunLog.appendAll_memory, r.lines_effects, List.nil_append]

/-- The build ends, and vetting is still awaited. -/
def buildEnds : Order := fun _ => [.advance 2, .advance 0, .advance 0, .advance 2, .advance 0]

theorem logAt_blocks_buildEnds :
    ∃ order : List Nat, order.Nodup
      ∧ (∀ i, i ∈ order ↔ ∃ r result, brokenCheck.runs[i]? = some r ∧ r.hasOutput = true
          ∧ (runTasks buildEnds (brokenCheck.tasks withoutLinter)).stages[i]?
            = some (.ended result))
      ∧ ∀ before, brokenCheck.logAt (runTasks buildEnds (brokenCheck.tasks withoutLinter)) before
          = before.clear.appendAll (order.flatMap (brokenCheck.pieceAt withoutLinter)) :=
  ((logAt_blocks brokenBuild default withoutLinter checkedFile (.typed allWanted)).2.2 brokenCheck
    _ prepare_brokenCheck (reachable_runTasks buildEnds _)).2

example : brokenCheck.logAt (runTasks buildEnds (brokenCheck.tasks withoutLinter))
    (.memory ["before"])
      = .memory ["Finished running tool: /bin/go build -o /go-code-check .",
          "/w/a.go:7:1: broken\n\thint", ""] := by rfl

end SourceCheck
