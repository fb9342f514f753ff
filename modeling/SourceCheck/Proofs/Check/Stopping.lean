import SourceCheck.Proofs.Check.Failures

/-! # Checks that stop

    While its tasks run, a check waits for them.  When one has failed, the check asks all
    tasks that are still open to stop, waits until none is open, and then raises the failure.
    A task that was asked to stop is told so at its next turn.

    Turns are taken one at a time, by any task or by the check, in any order (`Work.run`).
    Every such run is a run of moves (`Work.exists_moves`), so what it answers is what the
    check gives in some order.  If some task fails alone, no run answers with findings; a run
    that answers raises the failure of the task that failed first, at a moment at which no
    task is open and every tool is killed whose output was awaited when its task was asked to
    stop; and since no run is stuck before or goes on for ever, each comes to that
    (`run_raises`). -/

namespace SourceCheck

/-! ## A check and its tasks -/

/-- What a check itself does while its tasks run. -/
inductive Phase where
  /-- It waits for the findings of its tasks. -/
  | gathering
  /-- It has a failure to raise, has asked its tasks to stop, and waits for their ends; those
      with the numbers `untold` have not been told yet. -/
  | stopping (failure : CheckFailure) (untold : List Nat)
  /-- It has answered. -/
  | answered (answer : Except CheckFailure (List Finding))
  deriving Repr

/-- A check at work. -/
structure Work where
  /-- What the check itself does. -/
  phase : Phase
  /-- How far its tasks have come. -/
  progress : Progress
  deriving Repr

/-- Whose turn it is. -/
inductive Work.Turn where
  /-- The task of a number has its turn. -/
  | task (i : Nat)
  /-- The check has its turn. -/
  | check
  deriving DecidableEq, Repr

/-- The task of a number may still do something. -/
def Progress.isOpenAt (p : Progress) (i : Nat) : Bool := p.stages[i]?.any Stage.isOpen

/-- The numbers of the tasks that may still do something. -/
def Progress.openTasks (p : Progress) : List Nat :=
  (List.range p.stages.length).filter p.isOpenAt

namespace Work

/-- A check before its first turn. -/
def start (tasks : List Task) : Work := ⟨.gathering, .start tasks⟩

/-- An open task has its turn: it goes on, or is told to stop if it has not been. -/
def taskTurn (w : Work) (i : Nat) : Work :=
  match w.phase with
  | .stopping e untold =>
    if i ∈ untold then ⟨.stopping e (untold.erase i), w.progress.cancel i⟩
    else ⟨w.phase, w.progress.advance i⟩
  | .gathering | .answered _ => ⟨w.phase, w.progress.advance i⟩

/-- The check has its turn; it has none while it must wait for its tasks. -/
def checkTurn (w : Work) : Option Work :=
  match w.phase, w.progress.failure with
  | .gathering, some e => some ⟨.stopping e w.progress.openTasks, w.progress⟩
  | .gathering, none =>
    if w.progress.isOver then
      some ⟨.answered (.ok (w.progress.stages.flatMap Stage.findings)), w.progress⟩
    else none
  | .stopping e _, _ =>
    if w.progress.isOver then some ⟨.answered (.error e), w.progress⟩ else none
  | .answered _, _ => none

/-- A turn is taken, if it can be. -/
def turn (w : Work) : Turn → Option Work
  | .task i => if w.progress.isOpenAt i then some (w.taskTurn i) else none
  | .check => w.checkTurn

/-- Turns are taken one after the other. -/
def run (w : Work) : List Turn → Option Work
  | [] => some w
  | t :: rest => (w.turn t).bind fun v => v.run rest

/-! ## One turn -/

/-- All that a turn can do. -/
inductive TurnCases (w : Work) : Turn → Work → Prop
  /-- An open task goes on. -/
  | goesOn (i : Nat) (s : Stage) : w.progress.stages[i]? = some s → s.isOpen = true →
    (∀ e untold, w.phase = .stopping e untold → i ∉ untold) →
    TurnCases w (.task i) ⟨w.phase, w.progress.advance i⟩
  /-- An open task is told to stop. -/
  | told (i : Nat) (s : Stage) (e : CheckFailure) (untold : List Nat) :
    w.progress.stages[i]? = some s → s.isOpen = true → w.phase = .stopping e untold →
    i ∈ untold → TurnCases w (.task i) ⟨.stopping e (untold.erase i), w.progress.cancel i⟩
  /-- The check finds a failure and asks its open tasks to stop. -/
  | asks (e : CheckFailure) : w.phase = .gathering → w.progress.failure = some e →
    TurnCases w .check ⟨.stopping e w.progress.openTasks, w.progress⟩
  /-- The check returns all findings. -/
  | returns : w.phase = .gathering → w.progress.failure = none → w.progress.isOver = true →
    TurnCases w .check
      ⟨.answered (.ok (w.progress.stages.flatMap Stage.findings)), w.progress⟩
  /-- The check raises its failure. -/
  | raises (e : CheckFailure) (untold : List Nat) : w.phase = .stopping e untold →
    w.progress.isOver = true → TurnCases w .check ⟨.answered (.error e), w.progress⟩

theorem taskTurn_cases {w : Work} {i : Nat} {s : Stage} (hs : w.progress.stages[i]? = some s)
    (hopen : s.isOpen = true) : TurnCases w (.task i) (w.taskTurn i) := by
  unfold taskTurn
  split
  · next e untold hphase =>
    split
    · next hmem => exact .told i s e untold hs hopen hphase hmem
    · next hmem =>
      refine .goesOn i s hs hopen fun e' untold' hphase' => ?_
      cases hphase.symm.trans hphase'
      exact hmem
  · next hphase => exact .goesOn i s hs hopen fun _ _ h => by rw [hphase] at h; contradiction
  · next hphase => exact .goesOn i s hs hopen fun _ _ h => by rw [hphase] at h; contradiction

theorem checkTurn_cases {w v : Work} (h : w.checkTurn = some v) : TurnCases w .check v := by
  unfold checkTurn at h
  split at h
  · next e hphase hfailure =>
    obtain rfl := Option.some.inj h
    exact .asks e hphase hfailure
  · next hphase hfailure =>
    split at h
    · next hover =>
      obtain rfl := Option.some.inj h
      exact .returns hphase hfailure hover
    · contradiction
  · next e untold hphase =>
    split at h
    · next hover =>
      obtain rfl := Option.some.inj h
      exact .raises e untold hphase hover
    · contradiction
  · contradiction

theorem turn_cases {w v : Work} {t : Turn} (h : w.turn t = some v) : TurnCases w t v := by
  cases t with
  | task i =>
    simp only [turn] at h
    split at h
    · next hopen =>
      obtain rfl := Option.some.inj h
      obtain ⟨s, hs, hopen⟩ := (Option.any_eq_true _ _).mp hopen
      exact taskTurn_cases hs hopen
    · contradiction
  | check => exact checkTurn_cases h

/-- **A check is not stuck**: before it has answered, a task or the check has a turn. -/
theorem answered_or_turn (w : Work) :
    (∃ answer, w.phase = .answered answer) ∨ ∃ t v, w.turn t = some v := by
  by_cases hover : w.progress.isOver = true
  -- with all tasks over it is the turn of the check, which answers or begins to stop
  · cases hphase : w.phase with
    | answered answer => exact .inl ⟨answer, rfl⟩
    | stopping e untold =>
      refine .inr ⟨.check, ⟨.answered (.error e), w.progress⟩, ?_⟩
      simp [turn, checkTurn, hphase, hover]
    | gathering =>
      cases hfailure : w.progress.failure with
      | none =>
        refine .inr ⟨.check,
          ⟨.answered (.ok (w.progress.stages.flatMap Stage.findings)), w.progress⟩, ?_⟩
        simp [turn, checkTurn, hphase, hfailure, hover]
      | some e =>
        refine .inr ⟨.check, ⟨.stopping e w.progress.openTasks, w.progress⟩, ?_⟩
        simp [turn, checkTurn, hphase, hfailure]
  · -- some task is open, and an open task always has a turn
    obtain ⟨s, hs, hopen⟩ : ∃ s ∈ w.progress.stages, s.isOpen = true := by
      simpa [Progress.isOver] using hover
    obtain ⟨i, hi⟩ := List.mem_iff_getElem?.mp hs
    refine .inr ⟨.task i, w.taskTurn i, ?_⟩
    simp [turn, Progress.isOpenAt, hi, hopen]

/-! ## Many turns -/

theorem run_append {w v : Work} {before after : List Turn} :
    w.run (before ++ after) = some v ↔ ∃ u, w.run before = some u ∧ u.run after = some v := by
  induction before generalizing w with
  | nil => simp [run]
  | cons t rest ih =>
    simp only [List.cons_append, run, Option.bind_eq_some_iff, ih]
    constructor
    · rintro ⟨u, hu, u', hu', hafter⟩
      exact ⟨u', ⟨u, hu, hu'⟩, hafter⟩
    · rintro ⟨u', ⟨u, hu, hu'⟩, hafter⟩
      exact ⟨u, hu, u', hu', hafter⟩

theorem run_singleton {w v : Work} {t : Turn} : w.run [t] = some v ↔ w.turn t = some v := by
  simp [run]

/-- **Invariants of work**: what holds before the first turn and is kept by each turn holds
    after every run. -/
theorem run_invariant {w : Work} {P : List Turn → Work → Prop} (hstart : P [] w)
    (hturn : ∀ ts v t v', w.run ts = some v → P ts v → v.turn t = some v' → P (ts ++ [t]) v')
    {ts : List Turn} {v : Work} (hrun : w.run ts = some v) : P ts v := by
  -- the induction goes over the turns that are still to be taken after some others
  have hlater : ∀ (after before : List Turn) (u : Work), w.run before = some u →
      P before u → u.run after = some v → P (before ++ after) v := by
    intro after
    induction after with
    | nil =>
      intro before u _ hu hafter
      obtain rfl := Option.some.inj hafter
      rwa [List.append_nil]
    | cons t rest ih =>
      intro before u hbefore hu hafter
      obtain ⟨u', ht, hrest⟩ := Option.bind_eq_some_iff.mp hafter
      have hnext := ih (before ++ [t]) u' (run_append.mpr ⟨u, hbefore, run_singleton.mpr ht⟩)
        (hturn before u t u' hbefore hu ht) hrest
      rwa [List.append_assoc] at hnext
  exact hlater ts [] w rfl hstart hrun

/-- **A run of turns is a run of moves.** -/
theorem exists_moves {tasks : List Task} {ts : List Turn} {w : Work}
    (hrun : (start tasks).run ts = some w) :
    ∃ ms, w.progress = (Progress.start tasks).moves ms := by
  refine run_invariant (P := fun _ w => ∃ ms, w.progress = (Progress.start tasks).moves ms)
    ⟨[], rfl⟩ ?_ hrun
  rintro ts v t v' - ⟨ms, hms⟩ hturn
  cases turn_cases hturn with
  | goesOn i s =>
    refine ⟨ms ++ [.advance i], ?_⟩
    simp [Progress.moves, List.foldl_append, hms, Progress.move]
  | told i s =>
    refine ⟨ms ++ [.cancel i], ?_⟩
    simp [Progress.moves, List.foldl_append, hms, Progress.move]
  | asks | returns | raises => exact ⟨ms, hms⟩

theorem reachable_of_run {tasks : List Task} {ts : List Turn} {w : Work}
    (hrun : (start tasks).run ts = some w) : Reachable tasks w.progress := by
  obtain ⟨ms, hms⟩ := exists_moves hrun
  rw [hms]
  exact Reachable.start.moves ms

/-! ## What the check knows -/

/-- What a check raises is the failure of its run, and it answers when no task is open. -/
def Agrees (w : Work) : Prop :=
  match w.phase with
  | .gathering => True
  | .stopping e _ => w.progress.failure = some e
  | .answered answer => w.progress.isOver = true ∧ w.progress.result = answer

theorem Agrees.turn {w v : Work} {t : Turn} (h : w.Agrees) (hturn : w.turn t = some v) :
    v.Agrees := by
  unfold Agrees at h ⊢
  cases turn_cases hturn with
  | goesOn i s hs hopen =>
    dsimp only
    cases hphase : w.phase with
    | gathering => trivial
    | stopping e untold =>
      rw [hphase] at h
      rw [Progress.advance_eq_enter hs]
      exact Progress.failure_enter h i _
    | answered answer =>
      -- no task is open when the check has answered
      rw [hphase] at h
      have hclosed := List.all_eq_true.mp h.1 s (List.mem_of_getElem? hs)
      simp [hopen] at hclosed
  | told i s e untold hs hopen hphase =>
    rw [hphase] at h
    exact Progress.failure_cancel h i
  | asks e hphase hfailure => exact hfailure
  | returns hphase hfailure hover =>
    refine ⟨hover, ?_⟩
    unfold Progress.result
    rw [hfailure]
  | raises e untold hphase hover =>
    rw [hphase] at h
    refine ⟨hover, ?_⟩
    unfold Progress.result
    rw [h]

theorem agrees_of_run {tasks : List Task} {ts : List Turn} {w : Work}
    (hrun : (start tasks).run ts = some w) : w.Agrees :=
  run_invariant (P := fun _ w => w.Agrees) (w := start tasks) trivial
    (fun _ _ _ _ _ h hturn => h.turn hturn) hrun

/-! ## Every run comes to its end -/

/-- How many steps some tasks have left at most. -/
def stepsLeftIn : List Stage → Nat
  | [] => 0
  | s :: rest => s.stepsLeft + stepsLeftIn rest

/-- How many turns are left at most.  Each open task may have to be told to stop, and the check
    has two turns of its own. -/
def turnsLeft (w : Work) : Nat :=
  stepsLeftIn w.progress.stages
    + match w.phase with
      | .gathering => w.progress.stages.length + 2
      | .stopping _ untold => untold.length + 1
      | .answered _ => 0

theorem stepsLeftIn_set {stages : List Stage} {i : Nat} {s : Stage} (hs : stages[i]? = some s)
    (next : Stage) :
    stepsLeftIn (stages.set i next) + s.stepsLeft = stepsLeftIn stages + next.stepsLeft := by
  induction stages generalizing i with
  | nil => simp at hs
  | cons first rest ih =>
    cases i with
    | zero =>
      obtain rfl := Option.some.inj hs
      simp only [List.set_cons_zero, stepsLeftIn]
      omega
    | succ i =>
      have hrest := ih (i := i) hs
      simp only [List.set_cons_succ, stepsLeftIn]
      omega

theorem stepsLeft_pos {s : Stage} (h : s.isOpen = true) : 0 < s.stepsLeft := by
  apply Nat.pos_of_ne_zero
  intro hzero
  rw [Stage.isOpen_eq_false_of_stepsLeft hzero] at h
  contradiction

theorem length_openTasks_le (p : Progress) : p.openTasks.length ≤ p.stages.length := by
  have hle := List.length_filter_le p.isOpenAt (List.range p.stages.length)
  rwa [List.length_range] at hle

/-- **One turn** takes at least one from the turns that are left. -/
theorem turnsLeft_lt {w v : Work} {t : Turn} (hturn : w.turn t = some v) :
    v.turnsLeft < w.turnsLeft := by
  unfold turnsLeft
  -- a turn of a task uses up a step or a task to be told; one of the check leads to its next
  -- phase
  cases turn_cases hturn with
  | goesOn i s hs hopen =>
    have hset := stepsLeftIn_set hs s.advance.2
    have hpos := stepsLeft_pos hopen
    rw [s.stepsLeft_advance] at hset
    simp only [Progress.advance_eq_enter hs, Progress.enter, List.length_set]
    omega
  | told i s e untold hs hopen hphase hmem =>
    have herase := List.length_erase_of_mem hmem
    have hpos := List.length_pos_of_mem hmem
    rw [hphase]
    rcases w.progress.cancel_cases i with ⟨-, hsame⟩ | ⟨s', -, hs', henter⟩
    · simp only [hsame]
      omega
    · have hset := stepsLeftIn_set hs' s'.cancel.2
      have hle := s'.stepsLeft_cancel_le
      simp only [henter, Progress.enter]
      omega
  | asks e hphase =>
    have hle := length_openTasks_le w.progress
    simp only [hphase]
    omega
  | returns hphase =>
    simp only [hphase]
    omega
  | raises e untold hphase =>
    simp only [hphase]
    omega

/-- **Many turns**: a run takes no more turns than are left at its start. -/
theorem length_add_turnsLeft_le {w v : Work} {ts : List Turn} (hrun : w.run ts = some v) :
    ts.length + v.turnsLeft ≤ w.turnsLeft := by
  refine run_invariant (P := fun ts v => ts.length + v.turnsLeft ≤ w.turnsLeft) (by simp) ?_ hrun
  intro ts v t v' _ h hturn
  have hlt := turnsLeft_lt hturn
  rw [List.length_append, List.length_singleton]
  omega

/-! ## The task that fails first -/

/-- The task of a number is the first that fails in a run, with a failure. -/
def FailsFirst (tasks : List Task) (ts : List Turn) (i : Nat) (e : CheckFailure) : Prop :=
  ∃ before after v v', ts = before ++ .task i :: after
    ∧ (start tasks).run before = some v ∧ v.turn (.task i) = some v'
    ∧ (∀ s ∈ v.progress.stages, s.failure? = none)
    ∧ v'.progress.stages[i]? = some (.ended (.error e))

theorem FailsFirst.append {tasks : List Task} {ts : List Turn} {i : Nat} {e : CheckFailure}
    (h : FailsFirst tasks ts i e) (t : Turn) : FailsFirst tasks (ts ++ [t]) i e := by
  obtain ⟨before, after, v, v', rfl, hfirst⟩ := h
  exact ⟨before, after ++ [t], v, v', by simp, hfirst⟩

/-- The failure of a run is that of the task that failed first. -/
theorem exists_failsFirst {tasks : List Task} {ts : List Turn} {w : Work}
    (hrun : (start tasks).run ts = some w) :
    ∀ e, w.progress.failure = some e → ∃ i, FailsFirst tasks ts i e := by
  refine run_invariant (P := fun ts w => ∀ e, w.progress.failure = some e →
    ∃ i, FailsFirst tasks ts i e) (fun e he => by cases he) ?_ hrun
  intro ts v t v' hv ih hturn e he
  have hbefore : ∀ e, v.progress.failure = some e → ∃ i, FailsFirst tasks (ts ++ [t]) i e := by
    intro e he
    obtain ⟨i, hi⟩ := ih e he
    exact ⟨i, hi.append t⟩
  cases turn_cases hturn with
  | goesOn i s hs hopen =>
    cases hf : v.progress.failure with
    | some e' =>
      rw [Progress.advance_eq_enter hs, Progress.failure_enter hf] at he
      exact hbefore e (hf.trans he)
    | none =>
      -- no task had failed before this turn
      have hnone := (reachable_of_run hv).failureOfTask
      unfold FailureOfTask at hnone
      rw [hf] at hnone
      have hfails : s.advance.2.failure? = some e := by
        simpa [Progress.advance_eq_enter hs, Progress.enter, hf] using he
      refine ⟨i, ts, [], v, _, rfl, hv, hturn, hnone, ?_⟩
      dsimp only
      rw [Progress.advance_eq_enter hs, Progress.enter_stages_eq hs, if_pos rfl,
        Stage.eq_ended_of_failure? hfails]
  | told i s e' untold hs hopen hphase =>
    have hagrees := agrees_of_run hv
    unfold Agrees at hagrees
    rw [hphase] at hagrees
    rw [Progress.failure_cancel hagrees] at he
    exact hbefore e (hagrees.trans he)
  | asks | returns | raises => exact hbefore e he

/-! ## Tools whose output is awaited -/

/-- A task that waited for the output of a command when it was asked to stop has not been told
    yet, or the command is killed with all that it started. -/
def IsDoomed (i : Nat) (command : List String) (w : Work) : Prop :=
  (∃ e untold rest, w.phase = .stopping e untold ∧ i ∈ untold
      ∧ w.progress.stages[i]? = some (.waiting (.output command) rest))
    ∨ Effect.kill command true ∈ w.progress.effects

theorem IsDoomed.turn {i : Nat} {command : List String} {w v : Work} {t : Turn}
    (hagrees : w.Agrees) (h : IsDoomed i command w) (hturn : w.turn t = some v) :
    IsDoomed i command v := by
  rcases h with ⟨e, untold, rest, hphase, hmem, hwaits⟩ | hkill
  · unfold Agrees at hagrees
    rw [hphase] at hagrees
    cases turn_cases hturn with
    | goesOn j s hs hopen huntold =>
      -- another task goes on: this one has to be told first
      have hne : j ≠ i := by
        rintro rfl
        exact huntold e untold hphase hmem
      refine .inl ⟨e, untold, rest, hphase, hmem, ?_⟩
      dsimp only
      rw [Progress.advance_eq_enter hs, Progress.enter_stages_eq hs, if_neg hne, hwaits]
    | told j s e' untold' hs hopen hphase' hmem' =>
      cases hphase.symm.trans hphase'
      have hstop : w.progress.isStopping = true := by
        simp [Progress.isStopping, hagrees]
      by_cases hij : j = i
      · -- it is told, and kills its tool
        subst hij
        obtain rfl := Option.some.inj (hs.symm.trans hwaits)
        refine .inr ?_
        dsimp only
        rw [Progress.cancel_eq_enter hstop hs]
        simp [Progress.enter, Stage.cancel]
      · refine .inl ⟨e, untold.erase j, rest, rfl, ?_, ?_⟩
        · exact (List.mem_erase_of_ne (Ne.symm hij)).mpr hmem
        · dsimp only
          rw [Progress.cancel_eq_enter hstop hs, Progress.enter_stages_eq hs, if_neg hij, hwaits]
    | asks e' hphase' => rw [hphase] at hphase'; contradiction
    | returns hphase' => rw [hphase] at hphase'; contradiction
    | raises e' untold' hphase' hover =>
      have hclosed := List.all_eq_true.mp hover _ (List.mem_of_getElem? hwaits)
      contradiction
  · -- what others saw stays seen
    refine .inr ?_
    cases turn_cases hturn with
    | goesOn j s hs =>
      dsimp only
      rw [Progress.advance_eq_enter hs]
      exact List.mem_append_left _ hkill
    | told j s =>
      dsimp only
      rcases w.progress.cancel_cases j with ⟨-, hsame⟩ | ⟨s', -, -, henter⟩
      · rwa [hsame]
      · rw [henter]
        exact List.mem_append_left _ hkill
    | asks | returns | raises => exact hkill

/-- A check has a turn while the output of a command is awaited: it asks the task to stop. -/
theorem isDoomed_of_checkTurn {w v : Work} {i : Nat} {command : List String} {rest : Task}
    (hturn : w.turn .check = some v)
    (hwaits : w.progress.stages[i]? = some (.waiting (.output command) rest)) :
    IsDoomed i command v := by
  have hopen : w.progress.isOver = false := by
    rw [Progress.isOver, List.all_eq_false]
    exact ⟨_, List.mem_of_getElem? hwaits, by simp [Stage.isOpen]⟩
  cases turn_cases hturn with
  | asks e =>
    obtain ⟨hlt, -⟩ := List.getElem?_eq_some_iff.mp hwaits
    refine .inl ⟨e, w.progress.openTasks, rest, rfl, ?_, hwaits⟩
    exact List.mem_filter.mpr
      ⟨List.mem_range.mpr hlt, by simp [Progress.isOpenAt, hwaits, Stage.isOpen]⟩
  | returns _ _ hover => rw [hopen] at hover; contradiction
  | raises _ _ _ hover => rw [hopen] at hover; contradiction

theorem isDoomed_of_run {w v : Work} {i : Nat} {command : List String} {ts : List Turn}
    (hagrees : w.Agrees) (h : IsDoomed i command w) (hrun : w.run ts = some v) :
    IsDoomed i command v := by
  refine (run_invariant (P := fun _ v => v.Agrees ∧ IsDoomed i command v) ⟨hagrees, h⟩ ?_ hrun).2
  rintro _ u t u' - ⟨hu, hdoomed⟩ hturn
  exact ⟨hu.turn hturn, hdoomed.turn hu hturn⟩

/-- **No tool is left behind**: when a check has answered, every tool is killed whose output
    was awaited when the check asked its tasks to stop. -/
theorem killed_of_run {tasks : List Task} {before after : List Turn} {v w : Work} {i : Nat}
    {command : List String} {rest : Task} {answer : Except CheckFailure (List Finding)}
    (hrun : (start tasks).run (before ++ .check :: after) = some w)
    (hbefore : (start tasks).run before = some v)
    (hwaits : v.progress.stages[i]? = some (.waiting (.output command) rest))
    (hanswer : w.phase = .answered answer) : .kill command true ∈ w.progress.effects := by
  obtain ⟨u, hu, hrest⟩ := run_append.mp hrun
  obtain rfl := Option.some.inj (hu.symm.trans hbefore)
  obtain ⟨v, hturn, hafter⟩ := Option.bind_eq_some_iff.mp hrest
  rcases isDoomed_of_run ((agrees_of_run hu).turn hturn) (isDoomed_of_checkTurn hturn hwaits) hafter
    with ⟨e, untold, -, hphase, -⟩ | hkill
  · rw [hphase] at hanswer
    contradiction
  · exact hkill

/-! ## Checks -/

/-- What is so when a check with some tasks raises a failure after some turns. -/
structure Raises (tasks : List Task) (ts : List Turn) (w : Work) (e : CheckFailure) : Prop where
  /-- The failure is that of the task that failed first, and what this task gives alone. -/
  first : ∃ i t, FailsFirst tasks ts i e ∧ tasks[i]? = some t ∧ t.result = .error e
  /-- No task is left out. -/
  complete : w.progress.stages.length = tasks.length
  /-- Every task has ended or was cancelled. -/
  closed : ∀ s ∈ w.progress.stages, (∃ result, s = .ended result) ∨ s = .cancelled
  /-- Every tool is killed, with all that it started, whose output was awaited when the check
      had a turn, so that its task was asked to stop. -/
  killed : ∀ (before after : List Turn) (v : Work) (i : Nat) (command : List String) (rest : Task),
    ts = before ++ .check :: after → (start tasks).run before = some v →
    v.progress.stages[i]? = some (.waiting (.output command) rest) →
    .kill command true ∈ w.progress.effects

theorem raises_of_answered {tasks : List Task} {ts : List Turn} {w : Work} {e : CheckFailure}
    (hrun : (start tasks).run ts = some w) (hanswer : w.phase = .answered (.error e)) :
    Raises tasks ts w e := by
  have hagrees := agrees_of_run hrun
  unfold Agrees at hagrees
  rw [hanswer] at hagrees
  obtain ⟨hover, hresult⟩ := hagrees
  have hfailure : w.progress.failure = some e := by
    unfold Progress.result at hresult
    split at hresult
    · next e' he =>
      rw [he, Except.error.inj hresult]
    · contradiction
  have hreach := reachable_of_run hrun
  refine ⟨?_, hreach.length_stages, ?_, ?_⟩
  · obtain ⟨i, hi⟩ := exists_failsFirst hrun e hfailure
    obtain ⟨before, after, v, v', -, hv, hturn, -, hended⟩ := id hi
    -- what the task gave is what it gives alone
    have hv' : Reachable tasks v'.progress :=
      reachable_of_run (run_append.mpr ⟨v, hv, run_singleton.mpr hturn⟩)
    obtain ⟨t, ht, hout⟩ := hv'.givesOwn i _ hended
    refine ⟨i, t, hi, ht, ?_⟩
    rcases hout with hown | ⟨-, hnone⟩
    · exact (Option.some.inj hown).symm
    · contradiction
  · intro s hs
    exact Stage.eq_ended_or_cancelled (by simpa using List.all_eq_true.mp hover s hs)
  · rintro before after v i command rest rfl hv hwaits
    exact killed_of_run hrun hv hwaits hanswer

/-- **A failing task rejects the whole check and leaves nothing running.**  If a task fails
    alone, then in whatever order the tasks and the check take their turns:

    - the check does not answer with findings,
    - it is not stuck before it raises a failure, and cannot take turns for ever,
    - the failure it raises is that of the task that failed first, when it raises it no task
      is open, and the tools that were still awaited are killed (`Raises`),
    - if the tasks that fail alone all fail with one failure, it is this one,
    - and what it raises is what the check gives in some order of its tasks' moves. -/
theorem run_raises {tasks : List Task} (hfails : ∃ t ∈ tasks, ∃ e, t.result = .error e)
    {ts : List Turn} {w : Work} (hrun : (start tasks).run ts = some w) :
    (∀ fs, w.phase ≠ .answered (.ok fs))
      ∧ ((∃ e, w.phase = .answered (.error e)) ∨ ∃ t v, w.turn t = some v)
      ∧ ts.length ≤ (start tasks).turnsLeft
      ∧ ∀ e, w.phase = .answered (.error e) →
        Raises tasks ts w e
          ∧ (∀ e', (∀ t ∈ tasks, ∀ f, t.result = .error f → f = e') → e = e')
          ∧ ∃ order, ∀ (x : Executor) (h : Host) (means : Means) (filename : Path)
              (given : GivenOptions) (o : UsableOptions) (c : Prepared),
              given.read = .ok o →
              prepare x h means (filename.absolute h.workingPath) o = .ok c →
              c.tasks means = tasks →
              (checkIn x order h means filename given).result = .error (.failed e) := by
  have hagrees := agrees_of_run hrun
  obtain ⟨ms, hms⟩ := exists_moves hrun
  -- findings are answered only where nothing failed
  have hnever : ∀ fs, w.phase ≠ .answered (.ok fs) := by
    intro fs hanswer
    unfold Agrees at hagrees
    rw [hanswer] at hagrees
    obtain ⟨hover, hresult⟩ := hagrees
    rw [hms] at hover hresult
    obtain ⟨e, he⟩ := Option.isSome_iff_exists.mp (Progress.failure_isSome hfails hover)
    unfold Progress.result at hresult
    rw [he] at hresult
    contradiction
  refine ⟨hnever, ?_, ?_, ?_⟩
  · rcases w.answered_or_turn with ⟨answer, hanswer⟩ | hturn
    · cases answer with
      | ok fs => exact absurd hanswer (hnever fs)
      | error e => exact .inl ⟨e, hanswer⟩
    · exact .inr hturn
  -- each turn uses up one that was left
  · have hle := length_add_turnsLeft_le hrun
    omega
  · intro e hanswer
    have hraises := raises_of_answered hrun hanswer
    refine ⟨hraises, ?_, fun _ => ms, ?_⟩
    · intro e' honly
      obtain ⟨i, t, -, ht, hresult⟩ := hraises.first
      exact honly t (List.mem_of_getElem? ht) e hresult
    -- the moves that the turns made are such an order
    · intro x h means filename given o c hread hprepare htasks
      unfold Agrees at hagrees
      rw [hanswer, hms] at hagrees
      simp only [checkIn, checkWith, hread, hprepare, Prepared.conclude, runTasks, htasks,
        hagrees.2]

/-- Means that cannot tell the coverage. -/
def withoutProfile : Means :=
  { withoutLinter with coverage := fun _ => .error "no profile" }

/-- The coverage fails while vetting is awaited.  Before the check has a turn, the build is
    started. -/
def failingTurns : List Turn :=
  [.task 2, .task 2, .task 3, .task 0, .check, .task 1, .task 2, .task 0, .task 2, .task 0, .check]

theorem run_raises_failingTurns :
    ∃ w, (start (brokenCheck.tasks withoutProfile)).run failingTurns = some w
      ∧ w.phase = .answered (.error (.coverage "no profile"))
      ∧ Raises (brokenCheck.tasks withoutProfile) failingTurns w (.coverage "no profile") := by
  have hfails : ∃ t ∈ brokenCheck.tasks withoutProfile, ∃ e, t.result = .error e :=
    ⟨coverageTask withoutProfile.coverage checkedFile,
      List.mem_append_right _ (List.mem_singleton.mpr rfl), .coverage "no profile", rfl⟩
  refine ⟨_, rfl, rfl, ?_⟩
  exact ((run_raises hfails rfl).2.2.2 _ rfl).1

end Work

end SourceCheck
