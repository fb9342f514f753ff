import SourceCheck.Check.Schedule

/-! # Runs of tasks

    What one move can do is said once (`advance_cases`, `cancel_cases`): it leaves
    everything as it was, or one task enters a stage.  From that, a property that
    every entering keeps holds in every state of a run (`Reachable.invariant`).

    A task that goes on keeps what it gives and what it lets others see on the whole;
    a task has only so many steps left, so every order that lets each task go on often
    enough brings the run to its end (`moves_isOver`), and the usual order does
    (`runTasks_usualMoves_isOver`). -/

namespace SourceCheck

/-! ## One task -/

namespace Stage

/-- What a task that came so far will give, unless it is cancelled. -/
def outcome? : Stage → Option (Except CheckFailure (List Finding))
  | .ready t | .waiting _ t => some t.result
  | .ended result => some result
  | .closing | .cancelled => none

/-- What others will still see of a task, unless it is cancelled. -/
def pending : Stage → List Effect
  | .ready t | .waiting _ t => t.effects
  | .closing | .ended _ | .cancelled => []

/-- How many steps a task has left at most. -/
def stepsLeft : Stage → Nat
  | .ready t | .waiting _ t => t.times.length + 1
  | .closing => 1
  | .ended _ | .cancelled => 0

theorem outcome?_next (t : Task) : t.next.2.outcome? = some t.result := by
  cases t <;> rfl

/-- **One step**: a task that goes on will give what it would have given before. -/
theorem outcome?_advance (s : Stage) : s.advance.2.outcome? = s.outcome? := by
  cases s with
  | ready t => exact outcome?_next t
  | waiting w t => exact outcome?_next t
  | closing | ended _ | cancelled => rfl

theorem next_append_pending (t : Task) : t.next.1 ++ t.next.2.pending = t.effects := by
  cases t with
  | last es result => exact List.append_nil es
  | step es w time rest => rfl

/-- **One step**: what others see of it and what they will see later is what they would
    have seen. -/
theorem advance_append_pending (s : Stage) : s.advance.1 ++ s.advance.2.pending = s.pending := by
  cases s with
  | ready t => exact next_append_pending t
  | waiting w t => exact next_append_pending t
  | closing | ended _ | cancelled => rfl

theorem pending_of_not_isOpen {s : Stage} (h : s.isOpen = false) : s.pending = [] := by
  cases s with
  | ready _ | waiting _ _ | closing => contradiction
  | ended _ | cancelled => rfl

theorem stepsLeft_next (t : Task) : t.next.2.stepsLeft = t.times.length := by
  cases t <;> rfl

theorem stepsLeft_advance (s : Stage) : s.advance.2.stepsLeft = s.stepsLeft - 1 := by
  cases s with
  | ready t => exact stepsLeft_next t
  | waiting w t => exact stepsLeft_next t
  | closing | ended _ | cancelled => rfl

theorem stepsLeft_cancel_le (s : Stage) : s.cancel.2.stepsLeft ≤ s.stepsLeft := by
  cases s with
  -- only here a step may be left: to wait for the pipes of the tool
  | waiting w t => cases w <;> simp [cancel, stepsLeft]
  | ready _ | closing | ended _ | cancelled => simp [cancel, stepsLeft]

theorem isOpen_eq_false_of_stepsLeft {s : Stage} (h : s.stepsLeft = 0) : s.isOpen = false := by
  cases s <;> simp_all [stepsLeft, isOpen]

/-- A task that has failed does nothing more. -/
theorem eq_ended_of_failure? {s : Stage} {e : CheckFailure} (h : s.failure? = some e) :
    s = .ended (.error e) := by
  unfold failure? at h
  split at h
  · obtain rfl := Option.some.inj h
    rfl
  · contradiction

/-- A failure that a task ends with is what it gives. -/
theorem outcome?_of_failure? {s : Stage} {e : CheckFailure} (h : s.failure? = some e) :
    s.outcome? = some (.error e) := by
  rw [eq_ended_of_failure? h]
  rfl

end Stage

/-! ## One move -/

namespace Progress

theorem advance_eq_enter {p : Progress} {i : Nat} {s : Stage} (hs : p.stages[i]? = some s) :
    p.advance i = p.enter i s.advance := by
  unfold advance
  rw [hs]

theorem cancel_eq_enter {p : Progress} {i : Nat} {s : Stage} (hstop : p.isStopping = true)
    (hs : p.stages[i]? = some s) : p.cancel i = p.enter i s.cancel := by
  unfold cancel
  rw [hstop, hs]

theorem advance_cases (i : Nat) (p : Progress) :
    (p.stages[i]? = none ∧ p.advance i = p) ∨
      ∃ s, p.stages[i]? = some s ∧ p.advance i = p.enter i s.advance := by
  cases h : p.stages[i]? with
  | none => exact .inl ⟨rfl, by unfold advance; rw [h]⟩
  | some s => exact .inr ⟨s, rfl, advance_eq_enter h⟩

theorem cancel_cases (i : Nat) (p : Progress) :
    ((p.isStopping = false ∨ p.stages[i]? = none) ∧ p.cancel i = p) ∨
      ∃ s, p.isStopping = true ∧ p.stages[i]? = some s ∧ p.cancel i = p.enter i s.cancel := by
  cases hstop : p.isStopping with
  | false => exact .inl ⟨.inl rfl, by unfold cancel; rw [hstop]⟩
  | true =>
    cases h : p.stages[i]? with
    | none => exact .inl ⟨.inr rfl, by unfold cancel; rw [hstop, h]⟩
    | some s => exact .inr ⟨s, rfl, rfl, cancel_eq_enter hstop h⟩

/-- The stages after one task entered another. -/
theorem enter_stages_eq {p : Progress} {i : Nat} {s : Stage} (h : p.stages[i]? = some s)
    (next : List Effect × Stage) (j : Nat) :
    (p.enter i next).stages[j]? = if i = j then some next.2 else p.stages[j]? := by
  obtain ⟨hi, -⟩ := List.getElem?_eq_some_iff.mp h
  simp only [enter]
  rw [List.getElem?_set, if_pos hi]

/-- What holds of every stage holds after one task entered another of which it holds. -/
theorem forall_enter {Q : Nat → Stage → Prop} {p : Progress} {i : Nat} {s : Stage}
    {next : List Effect × Stage} (h : ∀ (j : Nat) (s' : Stage), p.stages[j]? = some s' → Q j s')
    (hs : p.stages[i]? = some s) (hnext : Q i next.2) :
    ∀ (j : Nat) (s' : Stage), (p.enter i next).stages[j]? = some s' → Q j s' := by
  intro j s' hs'
  rw [enter_stages_eq hs] at hs'
  split at hs'
  · next hij =>
    subst hij
    obtain rfl := Option.some.inj hs'
    exact hnext
  · exact h j s' hs'

end Progress

/-! ## States of a run -/

/-- The states that a run of some tasks may come to.  The check may be given up at any
    time. -/
inductive Reachable (tasks : List Task) : Progress → Prop
  | start : Reachable tasks (Progress.start tasks)
  | move {p : Progress} (m : Move) : Reachable tasks p → Reachable tasks (p.move m)
  | giveUp {p : Progress} : Reachable tasks p → Reachable tasks p.giveUp

/-- **Invariants of runs**: what holds at the start, and is kept when a task goes on,
    when a task of a check that is stopping is cancelled and when the check is given up,
    holds in every state. -/
theorem Reachable.invariant {tasks : List Task} {P : Progress → Prop}
    (hstart : P (Progress.start tasks))
    (hadvance : ∀ p i s, P p → p.stages[i]? = some s → P (p.enter i s.advance))
    (hcancel : ∀ p i s, P p → p.isStopping = true → p.stages[i]? = some s →
      P (p.enter i s.cancel))
    (hgiveUp : ∀ p, P p → P p.giveUp)
    {p : Progress} (h : Reachable tasks p) : P p := by
  induction h with
  | start => exact hstart
  | @move p m _ ih =>
    -- a move that cannot be made leaves the state as it is
    cases m with
    | advance i =>
      change P (p.advance i)
      rcases p.advance_cases i with ⟨-, hsame⟩ | ⟨s, hs, henter⟩
      · rwa [hsame]
      · rw [henter]
        exact hadvance p i s ih hs
    | cancel i =>
      change P (p.cancel i)
      rcases p.cancel_cases i with ⟨-, hsame⟩ | ⟨s, hstop, hs, henter⟩
      · rwa [hsame]
      · rw [henter]
        exact hcancel p i s ih hstop hs
  | @giveUp p _ ih => exact hgiveUp p ih

theorem Reachable.moves {tasks : List Task} {p : Progress} (h : Reachable tasks p)
    (ms : List Move) : Reachable tasks (p.moves ms) := by
  induction ms generalizing p with
  | nil => exact h
  | cons m rest ih => exact ih (h.move m)

/-- Each task keeps its place among the stages. -/
theorem Reachable.length_stages {tasks : List Task} {p : Progress} (h : Reachable tasks p) :
    p.stages.length = tasks.length := by
  refine h.invariant (P := fun p => p.stages.length = tasks.length) ?_ ?_ ?_ ?_
  · exact List.length_map _
  · intro p i s hp _
    exact List.length_set.trans hp
  · intro p i s hp _ _
    exact List.length_set.trans hp
  · intro p hp
    exact hp

/-- A run in any order stays within the states of a run. -/
theorem reachable_runTasks (order : Order) (tasks : List Task) :
    Reachable tasks (runTasks order tasks) := Reachable.start.moves (order tasks)

/-! ## How a run ends -/

namespace Progress

/-- How many steps the task of a number has left at most. -/
def stepsLeft (p : Progress) (i : Nat) : Nat := (p.stages[i]?.map Stage.stepsLeft).getD 0

theorem stepsLeft_of_getElem? {p : Progress} {i : Nat} {s : Stage} (h : p.stages[i]? = some s) :
    p.stepsLeft i = s.stepsLeft := by
  simp [stepsLeft, h]

theorem stepsLeft_start {tasks : List Task} {i : Nat} {t : Task} (h : tasks[i]? = some t) :
    (start tasks).stepsLeft i = t.times.length + 1 := by
  simp [stepsLeft, start, Stage.stepsLeft, h]

theorem stepsLeft_enter {p : Progress} {i : Nat} {s : Stage} (h : p.stages[i]? = some s)
    (next : List Effect × Stage) (j : Nat) :
    (p.enter i next).stepsLeft j = if i = j then next.2.stepsLeft else p.stepsLeft j := by
  unfold stepsLeft
  rw [enter_stages_eq h]
  split <;> rfl

theorem stepsLeft_advance (p : Progress) (i : Nat) :
    (p.advance i).stepsLeft i = p.stepsLeft i - 1 := by
  rcases p.advance_cases i with ⟨hnone, hsame⟩ | ⟨s, hs, henter⟩
  · rw [hsame]
    simp [stepsLeft, hnone]
  · rw [henter, stepsLeft_enter hs, if_pos rfl, s.stepsLeft_advance, stepsLeft_of_getElem? hs]

/-- **One move**: no task has more steps left than before. -/
theorem stepsLeft_move_le (p : Progress) (m : Move) (i : Nat) :
    (p.move m).stepsLeft i ≤ p.stepsLeft i := by
  cases m with
  | advance j =>
    change (p.advance j).stepsLeft i ≤ _
    -- a step takes one from its own task and nothing from the others
    by_cases hji : j = i
    · subst hji
      rw [stepsLeft_advance]
      exact Nat.sub_le _ _
    · apply Nat.le_of_eq
      rcases p.advance_cases j with ⟨-, hsame⟩ | ⟨s, hs, henter⟩
      · rw [hsame]
      · rw [henter, stepsLeft_enter hs, if_neg hji]
  | cancel j =>
    change (p.cancel j).stepsLeft i ≤ _
    rcases p.cancel_cases j with ⟨-, hsame⟩ | ⟨s, -, hs, henter⟩
    · exact Nat.le_of_eq (by rw [hsame])
    · rw [henter, stepsLeft_enter hs]
      split
      · next hji =>
        subst hji
        rw [stepsLeft_of_getElem? hs]
        exact s.stepsLeft_cancel_le
      · exact Nat.le_refl _

/-- **Many moves**: each time that a task goes on takes a step from it. -/
theorem stepsLeft_moves_le (p : Progress) (ms : List Move) (i : Nat) :
    (p.moves ms).stepsLeft i ≤ p.stepsLeft i - ms.count (.advance i) := by
  induction ms generalizing p with
  | nil => exact Nat.le_refl _
  | cons m rest ih =>
    have hrest : ((p.move m).moves rest).stepsLeft i
        ≤ (p.move m).stepsLeft i - rest.count (.advance i) := ih (p.move m)
    have hmove := p.stepsLeft_move_le m i
    -- each step of this task takes one, until none are left
    by_cases hm : m = .advance i
    · subst hm
      have hone : (p.move (.advance i)).stepsLeft i = p.stepsLeft i - 1 := p.stepsLeft_advance i
      rw [List.count_cons_self]
      change ((p.move (.advance i)).moves rest).stepsLeft i ≤ _
      omega
    · rw [List.count_cons_of_ne hm]
      change ((p.move m).moves rest).stepsLeft i ≤ _
      omega

/-- A run is over when each task has gone on more often than it waits. -/
theorem moves_isOver {tasks : List Task} {ms : List Move}
    (h : ∀ i t, tasks[i]? = some t → t.times.length < ms.count (.advance i)) :
    ((start tasks).moves ms).isOver = true := by
  unfold isOver
  rw [List.all_eq_true]
  intro s hs
  obtain ⟨i, hi⟩ := List.mem_iff_getElem?.mp hs
  have hlt : i < tasks.length := by
    obtain ⟨hlt, -⟩ := List.getElem?_eq_some_iff.mp hi
    rwa [(Reachable.start.moves ms).length_stages] at hlt
  -- the moves of the task number `i` were as many as it had steps at the start
  have hleft := (start tasks).stepsLeft_moves_le ms i
  have hcount := h i tasks[i] (List.getElem?_eq_getElem hlt)
  rw [stepsLeft_of_getElem? hi, stepsLeft_start (List.getElem?_eq_getElem hlt)] at hleft
  rw [Stage.isOpen_eq_false_of_stepsLeft (by omega)]
  rfl

end Progress

/-! ## The usual order -/

theorem count_eachTask_advance {tasks : List Task} {i : Nat} (h : i < tasks.length) :
    1 ≤ (eachTask tasks .advance).count (.advance i) := by
  rw [Nat.succ_le_iff, List.count_pos_iff, eachTask]
  exact List.mem_map.mpr ⟨i, List.mem_range.mpr h, rfl⟩

theorem countP_wakingTimes {tasks : List Task} {i : Nat} {t : Task} (h : tasks[i]? = some t) :
    t.times.length ≤ (wakingTimes tasks).countP (·.2 == i) := by
  have hmem : (t.times.map fun time => (time, i))
      ∈ tasks.zipIdx.map fun w => w.1.times.map fun time => (time, w.2) :=
    List.mem_map.mpr ⟨(t, i), List.mk_mem_zipIdx_iff_getElem?.mpr h, rfl⟩
  have hsub := (List.sublist_flatten_of_mem hmem).countP_le (p := (·.2 == i))
  rw [List.countP_map] at hsub
  simpa [wakingTimes, List.flatMap, Function.comp_def] using hsub

theorem countP_le_count_waking (tasks : List Task) (waking : List (Nat × Nat)) (i : Nat) :
    waking.countP (·.2 == i)
      ≤ (waking.flatMap fun w => Move.advance w.2 :: eachTask tasks .cancel).count
        (.advance i) := by
  induction waking with
  | nil => exact Nat.le_refl _
  | cons w rest ih =>
    rw [List.flatMap_cons, List.count_append, List.countP_cons, List.count_cons]
    have hw : (if (w.2 == i) = true then 1 else 0)
        = if (Move.advance w.2 == Move.advance i) = true then 1 else 0 := by simp
    omega

/-- **The usual order brings every run to its end.** -/
theorem runTasks_usualMoves_isOver (tasks : List Task) :
    (runTasks usualMoves tasks).isOver = true := by
  apply Progress.moves_isOver
  intro i t h
  obtain ⟨hi, -⟩ := List.getElem?_eq_some_iff.mp h
  -- once to be started, once for each time it has waited, and once at the end
  have hstart := count_eachTask_advance hi
  have hsorted := (List.mergeSort_perm (wakingTimes tasks) fun a b =>
    a.1 < b.1 || (a.1 == b.1 && a.2 ≤ b.2)).countP_eq (·.2 == i)
  have hwaking := countP_le_count_waking tasks ((wakingTimes tasks).mergeSort fun a b =>
    a.1 < b.1 || (a.1 == b.1 && a.2 ≤ b.2)) i
  have htimes := countP_wakingTimes h
  simp only [usualMoves, List.count_append]
  omega

end SourceCheck
