import SourceCheck.Proofs.Check.Merge

/-! # Runs in which a task fails

    A task that is not cancelled gives what it gives alone (`Reachable.givesOwn`), and the
    failure of a run is one that a task of it has ended with (`Reachable.failureOfTask`).  A run
    that nobody gives up and in which some task fails alone cannot come to its end without a
    failure (`Progress.failure_isSome`): as long as there is none, no task is cancelled, and
    the task that fails alone ends too. -/

namespace SourceCheck

/-! ## One task -/

namespace Stage

/-- A task that is cancelled gives nothing any more, unless it has ended before. -/
theorem outcome?_cancel (s : Stage) :
    s.cancel.2.outcome? = none ∨ s.cancel.2.outcome? = s.outcome? := by
  cases s with
  | waiting w t => cases w <;> exact .inl rfl
  | ready _ | closing => exact .inl rfl
  | ended _ | cancelled => exact .inr rfl

theorem advance_of_failure? {s : Stage} {e : CheckFailure} (h : s.failure? = some e) :
    s.advance.2 = s := by
  rw [eq_ended_of_failure? h]
  rfl

theorem cancel_of_failure? {s : Stage} {e : CheckFailure} (h : s.failure? = some e) :
    s.cancel.2 = s := by
  rw [eq_ended_of_failure? h]
  rfl

theorem eq_ended_or_cancelled {s : Stage} (h : s.isOpen = false) :
    (∃ result, s = .ended result) ∨ s = .cancelled := by
  cases s with
  | ended result => exact .inl ⟨result, rfl⟩
  | cancelled => exact .inr rfl
  | ready _ | waiting _ _ | closing => contradiction

/-- A task that can do nothing more and would give a failure has failed. -/
theorem failure?_of_outcome? {s : Stage} {e : CheckFailure} (hclosed : s.isOpen = false)
    (h : s.outcome? = some (.error e)) : s.failure? = some e := by
  rcases eq_ended_or_cancelled hclosed with ⟨result, rfl⟩ | rfl
  · obtain rfl := Option.some.inj h
    rfl
  · contradiction

end Stage

/-! ## All tasks -/

namespace Progress

theorem isStopping_enter {p : Progress} (h : p.isStopping = true) (i : Nat)
    (next : List Effect × Stage) : (p.enter i next).isStopping = true := by
  unfold isStopping at h ⊢
  simp only [enter]
  cases hf : p.failure with
  | some e => rfl
  | none =>
    rw [hf] at h
    have hgiven : p.givenUp = true := h
    rw [hgiven, Bool.or_true]

/-- A run keeps its first failure. -/
theorem failure_enter {p : Progress} {e : CheckFailure} (h : p.failure = some e) (i : Nat)
    (next : List Effect × Stage) : (p.enter i next).failure = some e := by
  simp [Progress.enter, h]

theorem failure_cancel {p : Progress} {e : CheckFailure} (h : p.failure = some e) (i : Nat) :
    (p.cancel i).failure = some e := by
  rcases p.cancel_cases i with ⟨-, hsame⟩ | ⟨s, -, -, henter⟩
  · rwa [hsame]
  · rw [henter]
    exact failure_enter h i _

/-- Nobody gives a check up while it makes its moves. -/
theorem givenUp_moves (p : Progress) (ms : List Move) : (p.moves ms).givenUp = p.givenUp := by
  induction ms generalizing p with
  | nil => rfl
  | cons m rest ih =>
    -- only giving up sets it, and that is no move
    refine (ih (p.move m)).trans ?_
    cases m with
    | advance i =>
      change (p.advance i).givenUp = _
      rcases p.advance_cases i with ⟨-, hsame⟩ | ⟨s, -, henter⟩
      · rw [hsame]
      · rw [henter]
        rfl
    | cancel i =>
      change (p.cancel i).givenUp = _
      rcases p.cancel_cases i with ⟨-, hsame⟩ | ⟨s, -, -, henter⟩
      · rw [hsame]
      · rw [henter]
        rfl

theorem isStopping_moves (tasks : List Task) (ms : List Move) :
    ((start tasks).moves ms).isStopping = ((start tasks).moves ms).failure.isSome := by
  unfold isStopping
  rw [givenUp_moves]
  exact Bool.or_false _

end Progress

/-- What a task that came to some stage gives: what it gives alone, or nothing if the check
    is stopping. -/
def GivesOwn (tasks : List Task) (stopping : Bool) (i : Nat) (s : Stage) : Prop :=
  ∃ t, tasks[i]? = some t ∧ (s.outcome? = some t.result ∨ (stopping = true ∧ s.outcome? = none))

theorem GivesOwn.stopping {tasks : List Task} {before after : Bool} {i : Nat} {s : Stage}
    (h : GivesOwn tasks before i s) (hstop : before = true → after = true) :
    GivesOwn tasks after i s := by
  obtain ⟨t, ht, hout⟩ := h
  exact ⟨t, ht, hout.imp_right fun h => ⟨hstop h.1, h.2⟩⟩

/-- **Every task keeps what it gives alone**, unless it was cancelled. -/
theorem Reachable.givesOwn {tasks : List Task} {p : Progress} (h : Reachable tasks p) :
    ∀ (i : Nat) (s : Stage), p.stages[i]? = some s → GivesOwn tasks p.isStopping i s := by
  refine h.invariant (P := fun p => ∀ (i : Nat) (s : Stage), p.stages[i]? = some s →
    GivesOwn tasks p.isStopping i s) ?_ ?_ ?_ ?_
  · intro i s hs
    simp only [Progress.start, List.getElem?_map, Option.map_eq_some_iff] at hs
    obtain ⟨t, ht, rfl⟩ := hs
    exact ⟨t, ht, .inl rfl⟩
  · intro p i s hp hs
    have hlater : ∀ j s', p.stages[j]? = some s' →
        GivesOwn tasks (p.enter i s.advance).isStopping j s' :=
      fun j s' hs' => (hp j s' hs').stopping fun hstop => Progress.isStopping_enter hstop _ _
    refine Progress.forall_enter hlater hs ?_
    -- the task that goes on gives what it would have given before
    obtain ⟨t, ht, hout⟩ := hlater i s hs
    exact ⟨t, ht, by rwa [s.outcome?_advance]⟩
  · intro p i s hp hstop hs
    have hstop' := Progress.isStopping_enter hstop i s.cancel
    have hlater : ∀ j s', p.stages[j]? = some s' →
        GivesOwn tasks (p.enter i s.cancel).isStopping j s' :=
      fun j s' hs' => (hp j s' hs').stopping fun _ => hstop'
    refine Progress.forall_enter hlater hs ?_
    obtain ⟨t, ht, hout⟩ := hlater i s hs
    rcases s.outcome?_cancel with hnone | hsame
    · exact ⟨t, ht, .inr ⟨hstop', hnone⟩⟩
    · exact ⟨t, ht, by rwa [hsame]⟩
  · intro p hp i s hs
    exact (hp i s hs).stopping fun _ => Bool.or_true _

/-- A run has the failure of one of its tasks, or none of them has failed. -/
def FailureOfTask (p : Progress) : Prop :=
  match p.failure with
  | none => ∀ s ∈ p.stages, s.failure? = none
  | some e => ∃ s ∈ p.stages, s.failure? = some e

/-- A task that has failed stays so, and then the run keeps its failure. -/
theorem FailureOfTask.enter {p : Progress} {i : Nat} {s : Stage} {next : List Effect × Stage}
    (h : FailureOfTask p) (hs : p.stages[i]? = some s)
    (hstays : ∀ e, s.failure? = some e → next.2 = s) : FailureOfTask (p.enter i next) := by
  have hset := Progress.enter_stages_eq hs next
  have hnew : next.2 ∈ (p.enter i next).stages :=
    List.mem_of_getElem? (by rw [hset i, if_pos rfl])
  unfold FailureOfTask at h ⊢
  cases hf : p.failure with
  | none =>
    rw [hf] at h
    have hfailure : (p.enter i next).failure = next.2.failure? := by
      simp [Progress.enter, hf]
    rw [hfailure]
    cases hnext : next.2.failure? with
    | some e => exact ⟨next.2, hnew, hnext⟩
    | none =>
      intro s' hs'
      rcases List.mem_or_eq_of_mem_set hs' with hold | rfl
      · exact h s' hold
      · exact hnext
  | some e =>
    rw [hf] at h
    rw [Progress.failure_enter hf]
    -- the task that failed is still there, also if it is the one that makes the move
    obtain ⟨failed, hmem, he⟩ := h
    obtain ⟨j, hj⟩ := List.mem_iff_getElem?.mp hmem
    by_cases hij : i = j
    · subst hij
      obtain rfl := Option.some.inj (hs.symm.trans hj)
      exact ⟨next.2, hnew, by rwa [hstays e he]⟩
    · exact ⟨failed, List.mem_of_getElem? (by rw [hset j, if_neg hij, hj]), he⟩

theorem Reachable.failureOfTask {tasks : List Task} {p : Progress} (h : Reachable tasks p) :
    FailureOfTask p := by
  refine h.invariant (P := FailureOfTask) ?_ ?_ ?_ ?_
  · intro s hs
    obtain ⟨t, -, rfl⟩ := List.mem_map.mp hs
    rfl
  · intro p i s hp hs
    exact hp.enter hs fun e he => Stage.advance_of_failure? he
  · intro p i s hp _ hs
    exact hp.enter hs fun e he => Stage.cancel_of_failure? he
  · intro p hp
    exact hp

/-- **A run with a task that fails alone ends with a failure**, whatever the order. -/
theorem Progress.failure_isSome {tasks : List Task}
    (hfails : ∃ t ∈ tasks, ∃ e, t.result = .error e) {ms : List Move}
    (hover : ((start tasks).moves ms).isOver = true) :
    ((start tasks).moves ms).failure.isSome = true := by
  have hreach : Reachable tasks ((start tasks).moves ms) := Reachable.start.moves ms
  have hstopping := isStopping_moves tasks ms
  cases hf : ((start tasks).moves ms).failure with
  | some e => rfl
  | none =>
    -- nothing was cancelled, so the task that fails alone has failed here too
    rw [hf] at hstopping
    obtain ⟨t, ht, e, he⟩ := hfails
    obtain ⟨i, hi⟩ := List.mem_iff_getElem?.mp ht
    obtain ⟨hlt, -⟩ := List.getElem?_eq_some_iff.mp hi
    have hs := List.getElem?_eq_getElem (hreach.length_stages ▸ hlt)
    obtain ⟨t', ht', hout⟩ := hreach.givesOwn i _ hs
    obtain rfl := Option.some.inj (hi.symm.trans ht')
    have hown := hout.resolve_right fun h => by simp [hstopping] at h
    rw [he] at hown
    have hclosed := List.all_eq_true.mp hover _ (List.mem_of_getElem? hs)
    have hfailed := Stage.failure?_of_outcome? (by simpa using hclosed) hown
    have hnone := hreach.failureOfTask
    unfold FailureOfTask at hnone
    rw [hf] at hnone
    rw [hnone _ (List.mem_of_getElem? hs)] at hfailed
    contradiction

end SourceCheck
