import SourceCheck.Proofs.Check.Prepare
import SourceCheck.Proofs.Check.Runs

/-! # Merging findings

    The findings of a check are merged in the order of its tasks, whatever the order in
    which these make their moves (`checkIn_merges`).  The invariant is `Undisturbed`: as
    long as no task fails none is cancelled, each task still gives what it gives alone,
    and what others saw of the run with what they will still see of it is what they see
    of the tasks alone, up to order.  Every check with options of the right types is such a
    check (`checkIn_typed_merges`). -/

namespace SourceCheck

/-! ## Runs in which nothing fails -/

/-- A state of a run in which no task failed or was cancelled. -/
structure Undisturbed (tasks : List Task) (p : Progress) : Prop where
  goesOn : p.isStopping = false
  outcomes : p.stages.map Stage.outcome? = tasks.map fun t => some t.result
  effects : (p.effects ++ p.stages.flatMap Stage.pending).Perm (tasks.flatMap Task.effects)

theorem Undisturbed.start (tasks : List Task) : Undisturbed tasks (Progress.start tasks) where
  goesOn := rfl
  outcomes := by
    simp only [Progress.start, List.map_map]
    rfl
  effects := by
    simp only [Progress.start, List.flatMap_map, List.nil_append]
    exact .refl _

/-- What others see of a step goes from what they will see to what they saw. -/
theorem Progress.enter_effects_perm {p : Progress} {i : Nat} {s : Stage}
    {next : List Effect × Stage} (hs : p.stages[i]? = some s)
    (hnext : next.1 ++ next.2.pending = s.pending) :
    ((p.enter i next).effects ++ (p.enter i next).stages.flatMap Stage.pending).Perm
      (p.effects ++ p.stages.flatMap Stage.pending) := by
  obtain ⟨hi, hget⟩ := List.getElem?_eq_some_iff.mp hs
  have hsplit : p.stages = p.stages.take i ++ s :: p.stages.drop (i + 1) := by
    rw [← hget, List.getElem_cons_drop, List.take_append_drop]
  have hset : (p.enter i next).stages
      = p.stages.take i ++ next.2 :: p.stages.drop (i + 1) := by
    simp only [enter]
    rw [List.set_eq_take_append_cons_drop, if_pos hi]
  -- only the stage at `i` differs, so what is seen moves over the stages before it
  rw [hset]
  conv => rhs; rw [hsplit]
  simp only [enter, List.flatMap_append, List.flatMap_cons, ← hnext, List.append_assoc]
  exact (List.perm_append_comm_assoc _ _ _).append_left _

/-- A step changes nothing in what the tasks will give. -/
theorem Progress.enter_outcomes {p : Progress} {i : Nat} {s : Stage}
    {next : List Effect × Stage} (hs : p.stages[i]? = some s)
    (hnext : next.2.outcome? = s.outcome?) :
    (p.enter i next).stages.map Stage.outcome? = p.stages.map Stage.outcome? := by
  apply List.ext_getElem?
  intro j
  rw [List.getElem?_map, List.getElem?_map, enter_stages_eq hs]
  split
  · next hij =>
    rw [← hij, hs, Option.map_some, hnext]
    rfl
  · rfl

/-- Where no task fails alone, no step is a failure. -/
theorem Undisturbed.failure?_advance {tasks : List Task} {fss : List (List Finding)}
    {p : Progress} {i : Nat} {s : Stage} (hok : tasks.map Task.result = fss.map .ok)
    (h : Undisturbed tasks p) (hs : p.stages[i]? = some s) : s.advance.2.failure? = none := by
  cases he : s.advance.2.failure? with
  | none => rfl
  | some e =>
    -- the failure would be what some task gives alone
    have hout := Stage.outcome?_of_failure? he
    rw [s.outcome?_advance] at hout
    have hmem : some (.error e) ∈ p.stages.map Stage.outcome? :=
      hout ▸ List.mem_map_of_mem (List.mem_of_getElem? hs)
    rw [h.outcomes] at hmem
    obtain ⟨t, ht, herr⟩ := List.mem_map.mp hmem
    have hres : t.result ∈ tasks.map Task.result := List.mem_map_of_mem ht
    rw [hok] at hres
    obtain ⟨fs, -, hfs⟩ := List.mem_map.mp hres
    rw [← hfs] at herr
    cases herr

/-- **One move** keeps a run undisturbed, if no task fails alone. -/
theorem Undisturbed.move {tasks : List Task} {fss : List (List Finding)} {p : Progress}
    (hok : tasks.map Task.result = fss.map .ok) (h : Undisturbed tasks p) (m : Move) :
    Undisturbed tasks (p.move m) := by
  cases m with
  | cancel i =>
    change Undisturbed tasks (p.cancel i)
    rcases p.cancel_cases i with ⟨-, hsame⟩ | ⟨s, hstop, -, -⟩
    · rwa [hsame]
    · -- nothing is cancelled, because the check goes on
      rw [h.goesOn] at hstop
      contradiction
  | advance i =>
    change Undisturbed tasks (p.advance i)
    rcases p.advance_cases i with ⟨-, hsame⟩ | ⟨s, hs, henter⟩
    · rwa [hsame]
    rw [henter]
    refine ⟨?_, ?_, ?_⟩
    -- no step of such a run is a failure, so the check still goes on
    · have hgoes := h.goesOn
      simp only [Progress.isStopping, Progress.enter, Bool.or_eq_false_iff,
        Option.isSome_eq_false_iff, Option.isNone_iff_eq_none] at hgoes ⊢
      rw [hgoes.1, h.failure?_advance hok hs]
      exact ⟨rfl, hgoes.2⟩
    · exact (Progress.enter_outcomes hs s.outcome?_advance).trans h.outcomes
    · exact (Progress.enter_effects_perm hs s.advance_append_pending).trans h.effects

/-- **Many moves** keep a run undisturbed, if no task fails alone. -/
theorem Undisturbed.moves {tasks : List Task} {fss : List (List Finding)} {p : Progress}
    (hok : tasks.map Task.result = fss.map .ok) (h : Undisturbed tasks p) (ms : List Move) :
    Undisturbed tasks (p.moves ms) := by
  induction ms generalizing p with
  | nil => exact h
  | cons m rest ih => exact ih (h.move hok m)

/-! ## The end of such a run -/

/-- Stages in which nothing is left to do and that give findings are ends. -/
theorem stages_eq_ended {stages : List Stage} {fss : List (List Finding)}
    (hclosed : ∀ s ∈ stages, s.isOpen = false)
    (houtcomes : stages.map Stage.outcome? = fss.map fun fs => some (.ok fs)) :
    stages = fss.map fun fs => .ended (.ok fs) := by
  induction stages generalizing fss with
  | nil =>
    cases fss with
    | nil => rfl
    | cons fs rest => contradiction
  | cons s rest ih =>
    cases fss with
    | nil => contradiction
    | cons fs fss =>
      obtain ⟨hhead, htail⟩ := List.cons.inj houtcomes
      rw [List.map_cons, ih (fun t ht => hclosed t (List.mem_cons_of_mem _ ht)) htail]
      have hs := hclosed s List.mem_cons_self
      -- of the stages that are closed only an end gives findings
      cases s with
      | ended result =>
        obtain rfl := Option.some.inj hhead
        rfl
      | ready _ | waiting _ _ | closing | cancelled => contradiction

/-- **Any order**: when tasks none of which fails alone are over, they give all their
    findings in the order of the tasks, and others saw what they see of the tasks
    alone. -/
theorem runTasks_merges {tasks : List Task} {fss : List (List Finding)} {order : Order}
    (hok : tasks.map Task.result = fss.map .ok) (hover : (runTasks order tasks).isOver = true) :
    (runTasks order tasks).result = .ok fss.flatten
      ∧ (runTasks order tasks).effects.Perm (tasks.flatMap Task.effects) := by
  -- the order tells which moves are made, and each of them keeps the run undisturbed
  have hend : Undisturbed tasks (runTasks order tasks) :=
    (Undisturbed.start tasks).moves hok (order tasks)
  have hclosed : ∀ s ∈ (runTasks order tasks).stages, s.isOpen = false := by
    intro s hs
    simpa using List.all_eq_true.mp hover s hs
  constructor
  · have houtcomes : (runTasks order tasks).stages.map Stage.outcome?
        = fss.map fun fs => some (.ok fs) := by
      rw [hend.outcomes]
      simpa [Function.comp_def] using congrArg (List.map some) hok
    have hnone : (runTasks order tasks).failure = none := by
      obtain ⟨hnone, -⟩ := Bool.or_eq_false_iff.mp hend.goesOn
      simpa using hnone
    unfold Progress.result
    rw [hnone, stages_eq_ended hclosed houtcomes, List.flatMap_map]
    exact congrArg Except.ok List.flatMap_id'
  -- once all tasks are over, nothing is left that others will see
  · have hpending : (runTasks order tasks).stages.flatMap Stage.pending = [] :=
      List.flatMap_eq_nil_iff.mpr fun s hs => Stage.pending_of_not_isOpen (hclosed s hs)
    have heffects := hend.effects
    rwa [hpending, List.append_nil] at heffects

/-! ## Checks -/

section Checks

variable (h : Host) (means : Means) (target : Path) (o : Options)
  (answers : ToolCheck → Option String) (outcomes : ToolCheck → Outcome)

/-- What each check that is wanted gives if it runs alone, in merge order: build, lint,
    vet, coverage. -/
def findingsAlone : List (Except CheckFailure (List Finding)) :=
  (o.toolChecks.map fun k =>
      ((k.runWith h target o (answers k) (outcomes k)).task means.reader).result)
    ++ (if o.cover then [(coverageTask means.coverage target).result] else [])

/-- The tool of a check has no program, or the system refuses to start it. -/
def isUnavailable (k : ToolCheck) : Bool :=
  match answers k, outcomes k with
  | none, _ => true
  | some _, .refused _ _ => true
  | some _, _ => false

/-- What the user is told: once of each tool that is not available. -/
def noticesDue : List String :=
  (o.toolChecks.filter (isUnavailable answers outcomes)).map fun k => k.missing h o.linterName

variable {h target o answers outcomes} {c : Prepared}

theorem results_tasks (hc : c.IsFor h target o answers outcomes) :
    (c.tasks means).map Task.result = findingsAlone h means target o answers outcomes := by
  unfold Prepared.tasks findingsAlone
  rw [hc.runs, hc.file, hc.coverage, List.map_append, List.map_map, List.map_map]
  split <;> rfl

theorem notice?_runWith (k : ToolCheck) (binary : Option String) (outcome : Outcome) :
    (k.runWith h target o binary outcome).notice?
      = if isUnavailable (fun _ => binary) (fun _ => outcome) k
        then some (k.missing h o.linterName) else none := by
  cases binary with
  | none => rfl
  | some path => cases outcome <;> rfl

theorem notices_tasks (hc : c.IsFor h target o answers outcomes) :
    Effect.notices ((c.tasks means).flatMap Task.effects)
      = noticesDue h o answers outcomes := by
  -- a run tells the user once at most, and only of the tool of its own check
  have hruns : ∀ ks : List ToolCheck,
      Effect.notices ((ks.map fun k =>
          (k.runWith h target o (answers k) (outcomes k)).task means.reader).flatMap Task.effects)
        = (ks.filter (isUnavailable answers outcomes)).map fun k => k.missing h o.linterName := by
    intro ks
    induction ks with
    | nil => rfl
    | cons k rest ih =>
      rw [List.map_cons, List.flatMap_cons, Effect.notices_append, ToolRun.notices_effects,
        notice?_runWith, ih, List.filter_cons]
      change (if isUnavailable answers outcomes k then _ else _ : Option String).toList ++ _ = _
      split <;> rfl
  unfold Prepared.tasks noticesDue
  rw [hc.runs, List.map_map, List.flatMap_append, Effect.notices_append]
  refine Eq.trans (congrArg (· ++ _) (hruns o.toolChecks)) ?_
  -- asking for the coverage tells the user nothing
  split <;> exact List.append_nil _

theorem conclude_of_ok {p : Progress} {fs : List Finding} (hok : p.result = .ok fs) :
    (c.conclude means p).result = .ok fs
      ∧ Effect.notices (c.conclude means p).effects
        = Effect.notices c.searching ++ Effect.notices p.effects := by
  unfold Prepared.conclude
  rw [hok]
  refine ⟨rfl, ?_⟩
  simp only [Effect.notices_append]
  exact List.append_nil _

theorem conclude_merges {fss : List (List Finding)} {order : Order}
    (hc : c.IsFor h target o answers outcomes)
    (halone : findingsAlone h means target o answers outcomes = fss.map .ok)
    (hover : (runTasks order (c.tasks means)).isOver = true) :
    (c.conclude means (runTasks order (c.tasks means))).result = .ok fss.flatten
      ∧ (Effect.notices (c.conclude means (runTasks order (c.tasks means))).effects).Perm
          (noticesDue h o answers outcomes) := by
  obtain ⟨hresult, heffects⟩ := runTasks_merges ((results_tasks means hc).trans halone) hover
  obtain ⟨hfindings, hnotices⟩ := conclude_of_ok (c := c) means hresult
  refine ⟨hfindings, ?_⟩
  rw [hnotices, hc.quiet.2, List.nil_append, ← notices_tasks means hc]
  exact heffects.filterMap _

theorem checkIn_eq_conclude {x : Executor} {order : Order} {filename : Path}
    {given : GivenOptions} (hread : given.read = .ok (.typed o))
    (hprepare : prepare x h means (filename.absolute h.workingPath) (.typed o) = .ok c) :
    checkIn x order h means filename given
      = c.conclude means (runTasks order (c.tasks means)) := by
  simp only [checkIn, checkWith, hread, hprepare]

/-- **The merged findings do not depend on the order**: whatever programs are known for
    the tools of a check and whatever the outcomes of these, if no check that is wanted
    fails alone, then in every order in which the tasks go on to their ends the check
    gives what the checks give alone, one after the other in merge order, and the user
    is told once of each tool that is not available and of nothing else. -/
theorem checkIn_merges {filename : Path} {fss : List (List Finding)} {order : Order}
    (hc : c.IsFor h (filename.absolute h.workingPath) o answers outcomes)
    (halone : findingsAlone h means (filename.absolute h.workingPath) o answers outcomes
      = fss.map .ok)
    (hover : (runTasks order (c.tasks means)).isOver = true) :
    (c.conclude means (runTasks order (c.tasks means))).result = .ok fss.flatten
      ∧ (Effect.notices (c.conclude means (runTasks order (c.tasks means))).effects).Perm
          (noticesDue h o answers outcomes)
      ∧ ∀ (x : Executor) (given : GivenOptions), given.read = .ok (.typed o) →
          prepare x h means (filename.absolute h.workingPath) (.typed o) = .ok c →
          checkIn x order h means filename given
            = c.conclude means (runTasks order (c.tasks means)) := by
  obtain ⟨hresult, hnotices⟩ := conclude_merges means hc halone hover
  refine ⟨hresult, hnotices, ?_⟩
  intro x given hread hprepare
  exact checkIn_eq_conclude means hread hprepare

/-- **Checks with options of the right types**: their tools have outcomes by which, in every
    order, the findings and the notices are those of the checks alone. -/
theorem checkIn_typed_merges {x : Executor} {filename : Path} {given : GivenOptions}
    (hread : given.read = .ok (.typed o))
    (hprepare : prepare x h means (filename.absolute h.workingPath) (.typed o) = .ok c) :
    ∃ outcomes, ∀ (fss : List (List Finding)) (order : Order),
      findingsAlone h means (filename.absolute h.workingPath) o
          (fun k => means.resolver.binary? h (k.tool o)) outcomes = fss.map .ok →
        (runTasks order (c.tasks means)).isOver = true →
        (checkIn x order h means filename given).result = .ok fss.flatten
          ∧ (Effect.notices (checkIn x order h means filename given).effects).Perm
              (noticesDue h o (fun k => means.resolver.binary? h (k.tool o)) outcomes) := by
  obtain ⟨outcomes, hc⟩ := prepare_typed hprepare
  refine ⟨outcomes, fun fss order halone hover => ?_⟩
  rw [checkIn_eq_conclude means hread hprepare]
  exact conclude_merges means hc halone hover

/-- The last task goes first. -/
def lastFirst : Order := fun _ =>
  [.advance 3, .advance 2, .advance 1, .advance 2, .advance 0, .advance 2, .advance 0,
    .advance 2, .advance 0]

theorem checkIn_merges_lastFirst :
    (brokenCheck.conclude withoutLinter
        (runTasks lastFirst (brokenCheck.tasks withoutLinter))).result
      = .ok [⟨checkedFile, 7, 1, "broken\n\thint", .error, some "go", some .build⟩,
          ⟨checkedFile, 9, 1, "gap", .info, none, some .coverage⟩] := by
  have hc : brokenCheck.IsFor default (checkedFile.absolute (Host.workingPath default)) allWanted
      (fun k => withoutLinter.resolver.binary? default (k.tool allWanted))
      (fun k => if k = .build then .finished 2 "" "a.go:7: broken\n\thint" 40 else .timedOut) :=
    ⟨rfl, rfl, .nil, rfl⟩
  have halone : findingsAlone default withoutLinter
      (checkedFile.absolute (Host.workingPath default)) allWanted
      (fun k => withoutLinter.resolver.binary? default (k.tool allWanted))
      (fun k => if k = .build then .finished 2 "" "a.go:7: broken\n\thint" 40 else .timedOut)
      = [[⟨checkedFile, 7, 1, "broken\n\thint", .error, some "go", some .build⟩], [], [],
          [⟨checkedFile, 9, 1, "gap", .info, none, some .coverage⟩]].map .ok := by
    rfl
  exact (checkIn_merges withoutLinter hc halone (by rfl)).1

end Checks

end SourceCheck
