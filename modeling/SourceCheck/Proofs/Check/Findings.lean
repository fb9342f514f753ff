import Mathlib.Data.List.Forall2
import SourceCheck.Proofs.Check.Failures
import SourceCheck.Proofs.Output.Continuations
import SourceCheck.Proofs.Output.LongNumbers

/-! # The findings of a check

    What is guaranteed of a finding is established in several places: its numbers and its
    message where a line is read, its file where the path is taken from the directory of the
    tool, its kind and its tool where the run is made ready.  All of it holds of every finding
    that a check gives, and their kinds come in merge order (`checkIn_findings`), whatever the
    options, the output of the tools and the order in which the tasks make their moves. -/

namespace SourceCheck

open SourceCheck.Text

/-! ## Findings in an output -/

/-- What holds of every finding that is read from an output. -/
structure Finding.IsWellFormed (f : Finding) : Prop where
  line : 1 ≤ f.line
  column : 1 ≤ f.column
  file : f.file.isAbsolute = true
  /-- All lines of the message but the first one start with a tab. -/
  message : ∀ l ∈ (splitAt '\n' f.message).tail, startsWith l "\t" = true

namespace ReportLine

theorem bounds_of_ofParts {p : Parts} {r : ReportLine} (h : ofParts p = .ok r) :
    1 ≤ r.line ∧ 1 ≤ r.column ∧ r.message = String.ofList p.message := by
  unfold ofParts at h
  split at h
  · contradiction
  · contradiction
  · obtain rfl := Except.ok.inj h
    exact ⟨Nat.le_max_right _ _, Nat.le_max_right _ _, rfl⟩

/-- The numbers of a reporting line are positive, and its message is a line. -/
theorem bounds_of_read {s : List Char} {r : ReportLine} (h : read s = .ok (some r)) :
    1 ≤ r.line ∧ 1 ≤ r.column ∧ '\n' ∉ r.message.toList := by
  by_cases hfeed : '\n' ∈ dropFinalFeed s
  · rw [read_of_feed hfeed] at h
    cases Except.ok.inj h
  · rw [read_of_no_feed hfeed] at h
    split at h
    · cases Except.ok.inj h
    · next p hparts =>
      obtain ⟨r', hofParts, hr⟩ := eq_ok_of_map h
      obtain rfl := Option.some.inj hr
      obtain ⟨hline, hcolumn, hmessage⟩ := bounds_of_ofParts hofParts
      obtain ⟨d, hd, -, rfl⟩ := partsOf_eq_some_iff.mp hparts
      refine ⟨hline, hcolumn, ?_⟩
      -- the message is the end of the line
      rw [hmessage, String.toList_ofList]
      intro hmem
      refine hfeed ?_
      rw [← hd.text]
      simp [Reading.text, textOf, show '\n' ∈ d.message from hmem]

end ReportLine

/-- The lines of a message are those that were read. -/
theorem splitAt_message {first : String} {more : List String} (hfirst : '\n' ∉ first.toList)
    (hmore : ∀ l ∈ more, '\n' ∉ l.toList) :
    splitAt '\n' (joinWith "\n" (first :: more)) = first :: more := by
  have hone : ∀ l ∈ first :: more, splitAt '\n' l = [l] := by
    intro l hl
    have hfeed : '\n' ∉ l.toList := by
      rcases List.mem_cons.mp hl with rfl | hl
      · exact hfirst
      · exact hmore l hl
    rw [splitAt, cutAt_of_not_mem hfeed, List.map_singleton, String.ofList_toList]
  rw [splitAt_joinWith rfl (List.cons_ne_nil first more), List.flatMap_congr hone,
    List.flatMap_singleton']

theorem read_of_reportOf? {l : String} {r : ReportLine} (h : reportOf? l = some r) :
    ReportLine.read l.toList = .ok (some r) := by
  unfold reportOf? at h
  split at h
  · next hread => rw [hread, h]
  · contradiction

theorem mem_of_mem_tabLinesBetween {ls : List String} {i j : Nat} {l : String}
    (h : l ∈ tabLinesBetween ls i j) : l ∈ ls :=
  List.mem_of_mem_take (List.mem_of_mem_drop (List.mem_filter.mp h).1)

/-- **Every finding that is read** has the tool and the kind of its output, and is well formed. -/
theorem isWellFormed_of_ofOutput {working : Path} {origin : Origin} {output : String}
    {fs : List Finding} (hworking : working.isAbsolute = true)
    (h : Finding.ofOutput working origin output = .ok fs) :
    ∀ f ∈ fs, f.IsWellFormed ∧ f.tool = origin.tool ∧ f.check = origin.check := by
  intro f hf
  -- a finding is that of some line, with tab lines behind it
  have hmem : some f ∈ fs.map some := List.mem_map_of_mem hf
  rw [map_some_of_ofOutput h] at hmem
  obtain ⟨i, -, hat⟩ := List.mem_map.mp hmem
  obtain ⟨r, hr, rfl⟩ := Option.map_eq_some_iff.mp hat
  obtain ⟨l, -, hreport⟩ := Option.bind_eq_some_iff.mp hr
  obtain ⟨hline, hcolumn, hmessage⟩ := ReportLine.bounds_of_read (read_of_reportOf? hreport)
  refine ⟨⟨?_, ?_, ?_, ?_⟩, rfl, rfl⟩
  · exact Int.ofNat_le.mpr hline
  · exact Int.ofNat_le.mpr hcolumn
  · dsimp only
    exact Path.absolute_isAbsolute hworking
  · intro l' hl'
    dsimp only at hl'
    rw [splitAt_message hmessage, List.tail_cons] at hl'
    · rw [startsWith_tab]
      exact (List.mem_filter.mp hl').2
    · intro m hm
      exact not_mem_of_mem_physicalLines (mem_of_mem_tabLinesBetween hm)

/-! ## Runs of the checks that are wanted -/

/-- A run is that of a check of a file: where and for what check its tool runs, and which part of
    its output is read. -/
structure ToolRun.IsOf (target : Path) (o : UsableOptions) (r : ToolRun) (k : ToolCheck) :
    Prop where
  origin : r.invocation.origin
    = ⟨target.parent, k.severity, some (o.tool k).display, some k.kind⟩
  readsErrors : r.invocation.readsErrors = (k != .lint)

theorem invocation_run (x : Executor) (h : Host) (i : Invocation) :
    (i.run x h).1.invocation = i := by
  unfold Invocation.run
  split <;> rfl

/-- A draft keeps where and for what check its tool runs. -/
theorem Draft.invocation_start (x : Executor) (h : Host) (d : Draft) :
    ∃ args, (d.start x h).1.invocation = d.invocation args := by
  unfold Draft.start
  split
  · exact ⟨[], rfl⟩
  · split
    · exact ⟨[], rfl⟩
    · exact ⟨_, rfl⟩

/-- What is known of each run, whatever files it finds, is known of all runs one after the
    other. -/
theorem forall₂_runsOf {α : Type} {Q : ToolRun → α → Prop} {starts : List Start} {ks : List α}
    (hstarts : List.Forall₂ (fun start k => ∀ h, Q (start h).1 k) starts ks) (h : Host) :
    List.Forall₂ Q (runsOf h starts).1 ks := by
  induction hstarts generalizing h with
  | nil => exact .nil
  | cons hfirst _ ih => exact .cons (hfirst h) (ih _)

theorem forall₂_invocationsOf {x : Executor} {h : Host} {target : Path} {o : Options}
    {r : Resolver} {ks : List ToolCheck} {is : List Invocation} {es : List Effect}
    (hok : invocationsOf h target o r ks = .ok (is, es)) :
    List.Forall₂ (fun start k => ∀ host, ((start : Start) host).1.IsOf target (.typed o) k)
      (is.map fun i host => i.run x host) ks := by
  rw [invocationsOf_eq_ok hok, List.map_map, List.forall₂_map_left_iff, List.forall₂_same]
  intro k _ host
  constructor <;> rw [Function.comp_apply, invocation_run] <;> rfl

theorem isOf_draft {x : Executor} {h host : Host} {target : Path} {o : NamedOptions}
    {r : Resolver} {k : ToolCheck} {d : Draft} {es : List Effect}
    (hok : o.draft h target r k = .ok (d, es)) : (d.start x host).1.IsOf target (.untyped o) k := by
  obtain ⟨args, hargs⟩ := d.invocation_start x host
  unfold NamedOptions.draft at hok
  split at hok
  · contradiction
  · contradiction
  · contradiction
  · cases hok
    constructor <;> rw [hargs] <;> rfl

theorem forall₂_drafts {x : Executor} {h : Host} {target : Path} {o : NamedOptions}
    {r : Resolver} {ks : List ToolCheck} {ds : List Draft} {es : List Effect}
    (hok : o.drafts h target r ks = .ok (ds, es)) :
    List.Forall₂ (fun start k => ∀ host, ((start : Start) host).1.IsOf target (.untyped o) k)
      (ds.map fun d host => d.start x host) ks := by
  -- by the checks: each has one draft, or there are none at all
  induction ks generalizing ds es with
  | nil =>
    cases hok
    exact .nil
  | cons k rest ih =>
    unfold NamedOptions.drafts at hok
    split at hok
    · contradiction
    · next d first hfirst =>
      split at hok
      · contradiction
      · next others more hmore =>
        cases hok
        exact .cons (fun host => isOf_draft hfirst) (ih hmore)

/-- **A check has one run for each check that is wanted**, in merge order, whatever its options
    are. -/
theorem prepare_runs {x : Executor} {h : Host} {means : Means} {target : Path}
    {o : UsableOptions} {c : Prepared} (hok : prepare x h means target o = .ok c) :
    List.Forall₂ (ToolRun.IsOf target o) c.runs o.toolChecks := by
  obtain ⟨starts, searching, hstarts, rfl⟩ := prepare_eq_ok hok
  refine forall₂_runsOf ?_ h
  -- options of either kind start one run for each check that is wanted
  cases o with
  | typed o =>
    simp only [startsOf] at hstarts
    split at hstarts
    · contradiction
    · next his =>
      cases hstarts
      exact forall₂_invocationsOf his
  | untyped o =>
    simp only [startsOf] at hstarts
    split at hstarts
    · contradiction
    · next hds =>
      cases hstarts
      exact forall₂_drafts hds

/-! ## Where a finding comes from -/

/-- A finding was read from the output of a run whose tool ended. -/
def ToolRun.Gives (working : Path) (r : ToolRun) (f : Finding) : Prop :=
  ∃ status output errors micros fs, r.fate = .started (.finished status output errors micros)
    ∧ Finding.ofOutput working r.invocation.origin (r.invocation.stream output errors) = .ok fs
    ∧ f ∈ fs

theorem readFindings_eq_ok {working : Path} {origin : Origin} {output : String}
    {fs : List Finding} (h : readFindings working origin output = .ok fs) :
    Finding.ofOutput working origin output = .ok fs := by
  unfold readFindings at h
  split at h
  · next hread => rw [hread, Except.ok.inj h]
  · contradiction

/-- **Only a tool that ended gives findings**, and they are those in its output. -/
theorem ToolRun.gives_of_result {working : Path} {r : ToolRun} {fs : List Finding}
    (hresult : (r.task (readFindings working)).result = .ok fs) : ∀ f ∈ fs, r.Gives working f := by
  intro f hf
  obtain ⟨i, fate⟩ := r
  -- findings come from a tool that ended; all other runs give none or fail
  cases fate with
  | missing =>
    cases hresult
    contradiction
  | spoiled e => contradiction
  | started outcome =>
    cases outcome with
    | noProgram | unpassable | uncountable | unmeasurable _ => contradiction
    | refused _ _ | timedOut =>
      cases hresult
      contradiction
    | finished status output errors micros =>
      simp only [ToolRun.task, Invocation.taskOf, Task.result, Invocation.result_finish] at hresult
      exact ⟨status, output, errors, micros, fs, rfl,
        readFindings_eq_ok (eq_ok_of_mapError hresult), hf⟩

/-- A task that is through has given what it gives alone, or nothing. -/
theorem Reachable.findings_of_result {tasks : List Task} {p : Progress} (h : Reachable tasks p)
    {i : Nat} {s : Stage} (hs : p.stages[i]? = some s) {f : Finding} (hf : f ∈ s.findings) :
    ∃ t fs, tasks[i]? = some t ∧ t.result = .ok fs ∧ f ∈ fs := by
  obtain ⟨t, ht, hout⟩ := h.givesOwn i s hs
  unfold Stage.findings at hf
  split at hf
  · next fs =>
    rcases hout with hown | ⟨-, hnone⟩
    · exact ⟨t, fs, ht, (Option.some.inj hown).symm, hf⟩
    · contradiction
  · contradiction

/-! ## The findings of a check -/

/-- The kind of a finding does not come after that of another one in merge order. -/
def Finding.MergesBefore (f g : Finding) : Prop :=
  ∃ k l, f.check = some k ∧ g.check = some l ∧ k.rank ≤ l.rank

/-- A finding comes from the run of a check. -/
structure Finding.IsFrom (working target : Path) (o : UsableOptions) (f : Finding) (r : ToolRun)
    (k : ToolCheck) : Prop where
  run : r.IsOf target o k
  output : r.Gives working f
  tool : f.tool = some (o.tool k).display
  check : f.check = some k.kind

/-- What a run gives has the kind and the tool of its check, and is well formed. -/
theorem ToolRun.IsOf.isFrom {working target : Path} {o : UsableOptions} {r : ToolRun}
    {k : ToolCheck} {f : Finding} (hworking : working.isAbsolute = true)
    (hrun : r.IsOf target o k) (hgives : r.Gives working f) :
    f.IsWellFormed ∧ f.IsFrom working target o r k := by
  obtain ⟨status, output, errors, micros, fs, hfate, hread, hf⟩ := hgives
  obtain ⟨hwellFormed, htool, hcheck⟩ := isWellFormed_of_ofOutput hworking hread f hf
  rw [hrun.origin] at htool hcheck
  exact ⟨hwellFormed, hrun, ⟨status, output, errors, micros, fs, hfate, hread, hf⟩, htool, hcheck⟩

theorem pairwise_toolChecks (o : UsableOptions) :
    o.toolChecks.Pairwise fun k l => k.kind.rank ≤ l.kind.rank := by
  have hall : ToolCheck.all.Pairwise fun k l => k.kind.rank ≤ l.kind.rank := by decide
  cases o with
  | typed o => exact hall.filter _
  | untyped o => exact hall.filter fun k => (o.value k.switchName).isTruthy

section Checks

variable {x : Executor} {order : Order} {h : Host} {resolver : Resolver} {target filename : Path}
  {given : GivenOptions} {o : UsableOptions} {c : Prepared} {fs : List Finding}

/-- **The findings of one task** come from the check of the same number. -/
theorem Reachable.isFrom {p : Progress}
    (hprepare : prepare x h ⟨resolver, noCoverage, readFindings h.workingPath⟩ target o = .ok c)
    (hp : Reachable (c.tasks ⟨resolver, noCoverage, readFindings h.workingPath⟩) p)
    {i : Nat} {s : Stage} (hs : p.stages[i]? = some s) {f : Finding} (hf : f ∈ s.findings) :
    f.IsWellFormed ∧ ∃ k r, o.toolChecks[i]? = some k ∧ r ∈ c.runs
      ∧ f.IsFrom h.workingPath target o r k := by
  obtain ⟨t, fs, ht, hresult, hmem⟩ := hp.findings_of_result hs hf
  unfold Prepared.tasks at ht
  rcases lt_or_ge i c.runs.length with hi | hi
  · rw [List.getElem?_append_left (by simpa using hi), List.getElem?_map] at ht
    obtain ⟨r, hr, rfl⟩ := Option.map_eq_some_iff.mp ht
    -- the runs and the checks go side by side
    have hruns := prepare_runs hprepare
    have hk : i < o.toolChecks.length := hruns.length_eq ▸ hi
    have hrun := hruns.get hi hk
    rw [List.get_eq_getElem, List.get_eq_getElem, (List.getElem?_eq_some_iff.mp hr).2] at hrun
    obtain ⟨hwellFormed, hfrom⟩ := hrun.isFrom rfl (ToolRun.gives_of_result hresult f hmem)
    exact ⟨hwellFormed, _, r, List.getElem?_eq_getElem hk, List.mem_of_getElem? hr, hfrom⟩
  · -- there is no gap in the coverage
    rw [List.getElem?_append_right (by simpa using hi)] at ht
    have hcoverage := List.mem_of_getElem? ht
    split at hcoverage
    · obtain rfl := List.mem_singleton.mp hcoverage
      cases hresult
      contradiction
    · contradiction

/-- Findings of different tasks come in the order of their kinds. -/
theorem Reachable.mergesBefore {p : Progress}
    (hprepare : prepare x h ⟨resolver, noCoverage, readFindings h.workingPath⟩ target o = .ok c)
    (hp : Reachable (c.tasks ⟨resolver, noCoverage, readFindings h.workingPath⟩) p)
    {i j : Nat} (hij : i ≤ j) {s t : Stage} (hs : p.stages[i]? = some s)
    (ht : p.stages[j]? = some t) {f g : Finding} (hf : f ∈ s.findings) (hg : g ∈ t.findings) :
    f.MergesBefore g := by
  obtain ⟨-, k, _, hk, -, hfirst⟩ := hp.isFrom hprepare hs hf
  obtain ⟨-, l, _, hl, -, hsecond⟩ := hp.isFrom hprepare ht hg
  refine ⟨k.kind, l.kind, hfirst.check, hsecond.check, ?_⟩
  obtain ⟨hi, rfl⟩ := List.getElem?_eq_some_iff.mp hk
  obtain ⟨hj, rfl⟩ := List.getElem?_eq_some_iff.mp hl
  rcases Nat.lt_or_eq_of_le hij with hlt | rfl
  · exact List.pairwise_iff_getElem.mp (pairwise_toolChecks o) i j hi hj hlt
  · exact Nat.le_refl _

/-- **The findings of a check.**  Whatever the file, the options, the programs that are known, the
    output of the tools and the order of the moves, if a check that asks for no coverage gives
    findings, then each of them is well formed and comes from the output of a tool that ended: that
    of a check that is wanted, whose kind and tool it has.  Their kinds come in merge order. -/
theorem checkIn_findings
    (hok : (checkIn x order h ⟨resolver, noCoverage, readFindings h.workingPath⟩ filename
      given).result = .ok fs) :
    ∃ o c, given.read = .ok o
      ∧ prepare x h ⟨resolver, noCoverage, readFindings h.workingPath⟩
          (filename.absolute h.workingPath) o = .ok c
      ∧ (∀ f ∈ fs, f.IsWellFormed ∧ ∃ k ∈ o.toolChecks, ∃ r ∈ c.runs,
          f.IsFrom h.workingPath (filename.absolute h.workingPath) o r k)
      ∧ fs.Pairwise Finding.MergesBefore := by
  unfold checkIn at hok
  split at hok
  · contradiction
  next o hread =>
  unfold checkWith at hok
  split at hok
  · contradiction
  next c hprepare =>
  refine ⟨o, c, hread, hprepare, ?_⟩
  have hreach := reachable_runTasks order
    (c.tasks ⟨resolver, noCoverage, readFindings h.workingPath⟩)
  -- the findings are those of the stages, in the order of the tasks
  unfold Prepared.conclude Progress.result at hok
  cases hfailure : (runTasks order
      (c.tasks ⟨resolver, noCoverage, readFindings h.workingPath⟩)).failure with
  | some e =>
    rw [hfailure] at hok
    contradiction
  | none =>
    rw [hfailure] at hok
    obtain rfl := Except.ok.inj hok
    constructor
    · intro f hf
      obtain ⟨s, hs, hmem⟩ := List.mem_flatMap.mp hf
      obtain ⟨i, hi⟩ := List.mem_iff_getElem?.mp hs
      obtain ⟨hwellFormed, k, r, hk, hr, hfrom⟩ := hreach.isFrom hprepare hi hmem
      exact ⟨hwellFormed, k, List.mem_of_getElem? hk, r, hr, hfrom⟩
    -- within a task the findings merge by their lines, between tasks by the order of the checks
    · rw [List.pairwise_flatMap]
      constructor
      · intro s hs
        obtain ⟨i, hi⟩ := List.mem_iff_getElem?.mp hs
        exact List.pairwise_of_forall_mem_list fun f hf g hg =>
          hreach.mergesBefore hprepare (Nat.le_refl i) hi hi hf hg
      · rw [List.pairwise_iff_getElem]
        intro i j hi hj hij f hf g hg
        exact hreach.mergesBefore hprepare (Nat.le_of_lt hij) (List.getElem?_eq_getElem hi)
          (List.getElem?_eq_getElem hj) hf hg

end Checks

/-- Two findings of a build and one of the linter; vetting takes too long. -/
def noisyTools : Executor := fun h argv _ _ =>
  (if argv.contains "build" then
      .finished 2 "" "sub/a.go:0: broken\n\thint\nb.go:7::warning: odd" 40
    else if argv.contains "vet" then .timedOut
    else .finished 0 "/x/a.go:3:1: style" "" 90, h.files)

/-- In each round the last task goes first. -/
def roundsBackwards : Order := fun _ =>
  (List.replicate 4 [Move.advance 3, .advance 2, .advance 1, .advance 0]).flatten

/-- A check with these tools. -/
def noisyCheck : CheckRun :=
  checkIn noisyTools roundsBackwards default
    ⟨.fixed [("go", "/bin/go"), ("golint", "/bin/golint")], noCoverage,
      readFindings (Host.workingPath default)⟩ checkedFile (.options (.typed allWanted))

/-- The linter ends first, and its finding comes last all the same. -/
theorem checkIn_findings_noisyCheck :
    ∃ fs, noisyCheck.result = .ok fs ∧ fs.map Finding.check = [some .build, some .build, some .lint]
      ∧ (∀ f ∈ fs, f.IsWellFormed) ∧ fs.Pairwise Finding.MergesBefore := by
  have hok : noisyCheck.result
      = .ok [⟨⟨.slash, ["w", "a.go"]⟩, 1, 1, "broken\n\thint", .error, some "go", some .build⟩,
          ⟨⟨.slash, ["w", "b.go"]⟩, 7, 1, "odd", .warning, some "go", some .build⟩,
          ⟨⟨.slash, ["w", "a.go"]⟩, 3, 1, "style", .warning, some "golint", some .lint⟩] := by
    rfl
  obtain ⟨o, c, -, -, hfindings, hordered⟩ := checkIn_findings hok
  exact ⟨_, hok, rfl, fun f hf => (hfindings f hf).1, hordered⟩

end SourceCheck
