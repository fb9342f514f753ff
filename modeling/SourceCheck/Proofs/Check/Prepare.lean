import SourceCheck.Check.Run
import SourceCheck.Proofs.Results
import SourceCheck.Proofs.Tool.Traces

/-! # Checks that are made ready

    While programs are looked for, nothing goes to the run log or to the user
    (`prepare_quiet`).  With options of the right types there is one run for each check
    that is wanted, in merge order, and its tool is missing if the resolver knows no
    program for it (`prepare_typed`). -/

namespace SourceCheck

/-! ## The search for programs -/

theorem quiet_searchRecords (tool : String) (found : Option String) :
    Effect.Quiet (searchRecords tool found) := by
  cases found with
  | none => exact ⟨rfl, rfl⟩
  | some _ => exact .nil

theorem quiet_resolve {r : Resolver} {h : Host} {tool : String} {found : Option String}
    {es : List Effect} (hr : r.resolve h tool = .ok (found, es)) : Effect.Quiet es := by
  cases r with
  | fixed answers =>
    cases hr
    exact .nil
  | search vs =>
    obtain ⟨path, -, hpath⟩ := eq_ok_of_map hr
    cases hpath
    exact quiet_searchRecords tool found

theorem quiet_resolveAny {r : Resolver} {h : Host} {tool : Value} {found : Option String}
    {es : List Effect} (hr : r.resolveAny h tool = .ok (found, es)) : Effect.Quiet es := by
  unfold Resolver.resolveAny at hr
  split at hr
  · exact quiet_resolve (eq_ok_of_mapError hr)
  · obtain ⟨path, -, hpath⟩ := eq_ok_of_map hr
    cases hpath
    exact .nil

theorem quiet_invocationsOf {h : Host} {target : Path} {o : Options} {r : Resolver}
    {cs : List ToolCheck} {is : List Invocation} {es : List Effect}
    (hok : invocationsOf h target o r cs = .ok (is, es)) : Effect.Quiet es := by
  -- by the checks: a search is told to the log at most
  induction cs generalizing is es with
  | nil =>
    cases hok
    exact .nil
  | cons c rest ih =>
    unfold invocationsOf at hok
    split at hok
    · contradiction
    · next binary first hfirst =>
      split at hok
      · contradiction
      · next others more hmore =>
        cases hok
        exact (quiet_resolve hfirst).append (ih hmore)

theorem quiet_draft {h : Host} {target : Path} {o : NamedOptions} {r : Resolver}
    {c : ToolCheck} {d : Draft} {es : List Effect}
    (hok : o.draft h target r c = .ok (d, es)) : Effect.Quiet es := by
  unfold NamedOptions.draft at hok
  split at hok
  · contradiction
  · contradiction
  · contradiction
  · next hany =>
    cases hok
    exact quiet_resolveAny hany

theorem quiet_drafts {h : Host} {target : Path} {o : NamedOptions} {r : Resolver}
    {cs : List ToolCheck} {ds : List Draft} {es : List Effect}
    (hok : o.drafts h target r cs = .ok (ds, es)) : Effect.Quiet es := by
  induction cs generalizing ds es with
  | nil =>
    cases hok
    exact .nil
  | cons c rest ih =>
    unfold NamedOptions.drafts at hok
    split at hok
    · contradiction
    · next d first hfirst =>
      split at hok
      · contradiction
      · next others more hmore =>
        cases hok
        exact (quiet_draft hfirst).append (ih hmore)

theorem quiet_startsOf {x : Executor} {h : Host} {means : Means} {target : Path}
    {o : UsableOptions} {starts : List Start} {es : List Effect}
    (hok : startsOf x h means target o = .ok (starts, es)) : Effect.Quiet es := by
  cases o with
  | typed o =>
    simp only [startsOf] at hok
    split at hok
    · contradiction
    · next his =>
      cases hok
      exact quiet_invocationsOf his
  | untyped o =>
    simp only [startsOf] at hok
    split at hok
    · contradiction
    · next hds =>
      cases hok
      exact quiet_drafts hds

/-! ## The parts of a check that is ready -/

theorem prepare_eq_ok {x : Executor} {h : Host} {means : Means} {target : Path}
    {o : UsableOptions} {c : Prepared} (hok : prepare x h means target o = .ok c) :
    ∃ starts searching, startsOf x h means target o = .ok (starts, searching) ∧
      c = ⟨target, o.toolsAsked, searching, (runsOf h starts).1, o.asksCoverage,
        (runsOf h starts).2⟩ := by
  unfold prepare at hok
  split at hok
  · contradiction
  · next starts searching hstarts =>
    cases hok
    exact ⟨starts, searching, hstarts, rfl⟩

/-- **The search is quiet**: it writes no line and gives no notice. -/
theorem prepare_quiet {x : Executor} {h : Host} {means : Means} {target : Path}
    {o : UsableOptions} {c : Prepared} (hok : prepare x h means target o = .ok c) :
    Effect.Quiet c.searching := by
  obtain ⟨starts, searching, hstarts, rfl⟩ := prepare_eq_ok hok
  exact quiet_startsOf hstarts

/-! ## Options of the right types -/

/-- The program that a resolver knows for a tool. -/
def Resolver.binary? (h : Host) (r : Resolver) (tool : String) : Option String :=
  match r.resolve h tool with
  | .ok (found, _) => found
  | .error _ => none

theorem invocationsOf_eq_ok {h : Host} {target : Path} {o : Options} {r : Resolver}
    {cs : List ToolCheck} {is : List Invocation} {es : List Effect}
    (hok : invocationsOf h target o r cs = .ok (is, es)) :
    is = cs.map fun c => c.invocation h target o (r.binary? h (c.tool o)) := by
  induction cs generalizing is es with
  | nil =>
    cases hok
    rfl
  | cons c rest ih =>
    unfold invocationsOf at hok
    split at hok
    · contradiction
    · next binary first hfirst =>
      split at hok
      · contradiction
      · next others more hmore =>
        cases hok
        -- the answer depends on the check alone, so it can be told beforehand
        have hbinary : r.binary? h (c.tool o) = binary := by
          unfold Resolver.binary?
          rw [hfirst]
        rw [List.map_cons, hbinary, ih hmore]

/-- The run of a check, by the program that is known for its tool and the outcome that
    the tool has if it is started. -/
def ToolCheck.runWith (h : Host) (target : Path) (o : Options) (binary : Option String)
    (outcome : Outcome) (k : ToolCheck) : ToolRun where
  invocation := k.invocation h target o binary
  fate :=
    match binary with
    | none => .missing
    | some _ => .started outcome

/-- A check with options of the right types, by the answers to the search for programs
    and the outcomes of the tools. -/
structure Prepared.IsFor (c : Prepared) (h : Host) (target : Path) (o : Options)
    (answers : ToolCheck → Option String) (outcomes : ToolCheck → Outcome) : Prop where
  file : c.target = target
  coverage : c.asksCoverage = o.cover
  quiet : Effect.Quiet c.searching
  runs : c.runs = o.toolChecks.map fun k => k.runWith h target o (answers k) (outcomes k)

theorem run_invocation (x : Executor) (h hostNow : Host) (target : Path) (o : Options)
    (binary : Option String) (k : ToolCheck) :
    ∃ outcome, ((k.invocation h target o binary).run x hostNow).1
      = k.runWith h target o binary outcome := by
  unfold Invocation.run ToolCheck.runWith
  cases binary with
  | none => exact ⟨.noProgram, rfl⟩
  | some path => exact ⟨_, rfl⟩

theorem runsOf_invocations (x : Executor) (h hostNow : Host) (target : Path) (o : Options)
    (answers : ToolCheck → Option String) {ks : List ToolCheck} (hnodup : ks.Nodup) :
    ∃ outcomes : ToolCheck → Outcome,
      (runsOf hostNow ((ks.map fun k => k.invocation h target o (answers k)).map
          fun i h => i.run x h)).1
        = ks.map fun k => k.runWith h target o (answers k) (outcomes k) := by
  induction ks generalizing hostNow with
  | nil => exact ⟨fun _ => .noProgram, rfl⟩
  | cons k rest ih =>
    obtain ⟨hk, hrest⟩ := List.nodup_cons.mp hnodup
    obtain ⟨first, hfirst⟩ := run_invocation x h hostNow target o (answers k) k
    obtain ⟨others, hothers⟩ := ih { hostNow with
      files := ((k.invocation h target o (answers k)).run x hostNow).2 } hrest
    -- the checks differ, so one table can hold the outcomes of all
    refine ⟨fun j => if j = k then first else others j, ?_⟩
    simp only [List.map_cons, runsOf, if_true]
    rw [hfirst, hothers]
    congr 1
    apply List.map_congr_left
    intro j hj
    have hne : j ≠ k := by
      rintro rfl
      exact hk hj
    rw [if_neg hne]

theorem nodup_toolChecks (o : Options) : o.toolChecks.Nodup :=
  List.Pairwise.filter _ (by decide : ToolCheck.all.Nodup)

/-- **A check with options of the right types** has one run for each check that is
    wanted, in merge order, with the program that the resolver knows. -/
theorem prepare_typed {x : Executor} {h : Host} {means : Means} {target : Path}
    {o : Options} {c : Prepared} (hok : prepare x h means target (.typed o) = .ok c) :
    ∃ outcomes, c.IsFor h target o (fun k => means.resolver.binary? h (k.tool o)) outcomes := by
  have hquiet := prepare_quiet hok
  obtain ⟨starts, searching, hstarts, rfl⟩ := prepare_eq_ok hok
  simp only [startsOf] at hstarts
  split at hstarts
  · contradiction
  · next is es his =>
    cases hstarts
    obtain ⟨outcomes, houtcomes⟩ := runsOf_invocations x h h target o
      (fun k => means.resolver.binary? h (k.tool o)) (nodup_toolChecks o)
    refine ⟨outcomes, rfl, rfl, hquiet, ?_⟩
    rw [← houtcomes, invocationsOf_eq_ok his]

/-! ### A check without a linter -/

/-- The file that is checked. -/
def checkedFile : Path := ⟨.slash, ["w", "a.go"]⟩

/-- Options by which all checks are wanted. -/
def allWanted : Options :=
  { Options.default with build := true, lint := true, vet := true, cover := true }

/-- Means that know no linter; the coverage has a gap. -/
def withoutLinter : Means where
  resolver := .fixed [("go", "/bin/go")]
  coverage := fun file => .ok [⟨file, 9, 1, "gap", .info, none, some .coverage⟩]
  reader := readFindings checkedFile.parent

/-- The build finds something, and vetting takes too long. -/
def brokenBuild : Executor := fun h argv _ _ =>
  (if argv.contains "build" then .finished 2 "" "a.go:7: broken\n\thint" 40 else .timedOut, h.files)

/-- The check of the file. -/
def brokenCheck : Prepared where
  target := checkedFile
  toolsAsked := [.text "go", .text "golint", .text "go"]
  searching := []
  runs := allWanted.toolChecks.map fun k =>
    k.runWith default checkedFile allWanted
      (withoutLinter.resolver.binary? default (k.tool allWanted))
      (if k = .build then .finished 2 "" "a.go:7: broken\n\thint" 40 else .timedOut)
  asksCoverage := true
  files := (default : Host).files

theorem prepare_brokenCheck :
    prepare brokenBuild default withoutLinter checkedFile (.typed allWanted) = .ok brokenCheck := by
  rfl

end SourceCheck
