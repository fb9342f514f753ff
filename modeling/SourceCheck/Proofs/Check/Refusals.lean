import SourceCheck.Proofs.Check.Blocks

/-! # Refused checks and clean starts

    A check reads its options before it does anything else.  If they are refused, nothing has
    happened (`CheckRun.TouchesNothing`); no later step refuses them (`result_eq_refused_iff`).
    Else the run log is cleared before the first line is written to it, so at no time and in no
    order of the tasks does a run log in memory tell what it held before (`checkIn_startsClean`). -/

namespace SourceCheck

/-! ## Options that are refused -/

namespace GivenOptions

variable {given : GivenOptions}

theorem read_map (members : List (String × Value)) :
    (GivenOptions.value (.map members)).read
      = ((Options.validate members).mapError .invalid).map .typed := by
  cases hvalid : Options.validate members with
  | ok o =>
    simp only [read, hvalid]
    rfl
  | error issues =>
    simp only [read, hvalid]
    rfl

/-- Whatever is neither options nor a mapping is refused as that. -/
theorem read_eq_notMapping_iff {kind : String} :
    given.read = .error (.notMapping kind)
      ↔ ∃ v, given = .value v ∧ (∀ members, v ≠ .map members) ∧ kind = v.kindName := by
  cases given with
  | options o =>
    constructor
    · intro h
      contradiction
    · rintro ⟨v, hv, -⟩
      contradiction
  | value v =>
    cases v with
    | map members =>
      -- a mapping is validated, and what is wrong with it is another refusal
      constructor
      · intro h
        rw [read_map] at h
        cases hvalid : Options.validate members with
        | ok o =>
          rw [hvalid] at h
          contradiction
        | error issues =>
          rw [hvalid] at h
          cases Except.error.inj h
      · rintro ⟨v, hv, hmap, -⟩
        exact absurd (GivenOptions.value.inj hv).symm (hmap members)
    | null | bool _ | int _ | double _ | text _ | list _ | path _ | severity _ | member _
    | moment _ =>
      constructor
      · intro h
        obtain rfl := OptionsRefusal.notMapping.inj (Except.error.inj h)
        exact ⟨_, rfl, fun members hmap => (nomatch hmap), rfl⟩
      · rintro ⟨v, hv, -, rfl⟩
        obtain rfl := GivenOptions.value.inj hv
        rfl

/-- A mapping is refused for its issues. -/
theorem read_eq_invalid_iff {issues : List Issue} :
    given.read = .error (.invalid issues)
      ↔ ∃ members, given = .value (.map members) ∧ Options.validate members = .error issues := by
  constructor
  · intro h
    cases given with
    | options o => contradiction
    | value v =>
      -- only a mapping can have issues
      cases v with
      | map members =>
        refine ⟨members, rfl, ?_⟩
        rw [read_map] at h
        cases hvalid : Options.validate members with
        | ok o =>
          rw [hvalid] at h
          contradiction
        | error issues' =>
          rw [hvalid] at h
          rw [OptionsRefusal.invalid.inj (Except.error.inj h)]
      | null | bool _ | int _ | double _ | text _ | list _ | path _ | severity _ | member _
      | moment _ => cases Except.error.inj h
  · rintro ⟨members, rfl, hvalid⟩
    rw [read_map, hvalid]
    rfl

end GivenOptions

/-! ## Checks that are refused -/

/-- A check has happened without a trace. -/
structure CheckRun.TouchesNothing (r : CheckRun) (files : FileSystem) : Prop where
  /-- The run log is as it was. -/
  log : ∀ before, r.log before = before
  /-- Others saw nothing, and the user was told nothing. -/
  effects : r.effects = []
  /-- No program was looked for. -/
  toolsAsked : r.toolsAsked = []
  /-- No coverage was asked for. -/
  coverageAsked : r.coverageAsked = []
  /-- The files are as they were. -/
  files : r.files = files

section Checks

variable {x : Executor} {order : Order} {h : Host} {means : Means}

theorem startsOf_ne_refused {target : Path} {o : UsableOptions} (r : OptionsRefusal) :
    startsOf x h means target o ≠ .error (.refused r) := by
  intro hstarts
  cases o with
  | typed o =>
    simp only [startsOf] at hstarts
    split at hstarts <;> cases hstarts
  | untyped o =>
    simp only [startsOf] at hstarts
    split at hstarts <;> cases hstarts

theorem prepare_ne_refused {target : Path} {o : UsableOptions} (r : OptionsRefusal) :
    prepare x h means target o ≠ .error (.refused r) := by
  intro hprepare
  unfold prepare at hprepare
  split at hprepare
  · next e hstarts =>
    rw [Except.error.inj hprepare] at hstarts
    exact startsOf_ne_refused r hstarts
  · contradiction

theorem Prepared.started_conclude (c : Prepared) (p : Progress) :
    (c.conclude means p).started = true := by
  unfold conclude
  cases p.result <;> rfl

theorem Prepared.conclude_ne_refused (c : Prepared) (p : Progress) (r : OptionsRefusal) :
    (c.conclude means p).result ≠ .error (.refused r) := by
  unfold conclude
  intro hresult
  cases hp : p.result with
  | error e => simp [hp] at hresult
  | ok fs => simp [hp] at hresult

/-- A check that has its options clears the run log, and refuses nothing any more. -/
theorem checkWith_started (x : Executor) (order : Order) (h : Host) (means : Means)
    (target : Path) (o : UsableOptions) :
    (checkWith x order h means target o).started = true
      ∧ ∀ r, (checkWith x order h means target o).result ≠ .error (.refused r) := by
  unfold checkWith
  cases hprepare : prepare x h means target o with
  | error e =>
    refine ⟨rfl, ?_⟩
    intro r hresult
    rw [Except.error.inj hresult] at hprepare
    exact prepare_ne_refused r hprepare
  | ok c => exact ⟨c.started_conclude _, fun r => c.conclude_ne_refused _ r⟩

/-- **A check is refused** just if its options are, for the same reason. -/
theorem result_eq_refused_iff {filename : Path} {given : GivenOptions} {r : OptionsRefusal} :
    (checkIn x order h means filename given).result = .error (.refused r)
      ↔ given.read = .error r := by
  unfold checkIn
  cases hread : given.read with
  | error r' => simp
  | ok o =>
    constructor
    · intro hresult
      exact absurd hresult ((checkWith_started x order h means _ o).2 r)
    · intro hrefused
      contradiction

/-- **Nothing has happened** when options are refused. -/
theorem touchesNothing_of_read {filename : Path} {given : GivenOptions} {r : OptionsRefusal}
    (hread : given.read = .error r) :
    (checkIn x order h means filename given).TouchesNothing h.files := by
  unfold checkIn
  rw [hread]
  exact ⟨fun before => rfl, rfl, rfl, rfl, rfl⟩

/-! ## Clean starts -/

/-- Some lines are all that a run log in memory holds once it was cleared. -/
theorem RunLog.clear_appendAll_memory (before added : List String) :
    (RunLog.memory before).clear.appendAll added = .memory added := by
  change (RunLog.memory []).appendAll added = _
  rw [appendAll_memory, List.nil_append]

/-- The run log of a check that has its options. -/
theorem log_of_read {filename : Path} {given : GivenOptions} {o : UsableOptions}
    (hread : given.read = .ok o) (before : List String) :
    (checkIn x order h means filename given).log (.memory before)
      = .memory (Effect.lines (checkIn x order h means filename given).effects) := by
  have hstarted : (checkIn x order h means filename given).started = true := by
    unfold checkIn
    rw [hread]
    exact (checkWith_started x order h means _ o).1
  unfold CheckRun.log
  rw [if_pos hstarted, RunLog.clear_appendAll_memory]

/-- At any time, a run log in memory holds what the tools of this check wrote to it. -/
theorem exists_pieces_memory {target : Path} {o : UsableOptions} {c : Prepared} {p : Progress}
    (hprepare : prepare x h means target o = .ok c) (hp : Reachable (c.tasks means) p) :
    ∃ pieces : List Nat, (∀ i ∈ pieces, i < c.runs.length)
      ∧ ∀ before, c.logAt p (.memory before) = .memory (pieces.flatMap (c.pieceAt means)) := by
  obtain ⟨pieces, -, hmem, hlog⟩ := exists_pieces hprepare hp
  refine ⟨pieces, fun i hi => ?_, fun before => ?_⟩
  · obtain ⟨r, result, hr, -⟩ := (hmem i).mp hi
    obtain ⟨hlt, -⟩ := List.getElem?_eq_some_iff.mp hr
    exact hlt
  · rw [hlog, RunLog.clear_appendAll_memory]

/-- **Refused options touch nothing, and all others start with a clean run log.**

    - What is neither options nor a mapping is refused as that, and a mapping for its issues;
      a check is refused for no other reason.
    - A check that is refused has happened without a trace.
    - After any other check, in whatever order its tasks make their moves and however it ends,
      what a run log in memory holds does not hang on what it held before.
    - Nor does it at any time before, also when the check is given up: it holds pieces that the
      tools of this check wrote. -/
theorem checkIn_startsClean (x : Executor) (order : Order) (h : Host) (means : Means)
    (filename : Path) (given : GivenOptions) :
    (∀ kind, (checkIn x order h means filename given).result = .error (.refused (.notMapping kind))
        ↔ ∃ v, given = .value v ∧ (∀ members, v ≠ .map members) ∧ kind = v.kindName)
      ∧ (∀ issues,
          (checkIn x order h means filename given).result = .error (.refused (.invalid issues))
            ↔ ∃ members, given = .value (.map members)
              ∧ Options.validate members = .error issues)
      ∧ (∀ r, (checkIn x order h means filename given).result = .error (.refused r) →
          (checkIn x order h means filename given).TouchesNothing h.files)
      ∧ ((∀ r, (checkIn x order h means filename given).result ≠ .error (.refused r)) →
          (∃ held, ∀ before,
              (checkIn x order h means filename given).log (.memory before) = .memory held)
            ∧ ∀ o c p, given.read = .ok o →
              prepare x h means (filename.absolute h.workingPath) o = .ok c →
              Reachable (c.tasks means) p →
              ∃ pieces : List Nat, (∀ i ∈ pieces, i < c.runs.length)
                ∧ ∀ before, c.logAt p (.memory before)
                  = .memory (pieces.flatMap (c.pieceAt means))) := by
  refine ⟨fun kind => ?_, fun issues => ?_, fun r hrefused => ?_, fun haccepted => ⟨?_, ?_⟩⟩
  · rw [result_eq_refused_iff, GivenOptions.read_eq_notMapping_iff]
  · rw [result_eq_refused_iff, GivenOptions.read_eq_invalid_iff]
  · exact touchesNothing_of_read (result_eq_refused_iff.mp hrefused)
  · cases hread : given.read with
    | error r => exact absurd (result_eq_refused_iff.mpr hread) (haccepted r)
    | ok o => exact ⟨_, log_of_read hread⟩
  · intro o c p _ hprepare hp
    exact exists_pieces_memory hprepare hp

end Checks

/-- A mapping with a switch that is neither on nor off. -/
def unsureOptions : GivenOptions := .value (.map [("lintOnSave", .text "maybe")])

theorem checkIn_startsClean_stale :
    ((checkIn brokenBuild usualMoves default withoutLinter checkedFile unsureOptions).log
        (.memory ["stale"]) = .memory ["stale"])
      ∧ ∃ held, ∀ before,
        (checkIn brokenBuild usualMoves default withoutLinter checkedFile
          (.options (.typed allWanted))).log (.memory before) = .memory held := by
  have hrefused : ∃ r, (checkIn brokenBuild usualMoves default withoutLinter checkedFile
      unsureOptions).result = .error (.refused r) := ⟨_, rfl⟩
  have haccepted : ∀ r, (checkIn brokenBuild usualMoves default withoutLinter checkedFile
      (.options (.typed allWanted))).result ≠ .error (.refused r) :=
    (checkWith_started brokenBuild usualMoves default withoutLinter _ (.typed allWanted)).2
  obtain ⟨r, hr⟩ := hrefused
  constructor
  · exact ((checkIn_startsClean brokenBuild usualMoves default withoutLinter checkedFile
      unsureOptions).2.2.1 r hr).log _
  · exact ((checkIn_startsClean brokenBuild usualMoves default withoutLinter checkedFile
      (.options (.typed allWanted))).2.2.2 haccepted).1

end SourceCheck
