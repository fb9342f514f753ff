import SourceCheck.Proofs.Output.Readings
import SourceCheck.Proofs.Output.Segments
import SourceCheck.Proofs.Tool.Traces

/-! # Outputs that are refused

    Only numbers with more digits than are read make an output unreadable.  A line is refused if
    in its longest readings the line number has too many digits, or else the column number
    (`IsRefused`); an output is refused for its first such line, and every other output gives
    findings.  So a run of a tool fails for its output just if the tool ended and the part of its
    output that is read holds such a line (`unreadable_iff`). -/

namespace SourceCheck

open SourceCheck.Text SourceCheck.Number

/-! ## Refused lines -/

namespace ReportLine

/-- A number of a reading has too many digits; the line number is looked at first. -/
inductive Reading.Refused (d : Reading) : NumberTooLong → Prop
  /-- The line number has. -/
  | line (hline : digitLimit < d.line.length) : d.Refused ⟨d.line.length⟩
  /-- The column number has, and the line number has not. -/
  | column (hline : d.line.length ≤ digitLimit) (hcolumn : digitLimit < d.column.length) :
    d.Refused ⟨d.column.length⟩

theorem Reading.ofParts_eq_error_iff {d : Reading} {e : NumberTooLong} :
    ofParts d.parts = .error e ↔ d.Refused e := by
  have hline : number d.parts.line = if digitLimit < d.line.length then .error ⟨d.line.length⟩
      else .ok (digitsValue d.line) := rfl
  have hcolumn : number d.parts.column = if digitLimit < d.column.length
      then .error ⟨d.column.length⟩ else .ok (digitsValue d.column) := rfl
  unfold ofParts
  rw [hline, hcolumn]
  -- the line is converted before the column, so a long column counts only behind a short line
  constructor
  · intro h
    by_cases hlong : digitLimit < d.line.length
    · rw [if_pos hlong] at h
      obtain rfl := Except.error.inj h
      exact .line hlong
    · rw [if_neg hlong] at h
      by_cases hwide : digitLimit < d.column.length
      · rw [if_pos hwide] at h
        obtain rfl := Except.error.inj h
        exact .column (Nat.not_lt.mp hlong) hwide
      · rw [if_neg hwide] at h
        contradiction
  · rintro (hlong | ⟨hshort, hwide⟩)
    · rw [if_pos hlong]
    · rw [if_neg (Nat.not_lt.mpr hshort), if_pos hwide]

end ReportLine

/-- A line is refused for the digits of a number. -/
def IsRefused (l : String) (e : NumberTooLong) : Prop :=
  ∃ d, ReportLine.IsReading l.toList d ∧ ReportLine.IsLongest l.toList d ∧ d.Refused e

open ReportLine in
/-- **A line of an output is refused** just if reading it fails. -/
theorem read_eq_error_iff {l : String} (hfeed : '\n' ∉ l.toList) {e : NumberTooLong} :
    read l.toList = .error e ↔ IsRefused l e := by
  have hline : dropFinalFeed l.toList = l.toList := dropFinalFeed_of_not_mem hfeed
  have hlongest : ∀ d, IsReading l.toList d → IsLongest l.toList d →
      read l.toList = (ofParts d.parts).map some := by
    intro d hd hlong
    rw [← hline] at hd hlong
    exact read_of_isLongest (by rwa [hline]) hd hlong
  constructor
  · intro hread
    by_cases hreading : ∃ d, IsReading l.toList d
    · obtain ⟨d, hd⟩ := hreading
      -- of all readings the line takes the settled one, whose numbers decide
      have hlong : IsLongest l.toList d.settle :=
        hd.settle.isLongest_iff.mpr hd.isSettled_settle
      refine ⟨d.settle, hd.settle, hlong, Reading.ofParts_eq_error_iff.mp ?_⟩
      rw [hlongest _ hd.settle hlong] at hread
      cases hparts : ofParts d.settle.parts with
      | ok r =>
        rw [hparts] at hread
        contradiction
      | error e' =>
        rw [hparts] at hread
        exact congrArg Except.error (Except.error.inj hread)
    · rw [← hline] at hreading
      rw [read_of_no_reading hreading] at hread
      contradiction
  · rintro ⟨d, hd, hlong, hrefused⟩
    rw [hlongest d hd hlong, Reading.ofParts_eq_error_iff.mpr hrefused]
    rfl

theorem ofText_eq_tooLong_iff {l : String} (hfeed : '\n' ∉ l.toList) {e : NumberTooLong} :
    OutputLine.ofText l = .tooLong e ↔ IsRefused l e := by
  rw [← read_eq_error_iff hfeed]
  by_cases htab : isTabLine l = true
  · -- a tab line is not read, and it would report nothing
    rw [ofText_of_tab htab]
    cases hl : l.toList with
    | nil =>
      rw [isTabLine, hl] at htab
      contradiction
    | cons c s =>
      have hc : c = '\t' := by simpa [isTabLine, hl] using htab
      rw [hc, read_tab]
      simp
  · unfold OutputLine.ofText
    rw [startsWith_tab, if_neg htab]
    split
    · next hread => simp [hread]
    · next hread => simp [hread]
    · next hread => simp [hread]

/-! ## Refused outputs -/

/-- The first line that is refused. -/
inductive FirstRefused : List String → NumberTooLong → Prop
  /-- The first line is. -/
  | here {l : String} {ls : List String} {e : NumberTooLong} (hl : IsRefused l e) :
    FirstRefused (l :: ls) e
  /-- The first line is not, but one of those after it. -/
  | later {l : String} {ls : List String} {e : NumberTooLong} (hl : ∀ e', ¬IsRefused l e')
    (hls : FirstRefused ls e) : FirstRefused (l :: ls) e

theorem exists_firstRefused_iff {ls : List String} :
    (∃ e, FirstRefused ls e) ↔ ∃ l ∈ ls, ∃ e, IsRefused l e := by
  constructor
  · rintro ⟨e, hfirst⟩
    -- lines that are refused later do not change which one is met first
    induction hfirst with
    | here hl => exact ⟨_, List.mem_cons_self, _, hl⟩
    | later _ _ ih =>
      obtain ⟨l, hl, hrefused⟩ := ih
      exact ⟨l, List.mem_cons_of_mem _ hl, hrefused⟩
  · rintro ⟨l, hl, hrefused⟩
    induction ls with
    | nil => exact absurd hl List.not_mem_nil
    | cons m ls ih =>
      -- either this line is refused, or the one given stands behind it
      by_cases hm : ∃ e, IsRefused m e
      · obtain ⟨e, hm⟩ := hm
        exact ⟨e, .here hm⟩
      · obtain rfl | hl := List.mem_cons.mp hl
        · exact absurd hrefused hm
        · obtain ⟨e, hfirst⟩ := ih hl
          exact ⟨e, .later (not_exists.mp hm) hfirst⟩

/-- **One line in front** spoils a stretch of lines if it is too long itself; otherwise only what
    spoils the lines after it does. -/
theorem add_eq_error_iff {line : OutputLine} {rest : Except NumberTooLong Reports}
    {e : NumberTooLong} :
    Reports.add line rest = .error e
      ↔ line = .tooLong e ∨ (∀ e', line ≠ .tooLong e') ∧ rest = .error e := by
  cases line with
  | tooLong e' => simp [Reports.add]
  | continuation s => cases rest <;> simp [Reports.add, Except.map]
  | report r => cases rest <;> simp [Reports.add, Except.map]
  | noise => simp [Reports.add]

/-- **A stretch of lines is refused** for its first line that is. -/
theorem ofLines_eq_error_iff {ls : List String} (hfeed : ∀ l ∈ ls, '\n' ∉ l.toList)
    {e : NumberTooLong} :
    Reports.ofLines (ls.map OutputLine.ofText) = .error e ↔ FirstRefused ls e := by
  induction ls with
  | nil =>
    constructor
    · intro h
      contradiction
    · intro h
      cases h
  | cons l ls ih =>
    have hl := hfeed l List.mem_cons_self
    have hls := ih fun m hm => hfeed m (List.mem_cons_of_mem l hm)
    have hcons : Reports.ofLines ((l :: ls).map OutputLine.ofText)
        = Reports.add (OutputLine.ofText l) (Reports.ofLines (ls.map OutputLine.ofText)) := rfl
    -- reports are added from the back, so the error of an earlier line wins
    rw [hcons, add_eq_error_iff, ofText_eq_tooLong_iff hl, hls]
    constructor
    · rintro (hrefused | ⟨hline, hrest⟩)
      · exact .here hrefused
      · exact .later (fun e' hrefused => hline e' ((ofText_eq_tooLong_iff hl).mpr hrefused)) hrest
    · intro h
      cases h with
      | here hrefused => exact .inl hrefused
      | later hline hrest =>
        exact .inr ⟨fun e' htoo => hline e' ((ofText_eq_tooLong_iff hl).mp htoo), hrest⟩

theorem not_mem_of_mem_physicalLines {output l : String} (h : l ∈ physicalLines output) :
    '\n' ∉ l.toList := by
  obtain ⟨piece, hpiece, rfl⟩ := List.mem_map.mp h
  rw [← cutAt_eq_splitOn] at hpiece
  rw [String.toList_ofList]
  exact not_mem_of_mem_cutAt hpiece

/-- **An output is refused** for the first of its lines that is. -/
theorem ofOutput_eq_error_iff (working : Path) (origin : Origin) {output : String}
    {e : NumberTooLong} :
    Finding.ofOutput working origin output = .error e
      ↔ FirstRefused (physicalLines output) e := by
  rw [← ofLines_eq_error_iff fun l hl => not_mem_of_mem_physicalLines hl, ofOutput_eq]
  cases Reports.ofLines ((physicalLines output).map OutputLine.ofText) <;> simp [Except.map]

/-- **Every other output gives findings.** -/
theorem exists_ofOutput_eq_ok_iff (working : Path) (origin : Origin) (output : String) :
    (∃ fs, Finding.ofOutput working origin output = .ok fs)
      ↔ ∀ l ∈ physicalLines output, ∀ e, ¬IsRefused l e := by
  have hrefused : (∃ e, FirstRefused (physicalLines output) e)
      ↔ ∃ l ∈ physicalLines output, ∃ e, IsRefused l e := exists_firstRefused_iff
  constructor
  · rintro ⟨fs, hfs⟩ l hl e hle
    obtain ⟨e', hfirst⟩ := hrefused.mpr ⟨l, hl, e, hle⟩
    rw [(ofOutput_eq_error_iff working origin).mpr hfirst] at hfs
    contradiction
  · intro hnone
    -- reading fails for a line only
    cases hout : Finding.ofOutput working origin output with
    | ok fs => exact ⟨fs, rfl⟩
    | error e =>
      obtain ⟨l, hl, e', hle⟩ := hrefused.mp ⟨e, (ofOutput_eq_error_iff working origin).mp hout⟩
      exact absurd hle (hnone l hl e')

/-! ## Runs whose output is refused -/

theorem readFindings_eq_error_iff (working : Path) (origin : Origin) {output cause : String} :
    readFindings working origin output = .error cause
      ↔ ∃ e, FirstRefused (physicalLines output) e ∧ cause = e.message := by
  simp only [← ofOutput_eq_error_iff working origin]
  unfold readFindings
  cases hout : Finding.ofOutput working origin output with
  | ok fs => simp
  | error e => simp [eq_comm]

namespace Invocation

/-- **Any process.**  A run fails for its output just if the process ended and what is read of
    its output cannot be read. -/
theorem taskOf_eq_unreadable_iff (i : Invocation) (read : OutputReader) (outcome : Outcome)
    {tool cause : String} :
    (i.taskOf read outcome).result = .error (.unreadable tool cause)
      ↔ tool = i.tool ∧ ∃ status output errors micros,
        outcome = .finished status output errors micros
          ∧ read i.origin (i.stream output errors) = .error cause := by
  cases hdown : outcome.breakdown? with
  | some f =>
    -- a breakdown is no fault of the output
    rw [(taskOf_of_breakdown hdown i read).1]
    constructor
    · intro h
      exact absurd (Except.error.inj h) (Outcome.ne_unreadable_of_breakdown hdown tool cause)
    · rintro ⟨-, status, output, errors, micros, rfl, -⟩
      contradiction
  | none =>
    cases outcome with
    | noProgram | unpassable | uncountable | unmeasurable _ => contradiction
    | refused _ _ | timedOut =>
      -- these give no findings, and they do not fail
      constructor
      · intro h
        contradiction
      · rintro ⟨-, status, output, errors, micros, hfinished, -⟩
        contradiction
    | finished status output errors micros =>
      have hresult : (i.taskOf read (.finished status output errors micros)).result
          = (read i.origin (i.stream output errors)).mapError (.unreadable i.tool) :=
        i.result_finish read status output errors micros
      rw [hresult]
      constructor
      · intro h
        cases hread : read i.origin (i.stream output errors) with
        | ok fs =>
          rw [hread] at h
          contradiction
        | error cause' =>
          rw [hread] at h
          obtain ⟨rfl, rfl⟩ := CheckFailure.unreadable.inj (Except.error.inj h)
          exact ⟨rfl, status, output, errors, micros, rfl, hread⟩
      · rintro ⟨rfl, status', output', errors', micros', hfinished, hread⟩
        obtain ⟨rfl, rfl, rfl, rfl⟩ := Outcome.finished.inj hfinished
        rw [hread]
        rfl

/-- A tool that was not found has no output. -/
theorem run_eq_unreadable_iff (x : Executor) (h : Host) (i : Invocation) (read : OutputReader)
    {tool cause : String} :
    ((i.run x h).1.task read).result = .error (.unreadable tool cause)
      ↔ i.binary ≠ none ∧ tool = i.tool ∧ ∃ status output errors micros,
        (x h i.argv i.directory i.timeout).1 = .finished status output errors micros
          ∧ read i.origin (i.stream output errors) = .error cause := by
  rw [← taskOf_eq_unreadable_iff]
  unfold run
  -- a tool that was not found has no answer to be read
  cases i.binary with
  | none =>
    constructor
    · intro h
      contradiction
    · rintro ⟨hfound, -⟩
      exact absurd rfl hfound
  | some binary =>
    constructor
    · intro h
      exact ⟨Option.some_ne_none binary, h⟩
    · rintro ⟨-, h⟩
      exact h

end Invocation

/-- **What can spoil a run.**  In every working directory and for every origin, an output gives
    findings just if none of its lines is refused, and otherwise it is refused for the first one.
    So, whatever the system does, a run fails for its output just if its tool was found and ended,
    and the part of its output that is read has a line that is refused; the first such line is
    the cause. -/
theorem unreadable_iff (working : Path) :
    (∀ (origin : Origin) (output : String),
        ((∃ fs, Finding.ofOutput working origin output = .ok fs)
            ↔ ∀ l ∈ physicalLines output, ∀ e, ¬IsRefused l e)
          ∧ ∀ e, Finding.ofOutput working origin output = .error e
            ↔ FirstRefused (physicalLines output) e)
      ∧ ∀ (x : Executor) (h : Host) (i : Invocation) (tool cause : String),
        ((i.run x h).1.task (readFindings working)).result = .error (.unreadable tool cause)
          ↔ i.binary ≠ none ∧ tool = i.tool ∧ ∃ status output errors micros,
            (x h i.argv i.directory i.timeout).1 = .finished status output errors micros
              ∧ ∃ e, FirstRefused (physicalLines (i.stream output errors)) e
                ∧ cause = e.message := by
  refine ⟨fun origin output => ⟨exists_ofOutput_eq_ok_iff working origin output,
    fun e => ofOutput_eq_error_iff working origin⟩, fun x h i tool cause => ?_⟩
  rw [Invocation.run_eq_unreadable_iff]
  simp only [readFindings_eq_error_iff]

end SourceCheck
