import Mathlib.Data.List.Induction
import Mathlib.Data.List.ModifyLast
import SourceCheck.Proofs.Output.Continuations

/-! # Outputs one after the other

    An output is read from its last line to its first, but what it holds can be put together from
    its parts: with two stretches of lines one after the other, the continuations in front of the
    second go on with the last report of the first (`Reports.append`), and else each stretch
    holds what it holds alone (`Reports.ofLines_append`).  It does not matter where the cut is:
    before a continuation, in noise, or between two findings.

    So two outputs with a line feed between them give the findings of the one and then those of
    the other; only the last message of the first goes on with the tab lines that the second
    starts with (`ofOutput_append_feed`). -/

namespace SourceCheck

open SourceCheck.Text

/-! ## Two stretches of lines -/

/-- A report that goes on with more lines. -/
def Report.continued (r : Report) (ls : List String) : Report := { r with more := r.more ++ ls }

/-- What two stretches of lines hold together, by what each of them holds. -/
def Reports.append (rs ss : Reports) : Reports :=
  if rs.reports = [] then ⟨rs.leading ++ ss.leading, ss.reports⟩
  else ⟨rs.leading, rs.reports.modifyLast (·.continued ss.leading) ++ ss.reports⟩

namespace Reports

/-- A report in front goes on with the lines that were waiting for one. -/
theorem append_report (h : ReportLine) (rs ss : Reports) :
    (⟨[], ⟨h, rs.leading⟩ :: rs.reports⟩ : Reports).append ss
      = ⟨[], ⟨h, (rs.append ss).leading⟩ :: (rs.append ss).reports⟩ := by
  unfold append
  rw [if_neg (List.cons_ne_nil _ _)]
  by_cases hnone : rs.reports = []
  · rw [if_pos hnone, hnone]
    rfl
  · rw [if_neg hnone, ← List.singleton_append,
      List.modifyLast_append_of_right_ne_nil _ _ _ hnone]
    rfl

/-- **One line in front** of two stretches is in front of the first of them. -/
theorem add_append (line : OutputLine) (first second : Except NumberTooLong Reports) :
    add line (first.bind fun rs => second.map rs.append)
      = (add line first).bind fun rs => second.map rs.append := by
  cases first with
  | error e => cases line <;> rfl
  | ok rs =>
    cases second with
    | error e => cases line <;> rfl
    | ok ss =>
      cases line with
      | tooLong e => rfl
      | noise => rfl
      | continuation l =>
        -- the line waits for a report in front of it, with or without reports after it
        change Except.ok _ = Except.ok _
        unfold append
        split <;> rfl
      | report h => exact congrArg Except.ok (append_report h rs ss).symm

/-- **Two stretches of lines** hold what both of them hold, put together. -/
theorem ofLines_append (ls ms : List OutputLine) :
    ofLines (ls ++ ms) = (ofLines ls).bind fun rs => (ofLines ms).map rs.append := by
  -- lines are read from the last to the first, so a line in front is read after both stretches
  induction ls with
  | nil =>
    change ofLines ms = (ofLines ms).map (⟨[], []⟩ : Reports).append
    cases ofLines ms <;> rfl
  | cons line rest ih =>
    change add line (ofLines (rest ++ ms)) = _
    rw [ih, add_append]
    rfl

end Reports

/-! ## Messages that go on -/

/-- A finding whose message goes on with more lines. -/
def Finding.continued (f : Finding) (ls : List String) : Finding :=
  { f with message := joinWith "\n" (f.message :: ls) }

/-- Lines can be put behind a text one after the other. -/
theorem joinWith_joinWith (first : String) (before after : List String) :
    joinWith "\n" (joinWith "\n" (first :: before) :: after)
      = joinWith "\n" (first :: (before ++ after)) := by
  apply String.toList_inj.mp
  rw [toList_joinWith_cons, toList_joinWith_cons, toList_joinWith_cons, List.flatMap_append,
    List.append_assoc]

theorem Report.finding_continued (working : Path) (origin : Origin) (r : Report)
    (ls : List String) :
    (r.continued ls).finding working origin = (r.finding working origin).continued ls := by
  unfold finding Finding.continued
  dsimp only
  rw [show (r.continued ls).message = joinWith "\n" (r.message :: ls) from
    (joinWith_joinWith r.head.message r.more ls).symm]
  rfl

/-- The last of some reports makes the last finding. -/
theorem map_finding_modifyLast (working : Path) (origin : Origin) (rs : List Report)
    (ls : List String) :
    (rs.modifyLast (·.continued ls)).map (Report.finding working origin)
      = (rs.map (Report.finding working origin)).modifyLast (·.continued ls) := by
  induction rs using List.reverseRecOn with
  | nil => rfl
  | append_singleton rs r _ =>
    rw [List.modifyLast_concat, List.map_append, List.map_append, List.map_singleton,
      List.map_singleton, List.modifyLast_concat, Report.finding_continued]

theorem map_finding_append (working : Path) (origin : Origin) (rs ss : Reports) :
    (rs.append ss).reports.map (Report.finding working origin)
      = (rs.reports.map (Report.finding working origin)).modifyLast (·.continued ss.leading)
        ++ ss.reports.map (Report.finding working origin) := by
  unfold Reports.append
  split
  · next hnone =>
    rw [hnone]
    rfl
  · rw [List.map_append, map_finding_modifyLast]

/-! ## Two outputs -/

/-- The lines in front of the first report of an output are its first tab lines. -/
theorem leading_of_ofLines {ls : List String} {rs : Reports}
    (h : Reports.ofLines (ls.map OutputLine.ofText) = .ok rs) : rs.leading = tabLinesAhead ls := by
  obtain ⟨rs', hrs', hseg⟩ := ofLines_segmented ls (isOk_of_ofLines h)
  obtain rfl := Except.ok.inj (h.symm.trans hrs')
  exact hseg.leading

/-- **Two outputs with a line feed between them.**  If one of them is refused, both together are,
    for the first refusal.  Else they give the findings of both, and the last message of the first
    goes on with the tab lines before the first finding line of the second. -/
theorem ofOutput_append_feed (working : Path) (origin : Origin) {a : String} (b : String)
    (hlast : a.toList.getLast? ≠ some '\r') :
    Finding.ofOutput working origin (a ++ "\n" ++ b)
      = (Finding.ofOutput working origin a).bind fun fs =>
          (Finding.ofOutput working origin b).map fun gs =>
            fs.modifyLast (·.continued (tabLinesAhead (physicalLines b))) ++ gs := by
  rw [ofOutput_eq, ofOutput_eq, ofOutput_eq, physicalLines_append_feed b hlast, List.map_append,
    Reports.ofLines_append]
  cases Reports.ofLines ((physicalLines a).map OutputLine.ofText) with
  | error e =>
    -- a refusal of the first stands, whatever the second holds
    rfl
  | ok rs =>
    cases hb : Reports.ofLines ((physicalLines b).map OutputLine.ofText) with
    | error e => rfl
    | ok ss =>
      have hfindings := map_finding_append working origin rs ss
      rw [leading_of_ofLines hb] at hfindings
      exact congrArg Except.ok hfindings

/-- **Outputs can be read in parts.**  Two outputs whose lines can be read, with a line feed between
    them, give the findings of the second if the first gives none.  Else they give those of the
    first, whose last message goes on with the tab lines before the first finding line of the
    second, and then those of the second. -/
theorem ofOutput_concatenation (working : Path) (origin : Origin) {a b : String}
    (hlast : a.toList.getLast? ≠ some '\r')
    (ha : ∀ l ∈ physicalLines a, (ReportLine.read l.toList).isOk = true)
    (hb : ∀ l ∈ physicalLines b, (ReportLine.read l.toList).isOk = true) :
    ∃ fs gs, Finding.ofOutput working origin a = .ok fs
      ∧ Finding.ofOutput working origin b = .ok gs
      ∧ (fs = [] → Finding.ofOutput working origin (a ++ "\n" ++ b) = .ok gs)
      ∧ ∀ before last, fs = before ++ [last] →
        Finding.ofOutput working origin (a ++ "\n" ++ b)
          = .ok (before ++ last.continued (tabLinesAhead (physicalLines b)) :: gs) := by
  obtain ⟨fs, hfs⟩ := exists_findings_of_isOk working origin ha
  obtain ⟨gs, hgs⟩ := exists_findings_of_isOk working origin hb
  have hboth := ofOutput_append_feed working origin b hlast
  rw [hfs, hgs] at hboth
  refine ⟨fs, gs, hfs, hgs, ?_, ?_⟩
  · rintro rfl
    exact hboth
  · rintro before last rfl
    rw [hboth]
    refine congrArg Except.ok ?_
    dsimp only
    rw [List.modifyLast_concat, List.append_assoc, List.singleton_append]

/-- A finding, after a tab line that continues nothing. -/
def firstPart : String := "\tlost\na.go:1:1: x"

/-- Two tab lines with noise between them and both line ends, and another finding. -/
def secondPart : String := "\tmore\r\nnoise\n\tyet more\nb.go:2: y"

theorem ofOutput_concatenation_parts :
    firstPart.toList.getLast? ≠ some '\r'
      ∧ (∀ l ∈ physicalLines firstPart, (ReportLine.read l.toList).isOk = true)
      ∧ (∀ l ∈ physicalLines secondPart, (ReportLine.read l.toList).isOk = true)
      ∧ Finding.ofOutput ⟨.slash, ["w"]⟩ ⟨⟨.slash, ["w"]⟩, .error, none, none⟩
          (firstPart ++ "\n" ++ secondPart)
        = .ok [⟨⟨.slash, ["w", "a.go"]⟩, 1, 1, "x\n\tmore\n\tyet more", .error, none, none⟩,
            ⟨⟨.slash, ["w", "b.go"]⟩, 2, 1, "y", .error, none, none⟩] := by
  have hlast : firstPart.toList.getLast? ≠ some '\r' := by decide
  have hfirst : ∀ l ∈ physicalLines firstPart, (ReportLine.read l.toList).isOk = true := by decide
  have hsecond : ∀ l ∈ physicalLines secondPart, (ReportLine.read l.toList).isOk = true := by
    decide
  obtain ⟨fs, gs, hfs, hgs, -, hboth⟩ := ofOutput_concatenation ⟨.slash, ["w"]⟩
    ⟨⟨.slash, ["w"]⟩, .error, none, none⟩ hlast hfirst hsecond
  obtain rfl : fs = [⟨⟨.slash, ["w", "a.go"]⟩, 1, 1, "x", .error, none, none⟩] :=
    Except.ok.inj (hfs.symm.trans (by rfl))
  obtain rfl : gs = [⟨⟨.slash, ["w", "b.go"]⟩, 2, 1, "y", .error, none, none⟩] :=
    Except.ok.inj (hgs.symm.trans (by rfl))
  exact ⟨hlast, hfirst, hsecond, hboth [] _ rfl⟩

end SourceCheck
