import SourceCheck.Finding.Output
import SourceCheck.Proofs.Output.Lines

/-! # How the lines of an output are shared out

    A line of an output is a finding line, a tab line or noise.  A tab line is never a
    finding line, so it does not matter that it is looked for first.  The findings of an output
    are told by the kinds of its lines, in order (`ofOutput_eq`).

    The findings of an output are read by a fold from the last line to the first.
    Here they are described by positions: the finding lines are those that are
    accepted as reports, each gives one finding, and the tab lines between it and the
    next finding line are the rest of its message (`ofOutput_segments`).  No finding
    is lost, made up or moved, every tab line after the first finding line is in
    exactly one message, and those before it are in none. -/

namespace SourceCheck

open SourceCheck.Text

/-! ## Kinds of lines -/

/-- What a line reports, if it is a finding line. -/
def reportOf? (l : String) : Option ReportLine :=
  match ReportLine.read l.toList with
  | .ok r => r
  | .error _ => none

/-- A line is accepted as the report of a finding. -/
def isFindingLine (l : String) : Bool := (reportOf? l).isSome

/-- A line starts with a tab. -/
def isTabLine (l : String) : Bool := l.toList.head? == some '\t'

theorem startsWith_tab (l : String) : startsWith l "\t" = isTabLine l := by
  have htab : "\t".toList = ['\t'] := rfl
  unfold startsWith isTabLine
  rw [htab]
  cases l.toList with
  | nil => rfl
  | cons c s =>
    rw [List.isPrefixOf_cons_cons, List.isPrefixOf_nil_left, Bool.and_true, Bool.beq_comm]
    rfl

/-- A line that starts with a tab reports nothing. -/
theorem read_tab (s : List Char) : ReportLine.read ('\t' :: s) = .ok none := by
  have htab : ReportLine.isPathChar '\t' = false := by decide
  -- the line feed that may be dropped at the end is not the tab
  obtain ⟨u, hu⟩ : ∃ u, ReportLine.dropFinalFeed ('\t' :: s) = '\t' :: u := by
    unfold ReportLine.dropFinalFeed
    split
    · cases s with
      | nil => next hlast => simp at hlast
      | cons c s => exact ⟨(c :: s).dropLast, rfl⟩
    · exact ⟨s, rfl⟩
  -- a tab is no character of a path, and no path is empty
  unfold ReportLine.read
  simp [hu, ReportLine.partsOf, htab]

theorem reportOf?_of_tab {l : String} (h : isTabLine l = true) : reportOf? l = none := by
  unfold isTabLine at h
  unfold reportOf?
  cases hl : l.toList with
  | nil => rfl
  | cons c s =>
    rw [hl] at h
    have hc : c = '\t' := by simpa using h
    rw [hc, read_tab]

theorem isTabLine_of_finding {l : String} (h : isFindingLine l = true) : isTabLine l = false := by
  cases htab : isTabLine l
  · rfl
  · simp [isFindingLine, reportOf?_of_tab htab] at h

theorem ofText_of_tab {l : String} (h : isTabLine l = true) :
    OutputLine.ofText l = .continuation l := by
  unfold OutputLine.ofText
  rw [startsWith_tab, if_pos h]

/-- A line that is no tab line and can be read is a report or noise. -/
theorem ofText_of_not_tab {l : String} (h : isTabLine l = false)
    (hread : (ReportLine.read l.toList).isOk = true) :
    OutputLine.ofText l = match reportOf? l with
      | some r => .report r
      | none => .noise := by
  unfold OutputLine.ofText reportOf?
  rw [startsWith_tab, h]
  cases hr : ReportLine.read l.toList with
  | error e => simp [hr, Except.isOk, Except.toBool] at hread
  | ok r => cases r <;> rfl

/-- A line with a report is a finding line. -/
theorem ofText_of_read {l : String} {r : ReportLine}
    (h : ReportLine.read l.toList = .ok (some r)) : OutputLine.ofText l = .report r := by
  have hreport : reportOf? l = some r := by
    unfold reportOf?
    rw [h]
  have hfinding : isFindingLine l = true := by
    unfold isFindingLine
    rw [hreport]
    rfl
  have hok : (ReportLine.read l.toList).isOk = true := by
    rw [h]
    rfl
  rw [ofText_of_not_tab (isTabLine_of_finding hfinding) hok, hreport]

/-- The findings of an output are those that its lines hold. -/
theorem ofOutput_eq (working : Path) (origin : Origin) (output : String) :
    Finding.ofOutput working origin output
      = (Reports.ofLines ((physicalLines output).map OutputLine.ofText)).map fun rs =>
          rs.reports.map (Report.finding working origin) := by
  unfold Finding.ofOutput
  rw [outputLines_eq_physicalLines]

/-! ## Positions -/

/-- The positions of the finding lines, in order. -/
def findingPositions (ls : List String) : List Nat :=
  (List.range ls.length).filter fun i => ls[i]?.any isFindingLine

/-- The position of the first finding line after position `i`; the number of lines, if
    there is none. -/
def nextFinding (ls : List String) (i : Nat) : Nat :=
  ((findingPositions ls).find? fun j => i < j).getD ls.length

/-- The tab lines strictly between two positions. -/
def tabLinesBetween (ls : List String) (i j : Nat) : List String :=
  ((ls.take j).drop (i + 1)).filter isTabLine

/-- The position of the first finding line of all; the number of lines, if there is
    none. -/
def firstFinding (ls : List String) : Nat := (findingPositions ls).head?.getD ls.length

/-- The tab lines before the first finding line. -/
def tabLinesAhead (ls : List String) : List String :=
  (ls.take (firstFinding ls)).filter isTabLine

/-! ### One line in front -/

theorem findingPositions_cons (l : String) (ls : List String) :
    findingPositions (l :: ls)
      = (if isFindingLine l then [0] else []) ++ (findingPositions ls).map (· + 1) := by
  unfold findingPositions
  rw [List.length_cons, List.range_succ_eq_map, List.filter_cons, List.filter_map]
  have hshift : ((fun i => (l :: ls)[i]?.any isFindingLine) ∘ Nat.succ)
      = fun i => ls[i]?.any isFindingLine := by
    funext i
    simp
  rw [hshift]
  cases h : isFindingLine l <;> simp [h]

theorem nextFinding_cons_succ (l : String) (ls : List String) (i : Nat) :
    nextFinding (l :: ls) (i + 1) = nextFinding ls i + 1 := by
  unfold nextFinding
  have hnone : (if isFindingLine l then [0] else []).find? (fun j => decide (i + 1 < j))
      = none := by
    split <;> simp
  have hshift : ((fun j => decide (i + 1 < j)) ∘ (· + 1)) = fun j => decide (i < j) := by
    funext j
    simp
  rw [findingPositions_cons, List.find?_append, hnone, Option.none_or, List.find?_map, hshift]
  cases (findingPositions ls).find? fun j => decide (i < j) <;> simp

theorem nextFinding_cons_zero (l : String) (ls : List String) :
    nextFinding (l :: ls) 0 = firstFinding ls + 1 := by
  unfold nextFinding firstFinding
  have hnone : (if isFindingLine l then [0] else []).find? (fun j => decide (0 < j)) = none := by
    split <;> simp
  rw [findingPositions_cons, List.find?_append, hnone, Option.none_or, List.find?_map]
  cases findingPositions ls <;> simp

theorem firstFinding_cons (l : String) (ls : List String) :
    firstFinding (l :: ls) = if isFindingLine l then 0 else firstFinding ls + 1 := by
  unfold firstFinding
  rw [findingPositions_cons]
  cases isFindingLine l
  · cases findingPositions ls <;> simp
  · simp

theorem tabLinesBetween_cons_succ (l : String) (ls : List String) (i j : Nat) :
    tabLinesBetween (l :: ls) (i + 1) (j + 1) = tabLinesBetween ls i j := by
  simp [tabLinesBetween]

theorem tabLinesBetween_cons_zero (l : String) (ls : List String) :
    tabLinesBetween (l :: ls) 0 (nextFinding (l :: ls) 0) = tabLinesAhead ls := by
  rw [nextFinding_cons_zero]
  simp [tabLinesBetween, tabLinesAhead]

theorem tabLinesAhead_cons (l : String) (ls : List String) :
    tabLinesAhead (l :: ls)
      = if isFindingLine l then [] else (if isTabLine l then [l] else []) ++ tabLinesAhead ls := by
  unfold tabLinesAhead
  rw [firstFinding_cons]
  cases isFindingLine l
  · cases h : isTabLine l <;> simp [h]
  · simp

/-! ## Reports by position -/

/-- The report of the line at a position, with the tab lines that follow it up to the
    next finding line. -/
def reportAt (ls : List String) (i : Nat) : Option Report :=
  (ls[i]?.bind reportOf?).map fun r => ⟨r, tabLinesBetween ls i (nextFinding ls i)⟩

theorem reportAt_cons_succ (l : String) (ls : List String) (i : Nat) :
    reportAt (l :: ls) (i + 1) = reportAt ls i := by
  unfold reportAt
  rw [List.getElem?_cons_succ, nextFinding_cons_succ, tabLinesBetween_cons_succ]

theorem reportAt_cons_zero {l : String} {r : ReportLine} (ls : List String)
    (h : reportOf? l = some r) : reportAt (l :: ls) 0 = some ⟨r, tabLinesAhead ls⟩ := by
  unfold reportAt
  rw [List.getElem?_cons_zero, Option.bind_some, h, tabLinesBetween_cons_zero]
  rfl

theorem map_reportAt_cons (l : String) (ls : List String) :
    ((findingPositions ls).map (· + 1)).map (reportAt (l :: ls))
      = (findingPositions ls).map (reportAt ls) := by
  rw [List.map_map]
  exact List.map_congr_left fun i _ => reportAt_cons_succ l ls i

/-- A line that reports nothing changes nothing in the reports after it. -/
theorem map_reportAt_cons_of_none {l : String} (ls : List String) (h : reportOf? l = none) :
    (findingPositions (l :: ls)).map (reportAt (l :: ls))
      = (findingPositions ls).map (reportAt ls) := by
  rw [findingPositions_cons]
  simp only [isFindingLine, h, Option.isSome_none, Bool.false_eq_true, if_false, List.nil_append]
  exact map_reportAt_cons l ls

/-- What a stretch of lines holds, told by positions. -/
structure Segmented (ls : List String) (rs : Reports) : Prop where
  leading : rs.leading = tabLinesAhead ls
  reports : rs.reports.map some = (findingPositions ls).map (reportAt ls)

/-- **One line in front.**  A readable line keeps a stretch of lines told by
    positions. -/
theorem segmented_add {l : String} {ls : List String} {rs : Reports} (h : Segmented ls rs)
    (hread : (ReportLine.read l.toList).isOk = true) :
    ∃ rs', Reports.add (OutputLine.ofText l) (.ok rs) = .ok rs' ∧ Segmented (l :: ls) rs' := by
  by_cases htab : isTabLine l = true
  · -- a continuation goes to whatever finding stands before the stretch
    have hnone := reportOf?_of_tab htab
    refine ⟨{ rs with leading := l :: rs.leading }, by rw [ofText_of_tab htab]; rfl, ?_, ?_⟩
    · rw [tabLinesAhead_cons]
      simp [isFindingLine, hnone, htab, h.leading]
    · rw [map_reportAt_cons_of_none ls hnone]
      exact h.reports
  · have hnot : isTabLine l = false := by simpa using htab
    rw [ofText_of_not_tab hnot hread]
    cases hr : reportOf? l with
    | none =>
      -- noise is dropped
      refine ⟨rs, rfl, ?_, ?_⟩
      · rw [tabLinesAhead_cons]
        simp [isFindingLine, hr, hnot, h.leading]
      · rw [map_reportAt_cons_of_none ls hr]
        exact h.reports
    | some r =>
      -- a finding takes the tab lines that were waiting for one
      refine ⟨⟨[], ⟨r, rs.leading⟩ :: rs.reports⟩, rfl, ?_, ?_⟩
      · rw [tabLinesAhead_cons]
        simp [isFindingLine, hr]
      · rw [findingPositions_cons]
        simp only [isFindingLine, hr, Option.isSome_some, if_true, List.singleton_append,
          List.map_cons]
        rw [reportAt_cons_zero ls hr, map_reportAt_cons, h.reports, h.leading]

/-- **Readable lines are shared out by position.** -/
theorem ofLines_segmented (ls : List String)
    (hread : ∀ l ∈ ls, (ReportLine.read l.toList).isOk = true) :
    ∃ rs, Reports.ofLines (ls.map OutputLine.ofText) = .ok rs ∧ Segmented ls rs := by
  induction ls with
  | nil => exact ⟨⟨[], []⟩, rfl, rfl, rfl⟩
  | cons l ls ih =>
    obtain ⟨rs, hrs, hseg⟩ := ih fun m hm => hread m (List.mem_cons_of_mem l hm)
    obtain ⟨rs', hadd, hseg'⟩ := segmented_add hseg (hread l List.mem_cons_self)
    refine ⟨rs', ?_, hseg'⟩
    unfold Reports.ofLines at hrs ⊢
    rw [List.map_cons, List.foldr_cons, hrs, hadd]

/-! ## No tab line is lost -/

/-- The tab lines before the first finding line and those after it are all there are. -/
theorem tabLinesAhead_append (ls : List String) :
    tabLinesAhead ls ++ (ls.dropWhile fun l => !isFindingLine l).filter isTabLine
      = ls.filter isTabLine := by
  induction ls with
  | nil => rfl
  | cons l ls ih =>
    rw [tabLinesAhead_cons, List.dropWhile_cons]
    cases hl : isFindingLine l
    · rw [List.filter_cons, ← ih]
      cases isTabLine l <;> simp
    · simp

/-- **Each tab line after the first finding line belongs to exactly one finding.** -/
theorem flatMap_tabLinesBetween (ls : List String) :
    (findingPositions ls).flatMap (fun i => tabLinesBetween ls i (nextFinding ls i))
      = (ls.dropWhile fun l => !isFindingLine l).filter isTabLine := by
  induction ls with
  | nil => rfl
  | cons l ls ih =>
    -- positions behind the first line are those of the rest, one further
    have hshift : ((findingPositions ls).map (· + 1)).flatMap
        (fun i => tabLinesBetween (l :: ls) i (nextFinding (l :: ls) i))
          = (ls.dropWhile fun l => !isFindingLine l).filter isTabLine := by
      rw [← ih, List.flatMap_map]
      simp only [nextFinding_cons_succ, tabLinesBetween_cons_succ]
    rw [findingPositions_cons, List.flatMap_append, hshift, List.dropWhile_cons]
    -- lines in front of the first report belong to none
    cases hl : isFindingLine l
    · simp
    · simp only [if_true, List.flatMap_cons, List.flatMap_nil, List.append_nil,
        tabLinesBetween_cons_zero, tabLinesAhead_append, Bool.not_true, Bool.false_eq_true,
        if_false]
      rw [List.filter_cons, isTabLine_of_finding hl]
      simp

/-! ## Findings by position -/

/-- The finding of the line at a position. -/
def findingAt (working : Path) (origin : Origin) (ls : List String) (i : Nat) : Option Finding :=
  (ls[i]?.bind reportOf?).map fun r =>
    { file := fileIn working origin.directory r.path
      line := r.line
      column := r.column
      message := joinWith "\n" (r.message :: tabLinesBetween ls i (nextFinding ls i))
      severity := r.severity.getD origin.severity
      tool := origin.tool
      check := origin.check }

theorem findingAt_eq (working : Path) (origin : Origin) (ls : List String) (i : Nat) :
    findingAt working origin ls i = (reportAt ls i).map (Report.finding working origin) := by
  unfold findingAt reportAt
  rw [Option.map_map]
  rfl

/-- **The findings of an output, by position.**  If no line has a number that is too
    long, an output gives one finding for each finding line, in order, with the tab
    lines up to the next finding line; these are all tab lines after the first finding
    line, each once. -/
theorem ofOutput_segments (working : Path) (origin : Origin) (output : String)
    (hread : ∀ l ∈ physicalLines output, (ReportLine.read l.toList).isOk = true) :
    ∃ fs, Finding.ofOutput working origin output = .ok fs ∧
      fs.map some = (findingPositions (physicalLines output)).map
        (findingAt working origin (physicalLines output)) ∧
      (findingPositions (physicalLines output)).flatMap (fun i =>
          tabLinesBetween (physicalLines output) i (nextFinding (physicalLines output) i))
        = ((physicalLines output).dropWhile fun l => !isFindingLine l).filter isTabLine := by
  obtain ⟨rs, hrs, hseg⟩ := ofLines_segmented (physicalLines output) hread
  refine ⟨rs.reports.map (Report.finding working origin), ?_, ?_,
    flatMap_tabLinesBetween (physicalLines output)⟩
  · unfold Finding.ofOutput
    rw [outputLines_eq_physicalLines, hrs]
    rfl
  · have hfun : findingAt working origin (physicalLines output)
        = Option.map (Report.finding working origin) ∘ reportAt (physicalLines output) :=
      funext (findingAt_eq working origin (physicalLines output))
    rw [hfun, ← List.map_map, ← hseg.reports, List.map_map, List.map_map]
    rfl

/-- An output with a tab line ahead, noise between a finding and its tab lines, an empty
    line, both line ends and a tab line at the end. -/
def mixedOutput : String :=
  "\tlost\r\na.go:1:2: x\nnoise\n\tmore\r\n\nb.go:0::warning: y\r\n\t"

theorem ofOutput_segments_mixedOutput :
    (∀ l ∈ physicalLines mixedOutput, (ReportLine.read l.toList).isOk = true) ∧
      findingPositions (physicalLines mixedOutput) = [1, 5] ∧
      ∃ fs, Finding.ofOutput ⟨.slash, ["w"]⟩ ⟨⟨.slash, ["w"]⟩, .error, none, none⟩ mixedOutput
          = .ok fs ∧
        fs.map some = (findingPositions (physicalLines mixedOutput)).map
          (findingAt ⟨.slash, ["w"]⟩ ⟨⟨.slash, ["w"]⟩, .error, none, none⟩
            (physicalLines mixedOutput)) := by
  have hread : ∀ l ∈ physicalLines mixedOutput, (ReportLine.read l.toList).isOk = true := by
    decide
  obtain ⟨fs, hfs, hpositions, _⟩ := ofOutput_segments ⟨.slash, ["w"]⟩
    ⟨⟨.slash, ["w"]⟩, .error, none, none⟩ mixedOutput hread
  exact ⟨hread, by decide, fs, hfs, hpositions⟩

end SourceCheck
