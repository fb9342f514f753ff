import Mathlib.Data.List.TakeWhile
import SourceCheck.Proofs.Output.Segments

/-! # Continuations and noise

    A message goes on with the tab lines up to the next finding line, whatever noise stands
    between them.  Here these are told apart: the run of tab lines directly after the finding
    line (`tabRun`), and the tab lines that only follow after noise (`tabLinesAfterNoise`).
    A message is that of the finding line, then the one, then the other, and it is no more
    than the finding line with its run just if no tab line follows after noise
    (`ofOutput_messages`). -/

namespace SourceCheck

open SourceCheck.Text

/-! ## Outputs that can be read -/

theorem Reports.eq_ok_of_add {line : OutputLine} {rest : Except NumberTooLong Reports}
    {rs : Reports} (h : Reports.add line rest = .ok rs) :
    (∀ e, line ≠ .tooLong e) ∧ ∃ rs', rest = .ok rs' := by
  cases rest with
  | error e => cases line <;> contradiction
  | ok rs' =>
    refine ⟨?_, rs', rfl⟩
    rintro e rfl
    contradiction

theorem isOk_of_ofText {l : String} (h : ∀ e, OutputLine.ofText l ≠ .tooLong e) :
    (ReportLine.read l.toList).isOk = true := by
  by_cases htab : isTabLine l = true
  · -- a tab line is never looked at as a report, but it would be read
    cases hl : l.toList with
    | nil => rfl
    | cons c s =>
      have hc : c = '\t' := by simpa [isTabLine, hl] using htab
      rw [hc, read_tab]
      rfl
  · cases hread : ReportLine.read l.toList with
    | ok r => rfl
    | error e =>
      refine absurd ?_ (h e)
      unfold OutputLine.ofText
      rw [startsWith_tab, if_neg htab, hread]

/-- The lines of an output that gives findings can all be read. -/
theorem isOk_of_ofLines {ls : List String} {rs : Reports}
    (h : Reports.ofLines (ls.map OutputLine.ofText) = .ok rs) :
    ∀ l ∈ ls, (ReportLine.read l.toList).isOk = true := by
  induction ls generalizing rs with
  | nil => exact fun _ hl => absurd hl List.not_mem_nil
  | cons l ls ih =>
    obtain ⟨hline, rs', hrest⟩ := Reports.eq_ok_of_add h
    intro m hm
    rcases List.mem_cons.mp hm with rfl | hm
    · exact isOk_of_ofText hline
    · exact ih hrest m hm

/-- An output gives findings if its lines can all be read. -/
theorem exists_findings_of_isOk (working : Path) (origin : Origin) {output : String}
    (hread : ∀ l ∈ physicalLines output, (ReportLine.read l.toList).isOk = true) :
    ∃ fs, Finding.ofOutput working origin output = .ok fs := by
  obtain ⟨rs, hrs, -⟩ := ofLines_segmented (physicalLines output) hread
  refine ⟨rs.reports.map (Report.finding working origin), ?_⟩
  rw [ofOutput_eq, hrs]
  rfl

/-- The findings of an output are told by the positions of its finding lines. -/
theorem map_some_of_ofOutput {working : Path} {origin : Origin} {output : String}
    {fs : List Finding} (h : Finding.ofOutput working origin output = .ok fs) :
    fs.map some = (findingPositions (physicalLines output)).map
      (findingAt working origin (physicalLines output)) := by
  rw [ofOutput_eq] at h
  cases hrs : Reports.ofLines ((physicalLines output).map OutputLine.ofText) with
  | error e => rw [hrs] at h; contradiction
  | ok rs =>
    rw [hrs] at h
    obtain rfl := Except.ok.inj h
    obtain ⟨rs', hrs', hseg⟩ := ofLines_segmented _ (isOk_of_ofLines hrs)
    obtain rfl := Except.ok.inj (hrs.symm.trans hrs')
    have hfun : findingAt working origin (physicalLines output)
        = Option.map (Report.finding working origin) ∘ reportAt (physicalLines output) :=
      funext (findingAt_eq working origin (physicalLines output))
    rw [hfun, ← List.map_map, ← hseg.reports, List.map_map, List.map_map]
    rfl

/-! ## The lines up to the next finding -/

/-- The lines between a position and the next finding line. -/
def linesUpToFinding (ls : List String) (i : Nat) : List String :=
  (ls.drop (i + 1)).takeWhile fun l => !isFindingLine l

/-- The unbroken run of tab lines directly after a position. -/
def tabRun (ls : List String) (i : Nat) : List String := (ls.drop (i + 1)).takeWhile isTabLine

/-- What stands between that run and the next finding line; if it is not empty, it starts with
    noise. -/
def linesFromNoise (ls : List String) (i : Nat) : List String :=
  (linesUpToFinding ls i).dropWhile isTabLine

/-- The tab lines up to the next finding line that follow only after noise. -/
def tabLinesAfterNoise (ls : List String) (i : Nat) : List String :=
  (linesFromNoise ls i).filter isTabLine

theorem firstFinding_eq_findIdx (ls : List String) :
    firstFinding ls = ls.findIdx isFindingLine := by
  induction ls with
  | nil => rfl
  | cons l ls ih =>
    rw [firstFinding_cons, List.findIdx_cons, ih]
    cases isFindingLine l <;> rfl

theorem nextFinding_eq {ls : List String} {i : Nat} (h : i < ls.length) :
    nextFinding ls i = i + 1 + (ls.drop (i + 1)).findIdx isFindingLine := by
  induction ls generalizing i with
  | nil => contradiction
  | cons l ls ih =>
    cases i with
    | zero =>
      rw [nextFinding_cons_zero, firstFinding_eq_findIdx, List.drop_succ_cons, List.drop_zero]
      omega
    | succ i =>
      rw [nextFinding_cons_succ, ih (Nat.lt_of_succ_lt_succ h), List.drop_succ_cons]
      omega

/-- A position bounds what stands up to the next finding line. -/
theorem drop_take_nextFinding {ls : List String} {i : Nat} (h : i < ls.length) :
    (ls.take (nextFinding ls i)).drop (i + 1) = linesUpToFinding ls i := by
  unfold linesUpToFinding
  rw [nextFinding_eq h, List.drop_take, List.takeWhile_eq_take_findIdx_not]
  simp

/-- A run of tab lines ends before the next finding line. -/
theorem tabRun_eq (ls : List String) (i : Nat) :
    tabRun ls i = (linesUpToFinding ls i).takeWhile isTabLine := by
  unfold tabRun linesUpToFinding
  rw [List.takeWhile_takeWhile]
  congr 1
  funext l
  cases htab : isTabLine l with
  | false => simp
  | true =>
    have hnone : isFindingLine l = false := by simp [isFindingLine, reportOf?_of_tab htab]
    simp [hnone]

theorem tabRun_append_linesFromNoise (ls : List String) (i : Nat) :
    tabRun ls i ++ linesFromNoise ls i = linesUpToFinding ls i := by
  rw [tabRun_eq]
  exact List.takeWhile_append_dropWhile

/-- **What ends a run of tab lines before the next finding line is noise.** -/
theorem noise_of_head? {ls : List String} {i : Nat} {l : String}
    (h : (linesFromNoise ls i).head? = some l) : isTabLine l = false ∧ isFindingLine l = false := by
  have hmem : l ∈ linesUpToFinding ls i :=
    (List.dropWhile_sublist _).subset (List.mem_of_head? h)
  refine ⟨?_, ?_⟩
  · have htab := List.head?_dropWhile_not isTabLine (linesUpToFinding ls i)
    unfold linesFromNoise at h
    rw [h] at htab
    simpa using htab
  · have hnone := List.all_eq_true.mp List.all_takeWhile l hmem
    simpa using hnone

/-- **The tab lines of a message**: the run after its finding line, then those after noise. -/
theorem tabLinesBetween_nextFinding {ls : List String} {i : Nat} (h : i < ls.length) :
    tabLinesBetween ls i (nextFinding ls i) = tabRun ls i ++ tabLinesAfterNoise ls i := by
  have hrun : (tabRun ls i).filter isTabLine = tabRun ls i :=
    List.filter_eq_self.mpr fun l hl => List.all_eq_true.mp List.all_takeWhile l hl
  unfold tabLinesBetween
  rw [drop_take_nextFinding h, ← tabRun_append_linesFromNoise, List.filter_append, hrun]
  rfl

/-! ## Messages -/

/-- More pieces make another text. -/
theorem joinWith_append_eq_iff {first : String} {before after : List String} :
    joinWith "\n" (first :: (before ++ after)) = joinWith "\n" (first :: before) ↔ after = [] := by
  constructor
  · intro h
    have hchars := congrArg String.toList h
    rw [toList_joinWith_cons, toList_joinWith_cons, List.flatMap_append,
      ← List.append_assoc] at hchars
    cases after with
    | nil => rfl
    | cons piece rest => simp at hchars
  · rintro rfl
    rw [List.append_nil]

/-- **What a message holds.**  Each finding of an output has a finding line, in order.  Its
    message is that of this line, with the run of tab lines directly after it and then with the
    tab lines that follow after noise, up to the next finding line.  So it is no more than the
    finding line with its run just if no tab line follows after noise. -/
theorem ofOutput_messages {working : Path} {origin : Origin} {output : String}
    {fs : List Finding} (hok : Finding.ofOutput working origin output = .ok fs) {k : Nat}
    {f : Finding} (hf : fs[k]? = some f) :
    ∃ i r, (findingPositions (physicalLines output))[k]? = some i
      ∧ (physicalLines output)[i]?.bind reportOf? = some r
      ∧ f.message = joinWith "\n" (r.message :: (tabRun (physicalLines output) i
          ++ tabLinesAfterNoise (physicalLines output) i))
      ∧ (f.message = joinWith "\n" (r.message :: tabRun (physicalLines output) i)
          ↔ tabLinesAfterNoise (physicalLines output) i = [])
      ∧ ∀ l, (linesFromNoise (physicalLines output) i).head? = some l →
          isTabLine l = false ∧ isFindingLine l = false := by
  have hk : ((findingPositions (physicalLines output)).map
      -- the k-th finding was made of the k-th position, and no position was passed over
      (findingAt working origin (physicalLines output)))[k]? = some (some f) := by
    rw [← map_some_of_ofOutput hok, List.getElem?_map, hf]
    rfl
  rw [List.getElem?_map] at hk
  obtain ⟨i, hi, hfinding⟩ := Option.map_eq_some_iff.mp hk
  obtain ⟨r, hr, rfl⟩ := Option.map_eq_some_iff.mp hfinding
  -- only lines of the output are counted as positions
  have hlt : i < (physicalLines output).length := by
    have hmem := List.mem_of_getElem? hi
    exact List.mem_range.mp (List.mem_filter.mp hmem).1
  have htabs := tabLinesBetween_nextFinding hlt
  refine ⟨i, r, hi, hr, ?_, ?_, fun l hl => noise_of_head? hl⟩
  · dsimp only
    rw [htabs]
  · dsimp only
    rw [htabs]
    exact joinWith_append_eq_iff

/-! ### A tab line beyond noise -/

/-- A finding with a tab line, noise, and another tab line. -/
def separatedOutput : String := "a.go:1:1: x\n\tnear\nnoise\n\tfar"

/-- The finding in it. -/
def separatedFinding : Finding :=
  ⟨⟨.slash, ["w", "a.go"]⟩, 1, 1, "x\n\tnear\n\tfar", .error, none, none⟩

theorem ofOutput_separatedOutput :
    Finding.ofOutput ⟨.slash, ["w"]⟩ ⟨⟨.slash, ["w"]⟩, .error, none, none⟩ separatedOutput
      = .ok [separatedFinding] := by
  rfl

theorem ofOutput_messages_separatedOutput :
    Finding.ofOutput ⟨.slash, ["w"]⟩ ⟨⟨.slash, ["w"]⟩, .error, none, none⟩ separatedOutput
        = .ok [separatedFinding]
      ∧ [separatedFinding][0]? = some separatedFinding
      ∧ ∃ i r, (findingPositions (physicalLines separatedOutput))[0]? = some i
        ∧ (physicalLines separatedOutput)[i]?.bind reportOf? = some r
        ∧ separatedFinding.message
          = joinWith "\n" (r.message :: (tabRun (physicalLines separatedOutput) i
              ++ tabLinesAfterNoise (physicalLines separatedOutput) i))
        ∧ (separatedFinding.message
            = joinWith "\n" (r.message :: tabRun (physicalLines separatedOutput) i)
          ↔ tabLinesAfterNoise (physicalLines separatedOutput) i = [])
        ∧ ∀ l, (linesFromNoise (physicalLines separatedOutput) i).head? = some l →
          isTabLine l = false ∧ isFindingLine l = false :=
  ⟨ofOutput_separatedOutput, rfl, ofOutput_messages ofOutput_separatedOutput rfl⟩

/-- **Noise does not end a message**: here a tab line after noise is in the message of the
    finding before it, though it is not in the run directly after that finding line. -/
theorem message_beyond_tabRun :
    Finding.ofOutput ⟨.slash, ["w"]⟩ ⟨⟨.slash, ["w"]⟩, .error, none, none⟩ separatedOutput
        = .ok [separatedFinding]
      ∧ findingPositions (physicalLines separatedOutput) = [0]
      ∧ (physicalLines separatedOutput)[0]?.bind reportOf? = some ⟨"a.go", 1, 1, none, "x"⟩
      ∧ tabRun (physicalLines separatedOutput) 0 = ["\tnear"]
      ∧ separatedFinding.message
        ≠ joinWith "\n" ("x" :: tabRun (physicalLines separatedOutput) 0) :=
  ⟨ofOutput_separatedOutput, rfl, rfl, rfl, by decide⟩

end SourceCheck
