import Mathlib.Logic.Relation
import SourceCheck.Proofs.Output.Continuations

/-! # Noise and line ends

    A line of noise can be put in or taken out anywhere, also between a finding and the tab lines
    that continue it, and nothing that is read changes (`NoiseEdit.ofLines_eq`).  After any number
    of such edits, and with any of the line feeds written as carriage return and line feed, an
    output gives the same findings (`ofOutput_noise`). -/

namespace SourceCheck

open SourceCheck.Text

/-! ## Edits -/

/-- A line of noise: neither a tab line nor a report.  It breaks no line around it. -/
structure IsNoise (l : String) : Prop where
  plain : IsPlainLine l.toList
  no_tab : isTabLine l = false
  no_report : ReportLine.read l.toList = .ok none

/-- One line of noise is put in, or taken out, at any position. -/
inductive NoiseEdit : List String → List String → Prop
  /-- It is put in. -/
  | insert (before after : List String) {l : String} (hl : IsNoise l) :
    NoiseEdit (before ++ after) (before ++ l :: after)
  /-- It is taken out. -/
  | delete (before after : List String) {l : String} (hl : IsNoise l) :
    NoiseEdit (before ++ l :: after) (before ++ after)

/-- Lines become others by any number of edits. -/
def NoiseEdits : List String → List String → Prop := Relation.ReflTransGen NoiseEdit

theorem IsNoise.ofText_eq {l : String} (h : IsNoise l) : OutputLine.ofText l = .noise := by
  unfold OutputLine.ofText
  rw [startsWith_tab, h.no_tab, h.no_report]
  rfl

/-- A line of noise anywhere holds nothing. -/
theorem IsNoise.ofLines_eq {l : String} (h : IsNoise l) (before after : List String) :
    Reports.ofLines ((before ++ l :: after).map OutputLine.ofText)
      = Reports.ofLines ((before ++ after).map OutputLine.ofText) := by
  unfold Reports.ofLines
  rw [List.map_append, List.map_append, List.foldr_append, List.foldr_append, List.map_cons,
    List.foldr_cons, h.ofText_eq]
  rfl

/-- **One edit** changes nothing that the lines hold. -/
theorem NoiseEdit.ofLines_eq {ls ms : List String} (h : NoiseEdit ls ms) :
    Reports.ofLines (ms.map OutputLine.ofText) = Reports.ofLines (ls.map OutputLine.ofText) := by
  cases h with
  | insert before after hl => exact hl.ofLines_eq before after
  | delete before after hl => exact (hl.ofLines_eq before after).symm

/-- One edit breaks no line. -/
theorem NoiseEdit.plain {ls ms : List String} (h : NoiseEdit ls ms)
    (hls : ∀ l ∈ ls, IsPlainLine l.toList) : ∀ m ∈ ms, IsPlainLine m.toList := by
  intro m hm
  cases h with
  | insert before after hl =>
    rcases List.mem_append.mp hm with hbefore | hafter
    · exact hls m (List.mem_append_left _ hbefore)
    · rcases List.mem_cons.mp hafter with rfl | hafter
      · exact hl.plain
      · exact hls m (List.mem_append_right _ hafter)
  | delete before after hl =>
    rcases List.mem_append.mp hm with hbefore | hafter
    · exact hls m (List.mem_append_left _ hbefore)
    · exact hls m (List.mem_append_right _ (List.mem_cons_of_mem _ hafter))

/-- **Many edits** change nothing that the lines hold, and break no line. -/
theorem NoiseEdits.ofLines_eq {ls ms : List String} (h : NoiseEdits ls ms)
    (hls : ∀ l ∈ ls, IsPlainLine l.toList) :
    Reports.ofLines (ms.map OutputLine.ofText) = Reports.ofLines (ls.map OutputLine.ofText)
      ∧ ∀ m ∈ ms, IsPlainLine m.toList := by
  induction h with
  | refl => exact ⟨rfl, hls⟩
  | tail _ hstep ih =>
    obtain ⟨hsame, hplain⟩ := ih
    exact ⟨hstep.ofLines_eq.trans hsame, hstep.plain hplain⟩

/-! ## Outputs -/

/-- The findings of an output that is given by its lines. -/
theorem ofOutput_joinLines_eq (working : Path) (origin : Origin) (ends : Nat → LineEnd)
    {ls : List String} (hls : ∀ l ∈ ls, IsPlainLine l.toList) :
    Finding.ofOutput working origin (joinLines ends ls)
      = (Reports.ofLines (ls.map OutputLine.ofText)).map fun rs =>
          rs.reports.map (Report.finding working origin) := by
  rw [ofOutput_eq]
  by_cases hnil : ls = []
  · -- no lines at all make an empty output, whose only line is empty
    rw [hnil]
    rfl
  · rw [physicalLines_joinLines ends hnil hls]

/-- **Noise and line ends do not matter.**  Take an output none of whose lines ends in a carriage
    return, put in and take out lines of noise anywhere, and end each line as you like: the
    findings stay as they are, and so does a refusal.  There are findings if the lines can be
    read. -/
theorem ofOutput_noise (working : Path) (origin : Origin) (ends : Nat → LineEnd) {output : String}
    {ms : List String} (hplain : ∀ l ∈ splitAt '\n' output, l.toList.getLast? ≠ some '\r')
    (hedits : NoiseEdits (splitAt '\n' output) ms) :
    Finding.ofOutput working origin (joinLines ends ms) = Finding.ofOutput working origin output
      ∧ ((∀ l ∈ splitAt '\n' output, (ReportLine.read l.toList).isOk = true) →
        ∃ fs, Finding.ofOutput working origin output = .ok fs
          ∧ Finding.ofOutput working origin (joinLines ends ms) = .ok fs) := by
  have hlines := isPlainLine_of_mem_splitAt hplain
  obtain ⟨hsame, hms⟩ := hedits.ofLines_eq hlines
  -- the output itself is made of its lines with line feeds
  have houtput := ofOutput_joinLines_eq working origin (fun _ => .feed) hlines
  rw [joinLines_feed, joinWith_splitAt] at houtput
  have hedited : Finding.ofOutput working origin (joinLines ends ms)
      = Finding.ofOutput working origin output := by
    rw [ofOutput_joinLines_eq working origin ends hms, hsame, houtput]
  refine ⟨hedited, fun hread => ?_⟩
  rw [← physicalLines_of_plain hplain] at hread
  obtain ⟨fs, hfs⟩ := exists_findings_of_isOk working origin hread
  exact ⟨fs, hfs, hedited.trans hfs⟩

/-- A finding with two tab lines and noise between them. -/
def noisyOutput : String := "a.go:1:1: x\n\tmore\nnoise\n\tyet more"

/-- Its lines, with the noise moved and a carriage return in it. -/
def editedLines : List String := ["a.go:1:1: x", "noi\rse", "\tmore", "\tyet more"]

theorem noiseEdits_editedLines : NoiseEdits (splitAt '\n' noisyOutput) editedLines := by
  have hsplit : splitAt '\n' noisyOutput = ["a.go:1:1: x", "\tmore", "noise", "\tyet more"] := by
    rfl
  have htaken : IsNoise "noise" := ⟨⟨by decide, by decide⟩, by decide, by rfl⟩
  have hput : IsNoise "noi\rse" := ⟨⟨by decide, by decide⟩, by decide, by rfl⟩
  rw [hsplit]
  refine .tail (.single (.delete ["a.go:1:1: x", "\tmore"] ["\tyet more"] htaken)) ?_
  exact .insert ["a.go:1:1: x"] ["\tmore", "\tyet more"] hput

theorem ofOutput_noise_editedLines :
    (∀ l ∈ splitAt '\n' noisyOutput, l.toList.getLast? ≠ some '\r')
      ∧ NoiseEdits (splitAt '\n' noisyOutput) editedLines
      ∧ Finding.ofOutput ⟨.slash, ["w"]⟩ ⟨⟨.slash, ["w"]⟩, .error, none, none⟩
          (joinLines (fun k => if k = 1 then .feed else .pair) editedLines)
        = .ok [⟨⟨.slash, ["w", "a.go"]⟩, 1, 1, "x\n\tmore\n\tyet more", .error, none, none⟩] := by
  have hplain : ∀ l ∈ splitAt '\n' noisyOutput, l.toList.getLast? ≠ some '\r' := by decide
  have hread : ∀ l ∈ splitAt '\n' noisyOutput, (ReportLine.read l.toList).isOk = true := by decide
  obtain ⟨-, hfindings⟩ := ofOutput_noise ⟨.slash, ["w"]⟩
    ⟨⟨.slash, ["w"]⟩, .error, none, none⟩ (fun k => if k = 1 then .feed else .pair) hplain
    noiseEdits_editedLines
  obtain ⟨fs, hfs, hedited⟩ := hfindings hread
  obtain rfl : fs = [⟨⟨.slash, ["w", "a.go"]⟩, 1, 1, "x\n\tmore\n\tyet more", .error, none,
      none⟩] := Except.ok.inj (hfs.symm.trans (by rfl))
  exact ⟨hplain, noiseEdits_editedLines, hedited⟩

end SourceCheck
