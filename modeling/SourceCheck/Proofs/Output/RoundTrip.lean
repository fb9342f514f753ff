import SourceCheck.Proofs.Output.Grammar
import SourceCheck.Proofs.Output.Segments
import SourceCheck.Proofs.Output.Lines

/-! # Reports that are written and read back

    A report is written as the line `path:line:column:word: message` and one line for
    each further text, with a tab in front.  Any list of reports, with any mix of the
    two line ends between the lines, is read back as exactly these reports
    (`ofOutput_joinLines`). -/

namespace SourceCheck

open SourceCheck.Text SourceCheck.Number

/-! ## Lines that are read as reports -/

/-- **Lines are read as a report**: the first of them reports, and the others are tab lines. -/
inductive ReadAs : List String → Report → Prop
  /-- The tab lines go on with the message of the first line. -/
  | lines {l : String} {head : ReportLine} {more : List String}
    (hhead : OutputLine.ofText l = .report head) (hmore : ∀ m ∈ more, isTabLine m = true) :
    ReadAs (l :: more) ⟨head, more⟩

/-- Tab lines in front of a stretch are put in front of its continuations. -/
theorem foldr_of_tabs {more : List String} (h : ∀ m ∈ more, isTabLine m = true) (rs : Reports) :
    (more.map OutputLine.ofText).foldr Reports.add (.ok rs)
      = .ok { rs with leading := more ++ rs.leading } := by
  induction more with
  | nil => rfl
  | cons m more ih =>
    obtain ⟨hm, hmore⟩ := List.forall_mem_cons.mp h
    rw [List.map_cons, List.foldr_cons, ih hmore, ofText_of_tab hm]
    rfl

/-- **One report in front.** -/
theorem ReadAs.foldr {ls : List String} {r : Report} (h : ReadAs ls r) (rs : List Report) :
    (ls.map OutputLine.ofText).foldr Reports.add (.ok ⟨[], rs⟩) = .ok ⟨[], r :: rs⟩ := by
  cases h with
  | lines hhead hmore =>
    rw [List.map_cons, List.foldr_cons, foldr_of_tabs hmore, hhead]
    simp only [Reports.add, Except.map, List.append_nil]

/-- Lines that are read as reports one after the other hold just these reports. -/
theorem ofLines_of_readAs {α : Type} {lines : α → List String} {report : α → Report}
    {xs : List α} (h : ∀ x ∈ xs, ReadAs (lines x) (report x)) :
    Reports.ofLines ((xs.flatMap lines).map OutputLine.ofText) = .ok ⟨[], xs.map report⟩ := by
  unfold Reports.ofLines
  induction xs with
  | nil => rfl
  | cons x xs ih =>
    obtain ⟨hx, hxs⟩ := List.forall_mem_cons.mp h
    rw [List.flatMap_cons, List.map_append, List.foldr_append, ih hxs, hx.foldr, List.map_cons]

/-! ## Reports as they are written -/

/-- A report that can be written: its path is not empty and holds characters of paths
    only, its numbers are not too long, its word may be missing, and its texts do not
    break a line. -/
structure WrittenReport where
  /-- The path. -/
  path : String
  /-- The line number. -/
  line : Nat
  /-- The column number; zero if none is known. -/
  column : Nat
  /-- The word for the severity; empty if there is none. -/
  word : String
  /-- The message. -/
  message : String
  /-- The texts that continue the message. -/
  more : List String
  path_ne_nil : path.toList ≠ []
  path_chars : ∀ c ∈ path.toList, ReportLine.isPathChar c = true
  line_pos : 1 ≤ line
  line_short : (natDigits line).length ≤ digitLimit
  column_short : (natDigits column).length ≤ digitLimit
  word_chars : ∀ c ∈ word.toList, isWordChar c = true
  message_plain : IsPlainLine message.toList
  more_plain : ∀ s ∈ more, IsPlainLine s.toList

namespace WrittenReport

/-- The line that reports. -/
def head (r : WrittenReport) : String :=
  r.path ++ ":" ++ natText r.line ++ ":" ++ natText r.column ++ ":" ++ r.word ++ ": " ++ r.message

/-- The lines that continue the message. -/
def tabLines (r : WrittenReport) : List String := r.more.map ("\t" ++ ·)

/-- All lines of a report. -/
def lines (r : WrittenReport) : List String := r.head :: r.tabLines

/-- The finding that a report means. -/
def finding (working : Path) (origin : Origin) (r : WrittenReport) : Finding where
  file := fileIn working origin.directory r.path
  line := r.line
  column := if r.column = 0 then 1 else r.column
  message := joinWith "\n" (r.message :: r.tabLines)
  severity := if r.word = "" then origin.severity else Severity.ofWord r.word
  tool := origin.tool
  check := origin.check

/-! ## The reporting line -/

theorem head_toList (r : WrittenReport) :
    r.head.toList = ReportLine.textOf r.path.toList (natDigits r.line) (natDigits r.column)
      [':'] r.word.toList [':'] r.message.toList := by
  have hcolon : ":".toList = [':'] := rfl
  have hblank : ": ".toList = [':', ' '] := rfl
  unfold head ReportLine.textOf natText
  simp only [String.toList_append, String.toList_ofList, hcolon, hblank, List.append_assoc,
    List.cons_append, List.nil_append]

/-- What the reporting line reports. -/
def reported (r : WrittenReport) : ReportLine :=
  ⟨r.path, r.line, max r.column 1, ReportLine.severityOf r.word.toList, r.message⟩

theorem read_head (r : WrittenReport) :
    ReportLine.read r.head.toList = .ok (some r.reported) := by
  -- the word may be empty, but the column is always followed by a colon
  have hstop : ∀ c, ([':'] ++ r.word.toList).head? = some c → isDecimalDigit c = false := by
    intro c hc
    have hc : c = ':' := by simpa using hc.symm
    rw [hc]
    exact ReportLine.isDecimalDigit_colon
  rw [head_toList, ReportLine.read_numbered r.path_ne_nil r.path_chars r.line_short r.column_short
    ReportLine.isColon_of_mem_colon r.word_chars ReportLine.isColon_of_mem_colon hstop
    r.message_plain.no_feed, Nat.max_eq_left r.line_pos]
  simp only [String.ofList_toList]
  rfl

theorem ofText_head (r : WrittenReport) : OutputLine.ofText r.head = .report r.reported :=
  ofText_of_read r.read_head

theorem head_plain (r : WrittenReport) : IsPlainLine r.head.toList := by
  rw [head_toList]
  refine ⟨ReportLine.feed_not_mem_textOf r.line r.column r.path_chars ReportLine.isColon_of_mem_colon
    r.word_chars ReportLine.isColon_of_mem_colon r.message_plain.no_feed, ?_⟩
  unfold ReportLine.textOf
  -- the last character is that of the message, or the blank before it
  cases hmessage : r.message.toList with
  | nil => simp [List.getLast?_append, List.getLast?_cons]
  | cons c s =>
    have hlast := r.message_plain.no_return
    rw [hmessage] at hlast
    simp only [List.getLast?_append, List.getLast?_cons, Option.getD_or] at hlast ⊢
    simpa using hlast

/-! ## The lines that continue it -/

theorem tab_toList (s : String) : ("\t" ++ s).toList = '\t' :: s.toList := by
  rw [String.toList_append]
  rfl

theorem isTabLine_tab (s : String) : isTabLine ("\t" ++ s) = true := by
  unfold isTabLine
  rw [tab_toList]
  rfl

theorem tab_plain {s : String} (h : IsPlainLine s.toList) : IsPlainLine ("\t" ++ s).toList := by
  rw [tab_toList]
  refine ⟨by simp [h.no_feed], ?_⟩
  have hlast := h.no_return
  cases hs : s.toList with
  | nil => simp
  | cons c t =>
    rw [hs] at hlast
    rwa [List.getLast?_cons_cons]

theorem lines_plain (r : WrittenReport) : ∀ l ∈ r.lines, IsPlainLine l.toList := by
  intro l hl
  rcases List.mem_cons.mp hl with rfl | hl
  · exact r.head_plain
  · obtain ⟨s, hs, rfl⟩ := List.mem_map.mp hl
    exact tab_plain (r.more_plain s hs)

/-! ## Reading the lines -/

/-- The report that is read back. -/
def report (r : WrittenReport) : Report := ⟨r.reported, r.tabLines⟩

theorem readAs_lines (r : WrittenReport) : ReadAs r.lines r.report := by
  refine .lines r.ofText_head ?_
  intro l hl
  obtain ⟨s, -, rfl⟩ := List.mem_map.mp hl
  exact isTabLine_tab s

theorem ofLines_lines (rs : List WrittenReport) :
    Reports.ofLines ((rs.flatMap lines).map OutputLine.ofText) = .ok ⟨[], rs.map report⟩ :=
  ofLines_of_readAs fun r _ => r.readAs_lines

/-- The report that is read back makes the finding that was meant. -/
theorem finding_report (working : Path) (origin : Origin) (r : WrittenReport) :
    r.report.finding working origin = r.finding working origin := by
  -- columns count from one, and the report writes none as zero
  have hcolumn : (max r.column 1 : Nat) = if r.column = 0 then 1 else r.column := by
    split <;> omega
  -- a report without a word has the severity of its origin
  have hseverity : (ReportLine.severityOf r.word.toList).getD origin.severity
      = if r.word = "" then origin.severity else Severity.ofWord r.word := by
    unfold ReportLine.severityOf
    by_cases hword : r.word = ""
    · have hempty : "".toList.isEmpty = true := rfl
      simp only [hword, hempty, if_true, Option.getD_none]
    · have hne : r.word.toList.isEmpty = false := by simpa using hword
      simp only [hne, hword, Bool.false_eq_true, if_false, String.ofList_toList,
        Option.getD_some]
  unfold Report.finding finding
  simp only [report, reported, hcolumn, hseverity, Report.message]
  split <;> rfl

/-- **Reading undoes writing.**  Reports that are written one after the other, with any
    mix of line ends, are read back as the findings they mean, in order. -/
theorem ofOutput_joinLines (working : Path) (origin : Origin) (rs : List WrittenReport)
    (ends : Nat → LineEnd) :
    Finding.ofOutput working origin (joinLines ends (rs.flatMap lines))
      = .ok (rs.map (finding working origin)) := by
  have hfindings : (rs.map report).map (Report.finding working origin)
      = rs.map (finding working origin) := by
    rw [List.map_map]
    exact List.map_congr_left fun r _ => finding_report working origin r
  cases rs with
  | nil => rfl
  | cons r rs =>
    have hplain : ∀ l ∈ (r :: rs).flatMap lines, IsPlainLine l.toList := by
      intro l hl
      obtain ⟨q, _, hq⟩ := List.mem_flatMap.mp hl
      exact q.lines_plain l hq
    unfold Finding.ofOutput
    rw [outputLines_eq_physicalLines, physicalLines_joinLines ends _ hplain, ofLines_lines,
      ← hfindings]
    · rfl
    · simp [lines]

/-- A report with digits, colons, blanks and a carriage return where a reader may take
    them for something else. -/
def awkward : WrittenReport where
  path := "./9.go"
  line := 10
  column := 0
  word := "7x"
  message := "3: a\rb:4:5: c"
  more := ["d.go:1:2: e", ""]
  path_ne_nil := by decide
  path_chars := List.all_eq_true.mp (by decide)
  line_pos := by decide
  line_short := by decide
  column_short := by decide
  word_chars := List.all_eq_true.mp (by decide)
  message_plain := ⟨by decide, by decide⟩
  more_plain := by
    intro s hs
    rcases List.mem_cons.mp hs with rfl | hs
    · exact ⟨by decide, by decide⟩
    · rw [List.mem_singleton.mp hs]
      exact ⟨by decide, by decide⟩

example : joinLines (fun k => if k = 0 then .pair else .feed) awkward.lines
    = "./9.go:10:0:7x: 3: a\rb:4:5: c\r\n\td.go:1:2: e\n\t" := by decide

end WrittenReport

end SourceCheck
