import SourceCheck.Finding.Listing
import SourceCheck.Proofs.Json.Values
import SourceCheck.Proofs.Output.Places
import SourceCheck.Proofs.Output.RoundTrip

/-! # Listings that are read back

    The entry of a finding, in the run log or in a listing as text, has the form of a tool's
    output: a reporting line without a word for the severity, and tab lines that continue it.
    So both forms can be read back in the directory of the findings (`ofOutput_listings`).  What
    is lost is the severity, which becomes the one that findings without a word have; in a
    listing it is kept at the start of the message.

    The listing for a program is read back as what it lists: an array with an object for
    each finding, whose members are the fields of that finding (`read_jsonListing`). -/

namespace SourceCheck

open SourceCheck.Text SourceCheck.Number

/-! ## Findings that can be read back -/

/-- A directory whose text can stand in a reporting line. -/
structure Path.IsPlainDirectory (directory : Path) : Prop where
  absolute : directory.isAbsolute = true
  chars : ∀ c ∈ directory.text.toList, ReportLine.isPathChar c = true

/-- The name of a file that can stand in a reporting line. -/
structure IsPlainName (name : String) : Prop where
  ne_empty : name ≠ ""
  ne_dot : name ≠ "."
  chars : ∀ c ∈ name.toList, isWordChar c = true ∨ c = '.'

/-- **A finding that can be read back** in the directory of an origin: its file is directly
    inside, its numbers are at least one and not too long, and its message goes on with tab lines
    only. -/
structure Finding.CanBeReadBack (origin : Origin) (f : Finding) : Prop where
  file : ∃ name, IsPlainName name ∧ f.file = origin.directory.child name
  line_pos : 1 ≤ f.line
  line_short : (natDigits f.line.toNat).length ≤ digitLimit
  column_pos : 1 ≤ f.column
  column_short : (natDigits f.column.toNat).length ≤ digitLimit
  no_return : ∀ l ∈ splitAt '\n' f.message, l.toList.getLast? ≠ some '\r'
  tabs : ∀ l ∈ (splitAt '\n' f.message).tail, isTabLine l = true
  tool : f.tool = origin.tool
  check : f.check = origin.check

variable {origin : Origin} {f : Finding}

/-! ## Files -/

theorem IsPlainName.isName {name : String} (h : IsPlainName name) : IsName name := by
  refine ⟨?_, h.ne_empty, h.ne_dot⟩
  intro hslash
  rcases h.chars '/' hslash with hword | hdot
  · exact absurd hword (by decide)
  · exact absurd hdot (by decide)

/-- The text of a file in a plain directory can stand in a reporting line. -/
theorem isPathChar_of_mem_text {directory : Path} (hdirectory : directory.IsPlainDirectory)
    {name : String} (hname : IsPlainName name) :
    ∀ c ∈ (directory.child name).text.toList, ReportLine.isPathChar c = true := by
  have hslash : ReportLine.isPathChar '/' = true := by decide
  rw [directory.child_of_isName hname.isName, Path.text_append hdirectory.absolute]
  intro c hc
  rw [String.toList_append, String.toList_append, List.mem_append, List.mem_append] at hc
  rcases hc with (hc | hc) | hc
  · exact hdirectory.chars c hc
  · -- between the directory and the name there is a slash, if anything
    by_cases hparts : directory.parts = []
    · rw [if_pos hparts] at hc
      contradiction
    · rw [if_neg hparts] at hc
      rw [List.mem_singleton.mp hc]
      exact hslash
  · unfold ReportLine.isPathChar
    rcases hname.chars c hc with hword | rfl
    · rw [hword]
      rfl
    · rfl

theorem Finding.CanBeReadBack.isPathChar (h : f.CanBeReadBack origin)
    (hdirectory : origin.directory.IsPlainDirectory) :
    ∀ c ∈ f.file.text.toList, ReportLine.isPathChar c = true := by
  obtain ⟨name, hname, hfile⟩ := h.file
  exact hfile ▸ isPathChar_of_mem_text hdirectory hname

theorem Finding.CanBeReadBack.finalName? (h : f.CanBeReadBack origin)
    (hdirectory : origin.directory.IsPlainDirectory) :
    ∃ name, f.file = { origin.directory with parts := origin.directory.parts ++ [name] }
      ∧ finalName? f.file.text = some name := by
  obtain ⟨name, hname, hfile⟩ := h.file
  rw [Path.child_of_isName _ hname.isName] at hfile
  refine ⟨name, hfile, ?_⟩
  rw [hfile]
  exact Path.finalName?_text_append hdirectory.absolute hname.isName

/-- **A file is found again** under its own text. -/
theorem Finding.CanBeReadBack.fileIn_text (h : f.CanBeReadBack origin)
    (hdirectory : origin.directory.IsPlainDirectory) (working : Path) :
    fileIn working origin.directory f.file.text = f.file := by
  obtain ⟨name, hfile, hfinal⟩ := h.finalName? hdirectory
  rw [fileIn_eq hdirectory.absolute, hfinal, Option.toList_some, ← hfile]

/-! ## Entries -/

/-- The report that the entry of a finding makes. -/
def Finding.report (f : Finding) : Report where
  head := ⟨f.file.text, f.line.toNat, f.column.toNat, none, (splitAt '\n' f.message).headD ""⟩
  more := (splitAt '\n' f.message).tail

/-- The first line of a text and the lines after it. -/
theorem splitAt_eq_cons (s : String) :
    splitAt '\n' s = (splitAt '\n' s).headD "" :: (splitAt '\n' s).tail := by
  cases h : splitAt '\n' s with
  | nil => exact absurd (List.map_eq_nil_iff.mp h) (cutAt_ne_nil '\n' s.toList)
  | cons first rest => rfl

theorem intText_of_pos {n : Int} (h : 1 ≤ n) : intText n = natText n.toNat := by
  have hnonneg : ¬n < 0 := by omega
  have habs : n.natAbs = n.toNat := by omega
  unfold intText
  rw [if_neg hnonneg, habs]

/-- The characters in front of the message of a finding. -/
def Finding.leadChars (f : Finding) : List Char :=
  f.file.text.toList ++ ':' :: (natDigits f.line.toNat ++ ':' :: (natDigits f.column.toNat
    ++ [':', ' ']))

theorem Finding.CanBeReadBack.toList_logLine (h : f.CanBeReadBack origin) :
    f.logLine.toList = f.leadChars ++ f.message.toList := by
  have hcolon : ":".toList = [':'] := rfl
  have hblank : ": ".toList = [':', ' '] := rfl
  unfold Finding.logLine Finding.place Finding.leadChars
  rw [intText_of_pos h.line_pos, intText_of_pos h.column_pos]
  simp only [String.toList_append, natText, String.toList_ofList, hcolon, hblank,
    List.append_assoc, List.cons_append, List.nil_append]

/-- What stands in front of a message is a reporting line without one. -/
theorem Finding.leadChars_append (f : Finding) (message : List Char) :
    f.leadChars ++ message = ReportLine.textOf f.file.text.toList (natDigits f.line.toNat)
      (natDigits f.column.toNat) [':'] [] [] message := by
  unfold Finding.leadChars ReportLine.textOf
  simp only [List.append_assoc, List.cons_append, List.nil_append]

/-- **An entry reports its finding**, with the first line of the message. -/
theorem Finding.CanBeReadBack.read_lead (h : f.CanBeReadBack origin)
    (hdirectory : origin.directory.IsPlainDirectory) {message : List Char}
    (hmessage : '\n' ∉ message) :
    ReportLine.read (f.leadChars ++ message) = .ok (some ⟨f.file.text, f.line.toNat,
      f.column.toNat, none, String.ofList message⟩) := by
  have hne : f.file.text.toList ≠ [] := by
    -- a text with a name in it is not empty
    intro hempty
    obtain ⟨name, -, hfinal⟩ := h.finalName? hdirectory
    rw [show f.file.text = "" from String.toList_inj.mp hempty] at hfinal
    cases hfinal
  have hstop : ∀ c, ([':'] ++ ([] : List Char)).head? = some c → isDecimalDigit c = false := by
    intro c hc
    obtain rfl : ':' = c := Option.some.inj hc
    exact ReportLine.isDecimalDigit_colon
  have hline : max f.line.toNat 1 = f.line.toNat := by
    have hpos := h.line_pos
    omega
  have hcolumn : max f.column.toNat 1 = f.column.toNat := by
    have hpos := h.column_pos
    omega
  rw [f.leadChars_append, ReportLine.read_numbered hne (h.isPathChar hdirectory) h.line_short
    h.column_short ReportLine.isColon_of_mem_colon (List.forall_mem_nil _) (List.forall_mem_nil _)
    hstop hmessage, hline, hcolumn, String.ofList_toList]
  rfl

/-- The lines of an entry: what stands in front of the message goes before its first line. -/
theorem Finding.CanBeReadBack.splitAt_logLine (h : f.CanBeReadBack origin)
    (hdirectory : origin.directory.IsPlainDirectory) :
    splitAt '\n' f.logLine
      = String.ofList (f.leadChars ++ f.report.head.message.toList) :: f.report.more := by
  have hlead : '\n' ∉ f.leadChars := by
    rw [← List.append_nil f.leadChars, f.leadChars_append]
    exact ReportLine.feed_not_mem_textOf _ _ (h.isPathChar hdirectory)
      ReportLine.isColon_of_mem_colon (List.forall_mem_nil _) (List.forall_mem_nil _)
      List.not_mem_nil
  obtain ⟨first, rest, hcut⟩ := List.exists_cons_of_ne_nil (cutAt_ne_nil '\n' f.message.toList)
  unfold Finding.report splitAt
  rw [h.toList_logLine, cutAt_append_of_not_mem hlead hcut, hcut]
  simp

theorem Finding.feed_not_mem_message (f : Finding) : '\n' ∉ f.report.head.message.toList := by
  have hmem : f.report.head.message ∈ splitAt '\n' f.message := by
    rw [splitAt_eq_cons]
    exact List.mem_cons_self
  obtain ⟨piece, hpiece, hmessage⟩ := List.mem_map.mp hmem
  rw [← hmessage, String.toList_ofList]
  exact not_mem_of_mem_cutAt hpiece

/-- **An entry is read as the report of its finding.** -/
theorem Finding.CanBeReadBack.readAs_logLine (h : f.CanBeReadBack origin)
    (hdirectory : origin.directory.IsPlainDirectory) :
    ReadAs (splitAt '\n' f.logLine) f.report := by
  have hread := h.read_lead hdirectory f.feed_not_mem_message
  rw [h.splitAt_logLine hdirectory]
  refine .lines (ofText_of_read ?_) h.tabs
  rw [String.toList_ofList, hread, String.ofList_toList]
  rfl

/-- No line of an entry ends in a carriage return. -/
theorem Finding.CanBeReadBack.no_return_logLine (h : f.CanBeReadBack origin)
    (hdirectory : origin.directory.IsPlainDirectory) :
    ∀ l ∈ splitAt '\n' f.logLine, l.toList.getLast? ≠ some '\r' := by
  have hplain := h.no_return
  rw [splitAt_eq_cons] at hplain
  obtain ⟨hfirst, hrest⟩ := List.forall_mem_cons.mp hplain
  rw [h.splitAt_logLine hdirectory]
  refine List.forall_mem_cons.mpr ⟨?_, hrest⟩
  rw [String.toList_ofList, List.getLast?_append]
  -- the last character is that of the message, or the blank before it
  change f.report.head.message.toList.getLast? ≠ some '\r' at hfirst
  cases hlast : f.report.head.message.toList.getLast? with
  | none => simp [Finding.leadChars, List.getLast?_append, List.getLast?_cons]
  | some c =>
    rw [hlast] at hfirst
    exact hfirst

/-- The report of a finding makes that finding, apart from its severity. -/
theorem Finding.CanBeReadBack.finding_report (h : f.CanBeReadBack origin)
    (hdirectory : origin.directory.IsPlainDirectory) (working : Path) :
    f.report.finding working origin = { f with severity := origin.severity } := by
  -- lines and columns of a listing are written as natural numbers
  have hline : (f.line.toNat : Int) = f.line := by
    have hpos := h.line_pos
    omega
  have hcolumn : (f.column.toNat : Int) = f.column := by
    have hpos := h.column_pos
    omega
  -- the lines of the message are the report's text and its continuations
  have hmessage : f.report.message = f.message := by
    have hjoin := joinWith_splitAt f.message
    rw [splitAt_eq_cons] at hjoin
    exact hjoin
  have hfile := h.fileIn_text hdirectory working
  obtain ⟨file, line, column, message, severity, tool, check⟩ := f
  obtain rfl : tool = origin.tool := h.tool
  obtain rfl : check = origin.check := h.check
  unfold Report.finding
  rw [hmessage]
  simp only [Finding.report, hfile, hline, hcolumn, Option.getD_none]

/-! ## Both forms -/

/-- **Entries are read back**, one after the other, with the severity of findings that carry
    none. -/
theorem ofOutput_logLines (working : Path) (hdirectory : origin.directory.IsPlainDirectory)
    {fs : List Finding} (hfs : ∀ f ∈ fs, f.CanBeReadBack origin) :
    Finding.ofOutput working origin (joinWith "\n" (fs.map Finding.logLine))
      = .ok (fs.map fun f => { f with severity := origin.severity }) := by
  by_cases hnil : fs = []
  · rw [hnil]
    rfl
  · have hne : fs.map Finding.logLine ≠ [] := by
      rw [ne_eq, List.map_eq_nil_iff]
      exact hnil
    -- the lines of the output are those of the entries
    have hsplit : splitAt '\n' (joinWith "\n" (fs.map Finding.logLine))
        = fs.flatMap fun f => splitAt '\n' f.logLine := by
      rw [splitAt_joinWith rfl hne, List.flatMap_map]
    have hplain : ∀ l ∈ splitAt '\n' (joinWith "\n" (fs.map Finding.logLine)),
        l.toList.getLast? ≠ some '\r' := by
      intro l hl
      rw [hsplit] at hl
      obtain ⟨f, hf, hl⟩ := List.mem_flatMap.mp hl
      exact (hfs f hf).no_return_logLine hdirectory l hl
    have hreports : Reports.ofLines ((fs.flatMap fun f => splitAt '\n' f.logLine).map
        OutputLine.ofText) = .ok ⟨[], fs.map Finding.report⟩ :=
      ofLines_of_readAs fun f hf => (hfs f hf).readAs_logLine hdirectory
    have hfindings : (fs.map Finding.report).map (Report.finding working origin)
        = fs.map fun f => { f with severity := origin.severity } := by
      rw [List.map_map]
      exact List.map_congr_left fun f hf => (hfs f hf).finding_report hdirectory working
    rw [ofOutput_eq, physicalLines_of_plain hplain, hsplit, hreports, ← hfindings]
    rfl

/-- A finding whose message starts with its severity. -/
def Finding.announced (f : Finding) : Finding :=
  { f with message := f.severity.name ++ ": " ++ f.message }

/-- The entry of a finding in a listing is what the run log says of the announced finding. -/
theorem Finding.entry_eq (f : Finding) : f.entry = f.announced.logLine := by
  unfold Finding.entry Finding.logLine Finding.announced Finding.place
  simp only [String.append_assoc]

/-- An announced finding can be read back as well: only the first line of its message is
    another. -/
theorem Finding.CanBeReadBack.announced (h : f.CanBeReadBack origin) :
    f.announced.CanBeReadBack origin := by
  have hword : '\n' ∉ (f.severity.name ++ ": ").toList := by
    cases f.severity <;> decide
  -- the word of the severity goes in front of the first line and leaves the others alone
  obtain ⟨first, rest, hcut⟩ := List.exists_cons_of_ne_nil (cutAt_ne_nil '\n' f.message.toList)
  have hsplit : splitAt '\n' f.announced.message
      = String.ofList ((f.severity.name ++ ": ").toList ++ first) :: rest.map String.ofList := by
    unfold splitAt Finding.announced
    rw [String.toList_append, cutAt_append_of_not_mem hword hcut, List.map_cons]
  have hplain := h.no_return
  have htabs := h.tabs
  unfold splitAt at hplain htabs
  rw [hcut, List.map_cons] at hplain htabs
  obtain ⟨hfirst, hrest⟩ := List.forall_mem_cons.mp hplain
  refine { h with no_return := ?_, tabs := ?_ }
  · rw [hsplit]
    refine List.forall_mem_cons.mpr ⟨?_, hrest⟩
    -- the first line may not end in a return, and the word does not change its last character
    rw [String.toList_ofList] at hfirst
    rw [String.toList_ofList, List.getLast?_append]
    cases hlast : first.getLast? with
    | none => simp [String.toList_append, List.getLast?_append]
    | some c =>
      rw [hlast] at hfirst
      exact hfirst
  · rw [hsplit]
    exact htabs

/-- **Listings are read back** in the directory of their findings.  The lines of the run log give
    the findings with the severity of findings that carry none, and a listing as text gives them
    with that severity and with their own one at the start of the message. -/
theorem ofOutput_listings (working : Path) (hdirectory : origin.directory.IsPlainDirectory)
    {fs : List Finding} (hfs : ∀ f ∈ fs, f.CanBeReadBack origin) :
    Finding.ofOutput working origin (joinWith "\n" (fs.map Finding.logLine))
        = .ok (fs.map fun f => { f with severity := origin.severity })
      ∧ Finding.ofOutput working origin (listing .text fs)
        = .ok (fs.map fun f => { f with
            severity := origin.severity
            message := f.severity.name ++ ": " ++ f.message }) := by
  have hannounced : ∀ f ∈ fs.map Finding.announced, f.CanBeReadBack origin := by
    intro f hf
    obtain ⟨g, hg, rfl⟩ := List.mem_map.mp hf
    exact (hfs g hg).announced
  have hentries : fs.map Finding.entry = (fs.map Finding.announced).map Finding.logLine := by
    rw [List.map_map]
    exact List.map_congr_left fun f _ => f.entry_eq
  refine ⟨ofOutput_logLines working hdirectory hfs, ?_⟩
  unfold listing
  dsimp only
  rw [hentries, ofOutput_logLines working hdirectory hannounced, List.map_map]
  rfl

/-- What is known about the tool whose findings are listed. -/
def listedOrigin : Origin := ⟨⟨.slash, ["w", "x.y"]⟩, .warning, some "go", some .vet⟩

/-- Findings with a message that looks like another finding, and with the double dot as a file. -/
def listedFindings : List Finding := [
  ⟨⟨.slash, ["w", "x.y", "a.go"]⟩, 10, 1, "b.go:1:2: x\n\tc.go:3: y\n\t", .error, some "go",
    some .vet⟩,
  ⟨⟨.slash, ["w", "x.y", ".."]⟩, 2, 30, "", .info, some "go", some .vet⟩]

theorem isPlainDirectory_listedOrigin : listedOrigin.directory.IsPlainDirectory :=
  ⟨rfl, List.all_eq_true.mp (by decide)⟩

theorem canBeReadBack_listedFindings : ∀ f ∈ listedFindings, f.CanBeReadBack listedOrigin := by
  have hname : ∀ name : String, name.toList.all (fun c => decide (isWordChar c = true ∨ c = '.'))
      = true → ∀ c ∈ name.toList, isWordChar c = true ∨ c = '.' := fun _ hall c hc =>
    of_decide_eq_true (List.all_eq_true.mp hall c hc)
  refine List.forall_mem_cons.mpr ⟨?_, List.forall_mem_singleton.mpr ?_⟩
  · exact ⟨⟨"a.go", ⟨by decide, by decide, hname _ (by decide)⟩, by decide⟩, by decide, by decide,
      by decide, by decide, by decide, by decide, rfl, rfl⟩
  · exact ⟨⟨"..", ⟨by decide, by decide, hname _ (by decide)⟩, by decide⟩, by decide, by decide,
      by decide, by decide, by decide, by decide, rfl, rfl⟩

theorem ofOutput_listings_listedFindings :
    listedOrigin.directory.IsPlainDirectory
      ∧ (∀ f ∈ listedFindings, f.CanBeReadBack listedOrigin)
      ∧ Finding.ofOutput ⟨.slash, []⟩ listedOrigin
          (joinWith "\n" (listedFindings.map Finding.logLine))
        = .ok (listedFindings.map fun f => { f with severity := .warning })
      ∧ Finding.ofOutput ⟨.slash, []⟩ listedOrigin (listing .text listedFindings)
        = .ok (listedFindings.map fun f => { f with
            severity := .warning
            message := f.severity.name ++ ": " ++ f.message }) :=
  ⟨isPlainDirectory_listedOrigin, canBeReadBack_listedFindings,
    ofOutput_listings ⟨.slash, []⟩ isPlainDirectory_listedOrigin canBeReadBack_listedFindings⟩

/-! ## Listings for a program -/

section Json

open SourceCheck.Json

theorem plain_optionalText (s : Option String) : Plain (Finding.optionalText s) := by
  cases s with
  | none => exact .null
  | some s => exact .text s

theorem plain_toValue (f : Finding) : Plain f.toValue := by
  have hkeys : f.members.map Prod.fst
      = ["file", "line", "column", "severity", "message", "tool", "check"] := rfl
  refine .map (by rw [hkeys]; decide) ?_
  simp only [Finding.members, List.forall_mem_cons]
  exact ⟨.text _, .int _, .int _, .text _, .text _, plain_optionalText _, plain_optionalText _,
    by simp⟩

theorem plain_findings (fs : List Finding) : Plain (.list (fs.map Finding.toValue)) := by
  refine .list fun v hv => ?_
  obtain ⟨f, -, rfl⟩ := List.mem_map.mp hv
  exact plain_toValue f

/-- The listing may have white space behind it, as where it is written out. -/
theorem read_listing_append (fs : List Finding) {gap : String} (hgap : IsGap gap.toList) :
    Json.read (listing .json fs ++ gap) = some (.list (fs.map Finding.toValue)) :=
  read_write (plain_findings fs) spread hgap

/-- The fields of a finding, as an object has them. -/
theorem toValue_eq (f : Finding) :
    f.toValue = .map [
      ("file", .text f.file.text), ("line", .int f.line), ("column", .int f.column),
      ("severity", .text f.severity.name), ("message", .text f.message),
      ("tool", f.tool.elim .null .text), ("check", f.check.elim .null fun k => .text k.name)] := by
  unfold Finding.toValue Finding.members
  cases f.tool <;> cases f.check <;> rfl

/-- **The listing for a program loses nothing**: it is ASCII, and reading it gives an array with
    one object for each finding, in order, whose seven members are the fields of that finding,
    nothing standing for a tool or a check that is not known. -/
theorem read_jsonListing (fs : List Finding) :
    (∀ c ∈ (listing .json fs).toList, c.toNat < 0x80)
      ∧ Json.read (listing .json fs) = some (.list (fs.map fun f => .map [
        ("file", .text f.file.text), ("line", .int f.line), ("column", .int f.column),
        ("severity", .text f.severity.name), ("message", .text f.message),
        ("tool", f.tool.elim .null .text),
        ("check", f.check.elim .null fun k => .text k.name)])) := by
  constructor
  · exact isAscii_writeAt (plain_findings fs) rfl 0
  · have hnothing : IsGap "".toList := by simp [IsGap]
    have hread := read_listing_append fs hnothing
    rw [String.append_empty] at hread
    rw [hread]
    exact congrArg (some ∘ Value.list) (List.map_congr_left fun f _ => toValue_eq f)

end Json

end SourceCheck
