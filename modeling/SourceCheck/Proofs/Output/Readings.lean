import Mathlib.Data.List.TakeWhile
import SourceCheck.Proofs.Output.Grammar

/-! # The readings of a line

    The form of a reporting line leaves open where its parts end: digits are characters of a word
    too, and any number of colons may stand around the word.  So a line may have several readings
    (`IsReading`).  They differ in how far the column goes, and a line is read in the way in which
    it goes farthest (`partsOf_eq_some_iff`).  A line is accepted just if it has a reading at all,
    and what it reports is told by places: what stands before the first colon, between the first
    two, after the first blank (`read_grammar`). -/

namespace SourceCheck.ReportLine

open SourceCheck.Text SourceCheck.Number

/-! ## Readings -/

/-- A way to cut a line into its parts. -/
structure Reading where
  /-- The path. -/
  path : List Char
  /-- The digits of the line number. -/
  line : List Char
  /-- The digits of the column number. -/
  column : List Char
  /-- The colons before the word. -/
  colons : List Char
  /-- The word for the severity. -/
  word : List Char
  /-- The colons after the word. -/
  more : List Char
  /-- The message. -/
  message : List Char
  deriving DecidableEq, Repr

namespace Reading

/-- The line that is cut. -/
def text (d : Reading) : List Char :=
  textOf d.path d.line d.column d.colons d.word d.more d.message

/-- The parts that are reported. -/
def parts (d : Reading) : Parts := ⟨d.path, d.line, d.column, d.word, d.message⟩

/-- No digit follows the column. -/
def IsSettled (d : Reading) : Prop :=
  ∀ c, (d.colons ++ d.word).head? = some c → isDecimalDigit c = false

/-- A reading with the digits at the start of its word moved to the column, if the word stands
    right behind it. -/
def settle (d : Reading) : Reading :=
  if d.colons = [] then
    { d with
      column := d.column ++ d.word.takeWhile isDecimalDigit
      word := d.word.dropWhile isDecimalDigit }
  else d

end Reading

/-- A reading of a line: each part holds characters of its kind, and neither the path nor the line
    number is empty. -/
structure IsReading (u : List Char) (d : Reading) : Prop where
  path_ne_nil : d.path ≠ []
  path : ∀ c ∈ d.path, isPathChar c = true
  line_ne_nil : d.line ≠ []
  line : ∀ c ∈ d.line, isDecimalDigit c = true
  column : ∀ c ∈ d.column, isDecimalDigit c = true
  colons : ∀ c ∈ d.colons, isColon c = true
  word : ∀ c ∈ d.word, isWordChar c = true
  more : ∀ c ∈ d.more, isColon c = true
  text : d.text = u

/-- The column of a reading is the longest one that a reading of the line has. -/
def IsLongest (u : List Char) (d : Reading) : Prop :=
  ∀ d', IsReading u d' → d'.column.length ≤ d.column.length

/-! ### Settled readings -/

theorem not_of_head?_dropWhile {p : Char → Bool} {s : List Char} {c : Char}
    (h : (s.dropWhile p).head? = some c) : p c = false := by
  have hnot := List.head?_dropWhile_not p s
  rw [h] at hnot
  simpa using hnot

theorem Reading.text_settle (d : Reading) : d.settle.text = d.text := by
  unfold settle
  split
  · next hnil =>
    have hword := List.takeWhile_append_dropWhile (p := isDecimalDigit) (l := d.word)
    unfold text textOf
    dsimp only
    rw [hnil, List.nil_append, List.nil_append, List.append_assoc,
      ← List.append_assoc (d.word.takeWhile isDecimalDigit), hword]
  · rfl

theorem Reading.length_column_le_settle (d : Reading) :
    d.column.length ≤ d.settle.column.length := by
  unfold settle
  split
  · dsimp only
    rw [List.length_append]
    exact Nat.le_add_right _ _
  · exact Nat.le_refl _

/-- A reading whose column gets no longer stays as it is. -/
theorem Reading.settle_eq {d : Reading} (h : d.settle.column.length ≤ d.column.length) :
    d.settle = d := by
  unfold settle at h ⊢
  split
  · next hnil =>
    rw [if_pos hnil] at h
    have hnone : d.word.takeWhile isDecimalDigit = [] := by
      dsimp only at h
      rw [List.length_append] at h
      exact List.eq_nil_of_length_eq_zero (by omega)
    have hword := List.takeWhile_append_dropWhile (p := isDecimalDigit) (l := d.word)
    rw [hnone, List.nil_append] at hword
    rw [hnone, hword, List.append_nil]
  · rfl

namespace IsReading

variable {u : List Char} {d : Reading}

theorem settle (h : IsReading u d) : IsReading u d.settle := by
  have htext : d.settle.text = u := d.text_settle.trans h.text
  unfold Reading.settle at htext ⊢
  split
  · next hnil =>
    rw [if_pos hnil] at htext
    refine { h with column := ?_, word := ?_, text := htext }
    · intro c hc
      rcases List.mem_append.mp hc with hc | hc
      · exact h.column c hc
      · exact List.mem_takeWhile_imp hc
    · intro c hc
      exact h.word c ((List.dropWhile_sublist _).subset hc)
  · exact h

theorem isSettled_settle (h : IsReading u d) : d.settle.IsSettled := by
  intro c hc
  unfold Reading.settle at hc
  split at hc
  · next hnil =>
    -- what is left of the word starts with no digit
    rw [hnil, List.nil_append] at hc
    exact not_of_head?_dropWhile hc
  · next hne =>
    obtain ⟨colon, rest, hcolons⟩ := List.exists_cons_of_ne_nil hne
    have hcolon : colon = ':' := by
      simpa [isColon] using h.colons colon (hcolons ▸ List.mem_cons_self)
    rw [hcolons] at hc
    obtain rfl := Option.some.inj hc
    exact hcolon ▸ isDecimalDigit_colon

/-- A settled reading is the one that is found. -/
theorem partsOf_eq (h : IsReading u d) (hsettled : d.IsSettled) : partsOf u = some d.parts := by
  rw [← h.text]
  exact partsOf_text d.message h.path_ne_nil h.path h.line_ne_nil h.line h.column h.colons h.word
    h.more hsettled

/-- **The longest readings** are those in which no digit follows the column. -/
theorem isLongest_iff (h : IsReading u d) : IsLongest u d ↔ d.IsSettled := by
  constructor
  · intro hlongest
    rw [← Reading.settle_eq (hlongest _ h.settle)]
    exact h.isSettled_settle
  · intro hsettled d' h'
    -- the other reading, once it is settled, has the same column
    have hparts : d'.settle.parts = d.parts := Option.some.inj <|
      (h'.settle.partsOf_eq h'.isSettled_settle).symm.trans (h.partsOf_eq hsettled)
    have hcolumn : d'.settle.column = d.column := congrArg Parts.column hparts
    rw [← hcolumn]
    exact d'.length_column_le_settle

end IsReading

/-! ## What is found -/

theorem eq_cons_of_afterColon {s rest : List Char} (h : afterColon s = some rest) :
    s = ':' :: rest := by
  unfold afterColon at h
  split at h
  · rw [Option.some.inj h]
  · contradiction

/-- A line in which parts are found has a reading. -/
theorem exists_isReading {u : List Char} {p : Parts} (h : partsOf u = some p) :
    ∃ d, IsReading u d := by
  unfold partsOf at h
  dsimp only at h
  -- each part is the longest run of its characters, so the reading is told outright
  split at h
  · contradiction
  next hpath =>
  split at h
  · contradiction
  next s hs =>
  split at h
  · contradiction
  next hline =>
  split at h
  · contradiction
  next t ht =>
  unfold partsFromColumn at h
  dsimp only at h
  split at h
  · next message hmessage =>
    refine ⟨⟨u.takeWhile isPathChar, s.takeWhile isDecimalDigit, t.takeWhile isDecimalDigit,
      (t.dropWhile isDecimalDigit).takeWhile isColon,
      ((t.dropWhile isDecimalDigit).dropWhile isColon).takeWhile isWordChar,
      (((t.dropWhile isDecimalDigit).dropWhile isColon).dropWhile isWordChar).takeWhile isColon,
      message⟩, ?_⟩
    constructor
    · simpa using hpath
    · exact fun _ => List.mem_takeWhile_imp
    · simpa using hline
    · exact fun _ => List.mem_takeWhile_imp
    · exact fun _ => List.mem_takeWhile_imp
    · exact fun _ => List.mem_takeWhile_imp
    · exact fun _ => List.mem_takeWhile_imp
    · exact fun _ => List.mem_takeWhile_imp
    -- put together again the runs are the line, since a run and what is left of it are
    · unfold Reading.text textOf
      dsimp only
      rw [← hmessage, List.takeWhile_append_dropWhile, List.takeWhile_append_dropWhile,
        List.takeWhile_append_dropWhile, List.takeWhile_append_dropWhile,
        ← eq_cons_of_afterColon ht, List.takeWhile_append_dropWhile,
        ← eq_cons_of_afterColon hs, List.takeWhile_append_dropWhile]
  · contradiction

/-- **The parts that are found** are those of the longest readings. -/
theorem partsOf_eq_some_iff {u : List Char} {p : Parts} :
    partsOf u = some p ↔ ∃ d, IsReading u d ∧ IsLongest u d ∧ d.parts = p := by
  constructor
  · intro h
    obtain ⟨d, hd⟩ := exists_isReading h
    have hsettled := hd.isSettled_settle
    refine ⟨d.settle, hd.settle, hd.settle.isLongest_iff.mpr hsettled, ?_⟩
    exact Option.some.inj ((hd.settle.partsOf_eq hsettled).symm.trans h)
  · rintro ⟨d, hd, hlongest, rfl⟩
    exact hd.partsOf_eq (hd.isLongest_iff.mp hlongest)

theorem partsOf_eq_none_iff {u : List Char} : partsOf u = none ↔ ¬∃ d, IsReading u d := by
  constructor
  · rintro hnone ⟨d, hd⟩
    rw [hd.settle.partsOf_eq hd.isSettled_settle] at hnone
    contradiction
  · intro hno
    cases h : partsOf u with
    | none => rfl
    | some p => exact absurd (exists_isReading h) hno

/-! ## What is reported -/

namespace Reading

/-- Neither number of a reading has more digits than are read. -/
structure HasShortNumbers (d : Reading) : Prop where
  line : d.line.length ≤ digitLimit
  column : d.column.length ≤ digitLimit

/-- What a reading reports. -/
def report (d : Reading) : ReportLine where
  path := String.ofList d.path
  line := max (digitsValue d.line) 1
  column := max (digitsValue d.column) 1
  severity := severityOf d.word
  message := String.ofList d.message

theorem ofParts_parts {d : Reading} (h : d.HasShortNumbers) : ofParts d.parts = .ok d.report := by
  unfold ofParts parts number
  dsimp only
  rw [if_neg (Nat.not_lt.mpr h.line), if_neg (Nat.not_lt.mpr h.column)]
  rfl

end Reading

/-- A line with a line feed inside reports nothing. -/
theorem read_of_feed {t : List Char} (h : '\n' ∈ dropFinalFeed t) : read t = .ok none := by
  unfold read
  simp [h]

theorem read_of_no_feed {t : List Char} (h : '\n' ∉ dropFinalFeed t) :
    read t = match partsOf (dropFinalFeed t) with
      | none => .ok none
      | some p => (ofParts p).map some := by
  have hcontains : (dropFinalFeed t).contains '\n' = false := by simpa using h
  unfold read
  dsimp only
  rw [hcontains]
  cases partsOf (dropFinalFeed t) <;> rfl

theorem read_of_no_reading {t : List Char} (h : ¬∃ d, IsReading (dropFinalFeed t) d) :
    read t = .ok none := by
  by_cases hfeed : '\n' ∈ dropFinalFeed t
  · exact read_of_feed hfeed
  · rw [read_of_no_feed hfeed, partsOf_eq_none_iff.mpr h]

/-- A line is read in the longest way. -/
theorem read_of_isLongest {t : List Char} {d : Reading} (hfeed : '\n' ∉ dropFinalFeed t)
    (hd : IsReading (dropFinalFeed t) d) (hlongest : IsLongest (dropFinalFeed t) d) :
    read t = (ofParts d.parts).map some := by
  rw [read_of_no_feed hfeed, partsOf_eq_some_iff.mpr ⟨d, hd, hlongest, rfl⟩]

/-! ## Places in a line -/

/-- What stands before the first character of a kind. -/
def before (c : Char) (s : List Char) : List Char := s.takeWhile (· != c)

/-- What stands after the first character of a kind. -/
def after (c : Char) (s : List Char) : List Char := (s.dropWhile (· != c)).tail

theorem before_append {c : Char} {s : List Char} (rest : List Char) (h : c ∉ s) :
    before c (s ++ c :: rest) = s := by
  refine takeWhile_run rest (fun x hx => ?_) (by simp)
  have hne : x ≠ c := fun hxc => h (hxc ▸ hx)
  simpa using hne

theorem after_append {c : Char} {s : List Char} (rest : List Char) (h : c ∉ s) :
    after c (s ++ c :: rest) = rest := by
  unfold after
  rw [dropWhile_run rest _ (by simp)]
  · rfl
  · intro x hx
    have hne : x ≠ c := fun hxc => h (hxc ▸ hx)
    simpa using hne

/-- The digits after the second colon. -/
def columnRun (u : List Char) : List Char := (after ':' (after ':' u)).takeWhile isDecimalDigit

/-- The word after these digits and the colons that follow them. -/
def wordRun (u : List Char) : List Char :=
  (((after ':' (after ':' u)).dropWhile isDecimalDigit).dropWhile isColon).takeWhile isWordChar

/-- What a line reports, by the places of its parts. -/
def reportIn (u : List Char) : ReportLine where
  path := String.ofList (before ':' u)
  line := max (digitsValue (before ':' (after ':' u))) 1
  column := max (digitsValue (columnRun u)) 1
  severity := if wordRun u = [] then none else some (Severity.ofWord (String.ofList (wordRun u)))
  message := String.ofList (after ' ' u)

theorem severityOf_eq (word : List Char) :
    severityOf word = if word = [] then none else some (Severity.ofWord (String.ofList word)) := by
  unfold severityOf
  simp only [List.isEmpty_iff]

namespace IsReading

variable {u : List Char} {d : Reading}

theorem colon_not_mem_path (h : IsReading u d) : ':' ∉ d.path :=
  fun hmem => absurd (h.path _ hmem) (by decide)

theorem colon_not_mem_line (h : IsReading u d) : ':' ∉ d.line :=
  fun hmem => absurd (h.line _ hmem) (by decide)

/-- The first blank of a line stands before the message. -/
theorem blank_not_mem_lead (h : IsReading u d) :
    ' ' ∉ d.path ++ ':' :: (d.line ++ ':' :: (d.column ++ (d.colons ++ (d.word ++ d.more)))) := by
  have hpath : ' ' ∉ d.path := fun hmem => absurd (h.path _ hmem) (by decide)
  have hline : ' ' ∉ d.line := fun hmem => absurd (h.line _ hmem) (by decide)
  have hcolumn : ' ' ∉ d.column := fun hmem => absurd (h.column _ hmem) (by decide)
  have hcolons : ' ' ∉ d.colons := fun hmem => absurd (h.colons _ hmem) (by decide)
  have hword : ' ' ∉ d.word := fun hmem => absurd (h.word _ hmem) (by decide)
  have hmore : ' ' ∉ d.more := fun hmem => absurd (h.more _ hmem) (by decide)
  simp [hpath, hline, hcolumn, hcolons, hword, hmore]

theorem before_colon (h : IsReading u d) : before ':' u = d.path := by
  rw [← h.text]
  exact before_append _ h.colon_not_mem_path

theorem after_colon (h : IsReading u d) :
    after ':' u
      = d.line ++ ':' :: (d.column ++ (d.colons ++ (d.word ++ (d.more ++ ' ' :: d.message)))) := by
  rw [← h.text]
  exact after_append _ h.colon_not_mem_path

theorem after_second_colon (h : IsReading u d) :
    after ':' (after ':' u)
      = d.column ++ (d.colons ++ (d.word ++ (d.more ++ ' ' :: d.message))) := by
  rw [h.after_colon]
  exact after_append _ h.colon_not_mem_line

theorem after_blank (h : IsReading u d) : after ' ' u = d.message := by
  have htext : u = d.path ++ ':' :: (d.line ++ ':' :: (d.column ++ (d.colons ++ (d.word ++ d.more))))
      ++ ' ' :: d.message := by
    rw [← h.text]
    simp [Reading.text, textOf]
  rw [htext]
  exact after_append _ h.blank_not_mem_lead

/-- **What a settled reading reports** is told by places. -/
theorem report_eq (h : IsReading u d) (hsettled : d.IsSettled) : d.report = reportIn u := by
  -- from the second colon on the line is read as it is found
  have hparts := partsFromColumn_text d.path d.line d.message h.column h.colons h.word h.more
    hsettled
  rw [← h.after_second_colon] at hparts
  unfold partsFromColumn at hparts
  dsimp only at hparts
  split at hparts
  · next message hmessage =>
    obtain ⟨-, -, hcolumn, hword, -⟩ := Parts.mk.inj (Option.some.inj hparts)
    have hcolumn : columnRun u = d.column := hcolumn
    have hword : wordRun u = d.word := hword
    unfold reportIn Reading.report
    rw [h.before_colon, h.after_colon, before_append _ h.colon_not_mem_line, hcolumn, hword,
      h.after_blank, severityOf_eq]
  · contradiction

/-- No part of a line is longer than the line. -/
theorem hasShortNumbers (h : IsReading u d) (hlength : u.length ≤ digitLimit) :
    d.HasShortNumbers := by
  have htext : d.text.length = u.length := congrArg List.length h.text
  simp only [Reading.text, textOf, List.length_append, List.length_cons] at htext
  constructor <;> omega

end IsReading

/-! ## The grammar -/

/-- **The grammar of reporting lines.**  If no number has more digits than are read, a text is
    accepted exactly if it is a line, perhaps with a line feed at its end, that has a reading.
    What is reported is told by the places of the parts, and it is what the longest readings of
    the line report. -/
theorem read_grammar (t : List Char)
    (hshort : ∀ d, IsReading (dropFinalFeed t) d → d.HasShortNumbers) :
    ((∃ r, read t = .ok (some r))
        ↔ '\n' ∉ dropFinalFeed t ∧ ∃ d, IsReading (dropFinalFeed t) d)
      ∧ ∀ r, read t = .ok (some r) →
        r = reportIn (dropFinalFeed t)
          ∧ (∃ d, IsReading (dropFinalFeed t) d ∧ IsLongest (dropFinalFeed t) d)
          ∧ ∀ d, IsReading (dropFinalFeed t) d → IsLongest (dropFinalFeed t) d → r = d.report := by
  -- the longest reading is the one taken, and its short numbers can be converted
  have hread : ∀ d, '\n' ∉ dropFinalFeed t → IsReading (dropFinalFeed t) d →
      IsLongest (dropFinalFeed t) d → read t = .ok (some d.report) := by
    intro d hfeed hd hlongest
    rw [read_of_isLongest hfeed hd hlongest, Reading.ofParts_parts (hshort d hd)]
    rfl
  have hlongest : ∀ d, IsReading (dropFinalFeed t) d →
      IsLongest (dropFinalFeed t) d.settle := by
    intro d hd
    exact hd.settle.isLongest_iff.mpr hd.isSettled_settle
  have haccepted : (∃ r, read t = .ok (some r))
      ↔ '\n' ∉ dropFinalFeed t ∧ ∃ d, IsReading (dropFinalFeed t) d := by
    constructor
    · rintro ⟨r, hr⟩
      refine ⟨fun hfeed => ?_, by_contra fun hno => ?_⟩
      · rw [read_of_feed hfeed] at hr
        cases Except.ok.inj hr
      · rw [read_of_no_reading hno] at hr
        cases Except.ok.inj hr
    · rintro ⟨hfeed, d, hd⟩
      exact ⟨d.settle.report, hread _ hfeed hd.settle (hlongest d hd)⟩
  refine ⟨haccepted, fun r hr => ?_⟩
  obtain ⟨hfeed, d, hd⟩ := haccepted.mp ⟨r, hr⟩
  -- two readings that are longest give one report
  have hreport : ∀ d, IsReading (dropFinalFeed t) d → IsLongest (dropFinalFeed t) d →
      r = d.report := by
    intro d hd hlong
    exact Option.some.inj (Except.ok.inj (hr.symm.trans (hread d hfeed hd hlong)))
  refine ⟨?_, ⟨d.settle, hd.settle, hlongest d hd⟩, hreport⟩
  rw [hreport _ hd.settle (hlongest d hd), hd.settle.report_eq hd.isSettled_settle]

/-- A line with a final line feed, a digit of another script, and digits in front of the word that
    are read as the column. -/
def gluedLine : List Char := "a/b.go:٣:07err:: x: y\n".toList

/-- The reading of it that is found. -/
def gluedReading : Reading :=
  ⟨"a/b.go".toList, "٣".toList, "07".toList, [], "err".toList, "::".toList, "x: y".toList⟩

/-- A reading of it with a shorter column. -/
def shorterReading : Reading :=
  ⟨"a/b.go".toList, "٣".toList, "0".toList, [], "7err".toList, "::".toList, "x: y".toList⟩

theorem read_grammar_gluedLine :
    (∀ d, IsReading (dropFinalFeed gluedLine) d → d.HasShortNumbers)
      ∧ IsReading (dropFinalFeed gluedLine) gluedReading
      ∧ IsReading (dropFinalFeed gluedLine) shorterReading
      ∧ (∃ r, read gluedLine = .ok (some r))
      ∧ reportIn (dropFinalFeed gluedLine) = ⟨"a/b.go", 3, 7, some .error, "x: y"⟩
      ∧ read gluedLine = .ok (some ⟨"a/b.go", 3, 7, some .error, "x: y"⟩) := by
  have hshort : ∀ d, IsReading (dropFinalFeed gluedLine) d → d.HasShortNumbers :=
    fun d hd => hd.hasShortNumbers (by decide)
  have hglued : IsReading (dropFinalFeed gluedLine) gluedReading :=
    ⟨by decide, List.all_eq_true.mp rfl, by decide, List.all_eq_true.mp rfl,
      List.all_eq_true.mp rfl, List.all_eq_true.mp rfl, List.all_eq_true.mp rfl,
      List.all_eq_true.mp rfl, rfl⟩
  have hshorter : IsReading (dropFinalFeed gluedLine) shorterReading :=
    ⟨by decide, List.all_eq_true.mp rfl, by decide, List.all_eq_true.mp rfl,
      List.all_eq_true.mp rfl, List.all_eq_true.mp rfl, List.all_eq_true.mp rfl,
      List.all_eq_true.mp rfl, rfl⟩
  have hplaces : reportIn (dropFinalFeed gluedLine) = ⟨"a/b.go", 3, 7, some .error, "x: y"⟩ := by
    decide
  obtain ⟨haccepted, hreport⟩ := read_grammar gluedLine hshort
  obtain ⟨r, hr⟩ := haccepted.mpr ⟨by decide, gluedReading, hglued⟩
  refine ⟨hshort, hglued, hshorter, ⟨r, hr⟩, hplaces, ?_⟩
  rw [hr, (hreport r hr).1, hplaces]

end SourceCheck.ReportLine
