import SourceCheck.Finding.ReportLine
import SourceCheck.Proofs.Number.Digits

/-! # The grammar of reporting lines

    A reporting line is read from left to right, each part taking as much as it can.
    Here a line is put together from its parts and read back: the reading finds the
    same parts, if the column is not followed by a digit (`partsOf_text`).  The
    decimal digits of a number are such parts, so a line with two numbers reports them
    (`read_numbered`). -/

namespace SourceCheck.ReportLine

open SourceCheck.Text SourceCheck.Number

/-! ## Runs of characters -/

/-- A run of characters of a class ends at the first character outside it. -/
theorem takeWhile_run {p : Char → Bool} {run : List Char} {c : Char} (rest : List Char)
    (hrun : ∀ d ∈ run, p d = true) (hc : p c = false) :
    (run ++ c :: rest).takeWhile p = run := by
  rw [List.takeWhile_append_of_pos hrun, List.takeWhile_cons_of_neg (by simp [hc]),
    List.append_nil]

theorem dropWhile_run {p : Char → Bool} {run : List Char} {c : Char} (rest : List Char)
    (hrun : ∀ d ∈ run, p d = true) (hc : p c = false) :
    (run ++ c :: rest).dropWhile p = c :: rest := by
  rw [List.dropWhile_append_of_pos hrun, List.dropWhile_cons_of_neg (by simp [hc])]

theorem isPathChar_colon : isPathChar ':' = false := by decide

theorem isDecimalDigit_colon : isDecimalDigit ':' = false := by decide

theorem isDecimalDigit_blank : isDecimalDigit ' ' = false := by decide

theorem isWordChar_colon : isWordChar ':' = false := by decide

theorem isWordChar_blank : isWordChar ' ' = false := by decide

theorem isColon_blank : isColon ' ' = false := by decide

theorem isColon_of_mem_colon : ∀ c ∈ [':'], isColon c = true := by simp [isColon]

/-- A character of a word is no colon. -/
theorem isColon_of_isWordChar {c : Char} (h : isWordChar c = true) : isColon c = false := by
  cases hc : isColon c
  · rfl
  · have hcolon : c = ':' := by simpa [isColon] using hc
    rw [hcolon, isWordChar_colon] at h
    cases h

/-! ## From the column on -/

/-- Colons around a word: the word is found between them.  Without a word there is
    just one run of colons. -/
theorem word_between_colons {colons word more : List Char} (message : List Char)
    (hcolons : ∀ c ∈ colons, isColon c = true) (hword : ∀ c ∈ word, isWordChar c = true)
    (hmore : ∀ c ∈ more, isColon c = true) :
    ((colons ++ (word ++ (more ++ ' ' :: message))).dropWhile isColon).takeWhile isWordChar
        = word ∧
      (((colons ++ (word ++ (more ++ ' ' :: message))).dropWhile isColon).dropWhile
        isWordChar).dropWhile isColon = ' ' :: message := by
  cases word with
  | nil =>
    rw [List.nil_append, ← List.append_assoc, dropWhile_run message _ isColon_blank]
    · simp [isWordChar_blank, isColon_blank]
    · intro c hc
      rcases List.mem_append.mp hc with hc | hc
      · exact hcolons c hc
      · exact hmore c hc
  | cons w ws =>
    have hw : isColon w = false := isColon_of_isWordChar (hword w List.mem_cons_self)
    rw [List.cons_append, dropWhile_run _ hcolons hw, ← List.cons_append]
    -- what stops the word is the first colon after it, or the blank
    cases more with
    | nil =>
      rw [List.nil_append, takeWhile_run message hword isWordChar_blank,
        dropWhile_run message hword isWordChar_blank]
      simp [isColon_blank]
    | cons m ms =>
      have hm : m = ':' := by simpa [isColon] using hmore m List.mem_cons_self
      have htail : m :: ms ++ ' ' :: message = ':' :: (ms ++ ' ' :: message) := by
        rw [hm]
        rfl
      rw [htail, takeWhile_run _ hword isWordChar_colon, dropWhile_run _ hword isWordChar_colon,
        ← htail, dropWhile_run message hmore isColon_blank]
      exact ⟨rfl, rfl⟩

/-- **The part of a line from the column on is read back**, if no digit follows the
    column. -/
theorem partsFromColumn_text (path line : List Char) {column colons word more : List Char}
    (message : List Char) (hcolumn : ∀ c ∈ column, isDecimalDigit c = true)
    (hcolons : ∀ c ∈ colons, isColon c = true) (hword : ∀ c ∈ word, isWordChar c = true)
    (hmore : ∀ c ∈ more, isColon c = true)
    (hstop : ∀ c, (colons ++ word).head? = some c → isDecimalDigit c = false) :
    partsFromColumn path line (column ++ (colons ++ (word ++ (more ++ ' ' :: message))))
      = some ⟨path, line, column, word, message⟩ := by
  -- the column ends at a colon, at the word or at the blank, none of them a digit
  obtain ⟨c, rest, hrest, hc⟩ : ∃ c rest,
      colons ++ (word ++ (more ++ ' ' :: message)) = c :: rest ∧ isDecimalDigit c = false := by
    rw [← List.append_assoc]
    cases hhead : colons ++ word with
    | cons c rest => exact ⟨c, _, rfl, hstop c (by rw [hhead]; rfl)⟩
    | nil =>
      cases more with
      | nil => exact ⟨' ', message, rfl, isDecimalDigit_blank⟩
      | cons m ms =>
        have hm : m = ':' := by simpa [isColon] using hmore m List.mem_cons_self
        exact ⟨m, _, rfl, hm ▸ isDecimalDigit_colon⟩
  obtain ⟨htake, hdrop⟩ := word_between_colons message hcolons hword hmore
  unfold partsFromColumn
  rw [hrest] at htake hdrop ⊢
  simp only [takeWhile_run rest hcolumn hc, dropWhile_run rest hcolumn hc, htake, hdrop]

/-! ## Whole lines -/

/-- The characters of a line with its parts, and with colons around the word. -/
def textOf (path line column colons word more message : List Char) : List Char :=
  path ++ ':' :: (line ++ ':' :: (column ++ (colons ++ (word ++ (more ++ ' ' :: message)))))

/-- **A line is read back into its parts**, if no digit follows the column. -/
theorem partsOf_text {path line column colons word more : List Char} (message : List Char)
    (hpath : path ≠ []) (hpaths : ∀ c ∈ path, isPathChar c = true)
    (hline : line ≠ []) (hlines : ∀ c ∈ line, isDecimalDigit c = true)
    (hcolumn : ∀ c ∈ column, isDecimalDigit c = true)
    (hcolons : ∀ c ∈ colons, isColon c = true) (hword : ∀ c ∈ word, isWordChar c = true)
    (hmore : ∀ c ∈ more, isColon c = true)
    (hstop : ∀ c, (colons ++ word).head? = some c → isDecimalDigit c = false) :
    partsOf (textOf path line column colons word more message)
      = some ⟨path, line, column, word, message⟩ := by
  have hcolumns := partsFromColumn_text path line message hcolumn hcolons hword hmore hstop
  unfold partsOf textOf
  rw [takeWhile_run _ hpaths isPathChar_colon, dropWhile_run _ hpaths isPathChar_colon]
  simp only [List.isEmpty_iff, hpath, if_false, afterColon]
  rw [takeWhile_run _ hlines isDecimalDigit_colon, dropWhile_run _ hlines isDecimalDigit_colon]
  simp only [hline, if_false]
  exact hcolumns

/-! ## Numbered lines -/

theorem dropFinalFeed_of_not_mem {s : List Char} (h : '\n' ∉ s) : dropFinalFeed s = s := by
  unfold dropFinalFeed
  split
  · next hlast => exact absurd (List.mem_of_getLast? hlast) h
  · rfl

/-- The numbers of a line are read from their digits. -/
theorem ofParts_natDigits (path : List Char) {line column : Nat} (word message : List Char)
    (hline : (natDigits line).length ≤ digitLimit)
    (hcolumn : (natDigits column).length ≤ digitLimit) :
    ofParts ⟨path, natDigits line, natDigits column, word, message⟩
      = .ok ⟨String.ofList path, max line 1, max column 1, severityOf word,
        String.ofList message⟩ := by
  unfold ofParts number
  rw [if_neg (Nat.not_lt.mpr hline), if_neg (Nat.not_lt.mpr hcolumn)]
  simp only [digitsValue_natDigits]

/-- No part of a line holds a line feed, if the message holds none. -/
theorem feed_not_mem_textOf {path colons word more message : List Char} (line column : Nat)
    (hpaths : ∀ c ∈ path, isPathChar c = true) (hcolons : ∀ c ∈ colons, isColon c = true)
    (hword : ∀ c ∈ word, isWordChar c = true) (hmore : ∀ c ∈ more, isColon c = true)
    (hmessage : '\n' ∉ message) :
    '\n' ∉ textOf path (natDigits line) (natDigits column) colons word more message := by
  have hpath : '\n' ∉ path := fun h => absurd (hpaths _ h) (by decide)
  have hdigits : ∀ n, '\n' ∉ natDigits n := fun n h =>
    absurd (isDecimalDigit_of_mem_natDigits h) (by decide)
  have hcolons' : '\n' ∉ colons := fun h => absurd (hcolons _ h) (by decide)
  have hword' : '\n' ∉ word := fun h => absurd (hword _ h) (by decide)
  have hmore' : '\n' ∉ more := fun h => absurd (hmore _ h) (by decide)
  unfold textOf
  simp [hpath, hdigits, hcolons', hword', hmore', hmessage]

/-- **A line with the digits of two numbers reports these numbers**, if none is too long and no
    digit follows the column. -/
theorem read_numbered {path colons word more message : List Char} {line column : Nat}
    (hpath : path ≠ []) (hpaths : ∀ c ∈ path, isPathChar c = true)
    (hline : (natDigits line).length ≤ digitLimit)
    (hcolumn : (natDigits column).length ≤ digitLimit)
    (hcolons : ∀ c ∈ colons, isColon c = true) (hword : ∀ c ∈ word, isWordChar c = true)
    (hmore : ∀ c ∈ more, isColon c = true)
    (hstop : ∀ c, (colons ++ word).head? = some c → isDecimalDigit c = false)
    (hmessage : '\n' ∉ message) :
    read (textOf path (natDigits line) (natDigits column) colons word more message)
      = .ok (some ⟨String.ofList path, max line 1, max column 1, severityOf word,
        String.ofList message⟩) := by
  have hparts := partsOf_text message hpath hpaths (natDigits_ne_nil line)
    (fun c => isDecimalDigit_of_mem_natDigits) (fun c => isDecimalDigit_of_mem_natDigits (n := column))
    hcolons hword hmore hstop
  have hfeed := feed_not_mem_textOf line column hpaths hcolons hword hmore hmessage
  unfold read
  simp only [dropFinalFeed_of_not_mem hfeed, List.contains_iff_mem, hfeed, if_false, hparts,
    ofParts_natDigits path word message hline hcolumn]
  rfl

end SourceCheck.ReportLine
