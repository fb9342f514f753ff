import Mathlib.Data.List.Induction
import SourceCheck.Text.ShellWords

/-! # Quotations in flag strings

    A string of flags is made of pieces: a character that stands for itself, a backslash with the
    character it keeps, or a whole quotation.  After any string the reader of its words stands
    where the pieces tell (`Stands`, `stands_step`, `stands_foldl`).  So a string cannot be cut into
    words exactly if it ends inside a quotation or after a backslash that keeps nothing
    (`split_eq_openQuotation_iff`, `split_eq_openEscape_iff`).

    Texts can be written as one string, each in single quotes and with blanks between them
    (`WritesWords`).  They are read back as they are (`split_of_writesWords`). -/

namespace SourceCheck.Text.ShellWords

/-! ## Pieces -/

/-- **What may stand between double quotes**: characters other than double quotes and backslashes,
    and backslashes each with the character after it. -/
inductive IsDoubleQuoted : List Char → Prop
  /-- Nothing. -/
  | nil : IsDoubleQuoted []
  /-- One more character. -/
  | character {inside : List Char} {c : Char} (hquote : c ≠ '"') (hbackslash : c ≠ '\\') :
    IsDoubleQuoted inside → IsDoubleQuoted (inside ++ [c])
  /-- One more backslash with the character after it. -/
  | escaped {inside : List Char} (c : Char) :
    IsDoubleQuoted inside → IsDoubleQuoted (inside ++ ['\\', c])

/-- **A whole piece** of a string of flags. -/
inductive IsPiece : List Char → Prop
  /-- A character that is neither a quote nor a backslash. -/
  | character {c : Char} (hsingle : c ≠ '\'') (hdouble : c ≠ '"') (hbackslash : c ≠ '\\') :
    IsPiece [c]
  /-- A backslash with the character it keeps. -/
  | escaped (c : Char) : IsPiece ['\\', c]
  /-- A quotation in single quotes. -/
  | single {inside : List Char} (hinside : '\'' ∉ inside) : IsPiece ('\'' :: (inside ++ ['\'']))
  /-- A quotation in double quotes. -/
  | double {inside : List Char} (hinside : IsDoubleQuoted inside) :
    IsPiece ('"' :: (inside ++ ['"']))

/-- **A string of whole pieces.** -/
inductive IsWhole : List Char → Prop
  /-- It is empty. -/
  | nil : IsWhole []
  /-- One more piece. -/
  | append {before piece : List Char} :
    IsWhole before → IsPiece piece → IsWhole (before ++ piece)

/-- A quotation that does not end. -/
inductive IsOpenQuotation : List Char → Prop
  /-- It is in single quotes. -/
  | single {inside : List Char} (hinside : '\'' ∉ inside) : IsOpenQuotation ('\'' :: inside)
  /-- It is in double quotes. -/
  | double {inside : List Char} (hinside : IsDoubleQuoted inside) : IsOpenQuotation ('"' :: inside)

/-- A backslash with nothing after it. -/
inductive IsOpenEscape : List Char → Prop
  /-- It is outside quotes. -/
  | plain : IsOpenEscape ['\\']
  /-- It is in double quotes. -/
  | double {inside : List Char} (hinside : IsDoubleQuoted inside) :
    IsOpenEscape ('"' :: (inside ++ ['\\']))

/-- **A string ends inside a quotation.** -/
def EndsInQuotation (s : List Char) : Prop :=
  ∃ before rest, IsWhole before ∧ IsOpenQuotation rest ∧ s = before ++ rest

/-- **A string ends after a backslash**, outside quotes or in double quotes. -/
def EndsAfterBackslash (s : List Char) : Prop :=
  ∃ before rest, IsWhole before ∧ IsOpenEscape rest ∧ s = before ++ rest

/-! ## The reader and the pieces -/

/-- **Where the reader stands** after a string, in terms of its pieces. -/
def Stands : Mode → List Char → Prop
  | .between, s | .plain, s => IsWhole s
  | .single, s => ∃ before inside, IsWhole before ∧ '\'' ∉ inside ∧ s = before ++ '\'' :: inside
  | .double, s =>
    ∃ before inside, IsWhole before ∧ IsDoubleQuoted inside ∧ s = before ++ '"' :: inside
  | .escape, s => ∃ before, IsWhole before ∧ s = before ++ ['\\']
  | .doubleEscape, s => ∃ before inside,
      IsWhole before ∧ IsDoubleQuoted inside ∧ s = before ++ '"' :: (inside ++ ['\\'])

variable {p : Progress} {s : List Char} {c : Char}

/-! ### One character -/

theorem step_of_between (h : p.mode = .between) :
    p.step c = if isSeparator c then p else p.enter c := by
  unfold Progress.step
  rw [h]

theorem step_of_plain (h : p.mode = .plain) :
    p.step c = if isSeparator c then ⟨.between, [], p.word.reverse :: p.words⟩ else p.enter c := by
  unfold Progress.step
  rw [h]

theorem step_of_single (h : p.mode = .single) :
    p.step c = if c = '\'' then { p with mode := .plain } else { p with word := c :: p.word } := by
  unfold Progress.step
  rw [h]

theorem step_of_double (h : p.mode = .double) :
    p.step c = if c = '"' then { p with mode := .plain }
      else if c = '\\' then { p with mode := .doubleEscape }
      else { p with word := c :: p.word } := by
  unfold Progress.step
  rw [h]

theorem step_of_escape (h : p.mode = .escape) :
    p.step c = { p with mode := .plain, word := c :: p.word } := by
  unfold Progress.step
  rw [h]

theorem mode_step_of_doubleEscape (h : p.mode = .doubleEscape) : (p.step c).mode = .double := by
  unfold Progress.step
  rw [h]
  dsimp only
  split
  · rfl
  · rfl

theorem not_special_of_isSeparator (h : isSeparator c = true) :
    c ≠ '\'' ∧ c ≠ '"' ∧ c ≠ '\\' := by
  refine ⟨?_, ?_, ?_⟩ <;> (rintro rfl; contradiction)

theorem stands_enter (h : IsWhole s) (c : Char) : Stands (p.enter c).mode (s ++ [c]) := by
  unfold Progress.enter
  by_cases hbackslash : c = '\\'
  · subst hbackslash
    exact ⟨s, h, rfl⟩
  by_cases hsingle : c = '\''
  · subst hsingle
    exact ⟨s, [], h, List.not_mem_nil, rfl⟩
  by_cases hdouble : c = '"'
  · subst hdouble
    exact ⟨s, [], h, .nil, rfl⟩
  rw [if_neg hbackslash, if_neg hsingle, if_neg hdouble]
  exact .append h (.character hsingle hdouble hbackslash)

theorem IsWhole.separator (h : IsWhole s) (hc : isSeparator c = true) : IsWhole (s ++ [c]) := by
  obtain ⟨hsingle, hdouble, hbackslash⟩ := not_special_of_isSeparator hc
  exact .append h (.character hsingle hdouble hbackslash)

/-- **One character** takes the reader to where it stands after the longer string. -/
theorem stands_step (h : Stands p.mode s) (c : Char) : Stands (p.step c).mode (s ++ [c]) := by
  -- one case per mode; in each the character read either ends the piece or joins it
  cases hmode : p.mode with
  | between =>
    rw [hmode] at h
    rw [step_of_between hmode]
    split
    · next hseparator =>
      rw [hmode]
      exact h.separator hseparator
    · exact stands_enter h c
  | plain =>
    rw [hmode] at h
    rw [step_of_plain hmode]
    split
    · next hseparator => exact h.separator hseparator
    · exact stands_enter h c
  | single =>
    rw [hmode] at h
    obtain ⟨before, inside, hbefore, hinside, rfl⟩ := h
    rw [step_of_single hmode, List.append_assoc, List.cons_append]
    split
    · next hquote =>
      subst hquote
      exact .append hbefore (.single hinside)
    · next hquote =>
      dsimp only
      rw [hmode]
      refine ⟨before, inside ++ [c], hbefore, ?_, rfl⟩
      rw [List.mem_append, List.mem_singleton]
      exact not_or.mpr ⟨hinside, fun hc => hquote hc.symm⟩
  | double =>
    rw [hmode] at h
    obtain ⟨before, inside, hbefore, hinside, rfl⟩ := h
    rw [step_of_double hmode, List.append_assoc, List.cons_append]
    split
    · next hquote =>
      subst hquote
      exact .append hbefore (.double hinside)
    · next hquote =>
      split
      · next hbackslash =>
        subst hbackslash
        exact ⟨before, inside, hbefore, hinside, rfl⟩
      · next hbackslash =>
        dsimp only
        rw [hmode]
        exact ⟨before, inside ++ [c], hbefore, .character hquote hbackslash hinside, rfl⟩
  | escape =>
    rw [hmode] at h
    obtain ⟨before, hbefore, rfl⟩ := h
    rw [step_of_escape hmode, List.append_assoc]
    exact .append hbefore (.escaped c)
  | doubleEscape =>
    rw [hmode] at h
    obtain ⟨before, inside, hbefore, hinside, rfl⟩ := h
    rw [mode_step_of_doubleEscape hmode]
    refine ⟨before, inside ++ ['\\', c], hbefore, .escaped c hinside, ?_⟩
    simp

/-! ### Strings -/

/-- **After any string** the reader stands where the pieces tell. -/
theorem stands_foldl (s : List Char) (words : List (List Char)) :
    Stands (s.foldl Progress.step ⟨.between, [], words⟩).mode s := by
  induction s using List.reverseRecOn with
  | nil => exact .nil
  | append_singleton s c ih =>
    rw [List.foldl_append]
    exact stands_step ih c

/-- The reader is outside quotes. -/
def Mode.IsOutside (m : Mode) : Prop := m = .between ∨ m = .plain

theorem step_of_isOutside (h : p.mode.IsOutside) (hc : isSeparator c = false) :
    p.step c = p.enter c := by
  rcases h with hmode | hmode
  · rw [step_of_between hmode, hc]
    rfl
  · rw [step_of_plain hmode, hc]
    rfl

theorem isOutside_step (h : p.mode.IsOutside) (hsingle : c ≠ '\'') (hdouble : c ≠ '"')
    (hbackslash : c ≠ '\\') : (p.step c).mode.IsOutside := by
  cases hc : isSeparator c with
  | true =>
    rcases h with hmode | hmode
    · rw [step_of_between hmode, hc]
      exact .inl hmode
    · rw [step_of_plain hmode, hc]
      exact .inl rfl
  | false =>
    rw [step_of_isOutside h hc]
    unfold Progress.enter
    rw [if_neg hbackslash, if_neg hsingle, if_neg hdouble]
    exact .inr rfl

theorem foldl_single {inside : List Char} (hmode : p.mode = .single) (hinside : '\'' ∉ inside) :
    (inside.foldl Progress.step p).mode = .single := by
  induction inside generalizing p with
  | nil => exact hmode
  | cons c rest ih =>
    obtain ⟨hc, hrest⟩ := not_or.mp (List.mem_cons.not.mp hinside)
    refine ih ?_ hrest
    rw [step_of_single hmode, if_neg (Ne.symm hc)]
    exact hmode

theorem foldl_double {inside : List Char} (hmode : p.mode = .double)
    (hinside : IsDoubleQuoted inside) : (inside.foldl Progress.step p).mode = .double := by
  induction hinside with
  | nil => exact hmode
  | character hquote hbackslash _ ih =>
    rw [List.foldl_append, List.foldl_cons, List.foldl_nil, step_of_double ih, if_neg hquote,
      if_neg hbackslash]
    exact ih
  | escaped c _ ih =>
    rw [List.foldl_append, List.foldl_cons, List.foldl_cons, List.foldl_nil]
    refine mode_step_of_doubleEscape ?_
    rw [step_of_double ih]
    rfl

theorem mode_step_backslash (h : p.mode.IsOutside) : (p.step '\\').mode = .escape := by
  rw [step_of_isOutside h rfl]
  rfl

theorem mode_step_singleQuote (h : p.mode.IsOutside) : (p.step '\'').mode = .single := by
  rw [step_of_isOutside h rfl]
  rfl

theorem mode_step_doubleQuote (h : p.mode.IsOutside) : (p.step '"').mode = .double := by
  rw [step_of_isOutside h rfl]
  rfl

/-- A whole piece leaves the reader outside quotes. -/
theorem isOutside_piece {piece : List Char} (h : p.mode.IsOutside) (hpiece : IsPiece piece) :
    (piece.foldl Progress.step p).mode.IsOutside := by
  cases hpiece with
  | character hsingle hdouble hbackslash => exact isOutside_step h hsingle hdouble hbackslash
  | escaped c =>
    rw [List.foldl_cons, List.foldl_cons, List.foldl_nil, step_of_escape (mode_step_backslash h)]
    exact .inr rfl
  | single hinside =>
    rw [List.foldl_cons, List.foldl_append, List.foldl_cons, List.foldl_nil,
      step_of_single (foldl_single (mode_step_singleQuote h) hinside)]
    exact .inr rfl
  | double hinside =>
    rw [List.foldl_cons, List.foldl_append, List.foldl_cons, List.foldl_nil,
      step_of_double (foldl_double (mode_step_doubleQuote h) hinside)]
    exact .inr rfl

theorem isOutside_whole (hs : IsWhole s) (words : List (List Char)) :
    (s.foldl Progress.step ⟨.between, [], words⟩).mode.IsOutside := by
  induction hs with
  | nil => exact .inl rfl
  | append _ hpiece ih =>
    rw [List.foldl_append]
    exact isOutside_piece ih hpiece

theorem mode_of_openQuotation {rest : List Char} (h : p.mode.IsOutside)
    (hrest : IsOpenQuotation rest) :
    (rest.foldl Progress.step p).mode = .single ∨ (rest.foldl Progress.step p).mode = .double := by
  cases hrest with
  | single hinside =>
    rw [List.foldl_cons]
    exact .inl (foldl_single (mode_step_singleQuote h) hinside)
  | double hinside =>
    rw [List.foldl_cons]
    exact .inr (foldl_double (mode_step_doubleQuote h) hinside)

theorem mode_of_openEscape {rest : List Char} (h : p.mode.IsOutside) (hrest : IsOpenEscape rest) :
    (rest.foldl Progress.step p).mode = .escape
      ∨ (rest.foldl Progress.step p).mode = .doubleEscape := by
  cases hrest with
  | plain => exact .inl (mode_step_backslash h)
  | double hinside =>
    right
    rw [List.foldl_cons, List.foldl_append, List.foldl_cons, List.foldl_nil,
      step_of_double (foldl_double (mode_step_doubleQuote h) hinside)]
    rfl

/-! ## Strings that cannot be cut into words -/

theorem finish_eq_openQuotation_iff :
    p.finish = .error .openQuotation ↔ p.mode = .single ∨ p.mode = .double := by
  unfold Progress.finish
  cases p.mode <;> simp

theorem finish_eq_openEscape_iff :
    p.finish = .error .openEscape ↔ p.mode = .escape ∨ p.mode = .doubleEscape := by
  unfold Progress.finish
  cases p.mode <;> simp

/-- **A string is refused as an open quotation** just if it ends inside a quotation. -/
theorem split_eq_openQuotation_iff {s : String} :
    split s = .error .openQuotation ↔ EndsInQuotation s.toList := by
  unfold split
  rw [finish_eq_openQuotation_iff]
  -- the mode at the end says what the text ends in, and what it ends in fixes the mode
  constructor
  · have hstands := stands_foldl s.toList []
    rintro (hmode | hmode)
    · rw [hmode] at hstands
      obtain ⟨before, inside, hbefore, hinside, hs⟩ := hstands
      exact ⟨before, _, hbefore, .single hinside, hs⟩
    · rw [hmode] at hstands
      obtain ⟨before, inside, hbefore, hinside, hs⟩ := hstands
      exact ⟨before, _, hbefore, .double hinside, hs⟩
  · rintro ⟨before, rest, hbefore, hrest, hs⟩
    rw [hs, List.foldl_append]
    exact mode_of_openQuotation (isOutside_whole hbefore []) hrest

/-- **A string is refused as an open escape** just if it ends after a backslash. -/
theorem split_eq_openEscape_iff {s : String} :
    split s = .error .openEscape ↔ EndsAfterBackslash s.toList := by
  unfold split
  rw [finish_eq_openEscape_iff]
  -- a backslash stands open in both modes of escape, outside quotes and in double ones
  constructor
  · have hstands := stands_foldl s.toList []
    rintro (hmode | hmode)
    · rw [hmode] at hstands
      obtain ⟨before, hbefore, hs⟩ := hstands
      exact ⟨before, _, hbefore, .plain, hs⟩
    · rw [hmode] at hstands
      obtain ⟨before, inside, hbefore, hinside, hs⟩ := hstands
      exact ⟨before, _, hbefore, .double hinside, hs⟩
  · rintro ⟨before, rest, hbefore, hrest, hs⟩
    rw [hs, List.foldl_append]
    exact mode_of_openEscape (isOutside_whole hbefore []) hrest

/-! ## Texts in single quotes -/

/-- A text in single quotes.  The single quotes in it are put in double quotes between the end of
    one quotation and the start of the next. -/
def inQuotes (word : String) : List Char :=
  '\'' :: (word.toList.flatMap (fun c =>
    if c = '\'' then ['\'', '"', '\'', '"', '\''] else [c]) ++ ['\''])

/-- **Texts are written as one string**: each is in single quotes, and any blanks, but at least
    one, are between one and the next. -/
inductive WritesWords : List String → List Char → Prop
  /-- No text is written as the empty string. -/
  | nil : WritesWords [] []
  /-- One text. -/
  | singleton (word : String) : WritesWords [word] (inQuotes word)
  /-- One text before others. -/
  | cons (word : String) {gap : List Char} {next : String} {words : List String} {s : List Char}
      (hne : gap ≠ []) (hgap : ∀ c ∈ gap, isSeparator c = true) :
    WritesWords (next :: words) s → WritesWords (word :: next :: words) (inQuotes word ++ gap ++ s)

/-- Between single quotes, a text is read as it was before it was written. -/
theorem foldl_inside (cs : List Char) (word : List Char) (words : List (List Char)) :
    (cs.flatMap fun c => if c = '\'' then ['\'', '"', '\'', '"', '\''] else [c]).foldl Progress.step
      ⟨.single, word, words⟩ = ⟨.single, cs.reverse ++ word, words⟩ := by
  induction cs generalizing word with
  | nil => rfl
  | cons c rest ih =>
    have hc : (if c = '\'' then ['\'', '"', '\'', '"', '\''] else [c]).foldl Progress.step
        ⟨.single, word, words⟩ = ⟨.single, c :: word, words⟩ := by
      split
      · next hquote =>
        subst hquote
        rfl
      · next hquote =>
        rw [List.foldl_cons, List.foldl_nil, step_of_single rfl, if_neg hquote]
    rw [List.flatMap_cons, List.foldl_append, hc, ih, List.reverse_cons, List.append_assoc]
    rfl

/-- A text in single quotes is read as one word. -/
theorem foldl_inQuotes (word : String) (words : List (List Char)) :
    (inQuotes word).foldl Progress.step ⟨.between, [], words⟩
      = ⟨.plain, word.toList.reverse, words⟩ := by
  have hopen : Progress.step ⟨.between, [], words⟩ '\'' = ⟨.single, [], words⟩ := rfl
  unfold inQuotes
  rw [List.foldl_cons, hopen, List.foldl_append, foldl_inside, List.append_nil]
  rfl

/-- Blanks end a word. -/
theorem foldl_gap {gap : List Char} (hne : gap ≠ []) (hgap : ∀ c ∈ gap, isSeparator c = true)
    (word : List Char) (words : List (List Char)) :
    gap.foldl Progress.step ⟨.plain, word, words⟩ = ⟨.between, [], word.reverse :: words⟩ := by
  cases gap with
  | nil => exact absurd rfl hne
  | cons c rest =>
    obtain ⟨hc, hrest⟩ := List.forall_mem_cons.mp hgap
    rw [List.foldl_cons, step_of_plain rfl, if_pos hc]
    clear hne hgap
    -- more blanks change nothing
    induction rest with
    | nil => rfl
    | cons d rest ih =>
      obtain ⟨hd, hrest⟩ := List.forall_mem_cons.mp hrest
      rw [List.foldl_cons, step_of_between rfl, if_pos hd, ih hrest]

theorem finish_foldl_of_writesWords {words : List String} {s : List Char} (h : WritesWords words s)
    (before : List (List Char)) :
    (s.foldl Progress.step ⟨.between, [], before⟩).finish
      = .ok (before.reverse.map String.ofList ++ words) := by
  induction h generalizing before with
  | nil =>
    rw [List.append_nil]
    rfl
  | singleton word =>
    rw [foldl_inQuotes]
    unfold Progress.finish
    simp
  | cons word hne hgap _ ih =>
    rw [List.foldl_append, List.foldl_append, foldl_inQuotes, foldl_gap hne hgap, ih]
    simp

/-- **Texts that are written as one string** are its words. -/
theorem split_of_writesWords {words : List String} {s : String} (h : WritesWords words s.toList) :
    split s = .ok words := finish_foldl_of_writesWords h []

end SourceCheck.Text.ShellWords
