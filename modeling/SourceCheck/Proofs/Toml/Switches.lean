import SourceCheck.Proofs.Output.Lines
import SourceCheck.Toml.Reader

/-! # Documents of switches

    A document may consist of empty lines, comments and switches alone.  Each of its lines is read
    for itself (`readStatements_line`), so the document makes the table of its switches, in order
    (`read_switchLines`). -/

namespace SourceCheck

open SourceCheck.Text

/-! ## Texts without carriage returns -/

theorem feedsForPairs_of_no_return {s : List Char} (h : '\r' ∉ s) : feedsForPairs s = s := by
  induction s with
  | nil => rfl
  | cons c s ih =>
    have hc : c ≠ '\r' := fun hc => h (hc ▸ List.mem_cons_self)
    rw [feedsForPairs_cons_of_ne s hc, ih fun hmem => h (List.mem_cons_of_mem c hmem)]

theorem universalLineEnds_of_no_return {s : List Char} (h : '\r' ∉ s) :
    universalLineEnds s = s := by
  -- the state remembers a return, and without one it never changes
  have hkeep : ∀ (t out : List Char), '\r' ∉ t →
      (t.foldl (fun (state : Bool × List Char) c =>
        if c = '\r' then (true, '\n' :: state.2)
        else if c = '\n' && state.1 then (false, state.2) else (false, c :: state.2))
          (false, out)).2 = t.reverse ++ out := by
    intro t
    induction t with
    | nil =>
      intro out _
      rfl
    | cons c t ih =>
      intro out ht
      have hc : c ≠ '\r' := fun hc => ht (hc ▸ List.mem_cons_self)
      rw [List.foldl_cons, if_neg hc, Bool.and_false, if_neg Bool.false_ne_true,
        ih _ fun hmem => ht (List.mem_cons_of_mem c hmem), List.reverse_cons, List.append_assoc]
      rfl
  unfold universalLineEnds
  dsimp only
  rw [hkeep s [] h, List.append_nil, List.reverse_reverse]

end SourceCheck

namespace SourceCheck.Toml

open SourceCheck.Text

/-! ## Lines -/

/-- A line of a document of switches. -/
inductive SwitchLine where
  /-- An empty line. -/
  | blank
  /-- A comment, by what follows its mark. -/
  | comment (text : String)
  /-- A key with a truth value. -/
  | switch (key : String) (b : Bool)

namespace SwitchLine

/-- The word for a truth value. -/
def word (b : Bool) : String := if b then "true" else "false"

/-- The text of a line. -/
def text : SwitchLine → String
  | blank => ""
  | comment text => "#" ++ text
  | switch key b => key ++ " = " ++ word b

/-- The member that a line adds to the table. -/
def member? : SwitchLine → Option (String × Value)
  | blank | comment _ => none
  | switch key b => some (key, .bool b)

/-- A comment holds no control characters, and a key needs no quotes. -/
def isPlain : SwitchLine → Bool
  | blank => true
  | comment text => text.toList.all fun c => !isControl c
  | switch key _ => key ≠ "" ∧ key.toList.all isBareKeyChar

theorem toList_comment (text : String) : (comment text).text.toList = '#' :: text.toList := by
  rw [SwitchLine.text, String.toList_append]
  rfl

theorem toList_switch (key : String) (b : Bool) :
    (switch key b).text.toList = key.toList ++ ' ' :: '=' :: ' ' :: (word b).toList := by
  rw [SwitchLine.text, String.toList_append, String.toList_append, List.append_assoc]
  rfl

theorem isPlain_comment {text : String} :
    (comment text).isPlain = true ↔ ∀ c ∈ text.toList, isControl c = false := by
  simp [isPlain]

theorem isPlain_switch {key : String} {b : Bool} :
    (switch key b).isPlain = true
      ↔ key.toList ≠ [] ∧ ∀ c ∈ key.toList, isBareKeyChar c = true := by
  simp [isPlain]

end SwitchLine

/-- The characters of some lines, each with a line feed behind it. -/
def linesChars (ls : List SwitchLine) : List Char := ls.flatMap fun l => l.text.toList ++ ['\n']

theorem linesChars_cons (l : SwitchLine) (ls : List SwitchLine) :
    linesChars (l :: ls) = l.text.toList ++ '\n' :: linesChars ls := by
  simp [linesChars]

/-- The table that some lines make. -/
def linesMembers (ls : List SwitchLine) : Members := ls.filterMap SwitchLine.member?

/-- Lines that are joined by line feeds, with an empty text behind them. -/
theorem toList_joinWith_lines (ls : List SwitchLine) :
    (joinWith "\n" (ls.map SwitchLine.text ++ [""])).toList = linesChars ls := by
  have hfeed : "\n".toList = ['\n'] := rfl
  induction ls with
  | nil => rfl
  | cons l ls ih =>
    cases hrest : ls.map SwitchLine.text ++ [""] with
    | nil => simp at hrest
    | cons next rest =>
      rw [hrest, toList_joinWith_cons] at ih
      rw [List.map_cons, List.cons_append, hrest, toList_joinWith_cons, linesChars_cons, ← ih,
        List.flatMap_cons, hfeed]
      simp

/-! ## One comment -/

variable {c : Char} {key text rest : List Char} {ms : Members} {fuel : Nat}

theorem ne_feed_of_not_isControl (h : isControl c = false) : c ≠ '\n' := by
  rintro rfl
  exact absurd h (by decide)

theorem takeWhile_ne_feed (h : ∀ c ∈ text, isControl c = false) (rest : List Char) :
    (text ++ '\n' :: rest).takeWhile (· != '\n') = text := by
  rw [List.takeWhile_append_of_pos fun c hc =>
    bne_iff_ne.mpr (ne_feed_of_not_isControl (h c hc))]
  simp

theorem dropWhile_ne_feed (h : ∀ c ∈ text, isControl c = false) (rest : List Char) :
    (text ++ '\n' :: rest).dropWhile (· != '\n') = '\n' :: rest := by
  rw [List.dropWhile_append_of_pos fun c hc =>
    bne_iff_ne.mpr (ne_feed_of_not_isControl (h c hc))]
  simp

theorem checkChars_append (h : ∀ c ∈ text, isControl c = false) (rest : List Char) :
    checkChars isControl text.length (text ++ rest) = .ok () := by
  induction text with
  | nil => rfl
  | cons c text ih =>
    obtain ⟨hc, htext⟩ := List.forall_mem_cons.mp h
    rw [List.length_cons, List.cons_append, checkChars, if_neg (by simp [hc])]
    exact ih htext

theorem skipComment_append (h : ∀ c ∈ text, isControl c = false) (rest : List Char) :
    skipComment ('#' :: text ++ '\n' :: rest) = .ok ('\n' :: rest) := by
  rw [List.cons_append, skipComment, takeWhile_ne_feed h, checkChars_append h, dropWhile_ne_feed h]
  rfl

/-! ## One switch -/

theorem ne_of_isBareKeyChar {d : Char} (hc : isBareKeyChar c = true)
    (hd : isBareKeyChar d = false) : c ≠ d := by
  rintro rfl
  rw [hc] at hd
  contradiction

theorem readKeyPart_append (hne : key ≠ []) (h : ∀ c ∈ key, isBareKeyChar c = true)
    (rest : List Char) :
    readKeyPart (key ++ ' ' :: rest) = .ok (String.ofList key, ' ' :: rest) := by
  have hblank : ¬isBareKeyChar ' ' = true := by decide
  have htake : (key ++ ' ' :: rest).takeWhile isBareKeyChar = key := by
    rw [List.takeWhile_append_of_pos h, List.takeWhile_cons_of_neg hblank, List.append_nil]
  have hdrop : (key ++ ' ' :: rest).dropWhile isBareKeyChar = ' ' :: rest := by
    rw [List.dropWhile_append_of_pos h, List.dropWhile_cons_of_neg hblank]
  obtain ⟨c, key, rfl⟩ := List.exists_cons_of_ne_nil hne
  have hc := h c List.mem_cons_self
  rw [List.cons_append] at htake hdrop ⊢
  -- a key's character opens neither kind of quoted key
  unfold readKeyPart
  split
  · next heq => exact absurd (List.cons.inj heq).1 (ne_of_isBareKeyChar hc (by decide))
  · next heq => exact absurd (List.cons.inj heq).1 (ne_of_isBareKeyChar hc (by decide))
  · next heq =>
    obtain ⟨rfl, -⟩ := List.cons.inj heq
    rw [if_pos hc, htake, hdrop]
  · contradiction

theorem readKeyAndSign_append (hne : key ≠ []) (h : ∀ c ∈ key, isBareKeyChar c = true)
    (rest : List Char) :
    readKeyAndSign (key ++ ' ' :: '=' :: ' ' :: rest)
      = .ok ([String.ofList key], skipGaps rest) := by
  have hgap : skipGaps (' ' :: '=' :: ' ' :: rest) = '=' :: ' ' :: rest := rfl
  unfold readKeyAndSign readKey readKeyWith
  rw [readKeyPart_append hne h]
  dsimp only
  rw [hgap]
  rfl

theorem readValue_word (b : Bool) (fuel : Nat) (rest : List Char) :
    readValue (fuel + 1) ((SwitchLine.word b).toList ++ rest) = .ok (.bool b, rest) := by
  cases b <;> rfl

theorem addValue_nil (hnew : Value.lookup (String.ofList key) ms = none) (v : Value) :
    addValue true [] (String.ofList key) v ms = some (ms ++ [(String.ofList key, v)]) := by
  unfold addValue changeTable
  rw [hnew]

theorem readPair_append (hne : key ≠ []) (h : ∀ c ∈ key, isBareKeyChar c = true)
    (hnew : Value.lookup (String.ofList key) ms = none) (b : Bool) (rest : List Char) :
    readPair ⟨ms, .none, []⟩ (key ++ ' ' :: '=' :: ' ' :: ((SwitchLine.word b).toList ++ rest))
      = .ok (⟨ms ++ [(String.ofList key, .bool b)], .none, []⟩, rest) := by
  have hskip : skipGaps ((SwitchLine.word b).toList ++ rest)
      = (SwitchLine.word b).toList ++ rest := by
    cases b <;> rfl
  unfold readPair
  rw [readKeyAndSign_append hne h, hskip]
  dsimp only
  rw [readValue_word]
  dsimp only
  have hadd := addValue_nil hnew (.bool b)
  simp only [passed, Marks.none, Marks.isComplete, deferPassed, isContainer, List.length_singleton,
    Nat.sub_self, List.range_zero, List.map_nil, List.find?_nil, List.foldl_nil,
    List.dropLast_singleton, List.append_nil, List.any_nil, Bool.false_eq_true, if_false,
    List.getLast?_singleton, Option.getD_some, hadd]

/-! ## All lines -/

theorem skipGaps_cons (hc : isGap c = false) (rest : List Char) :
    skipGaps (c :: rest) = c :: rest :=
  List.dropWhile_cons_of_neg (by simp [hc])

/-- A statement in front of a line feed is read for itself. -/
theorem readStatements_succ {p q : Progress} (hc : isGap c = false) (hfeed : c ≠ '\n')
    (hstatement : readStatement p (c :: text) = .ok (q, key))
    (hcomment : skipComment key = .ok ('\n' :: rest)) :
    readStatements (fuel + 1) p (c :: text) = readStatements fuel q rest := by
  rw [readStatements, skipGaps_cons hc]
  split
  · contradiction
  · next heq => exact absurd (List.cons.inj heq).1 hfeed
  · rw [hstatement]
    simp only [hcomment]

/-- **One line** adds its member to the table. -/
theorem readStatements_line {l : SwitchLine} (hplain : l.isPlain = true)
    (hnew : ∀ name v, l.member? = some (name, v) → Value.lookup name ms = none)
    (fuel : Nat) (rest : List Char) :
    readStatements (fuel + 1) ⟨ms, .none, []⟩ (l.text.toList ++ '\n' :: rest)
      = readStatements fuel ⟨ms ++ l.member?.toList, .none, []⟩ rest := by
  cases l with
  | blank =>
    rw [show SwitchLine.blank.member?.toList = [] from rfl, List.append_nil]
    rfl
  | comment text =>
    have htext := SwitchLine.isPlain_comment.mp hplain
    rw [show (SwitchLine.comment text).member?.toList = [] from rfl, List.append_nil,
      SwitchLine.toList_comment]
    exact readStatements_succ (by decide) (by decide) rfl (skipComment_append htext rest)
  | switch key b =>
    obtain ⟨hne, hkey⟩ := SwitchLine.isPlain_switch.mp hplain
    have hnone : Value.lookup (String.ofList key.toList) ms = none := by
      rw [String.ofList_toList]
      exact hnew _ _ rfl
    have hpair := readPair_append hne hkey hnone b ('\n' :: rest)
    rw [String.ofList_toList] at hpair
    rw [SwitchLine.toList_switch, List.append_assoc]
    obtain ⟨c, more, hchars⟩ := List.exists_cons_of_ne_nil hne
    have hc := hkey c (hchars ▸ List.mem_cons_self)
    -- a key starts with none of the characters that other statements start with
    have hfeed : c ≠ '\n' := ne_of_isBareKeyChar hc (by decide)
    have hgap : isGap c = false := by
      simp [isGap, ne_of_isBareKeyChar hc (d := ' ') (by decide),
        ne_of_isBareKeyChar hc (d := '\t') (by decide)]
    rw [hchars] at hpair ⊢
    have hrest : skipComment ('\n' :: rest) = .ok ('\n' :: rest) := rfl
    refine readStatements_succ hgap hfeed ?_ hrest
    unfold readStatement
    split
    · next heq => exact absurd (List.cons.inj heq).1 (ne_of_isBareKeyChar hc (by decide))
    · next heq => exact absurd (List.cons.inj heq).1 (ne_of_isBareKeyChar hc (by decide))
    · next heq => exact absurd (List.cons.inj heq).1 (ne_of_isBareKeyChar hc (by decide))
    · next heq =>
      obtain ⟨rfl, -⟩ := List.cons.inj heq
      rw [if_pos (by simp [hc])]
      exact congrArg (Except.map _) hpair
    · contradiction

/-! ## Documents -/

/-- The keys of the switches among some lines. -/
def linesKeys (ls : List SwitchLine) : List String := (linesMembers ls).map Prod.fst

/-- **Many lines** add their members to the table, if no key comes twice. -/
theorem readStatements_lines {ls : List SwitchLine} (hplain : ∀ l ∈ ls, l.isPlain = true)
    (hnodup : (ms.map Prod.fst ++ linesKeys ls).Nodup) (hfuel : ls.length ≤ fuel) :
    readStatements fuel ⟨ms, .none, []⟩ (linesChars ls) = .ok (ms ++ linesMembers ls) := by
  induction ls generalizing ms fuel with
  | nil =>
    rw [show linesMembers [] = [] from rfl, List.append_nil]
    cases fuel <;> rfl
  | cons l ls ih =>
    obtain ⟨hl, hls⟩ := List.forall_mem_cons.mp hplain
    obtain ⟨fuel, rfl⟩ : ∃ n, fuel = n + 1 := ⟨fuel - 1, by simp at hfuel; omega⟩
    have hmembers : linesMembers (l :: ls) = l.member?.toList ++ linesMembers ls := by
      unfold linesMembers
      rw [List.filterMap_cons]
      cases l.member? <;> rfl
    -- the names written so far and those to come have no key in common
    have hnew : ∀ name v, l.member? = some (name, v) → Value.lookup name ms = none := by
      intro name v hmember
      refine Value.lookup_eq_none fun hmem => ?_
      have hdisjoint := (List.nodup_append.mp hnodup).2.2 name hmem name
      exact hdisjoint (by simp [linesKeys, hmembers, hmember]) rfl
    rw [linesChars_cons, readStatements_line hl hnew, ih hls ?_ (by simpa using hfuel), hmembers,
      List.append_assoc]
    rw [linesKeys, hmembers] at hnodup
    simpa [linesKeys] using hnodup

theorem length_le_linesChars (ls : List SwitchLine) : ls.length ≤ (linesChars ls).length := by
  induction ls with
  | nil => exact Nat.le_refl 0
  | cons l ls ih =>
    rw [linesChars_cons, List.length_append, List.length_cons, List.length_cons]
    omega

/-- Lines of a document of switches hold no carriage return. -/
theorem not_mem_linesChars {ls : List SwitchLine} (hplain : ∀ l ∈ ls, l.isPlain = true) :
    '\r' ∉ linesChars ls := by
  intro hmem
  obtain ⟨l, hl, hchars⟩ := List.mem_flatMap.mp hmem
  have hown := hplain l hl
  -- a return could only stand in a comment or a key, and neither allows it
  cases l with
  | blank => exact absurd hchars (by decide)
  | comment text =>
    have htext := SwitchLine.isPlain_comment.mp hown
    have hreturn : '\r' ∈ text.toList := by simpa [SwitchLine.toList_comment] using hchars
    exact absurd (htext _ hreturn) (by decide)
  | switch key b =>
    obtain ⟨-, hkey⟩ := SwitchLine.isPlain_switch.mp hown
    have hreturn : '\r' ∈ key.toList := by
      cases b <;> simpa [SwitchLine.toList_switch, SwitchLine.word] using hchars
    exact absurd (hkey _ hreturn) (by decide)

/-- **A document of switches** makes the table of its switches, in order. -/
theorem read_switchLines {ls : List SwitchLine} (hplain : ∀ l ∈ ls, l.isPlain = true)
    (hnodup : (linesKeys ls).Nodup) {s : String} (hs : s.toList = linesChars ls) :
    read s = .ok (linesMembers ls) := by
  have hfold : foldLineEnds s.toList = linesChars ls := by
    rw [hs, foldLineEnds_eq, feedsForPairs_of_no_return (not_mem_linesChars hplain)]
  have hread : readStatements ((linesChars ls).length + 1) ⟨[], .none, []⟩ (linesChars ls)
      = .ok ([] ++ linesMembers ls) :=
    readStatements_lines hplain (by simpa using hnodup)
      (Nat.le_succ_of_le (length_le_linesChars ls))
  unfold read
  rw [hfold]
  dsimp only
  rw [hread, List.nil_append]

end SourceCheck.Toml
