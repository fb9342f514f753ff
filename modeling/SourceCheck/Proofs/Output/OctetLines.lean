import SourceCheck.Proofs.Output.Segments
import SourceCheck.Proofs.Text.Subparts
import SourceCheck.Tool.Run

/-! # Lines of octets

    A tool writes octets, and they are read as a text before the text is cut into lines.  No octets
    that form no character swallow a line feed or make one: the lines of the text are the lines of
    the octets, each read by itself (`splitAt_decode`).  So what one line holds decides nothing
    about the others (`read_lines`).

    All of this follows from what octets stand for (`Utf8.Decodes`), whatever the reader does to
    find it. -/

namespace SourceCheck

open SourceCheck.Text

namespace Text

/-- Induction over the lines of a text: the last one, and one more in front. -/
theorem lines_induction {α : Type} (feed : α) {P : List α → Prop}
    (last : ∀ l, feed ∉ l → P l)
    (more : ∀ l rest, feed ∉ l → P rest → P (l ++ feed :: rest)) (s : List α) : P s := by
  induction hlength : s.length using Nat.strongRecOn generalizing s with
  | _ n ih =>
    by_cases hfeed : feed ∈ s
    · obtain ⟨l, rest, rfl, hl⟩ := List.eq_append_cons_of_mem hfeed
      refine more l rest hl (ih rest.length ?_ rest rfl)
      rw [← hlength, List.length_append, List.length_cons]
      omega
    · exact last s hfeed

theorem not_mem_of_mem_splitOn {α : Type} [BEq α] [LawfulBEq α] {feed : α} {s piece : List α}
    (h : piece ∈ s.splitOn feed) : feed ∉ piece := by
  induction s using lines_induction feed with
  | last l hl =>
    rw [List.splitOn_eq_singleton hl] at h
    rwa [List.mem_singleton.mp h]
  | more l rest hl ih =>
    rw [List.splitOn_append_cons_self_of_not_mem hl] at h
    rcases List.mem_cons.mp h with rfl | h
    · exact hl
    · exact ih h

/-! ## Octets of line feeds -/

namespace Utf8

/-- The octets of a character that has several are all large. -/
theorem large_of_mem_encodeChar {c : Char} (hc : 0x80 ≤ c.toNat) :
    ∀ b ∈ encodeChar c, 0x80 ≤ b.toNat := by
  have hvalid : c.toNat < 0xD800 ∨ 0xDFFF < c.toNat ∧ c.toNat < 0x110000 := c.valid
  -- every octet of a longer form is a lead or a continuation octet, from 0x80 up
  have hlarge : ∀ n, 0x80 ≤ n → n < 0x100 → 0x80 ≤ n.toUInt8.toNat := by
    intro n hlow hhigh
    rwa [toNat_toUInt8 hhigh]
  unfold encodeChar
  dsimp only
  rw [if_neg (Nat.not_lt.mpr hc)]
  split
  · simp only [List.forall_mem_cons]
    exact ⟨hlarge _ (by omega) (by omega), hlarge _ (by omega) (by omega),
      List.forall_mem_nil _⟩
  split
  · simp only [List.forall_mem_cons]
    exact ⟨hlarge _ (by omega) (by omega), hlarge _ (by omega) (by omega),
      hlarge _ (by omega) (by omega), List.forall_mem_nil _⟩
  · simp only [List.forall_mem_cons]
    exact ⟨hlarge _ (by omega) (by omega), hlarge _ (by omega) (by omega),
      hlarge _ (by omega) (by omega), hlarge _ (by omega) (by omega), List.forall_mem_nil _⟩

/-- The octet of a line feed stands in no other character. -/
theorem eq_feed_of_mem_encodeChar {c : Char} (h : 0x0A ∈ encodeChar c) : c = '\n' := by
  by_cases hc : c.toNat < 0x80
  · have hone : encodeChar c = [c.toNat.toUInt8] := if_pos hc
    rw [hone, List.mem_singleton] at h
    have hvalue := congrArg UInt8.toNat h
    rw [toNat_toUInt8 (by omega)] at hvalue
    rw [← Char.ofNat_toNat c, ← hvalue]
    rfl
  · exact absurd (large_of_mem_encodeChar (Nat.not_lt.mp hc) _ h) (by decide)

theorem encodeChar_feed : encodeChar '\n' = [0x0A] := rfl

/-- **No character reaches over a line feed.** -/
theorem prefix_of_prefix_feed {c : Char} {s octets rest : List UInt8} (hne : octets ≠ [])
    (hc : s <+: encodeChar c) (hs : s <+: octets ++ 0x0A :: rest) : s <+: octets := by
  by_cases hshort : s.length ≤ octets.length
  · exact List.prefix_of_prefix_length_le hs (List.prefix_append _ _) hshort
  · exfalso
    have hlonger : octets ++ [0x0A] <+: s := by
      refine List.prefix_of_prefix_length_le ⟨rest, ?_⟩ hs ?_
      · rw [List.append_assoc, List.singleton_append]
      · rw [List.length_append, List.length_singleton]
        omega
    have hfeed : 0x0A ∈ encodeChar c :=
      (hlonger.trans hc).subset (List.mem_append_right octets List.mem_cons_self)
    -- so the character is the line feed, and it has one octet only
    have hlength := hc.length_le
    rw [eq_feed_of_mem_encodeChar hfeed, encodeChar_feed, List.length_singleton] at hlength
    have hpos := List.length_pos_iff.mpr hne
    omega

theorem IsSubpart.append_feed {run octets : List UInt8} (h : IsSubpart run octets)
    (rest : List UInt8) : IsSubpart run (octets ++ 0x0A :: rest) := by
  have hne : octets ≠ [] := by
    rintro rfl
    exact h.ne_nil (List.prefix_nil.mp h.front)
  exact {
    no_character := fun c hc =>
      h.no_character c (prefix_of_prefix_feed hne (List.prefix_refl _) hc)
    front := h.front.trans (List.prefix_append _ _)
    ne_nil := h.ne_nil
    start := h.start
    maximal := fun s hs ⟨c, hc⟩ => h.maximal s (prefix_of_prefix_feed hne hc hs) ⟨c, hc⟩ }

/-- **A line feed between octets** stands for itself, and what stands before it and after it is
    as it was. -/
theorem Decodes.append_feed {octets rest : List UInt8} {cs ds : List Char}
    (h : Decodes octets cs) (hrest : Decodes rest ds) :
    Decodes (octets ++ 0x0A :: rest) (cs ++ '\n' :: ds) := by
  -- the induction is on what stands before the line feed
  induction h with
  | nil => exact .scalar '\n' hrest
  | scalar c _ ih =>
    rw [List.append_assoc]
    exact .scalar c ih
  | illFormed hrun _ ih =>
    rw [List.append_assoc]
    refine .illFormed ?_ ih
    rw [← List.append_assoc]
    exact hrun.append_feed rest

/-- Octets without line feeds stand for none. -/
theorem Decodes.feed_not_mem {octets : List UInt8} {cs : List Char} (h : Decodes octets cs)
    (hfeed : 0x0A ∉ octets) : '\n' ∉ cs := by
  induction h with
  | nil => exact List.not_mem_nil
  | scalar c _ ih =>
    rw [List.mem_append, not_or] at hfeed
    rw [List.mem_cons, not_or]
    refine ⟨?_, ih hfeed.2⟩
    rintro rfl
    exact hfeed.1 (encodeChar_feed ▸ List.mem_cons_self)
  | illFormed _ _ ih =>
    rw [List.mem_append, not_or] at hfeed
    rw [List.mem_cons, not_or]
    exact ⟨by decide, ih hfeed.2⟩

theorem toList_decode_append_feed (octets rest : List UInt8) :
    (decode (octets ++ 0x0A :: rest)).toList
      = (decode octets).toList ++ '\n' :: (decode rest).toList :=
  (decodes_decode _).unique ((decodes_decode octets).append_feed (decodes_decode rest))

/-- **The lines of a text of octets** are the lines of the octets, each read by itself. -/
theorem splitAt_decode (octets : List UInt8) :
    splitAt '\n' (decode octets) = (octets.splitOn 0x0A).map decode := by
  unfold splitAt
  induction octets using lines_induction (0x0A : UInt8) with
  | last l hl =>
    rw [cutAt_of_not_mem ((decodes_decode l).feed_not_mem hl), List.splitOn_eq_singleton hl]
    simp
  | more l rest hl ih =>
    -- the first line holds no line feed, before it is read and after
    rw [toList_decode_append_feed, cutAt_append_cons,
      cutAt_of_not_mem ((decodes_decode l).feed_not_mem hl), List.map_append, ih,
      List.splitOn_append_cons_self_of_not_mem hl]
    simp

end Utf8

/-! ## Carriage returns -/

/-- A line without the carriage return at its end. -/
def withoutReturn (l : String) : String :=
  if l.toList.getLast? = some '\r' then String.ofList l.toList.dropLast else l

/-- Lines without the carriage returns before their line feeds; the last line has none. -/
def withoutReturns : List String → List String
  | [] => []
  | [l] => [l]
  | l :: rest => withoutReturn l :: withoutReturns rest

theorem withoutReturns_cons {l : String} {rest : List String} (h : rest ≠ []) :
    withoutReturns (l :: rest) = withoutReturn l :: withoutReturns rest := by
  obtain ⟨l', rest, rfl⟩ := List.exists_cons_of_ne_nil h
  rfl

/-- A line that a line feed ends loses the carriage return at its end. -/
theorem feedsForPairs_line {l : List Char} (rest : List Char) (hl : '\n' ∉ l) :
    feedsForPairs (l ++ '\n' :: rest)
      = (withoutReturn (String.ofList l)).toList ++ '\n' :: feedsForPairs rest := by
  unfold withoutReturn
  rw [String.toList_ofList]
  split
  · next hlast =>
    obtain ⟨front, rfl⟩ := List.getLast?_eq_some_iff.mp hlast
    rw [String.toList_ofList, List.dropLast_concat, List.append_assoc]
    exact feedsForPairs_append_pair rest fun hfeed => hl (List.mem_append_left _ hfeed)
  · next hlast =>
    rw [String.toList_ofList]
    exact feedsForPairs_append_feed rest hl hlast

theorem feed_not_mem_withoutReturn {l : List Char} (hl : '\n' ∉ l) :
    '\n' ∉ (withoutReturn (String.ofList l)).toList := by
  unfold withoutReturn
  rw [String.toList_ofList]
  split
  · rw [String.toList_ofList]
    exact fun hfeed => hl (List.dropLast_subset l hfeed)
  · rwa [String.toList_ofList]

/-- **The lines of an output** are the pieces between its line feeds, without the carriage returns
    before line feeds. -/
theorem physicalLines_eq (s : String) : physicalLines s = withoutReturns (splitAt '\n' s) := by
  unfold physicalLines splitAt
  rw [cutAt_eq_splitOn]
  induction s.toList using lines_induction '\n' with
  | last l hl =>
    rw [feedsForPairs_of_not_mem hl, List.splitOn_eq_singleton hl]
    rfl
  | more l rest hl ih =>
    rw [feedsForPairs_line rest hl,
      List.splitOn_append_cons_self_of_not_mem (feed_not_mem_withoutReturn hl),
      List.splitOn_append_cons_self_of_not_mem hl, List.map_cons, List.map_cons, ih,
      withoutReturns_cons (by simp [List.splitOn_ne_nil]), String.ofList_toList]

theorem getElem?_withoutReturns (ls : List String) (j : Nat) :
    (withoutReturns ls)[j]?
      = ls[j]?.map fun l => if j + 1 < ls.length then withoutReturn l else l := by
  induction ls generalizing j with
  | nil => rfl
  | cons l rest ih =>
    -- the last line keeps its return, no line end follows it
    cases rest with
    | nil =>
      cases j with
      | zero => rfl
      | succ j => rfl
    | cons l' rest =>
      rw [withoutReturns_cons (List.cons_ne_nil l' rest)]
      cases j with
      | zero => simp
      | succ j =>
        rw [List.getElem?_cons_succ, List.getElem?_cons_succ, ih]
        simp

end Text

/-! ## What is read of a tool -/

/-- The octets that are read of what a tool wrote. -/
def Invocation.octets (i : Invocation) (output errors : List UInt8) : List UInt8 :=
  if i.readsErrors then errors else output

/-- The text that is read is made of these octets. -/
theorem Invocation.stream_ofEnding (i : Invocation) (status : Int) (output errors : List UInt8)
    (micros : Nat) :
    ∃ o e, Outcome.ofEnding (.finished status output errors micros) = .finished status o e micros
      ∧ i.stream o e = Utf8.decode (i.octets output errors) := by
  refine ⟨_, _, rfl, ?_⟩
  unfold stream octets
  exact (apply_ite Utf8.decode _ _ _).symm

/-! ## One line replaced -/

/-- Octets with other octets in place of line `n`, counted from zero. -/
def replaceLine (octets : List UInt8) (n : Nat) (line : List UInt8) : List UInt8 :=
  [0x0A].intercalate ((octets.splitOn 0x0A).set n line)

theorem splitOn_replaceLine (octets : List UInt8) (n : Nat) {line : List UInt8}
    (hline : 0x0A ∉ line) :
    (replaceLine octets n line).splitOn 0x0A = (octets.splitOn 0x0A).set n line := by
  refine List.splitOn_intercalate 0x0A ?_ ?_
  · intro piece hpiece
    rcases List.mem_or_eq_of_mem_set hpiece with hpiece | rfl
    · exact not_mem_of_mem_splitOn hpiece
    · exact hline
  · rw [ne_eq, List.set_eq_nil_iff]
    exact List.splitOn_ne_nil 0x0A octets

/-- The lines of an output, octet lines read by themselves. -/
theorem physicalLines_decode (octets : List UInt8) :
    physicalLines (Utf8.decode octets)
      = withoutReturns ((octets.splitOn 0x0A).map Utf8.decode) := by
  rw [physicalLines_eq, Utf8.splitAt_decode]

/-- **All other lines stay as they are.** -/
theorem getElem?_physicalLines_replaceLine (octets : List UInt8) {n j : Nat} {line : List UInt8}
    (hline : 0x0A ∉ line) (hj : j ≠ n) :
    (physicalLines (Utf8.decode (replaceLine octets n line)))[j]?
      = (physicalLines (Utf8.decode octets))[j]? := by
  rw [physicalLines_decode, physicalLines_decode, splitOn_replaceLine octets n hline,
    getElem?_withoutReturns, getElem?_withoutReturns, List.getElem?_map, List.getElem?_map,
    List.getElem?_set_ne hj.symm, List.length_map, List.length_map, List.length_set]

theorem mem_findingPositions {ls : List String} {j : Nat} :
    j ∈ findingPositions ls ↔ (ls[j]?.bind reportOf?).isSome = true := by
  unfold findingPositions
  rw [List.mem_filter, List.mem_range]
  -- a position of the list is counted when the line there is a report
  constructor
  · rintro ⟨hj, hfinding⟩
    rw [List.getElem?_eq_getElem hj] at hfinding ⊢
    exact hfinding
  · intro hfinding
    cases hl : ls[j]? with
    | none =>
      rw [hl] at hfinding
      contradiction
    | some l =>
      rw [hl] at hfinding
      exact ⟨(List.getElem?_eq_some_iff.mp hl).1, hfinding⟩

open Utf8 in
/-- **Octets that form no character stay in their line.**  Whatever a tool writes, the text that
    is read shows the characters in its octets, and U+FFFD for each maximal ill-formed run; its
    lines are the lines of the octets, each read by itself.  So octets without a line feed can
    take the place of any line: all other lines stay as they are, the same of them are finding
    lines, and the same is read from them. -/
theorem read_lines :
    (∀ (i : Invocation) (status : Int) (output errors : List UInt8) (micros : Nat), ∃ o e,
        Outcome.ofEnding (.finished status output errors micros) = .finished status o e micros
          ∧ i.stream o e = decode (i.octets output errors))
      ∧ (∀ octets s, decode octets = s ↔ Decodes octets s.toList)
      ∧ (∀ octets, splitAt '\n' (decode octets) = (octets.splitOn 0x0A).map decode)
      ∧ ∀ octets n line, 0x0A ∉ line → ∀ j, j ≠ n →
        (physicalLines (decode (replaceLine octets n line)))[j]?
            = (physicalLines (decode octets))[j]?
          ∧ (j ∈ findingPositions (physicalLines (decode (replaceLine octets n line)))
            ↔ j ∈ findingPositions (physicalLines (decode octets)))
          ∧ (physicalLines (decode (replaceLine octets n line)))[j]?.bind reportOf?
            = (physicalLines (decode octets))[j]?.bind reportOf? := by
  refine ⟨Invocation.stream_ofEnding, fun octets s => decode_eq_iff, splitAt_decode, ?_⟩
  intro octets n line hline j hj
  have hsame := getElem?_physicalLines_replaceLine octets hline hj
  refine ⟨hsame, ?_, by rw [hsame]⟩
  rw [mem_findingPositions, mem_findingPositions, hsame]

/-- A line that ends inside a character, and a line after it. -/
def truncatedOctets : List UInt8 := Utf8.encode "a.go:1:2: " ++ [0xE2, 0x82, 0x0A]
  ++ Utf8.encode "b.go:3: x"

/-- **A character that is cut off by a line feed** leaves the line after it as it is. -/
theorem read_lines_truncatedOctets :
    splitAt '\n' (Utf8.decode truncatedOctets)
        = [Utf8.decode (Utf8.encode "a.go:1:2: " ++ [0xE2, 0x82]), "b.go:3: x"]
      ∧ (physicalLines (Utf8.decode (replaceLine truncatedOctets 0 [0xF0, 0x9F])))[1]?
        = some "b.go:3: x" := by
  have hlines : truncatedOctets.splitOn 0x0A
      = [Utf8.encode "a.go:1:2: " ++ [0xE2, 0x82], Utf8.encode "b.go:3: x"] := by decide
  obtain ⟨-, -, hsplit, hreplaced⟩ := read_lines
  refine ⟨?_, ?_⟩
  · rw [hsplit, hlines, List.map_cons, List.map_cons, List.map_nil, Utf8.decode_encode]
  · rw [(hreplaced truncatedOctets 0 [0xF0, 0x9F] (by decide) 1 (by decide)).1,
      physicalLines_decode, hlines, List.map_cons, List.map_cons, List.map_nil,
      Utf8.decode_encode]
    rfl

end SourceCheck
