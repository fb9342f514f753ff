import SourceCheck.Text.Lines

/-! # The lines of an output

    An output is read in one pass that drops carriage returns before line feeds and
    is then cut at the line feeds.  Here both are tied to a description without a
    state: every carriage return and line feed is replaced by a line feed
    (`feedsForPairs`), and the lines are the pieces between line feeds
    (`physicalLines`).

    Lines that hold no line feed and do not end in a carriage return can be put
    together again with any mix of the two line ends (`joinLines`) and read back
    (`physicalLines_joinLines`).  Texts that are joined by a separator have the pieces of each
    of them (`splitAt_joinWith`). -/

namespace SourceCheck.Text

/-! ## Line ends -/

/-- A text in which every carriage return and line feed is replaced by a line feed. -/
def feedsForPairs : List Char → List Char
  | [] => []
  | '\r' :: '\n' :: s => '\n' :: feedsForPairs s
  | c :: s => c :: feedsForPairs s

@[simp] theorem feedsForPairs_nil : feedsForPairs [] = [] := rfl

@[simp] theorem feedsForPairs_pair (s : List Char) :
    feedsForPairs ('\r' :: '\n' :: s) = '\n' :: feedsForPairs s := rfl

/-- A character that does not open a pair stays as it is. -/
theorem feedsForPairs_cons (c : Char) (s : List Char)
    (h : c = '\r' → s.head? ≠ some '\n') :
    feedsForPairs (c :: s) = c :: feedsForPairs s := by
  rw [feedsForPairs]
  intro rest hc hs
  exact h hc (by rw [hs]; rfl)

theorem feedsForPairs_cons_of_ne {c : Char} (s : List Char) (h : c ≠ '\r') :
    feedsForPairs (c :: s) = c :: feedsForPairs s :=
  feedsForPairs_cons c s fun hc => absurd hc h

/-- A text without line feeds has no pairs. -/
theorem feedsForPairs_of_not_mem {s : List Char} (h : '\n' ∉ s) : feedsForPairs s = s := by
  induction s with
  | nil => rfl
  | cons c s ih =>
    have hs : '\n' ∉ s := fun hmem => h (List.mem_cons_of_mem c hmem)
    have hhead : s.head? ≠ some '\n' := fun hhead => hs (List.mem_of_head? hhead)
    rw [feedsForPairs_cons c s fun _ => hhead, ih hs]

/-- **A line feed between two texts** forms a pair only with a carriage return at the end of the
    first. -/
theorem feedsForPairs_append_cons {s : List Char} (rest : List Char)
    (hlast : s.getLast? ≠ some '\r') :
    feedsForPairs (s ++ '\n' :: rest) = feedsForPairs s ++ '\n' :: feedsForPairs rest := by
  fun_induction feedsForPairs s with
  | case1 => exact feedsForPairs_cons_of_ne rest (by decide)
  | case2 s ih =>
    -- the pair is a line feed to what comes after it
    have hrest : s.getLast? ≠ some '\r' := by
      intro h
      rw [List.getLast?_cons_cons, List.getLast?_cons, h] at hlast
      exact hlast rfl
    rw [List.cons_append, List.cons_append, feedsForPairs_pair, ih hrest, List.cons_append]
  | case3 c s hpair ih =>
    cases s with
    | nil =>
      have hc : c ≠ '\r' := fun hc => hlast (by rw [hc]; rfl)
      rw [List.singleton_append, feedsForPairs_cons_of_ne _ hc,
        feedsForPairs_cons_of_ne _ (by decide)]
      rfl
    | cons d s =>
      have hrest := ih (by rwa [List.getLast?_cons_cons] at hlast)
      rw [List.cons_append, feedsForPairs_cons, hrest]
      · rfl
      · intro hc hhead
        exact hpair s hc (by rw [Option.some.inj hhead])

/-- A line that a line feed ends stays as it is, unless its last character is a
    carriage return. -/
theorem feedsForPairs_append_feed {s : List Char} (rest : List Char) (hfeed : '\n' ∉ s)
    (hlast : s.getLast? ≠ some '\r') :
    feedsForPairs (s ++ '\n' :: rest) = s ++ '\n' :: feedsForPairs rest := by
  rw [feedsForPairs_append_cons rest hlast, feedsForPairs_of_not_mem hfeed]

/-- A line that a carriage return and line feed ends loses the carriage return. -/
theorem feedsForPairs_append_pair {s : List Char} (rest : List Char) (hfeed : '\n' ∉ s) :
    feedsForPairs (s ++ '\r' :: '\n' :: rest) = s ++ '\n' :: feedsForPairs rest := by
  induction s with
  | nil => rfl
  | cons c s ih =>
    have hs : '\n' ∉ s := fun hmem => hfeed (List.mem_cons_of_mem c hmem)
    rw [List.cons_append, feedsForPairs_cons, ih hs]
    · rfl
    · intro _ hhead
      cases s with
      | nil => cases hhead
      | cons d s => exact hs (Option.some.inj hhead ▸ List.mem_cons_self)

/-! ## The pass over line ends -/

/-- What the pass owes to a state: what was written, and the rest of the text with the
    carriage return that is still held in front of it. -/
theorem lineEndsDone_foldl (s : List Char) (held : Bool) (out : List Char) :
    lineEndsDone (s.foldl lineEndStep (held, out))
      = out.reverse ++ feedsForPairs (if held then '\r' :: s else s) := by
  induction s generalizing held out with
  | nil =>
    cases held
    · simp [lineEndsDone]
    · simp [lineEndsDone, feedsForPairs_of_not_mem]
  | cons c s ih =>
    -- a return is held back, a feed drops the one that is held, any other character
    -- writes it
    by_cases hreturn : c = '\r'
    · subst hreturn
      rw [List.foldl_cons, show lineEndStep (held, out) '\r'
        = (true, if held then '\r' :: out else out) from rfl, ih]
      cases held
      · rfl
      · simp [feedsForPairs_cons '\r' ('\r' :: s) (by simp)]
    · by_cases hfeed : c = '\n'
      · subst hfeed
        have hstep : lineEndStep (held, out) '\n' = (false, '\n' :: out) := by
          cases held <;> rfl
        rw [List.foldl_cons, hstep, ih]
        cases held <;> simp [feedsForPairs_cons_of_ne]
      · have hkeep := feedsForPairs_cons_of_ne s hreturn
        cases held
        · simp [lineEndStep, hreturn, ih, hkeep]
        · have hheld := feedsForPairs_cons '\r' (c :: s) (by simp [hfeed])
          simp [lineEndStep, hreturn, hfeed, ih, hkeep, hheld]

theorem foldLineEnds_eq (s : List Char) : foldLineEnds s = feedsForPairs s := by
  have h := lineEndsDone_foldl s false []
  simpa [foldLineEnds] using h

/-! ## Cutting -/

theorem cutAt_cons_of_ne {separator c : Char} {s piece : List Char} {rest : List (List Char)}
    (hc : c ≠ separator) (hcut : cutAt separator s = piece :: rest) :
    cutAt separator (c :: s) = (c :: piece) :: rest := by
  unfold cutAt at hcut ⊢
  rw [List.foldr_cons, if_neg hc, hcut]

theorem cutAt_eq_splitOn (separator : Char) (s : List Char) :
    cutAt separator s = s.splitOn separator := by
  induction s with
  | nil => rfl
  | cons c s ih =>
    rw [List.splitOn_cons_eq_if_modifyHead, ← ih]
    by_cases hc : c = separator
    · rw [hc, cutAt_cons_self]
      simp
    · obtain ⟨piece, rest, hcut⟩ := List.exists_cons_of_ne_nil (cutAt_ne_nil separator s)
      rw [cutAt_cons_of_ne hc hcut, hcut]
      simp [hc]

theorem not_mem_of_mem_cutAt {separator : Char} {s piece : List Char}
    (h : piece ∈ cutAt separator s) : separator ∉ piece := by
  induction s generalizing piece with
  | nil =>
    rw [cutAt_nil] at h
    rw [List.mem_singleton.mp h]
    exact List.not_mem_nil
  | cons c s ih =>
    by_cases hc : c = separator
    · rw [hc, cutAt_cons_self] at h
      rcases List.mem_cons.mp h with rfl | h
      · exact List.not_mem_nil
      · exact ih h
    · -- the character goes in front of the first piece of what follows it
      obtain ⟨first, rest, hcut⟩ := List.exists_cons_of_ne_nil (cutAt_ne_nil separator s)
      rw [cutAt_cons_of_ne hc hcut] at h
      rcases List.mem_cons.mp h with rfl | h
      · intro hmem
        rcases List.mem_cons.mp hmem with hsep | hmem
        · exact hc hsep.symm
        · exact ih (hcut ▸ List.mem_cons_self) hmem
      · exact ih (hcut ▸ List.mem_cons_of_mem first h)

theorem cutAt_of_not_mem {separator : Char} {s : List Char} (h : separator ∉ s) :
    cutAt separator s = [s] := by
  rw [cutAt_eq_splitOn]
  exact List.splitOn_eq_singleton h

theorem cutAt_append_cons (separator : Char) (s t : List Char) :
    cutAt separator (s ++ separator :: t) = cutAt separator s ++ cutAt separator t := by
  rw [cutAt_eq_splitOn, cutAt_eq_splitOn, cutAt_eq_splitOn]
  exact List.splitOn_append_cons_self s t

/-- A text without the separator goes in front of the first piece of what follows it. -/
theorem cutAt_append_of_not_mem {separator : Char} {s t piece : List Char}
    {rest : List (List Char)} (h : separator ∉ s) (hcut : cutAt separator t = piece :: rest) :
    cutAt separator (s ++ t) = (s ++ piece) :: rest := by
  induction s with
  | nil => exact hcut
  | cons c s ih =>
    have hc : c ≠ separator := fun hc => h (hc ▸ List.mem_cons_self)
    have hs : separator ∉ s := fun hmem => h (List.mem_cons_of_mem c hmem)
    exact cutAt_cons_of_ne hc (ih hs)

/-- The lines of an output: the pieces between its line feeds, once every carriage
    return and line feed is replaced by a line feed. -/
def physicalLines (s : String) : List String :=
  ((feedsForPairs s.toList).splitOn '\n').map String.ofList

theorem outputLines_eq_physicalLines (s : String) : outputLines s = physicalLines s := by
  unfold outputLines physicalLines
  rw [foldLineEnds_eq, cutAt_eq_splitOn]

/-- **The lines of two texts with a line feed between them** are those of the one and then those of
    the other, unless the first ends in a carriage return. -/
theorem physicalLines_append_feed {a : String} (b : String)
    (hlast : a.toList.getLast? ≠ some '\r') :
    physicalLines (a ++ "\n" ++ b) = physicalLines a ++ physicalLines b := by
  have hfeed : "\n".toList = ['\n'] := rfl
  unfold physicalLines
  rw [String.toList_append, String.toList_append, hfeed, List.append_assoc, List.singleton_append,
    feedsForPairs_append_cons b.toList hlast, List.splitOn_append_cons_self, List.map_append]

/-! ## Joining -/

theorem toList_joinWith_cons (separator first : String) (rest : List String) :
    (joinWith separator (first :: rest)).toList
      = first.toList ++ rest.flatMap fun piece => separator.toList ++ piece.toList := by
  unfold joinWith
  rw [String.toList_ofList, List.map_cons]
  induction rest generalizing first with
  | nil => simp [List.intercalate]
  | cons piece rest ih =>
    have hrest := ih piece
    rw [List.map_cons, List.flatMap_cons, List.append_assoc, ← hrest]
    simp [List.intercalate, List.intersperse]

/-- What stands between two lines. -/
inductive LineEnd where
  /-- A line feed. -/
  | feed
  /-- A carriage return and line feed. -/
  | pair
  deriving DecidableEq, Repr

/-- The characters of a line end. -/
def LineEnd.chars : LineEnd → List Char
  | .feed => ['\n']
  | .pair => ['\r', '\n']

/-- Lines put one after the other, with the line end `ends k` after line `k`. -/
def joinChars (ends : Nat → LineEnd) : List (List Char) → List Char
  | [] => []
  | [l] => l
  | l :: rest => l ++ (ends 0).chars ++ joinChars (fun k => ends (k + 1)) rest

/-- Lines put one after the other, as a text. -/
def joinLines (ends : Nat → LineEnd) (ls : List String) : String :=
  String.ofList (joinChars ends (ls.map String.toList))

/-- A line without line feeds and without a carriage return at its end. -/
structure IsPlainLine (l : List Char) : Prop where
  no_feed : '\n' ∉ l
  no_return : l.getLast? ≠ some '\r'

theorem feedsForPairs_append_lineEnd {l : List Char} (hl : IsPlainLine l) (e : LineEnd)
    (rest : List Char) :
    feedsForPairs (l ++ e.chars ++ rest) = l ++ '\n' :: feedsForPairs rest := by
  cases e with
  | feed =>
    rw [LineEnd.chars, List.append_assoc]
    exact feedsForPairs_append_feed rest hl.no_feed hl.no_return
  | pair =>
    rw [LineEnd.chars, List.append_assoc]
    exact feedsForPairs_append_pair rest hl.no_feed

theorem splitOn_joinChars (ends : Nat → LineEnd) {ls : List (List Char)} (hne : ls ≠ [])
    (hls : ∀ l ∈ ls, IsPlainLine l) :
    (feedsForPairs (joinChars ends ls)).splitOn '\n' = ls := by
  induction ls generalizing ends with
  | nil => exact absurd rfl hne
  | cons l rest ih =>
    have hl := hls l List.mem_cons_self
    cases rest with
    | nil => rw [joinChars, feedsForPairs_of_not_mem hl.no_feed,
        List.splitOn_eq_singleton hl.no_feed]
    | cons l' rest =>
      have hrest := ih (fun k => ends (k + 1)) (by simp)
        fun m hm => hls m (List.mem_cons_of_mem l hm)
      rw [joinChars, feedsForPairs_append_lineEnd hl,
        List.splitOn_append_cons_self_of_not_mem hl.no_feed, hrest]
      simp

/-- **Lines can be joined with any mix of line ends and read back.** -/
theorem physicalLines_joinLines (ends : Nat → LineEnd) {ls : List String} (hne : ls ≠ [])
    (hls : ∀ l ∈ ls, IsPlainLine l.toList) : physicalLines (joinLines ends ls) = ls := by
  unfold physicalLines joinLines
  rw [String.toList_ofList, splitOn_joinChars ends (by simpa using hne)]
  · simp
  · intro l hl
    obtain ⟨s, hs, rfl⟩ := List.mem_map.mp hl
    exact hls s hs

/-! ## Texts of several lines -/

theorem joinChars_feed (ls : List (List Char)) :
    joinChars (fun _ => .feed) ls = ['\n'].intercalate ls := by
  induction ls with
  | nil => rfl
  | cons l rest ih =>
    cases rest with
    | nil => simp [joinChars]
    | cons l' rest =>
      rw [joinChars, ih, LineEnd.chars, List.intercalate_cons_cons]
      exact List.cons_ne_nil l' rest

theorem joinLines_feed (ls : List String) : joinLines (fun _ => .feed) ls = joinWith "\n" ls := by
  unfold joinLines joinWith
  rw [joinChars_feed]
  rfl

/-- The pieces of a text are joined to that text again by what they were cut at. -/
theorem joinWith_splitAt_of_toList {separator : Char} {joint : String}
    (hjoint : joint.toList = [separator]) (s : String) :
    joinWith joint (splitAt separator s) = s := by
  unfold joinWith splitAt
  rw [List.map_map, hjoint]
  have hid : (String.toList ∘ String.ofList) = (id : List Char → List Char) :=
    funext fun _ => String.toList_ofList
  rw [hid, List.map_id, cutAt_eq_splitOn, List.intercalate_splitOn, String.ofList_toList]

/-- The lines of a text are joined to that text again. -/
theorem joinWith_splitAt (s : String) : joinWith "\n" (splitAt '\n' s) = s :=
  joinWith_splitAt_of_toList rfl s

/-- One more piece comes after what joins the others. -/
theorem joinWith_concat (joint : String) {pieces : List String} (hne : pieces ≠ [])
    (piece : String) :
    joinWith joint (pieces ++ [piece]) = joinWith joint pieces ++ joint ++ piece := by
  obtain ⟨first, rest, rfl⟩ := List.exists_cons_of_ne_nil hne
  apply String.toList_inj.mp
  rw [List.cons_append, toList_joinWith_cons, String.toList_append, String.toList_append,
    toList_joinWith_cons, List.flatMap_append, List.flatMap_singleton]
  simp only [List.append_assoc]

/-- **Joined texts** have the pieces of each of them, one after the other. -/
theorem splitAt_joinWith {separator : Char} {joint : String} (hjoint : joint.toList = [separator])
    {ts : List String} (hne : ts ≠ []) :
    splitAt separator (joinWith joint ts) = ts.flatMap (splitAt separator) := by
  induction ts with
  | nil => exact absurd rfl hne
  | cons t rest ih =>
    cases rest with
    | nil => simp [joinWith]
    | cons t' rest =>
      have hrest := ih (by simp)
      -- the separator after the first text ends its last piece
      have hjoin : (joinWith joint (t :: t' :: rest)).toList
          = t.toList ++ separator :: (joinWith joint (t' :: rest)).toList := by
        rw [toList_joinWith_cons, toList_joinWith_cons, List.flatMap_cons, hjoint]
        simp
      unfold splitAt at hrest ⊢
      rw [hjoin, cutAt_append_cons, List.map_append, hrest]
      rfl

/-- The pieces between the line feeds of an output are whole lines, if none of them ends in a
    carriage return. -/
theorem isPlainLine_of_mem_splitAt {s : String}
    (h : ∀ l ∈ splitAt '\n' s, l.toList.getLast? ≠ some '\r') :
    ∀ l ∈ splitAt '\n' s, IsPlainLine l.toList := by
  intro l hl
  refine ⟨?_, h l hl⟩
  obtain ⟨piece, hpiece, rfl⟩ := List.mem_map.mp hl
  rw [String.toList_ofList]
  exact not_mem_of_mem_cutAt hpiece

/-- An output none of whose lines ends in a carriage return has just the lines that its line
    feeds make. -/
theorem physicalLines_of_plain {s : String}
    (h : ∀ l ∈ splitAt '\n' s, l.toList.getLast? ≠ some '\r') :
    physicalLines s = splitAt '\n' s := by
  have hne : splitAt '\n' s ≠ [] := by
    unfold splitAt
    rw [ne_eq, List.map_eq_nil_iff]
    exact cutAt_ne_nil '\n' s.toList
  have hlines := physicalLines_joinLines (fun _ => .feed) hne (isPlainLine_of_mem_splitAt h)
  rwa [joinLines_feed, joinWith_splitAt] at hlines

end SourceCheck.Text
