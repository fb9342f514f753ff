import SourceCheck.Path.Basic
import SourceCheck.Proofs.Output.Lines

/-! # Names in a path

    The text of a path is cut at its slashes; the pieces that are neither empty nor a single
    dot are its names, and the last of them is what it is about (`finalName?`).  That is the
    name which the text ends in, with slashes and single dots behind it (`endsIn_iff`).  A name put
    below a path is one more name (`Path.child_of_isName`).  Collapsing double dots leaves
    names that are none (`Path.collapse_append`), so a path without double dots is its own
    normal form, and a double dot at its end takes its last name away. -/

namespace SourceCheck

open SourceCheck.Text

/-! ## Pieces between slashes -/

/-- A text that is one name of a path: it holds no slash and is neither empty nor a dot. -/
structure IsName (s : String) : Prop where
  noSlash : '/' ∉ s.toList
  ne_empty : s ≠ ""
  ne_dot : s ≠ "."

/-- The names in the text of a path. -/
def namesOf (s : String) : List String :=
  (splitAt '/' s).filter fun piece => piece ≠ "" ∧ piece ≠ "."

/-- The last name in the text of a path, if there is any. -/
def finalName? (s : String) : Option String := (namesOf s).getLast?

theorem isName_of_mem_namesOf {s name : String} (h : name ∈ namesOf s) : IsName name := by
  obtain ⟨hpiece, hne⟩ := List.mem_filter.mp h
  obtain ⟨piece, hcut, rfl⟩ := List.mem_map.mp hpiece
  have hboth : String.ofList piece ≠ "" ∧ String.ofList piece ≠ "." := by simpa using hne
  refine ⟨?_, hboth.1, hboth.2⟩
  rw [String.toList_ofList]
  exact not_mem_of_mem_cutAt hcut

/-- A name holds itself alone. -/
theorem namesOf_of_isName {name : String} (h : IsName name) : namesOf name = [name] := by
  unfold namesOf splitAt
  rw [cutAt_of_not_mem h.noSlash]
  simp [h.ne_empty, h.ne_dot]

theorem isName_of_finalName? {s name : String} (h : finalName? s = some name) : IsName name :=
  isName_of_mem_namesOf (List.mem_of_getLast? h)

/-- A piece that is no name is empty or a single dot. -/
theorem dropped_iff {piece : String} :
    ¬decide (piece ≠ "" ∧ piece ≠ ".") = true ↔ piece = "" ∨ piece = "." := by
  rw [decide_eq_true_iff, Decidable.not_and_iff_not_or_not, Decidable.not_not, Decidable.not_not]

/-- A path without a last name is written with slashes and single dots. -/
theorem finalName?_eq_none_iff {s : String} :
    finalName? s = none ↔ ∀ piece ∈ splitAt '/' s, piece = "" ∨ piece = "." := by
  unfold finalName? namesOf
  rw [List.getLast?_eq_none_iff, List.filter_eq_nil_iff]
  exact forall₂_congr fun _ _ => dropped_iff

namespace Path

theorem parts_ofText (s : String) : (ofText s).parts = namesOf s := by
  unfold ofText namesOf partsOf splitAt
  rw [List.filter_map]
  dsimp only
  congr 1
  apply List.filter_congr
  intro piece _
  have hempty : String.ofList piece = "" ↔ piece = [] := by
    rw [← String.toList_inj, String.toList_ofList]
    rfl
  have hdot : String.ofList piece = "." ↔ piece = ['.'] := by
    rw [← String.toList_inj, String.toList_ofList]
    rfl
  simp [hempty, hdot]

theorem name_ofText (s : String) : (ofText s).name = (finalName? s).getD "" := by
  unfold name finalName?
  rw [parts_ofText]

/-- The path of a name holds this name alone. -/
theorem ofText_of_isName {name : String} (h : IsName name) : ofText name = ⟨.relative, [name]⟩ := by
  have hroot : rootOf name.toList = .relative := by
    have hslash := h.noSlash
    unfold rootOf
    split
    · next heq => simp [heq] at hslash
    · next heq => simp [heq] at hslash
    · next heq => simp [heq] at hslash
    · rfl
  have hparts : (ofText name).parts = [name] := by
    rw [parts_ofText, namesOf_of_isName h]
  unfold ofText at hparts ⊢
  rw [hroot]
  exact congrArg (Path.mk .relative) hparts

theorem child_of_isName (p : Path) {name : String} (h : IsName name) :
    p.child name = { p with parts := p.parts ++ [name] } := by
  unfold child
  rw [ofText_of_isName h]
  rfl

theorem child_empty (p : Path) : p.child "" = p := by
  have hempty : ofText "" = ⟨.relative, []⟩ := rfl
  unfold child
  rw [hempty]
  unfold join
  simp [isAbsolute]

/-! ## Collapsing double dots -/

/-- **Names that are no double dots are kept.** -/
theorem collapse_append {rooted : Bool} {kept before : List String} (after : List String)
    (h : ".." ∉ before) :
    collapse rooted kept (before ++ after) = collapse rooted (before.reverse ++ kept) after := by
  induction before generalizing kept with
  | nil => rfl
  | cons name before ih =>
    have hname : name ≠ ".." := fun heq => h (heq ▸ List.mem_cons_self)
    have hbefore : ".." ∉ before := fun hmem => h (List.mem_cons_of_mem name hmem)
    rw [List.cons_append, collapse.eq_def]
    dsimp only
    rw [if_neg hname, ih hbefore]
    simp

theorem collapse_of_not_mem {rooted : Bool} {names : List String} (h : ".." ∉ names) :
    collapse rooted [] names = names := by
  have hkept : collapse rooted [] (names ++ []) = collapse rooted (names.reverse ++ []) [] :=
    collapse_append [] h
  rw [List.append_nil, List.append_nil] at hkept
  rw [hkept, collapse.eq_def]
  exact List.reverse_reverse names

/-- Below a root, a double dot takes the name before it away. -/
theorem collapse_append_doubleDot {names : List String} (h : ".." ∉ names) :
    collapse true [] (names ++ [".."]) = names.dropLast := by
  rw [collapse_append _ h, List.append_nil]
  -- going up from the root stays there
  cases hback : names.reverse with
  | nil =>
    have hnames : names = [] := List.reverse_eq_nil_iff.mp hback
    rw [hnames]
    rfl
  | cons last before =>
    have hnames : names = before.reverse ++ [last] := by
      rw [← List.reverse_reverse names, hback, List.reverse_cons]
    -- going up takes the last name away only if that is not itself a step upwards
    have hlast : last ≠ ".." := by
      intro heq
      apply h
      rw [hnames, heq]
      exact List.mem_append_right _ List.mem_cons_self
    rw [hnames, List.dropLast_concat]
    simp [collapse, hlast]

/-- Collapsing brings no new names. -/
theorem mem_of_mem_collapse {rooted : Bool} {kept names : List String} {name : String}
    (h : name ∈ collapse rooted kept names) : name ∈ kept ∨ name ∈ names := by
  induction names generalizing kept with
  | nil => exact .inl (List.mem_reverse.mp h)
  | cons part rest ih =>
    rw [collapse.eq_def] at h
    dsimp only at h
    split at h
    · next hpart =>
      -- a double dot is dropped, kept, or takes the name before it away
      split at h
      · split at h
        · exact (ih h).imp_right (List.mem_cons_of_mem part)
        · rcases ih h with hkept | hrest
          · exact .inr (List.mem_singleton.mp hkept ▸ hpart ▸ List.mem_cons_self)
          · exact .inr (List.mem_cons_of_mem part hrest)
      · split at h
        · rcases ih h with hkept | hrest
          · rcases List.mem_cons.mp hkept with rfl | hkept
            · exact .inr (hpart ▸ List.mem_cons_self)
            · exact .inl hkept
          · exact .inr (List.mem_cons_of_mem part hrest)
        · exact (ih h).imp (List.mem_cons_of_mem _) (List.mem_cons_of_mem part)
    · rcases ih h with hkept | hrest
      · rcases List.mem_cons.mp hkept with rfl | hkept
        · exact .inr List.mem_cons_self
        · exact .inl hkept
      · exact .inr (List.mem_cons_of_mem part hrest)

theorem normal_of_not_mem {p : Path} (h : ".." ∉ p.parts) : p.normal = p := by
  unfold normal
  rw [collapse_of_not_mem h]

/-- A double dot below an absolute path leads to the path above it. -/
theorem normal_append_doubleDot {p : Path} (habsolute : p.isAbsolute = true)
    (h : ".." ∉ p.parts) : ({ p with parts := p.parts ++ [".."] } : Path).normal = p.parent := by
  have hrooted : ({ p with parts := p.parts ++ [".."] } : Path).isAbsolute = true := habsolute
  unfold normal parent
  rw [hrooted, collapse_append_doubleDot h]

end Path

/-! ## Texts -/

theorem startsWith_slash_iff {s : String} :
    startsWith s "/" = true ↔ ∃ cs, s.toList = '/' :: cs := by
  have hslash : "/".toList = ['/'] := rfl
  unfold startsWith
  rw [hslash, List.isPrefixOf_iff_prefix]
  constructor
  · rintro ⟨cs, hcs⟩
    exact ⟨cs, hcs.symm⟩
  · rintro ⟨cs, hcs⟩
    exact ⟨cs, hcs.symm⟩

/-- The names in two texts with a slash between them are those of the one and then those of the
    other. -/
theorem namesOf_append (s t : String) : namesOf (s ++ "/" ++ t) = namesOf s ++ namesOf t := by
  have hslash : "/".toList = ['/'] := rfl
  have htext : (s ++ "/" ++ t).toList = s.toList ++ '/' :: t.toList := by
    rw [String.toList_append, String.toList_append, hslash]
    simp
  unfold namesOf splitAt
  rw [htext, cutAt_append_cons, List.map_append, List.filter_append]

/-- A slash and a name put after a text make one name more. -/
theorem namesOf_append_slash (s : String) {name : String} (h : IsName name) :
    namesOf (s ++ "/" ++ name) = namesOf s ++ [name] := by
  rw [namesOf_append, namesOf_of_isName h]

theorem finalName?_append_slash (s : String) {name : String} (h : IsName name) :
    finalName? (s ++ "/" ++ name) = some name := by
  unfold finalName?
  rw [namesOf_append_slash s h, List.getLast?_concat]

/-! ## Texts that end in a name -/

/-- **A text ends in a name**: the name stands alone or under something, and any number of
    slashes, with a dot after them or not, may follow it. -/
inductive EndsIn (name : String) : String → Prop
  /-- The name stands alone. -/
  | alone (hname : IsName name) : EndsIn name name
  /-- The name stands under something, whatever that is. -/
  | under (above : String) (hname : IsName name) : EndsIn name (above ++ "/" ++ name)
  /-- One more slash follows. -/
  | slash {s : String} (h : EndsIn name s) : EndsIn name (s ++ "/")
  /-- One more slash with a dot follows. -/
  | dot {s : String} (h : EndsIn name s) : EndsIn name (s ++ "/.")

section EndsIn

variable {name s : String}

theorem EndsIn.isName (h : EndsIn name s) : IsName name := by
  induction h with
  | alone hname => exact hname
  | under _ hname => exact hname
  | slash _ ih => exact ih
  | dot _ ih => exact ih

/-- A slash at the end makes no name more. -/
theorem namesOf_concat_slash (s : String) : namesOf (s ++ "/") = namesOf s := by
  have hnone : namesOf "" = [] := rfl
  have hnames := namesOf_append s ""
  rwa [String.append_empty, hnone, List.append_nil] at hnames

/-- Neither does a slash with a dot. -/
theorem namesOf_concat_dot (s : String) : namesOf (s ++ "/.") = namesOf s := by
  have hnone : namesOf "." = [] := rfl
  have htext : s ++ "/." = s ++ "/" ++ "." := by
    rw [String.append_assoc]
    rfl
  rw [htext, namesOf_append, hnone, List.append_nil]

/-- The name that a text ends in is the last one found in it. -/
theorem EndsIn.finalName?_eq (h : EndsIn name s) : finalName? s = some name := by
  induction h with
  | alone hname =>
    unfold finalName?
    rw [namesOf_of_isName hname]
    rfl
  | under above hname => exact finalName?_append_slash above hname
  | @slash s _ ih =>
    unfold finalName? at ih ⊢
    rwa [namesOf_concat_slash]
  | @dot s _ ih =>
    unfold finalName? at ih ⊢
    rwa [namesOf_concat_dot]

/-- Pieces that are no names leave a text's end as it is. -/
theorem EndsIn.joinWith_append {before after : List String} (hne : before ≠ [])
    (h : EndsIn name (joinWith "/" before)) (hafter : ∀ piece ∈ after, piece = "" ∨ piece = ".") :
    EndsIn name (joinWith "/" (before ++ after)) := by
  induction after generalizing before with
  | nil => rwa [List.append_nil]
  | cons piece after ih =>
    have hnext : EndsIn name (joinWith "/" (before ++ [piece])) := by
      rw [joinWith_concat "/" hne]
      rcases hafter piece List.mem_cons_self with rfl | rfl
      · rw [String.append_empty]
        exact h.slash
      · rw [String.append_assoc]
        exact h.dot
    rw [List.append_cons]
    exact ih (by simp) hnext fun other hother => hafter other (List.mem_cons_of_mem piece hother)

/-- Where the last name stands among the pieces of a text: what comes after it are no names. -/
theorem exists_splitAt_of_finalName? (h : finalName? s = some name) :
    ∃ before after, splitAt '/' s = before ++ name :: after
      ∧ ∀ piece ∈ after, piece = "" ∨ piece = "." := by
  obtain ⟨others, hnames⟩ := List.getLast?_eq_some_iff.mp h
  unfold namesOf at hnames
  obtain ⟨front, back, hcut, -, hback⟩ := List.filter_eq_append_iff.mp hnames
  obtain ⟨skipped, after, rfl, -, -, hafter⟩ := List.filter_eq_cons_iff.mp hback
  refine ⟨front ++ skipped, after, by rw [hcut, List.append_assoc], ?_⟩
  intro piece hpiece
  exact dropped_iff.mp (List.filter_eq_nil_iff.mp hafter piece hpiece)

/-- The last name found in a text is one that it ends in. -/
theorem endsIn_of_finalName? (h : finalName? s = some name) : EndsIn name s := by
  have hname := isName_of_finalName? h
  obtain ⟨before, after, hcut, hafter⟩ := exists_splitAt_of_finalName? h
  have htext := joinWith_splitAt_of_toList (show "/".toList = ['/'] from rfl) s
  rw [← htext, hcut, List.append_cons]
  refine EndsIn.joinWith_append (by simp) ?_ hafter
  by_cases hbefore : before = []
  · have halone : joinWith "/" ([] ++ [name]) = name := by simp [joinWith]
    rw [hbefore, halone]
    exact .alone hname
  · rw [joinWith_concat "/" hbefore]
    exact .under _ hname

/-- **The last name found in a text is the name it ends in.** -/
theorem endsIn_iff : EndsIn name s ↔ finalName? s = some name :=
  ⟨EndsIn.finalName?_eq, endsIn_of_finalName?⟩

end EndsIn

/-! ## Texts of paths -/

namespace Path

/-- The text of an absolute path with one name more. -/
theorem text_append {p : Path} (habsolute : p.isAbsolute = true) (name : String) :
    ({ p with parts := p.parts ++ [name] } : Path).text
      = p.text ++ (if p.parts = [] then "" else "/") ++ name := by
  obtain ⟨root, parts⟩ := p
  -- only a relative path without names has a text of its own
  have hroot : ∀ names : List String,
      (⟨root, names⟩ : Path).text = root.text ++ joinWith "/" names := by
    intro names
    cases root with
    | relative => contradiction
    | slash => rfl
    | doubleSlash => rfl
  rw [hroot, hroot]
  cases parts with
  | nil => simp [joinWith]
  | cons first rest =>
    rw [← String.toList_inj]
    simp [toList_joinWith_cons]

/-- The last name in the text of an absolute path is the last name of the path. -/
theorem finalName?_text_append {p : Path} (habsolute : p.isAbsolute = true) {name : String}
    (h : IsName name) :
    finalName? ({ p with parts := p.parts ++ [name] } : Path).text = some name := by
  rw [text_append habsolute]
  by_cases hparts : p.parts = []
  · -- without names the text is that of the root, which ends in a slash
    obtain ⟨s, hs⟩ : ∃ s, p.text = s ++ "/" := by
      obtain ⟨root, parts⟩ := p
      obtain rfl : parts = [] := hparts
      cases root with
      | relative => contradiction
      | slash => exact ⟨"", rfl⟩
      | doubleSlash => exact ⟨"/", rfl⟩
    rw [if_pos hparts, String.append_empty, hs]
    exact finalName?_append_slash s h
  · rw [if_neg hparts]
    exact finalName?_append_slash p.text h

theorem startsWith_text {p : Path} (habsolute : p.isAbsolute = true) :
    startsWith p.text "/" = true := by
  have hopen : ∀ rest : String, startsWith ("/" ++ rest) "/" = true := by
    intro rest
    rw [startsWith_slash_iff, String.toList_append]
    exact ⟨rest.toList, rfl⟩
  obtain ⟨root, parts⟩ := p
  cases root with
  | relative => contradiction
  | slash => exact hopen (joinWith "/" parts)
  | doubleSlash =>
    have hslashes : "//" ++ joinWith "/" parts = "/" ++ ("/" ++ joinWith "/" parts) := by
      rw [← String.append_assoc]
      rfl
    exact (congrArg (startsWith · "/") hslashes).trans (hopen _)

/-- A text that starts with a slash is that of an absolute path. -/
theorem isAbsolute_ofText {s : String} (h : startsWith s "/" = true) :
    (ofText s).isAbsolute = true := by
  obtain ⟨cs, hcs⟩ := startsWith_slash_iff.mp h
  have hroot : rootOf s.toList ≠ .relative := by
    rw [hcs]
    unfold rootOf
    split
    · simp
    · simp
    · simp
    · next hnone => exact absurd rfl (hnone cs)
  exact bne_iff_ne.mpr hroot

/-- Names that are joined by slashes are cut there again. -/
theorem splitAt_joinWith_names {names : List String} (hne : names ≠ [])
    (h : ∀ name ∈ names, '/' ∉ name.toList) : splitAt '/' (joinWith "/" names) = names := by
  have hname : ∀ name ∈ names, splitAt '/' name = [name] := by
    intro name hname
    unfold splitAt
    rw [cutAt_of_not_mem (h name hname)]
    simp
  rw [splitAt_joinWith rfl hne, List.flatMap_def, List.map_congr_left hname,
    ← List.flatMap_def, List.flatMap_singleton']

/-- The text of an absolute path is cut into empty texts for its root, and its names. -/
theorem exists_splitAt_text {p : Path} (habsolute : p.isAbsolute = true) (hne : p.parts ≠ [])
    (h : ∀ name ∈ p.parts, '/' ∉ name.toList) :
    ∃ empties, (∀ s ∈ empties, s = "") ∧ splitAt '/' p.text = empties ++ p.parts := by
  have hnames := splitAt_joinWith_names hne h
  -- each slash in front gives one empty step
  have hslash : ∀ s : String, splitAt '/' ("/" ++ s) = "" :: splitAt '/' s := by
    intro s
    unfold splitAt
    rw [String.toList_append, show "/".toList = ['/'] from rfl, List.singleton_append,
      cutAt_cons_self]
    rfl
  obtain ⟨root, parts⟩ := p
  cases root with
  | relative => contradiction
  | slash => exact ⟨[""], by simp, (hslash _).trans (by rw [hnames]; rfl)⟩
  | doubleSlash =>
    refine ⟨["", ""], by simp, ?_⟩
    have htext : (⟨.doubleSlash, parts⟩ : Path).text = "/" ++ ("/" ++ joinWith "/" parts) := by
      rw [← String.append_assoc]
      rfl
    rw [htext, hslash, hslash, hnames]
    rfl

/-- A path under the root is read back from its text. -/
theorem ofText_text {names : List String} (h : ∀ name ∈ names, IsName name) :
    ofText (⟨.slash, names⟩ : Path).text = ⟨.slash, names⟩ := by
  cases names with
  | nil => rfl
  | cons first rest =>
    have hne : first :: rest ≠ [] := List.cons_ne_nil first rest
    obtain ⟨empties, hempties, hcut⟩ := exists_splitAt_text (p := ⟨.slash, first :: rest⟩) rfl hne
      fun name hname => (h name hname).noSlash
    have hparts : namesOf (⟨.slash, first :: rest⟩ : Path).text = first :: rest := by
      have hkeep : ∀ name ∈ first :: rest, decide (name ≠ "" ∧ name ≠ ".") = true :=
        fun name hname => decide_eq_true ⟨(h name hname).ne_empty, (h name hname).ne_dot⟩
      have hdrop : ∀ s ∈ empties, ¬decide (s ≠ "" ∧ s ≠ ".") = true := by
        intro s hs
        simp [hempties s hs]
      unfold namesOf
      rw [hcut, List.filter_append, List.filter_eq_nil_iff.mpr hdrop, List.nil_append,
        List.filter_eq_self.mpr hkeep]
    have hroot : rootOf (⟨.slash, first :: rest⟩ : Path).text.toList = .slash := by
      -- a second slash would be in the first name
      have hfirst := (h first List.mem_cons_self).noSlash
      have htext : (⟨.slash, first :: rest⟩ : Path).text.toList = '/' :: (first.toList
          ++ rest.flatMap fun name => "/".toList ++ name.toList) := by
        have happend : ("/" ++ joinWith "/" (first :: rest)).toList
            = "/".toList ++ (joinWith "/" (first :: rest)).toList := String.toList_append
        rw [toList_joinWith_cons] at happend
        exact happend
      cases hchars : first.toList with
      | nil => exact absurd (String.toList_inj.mp hchars) (h first List.mem_cons_self).ne_empty
      | cons c cs =>
        rw [hchars] at hfirst
        rw [htext, hchars, List.cons_append]
        have hc : c ≠ '/' := fun hc => hfirst (hc ▸ List.mem_cons_self)
        unfold rootOf
        split
        · next heq => exact absurd (List.cons.inj (List.cons.inj heq).2).1 hc
        · next heq => exact absurd (List.cons.inj (List.cons.inj heq).2).1 hc
        · rfl
        · next hnone => exact absurd rfl (hnone _)
    unfold ofText
    rw [hroot]
    exact congrArg (Path.mk .slash) ((parts_ofText _).trans hparts)

end Path

end SourceCheck
