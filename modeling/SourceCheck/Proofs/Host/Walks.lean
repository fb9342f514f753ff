import SourceCheck.Host.Basic
import SourceCheck.Proofs.Path.Names

/-! # Walks through a file system

    A walk follows the names of a path from place to place, and links in between.  `Leads`
    tells this without a limit, with the number of links that are followed; each link is
    followed to its own end before the names behind it.  It has one outcome at most
    (`Leads.unique`), and a walk that comes to its end has this one (`arrives_of_walk`).

    The places on the way are reached through directories alone that may be entered, so the
    path of such a place leads to it and to nowhere else (`find_of_reached`).  A path from the
    root leads to the same place from every directory (`placeOf?_of_rooted`). -/

namespace SourceCheck.FileSystem

open SourceCheck.Text

variable {fs : FileSystem} {place last : Place} {names : List String} {n : Nat}

/-! ## Directories that may be entered -/

/-- A directory in which a name may be looked up.  An empty name asks for nothing in it. -/
def Admits (fs : FileSystem) (place : Place) (step : String) : Prop :=
  ∃ mode, fs.entry? place = some (.directory mode)
    ∧ (step ≠ "" → fs.allows .enter (.directory mode) = true)

theorem admits_root_empty : Admits fs [] "" := ⟨fs.rootMode, rfl, fun h => absurd rfl h⟩

theorem Admits.no_link {step : String} (h : Admits fs place step) (target : String) :
    fs.entry? place ≠ some (.link target) := by
  obtain ⟨mode, hplace, -⟩ := h
  rw [hplace]
  simp

/-- A walk that comes to its end looked its first name up in a directory that admits it. -/
theorem admits_of_advance {follow : Bool}
    {onLink : Place → List String → Except SystemError Found} {step : String}
    {rest : List String} {found : Found}
    (h : advance fs follow onLink place (step :: rest) = .ok found) : Admits fs place step := by
  rw [advance] at h
  split at h
  · cases h
  · next mode hplace =>
    split at h
    · cases h
    · next henter => exact ⟨mode, hplace, by simpa using henter⟩
  · cases h

/-- The first step of a walk in a directory that admits it. -/
theorem advance_of_admits {follow : Bool}
    {onLink : Place → List String → Except SystemError Found} {step : String}
    {rest : List String} (h : Admits fs place step) :
    advance fs follow onLink place (step :: rest)
      = if step = "" ∨ step = "." then advance fs follow onLink place rest
        else if step = ".." then advance fs follow onLink place.dropLast rest
        else if nameLimit < octets step then .error .nameTooLong
        else match fs.entry? (place ++ [step]) with
          | some (.link target) =>
            if rest.isEmpty && !follow then .ok ⟨place ++ [step], some (.link target)⟩
            else onLink (if startsWith target "/" then [] else place) (steps target ++ rest)
          | _ => advance fs follow onLink (place ++ [step]) rest := by
  obtain ⟨mode, hplace, henter⟩ := h
  have hopen : ¬(step ≠ "" ∧ fs.allows .enter (.directory mode) = false) := by simpa using henter
  rw [advance, hplace]
  exact if_neg hopen

/-! ## Steps -/

/-- A name that leads one place down and that the system takes. -/
structure IsStep (step : String) : Prop extends IsName step where
  ne_doubleDot : step ≠ ".."
  fits : octets step ≤ nameLimit

/-- Where the names of a link's target start. -/
def linkStart (place : Place) (target : String) : Place :=
  if startsWith target "/" then [] else place

/-- Names lead from a place to a last one, through some number of links. -/
inductive Leads (fs : FileSystem) : Place → List String → Nat → Place → Prop
  | done (place : Place) : Leads fs place [] 0 place
  /-- An empty name and a dot stay. -/
  | stay {place last : Place} {step : String} {rest : List String} {n : Nat}
    (hplace : Admits fs place step) (hstep : step = "" ∨ step = ".")
    (hrest : Leads fs place rest n last) : Leads fs place (step :: rest) n last
  | up {place last : Place} {rest : List String} {n : Nat}
    (hplace : Admits fs place "..") (hrest : Leads fs place.dropLast rest n last) :
    Leads fs place (".." :: rest) n last
  | down {place last : Place} {step : String} {rest : List String} {n : Nat}
    (hplace : Admits fs place step) (hstep : IsStep step)
    (hlink : ∀ target, fs.entry? (place ++ [step]) ≠ some (.link target))
    (hrest : Leads fs (place ++ [step]) rest n last) : Leads fs place (step :: rest) n last
  /-- A link is followed to its end first. -/
  | link {place mid last : Place} {step target : String} {rest : List String} {m n : Nat}
    (hplace : Admits fs place step) (hstep : IsStep step)
    (hlink : fs.entry? (place ++ [step]) = some (.link target))
    (htarget : Leads fs (linkStart place target) (steps target) m mid)
    (hrest : Leads fs mid rest n last) : Leads fs place (step :: rest) (m + n + 1) last

theorem IsStep.not_stay {step : String} (h : IsStep step) : ¬(step = "" ∨ step = ".") := by
  rintro (hempty | hdot)
  · exact h.ne_empty hempty
  · exact h.ne_dot hdot

theorem not_isStep_doubleDot : ¬IsStep ".." := fun h => h.ne_doubleDot rfl

/-- **Names lead to one place at most**, through one number of links. -/
theorem Leads.unique (h : Leads fs place names n last) {n' : Nat} {last' : Place}
    (h' : Leads fs place names n' last') : n = n' ∧ last = last' := by
  induction h generalizing n' last' with
  | done place =>
    cases h'
    exact ⟨rfl, rfl⟩
  | stay _ hstep _ ih =>
    cases h' with
    | stay _ _ hrest => exact ih hrest
    | up _ _ => exact absurd hstep (by decide)
    | down _ hdown _ _ => exact absurd hstep hdown.not_stay
    | link _ hdown _ _ _ => exact absurd hstep hdown.not_stay
  | up _ _ ih =>
    cases h' with
    | stay _ hstep _ => exact absurd hstep (by decide)
    | up _ hrest => exact ih hrest
    | down _ hdown _ _ => exact absurd hdown not_isStep_doubleDot
    | link _ hdown _ _ _ => exact absurd hdown not_isStep_doubleDot
  | down _ hdown hlink _ ih =>
    cases h' with
    | stay _ hstep _ => exact absurd hstep hdown.not_stay
    | up _ _ => exact absurd hdown not_isStep_doubleDot
    | down _ _ _ hrest => exact ih hrest
    | link _ _ hother _ _ => exact absurd hother (hlink _)
  | link _ hdown hlink _ _ ihtarget ihrest =>
    cases h' with
    | stay _ hstep _ => exact absurd hstep hdown.not_stay
    | up _ _ => exact absurd hdown not_isStep_doubleDot
    | down _ _ hother _ => exact absurd hlink (hother _)
    | link _ _ hother htarget hrest =>
      -- both follow the same link
      rw [hlink] at hother
      obtain rfl := Entry.link.inj (Option.some.inj hother)
      obtain ⟨rfl, rfl⟩ := ihtarget htarget
      obtain ⟨rfl, rfl⟩ := ihrest hrest
      exact ⟨rfl, rfl⟩

/-- The names of a path can be followed in two parts. -/
theorem Leads.exists_of_append {before after : List String}
    (h : Leads fs place (before ++ after) n last) :
    ∃ m k mid, Leads fs place before m mid ∧ Leads fs mid after k last ∧ n = m + k := by
  -- only a link passed counts, so the sum changes in the last case alone
  induction before generalizing place n with
  | nil => exact ⟨0, n, place, .done place, h, (Nat.zero_add n).symm⟩
  | cons step before ih =>
    cases h with
    | stay hplace hstep hrest =>
      obtain ⟨m, k, mid, hbefore, hafter, hn⟩ := ih hrest
      exact ⟨m, k, mid, .stay hplace hstep hbefore, hafter, hn⟩
    | up hplace hrest =>
      obtain ⟨m, k, mid, hbefore, hafter, hn⟩ := ih hrest
      exact ⟨m, k, mid, .up hplace hbefore, hafter, hn⟩
    | down hplace hstep hlink hrest =>
      obtain ⟨m, k, mid, hbefore, hafter, hn⟩ := ih hrest
      exact ⟨m, k, mid, .down hplace hstep hlink hbefore, hafter, hn⟩
    | link hplace hstep hlink htarget hrest =>
      obtain ⟨m, k, mid, hbefore, hafter, rfl⟩ := ih hrest
      exact ⟨_, k, mid, .link hplace hstep hlink htarget hbefore, hafter, by omega⟩

/-! ## Walks -/

/-- No name holds a slash. -/
def NoSlashes (names : List String) : Prop := ∀ name ∈ names, '/' ∉ name.toList

theorem noSlashes_steps (s : String) : NoSlashes (steps s) := by
  intro name hname
  obtain ⟨piece, hpiece, rfl⟩ := List.mem_map.mp hname
  rw [String.toList_ofList]
  exact not_mem_of_mem_cutAt hpiece

theorem NoSlashes.append {before after : List String} (hbefore : NoSlashes before)
    (hafter : NoSlashes after) : NoSlashes (before ++ after) :=
  List.forall_mem_append.mpr ⟨hbefore, hafter⟩

/-- Where a walk came to: names lead there, and that is what stands there. -/
def Arrives (fs : FileSystem) (place : Place) (names : List String) (found : Found) : Prop :=
  (∃ n, Leads fs place names n found.place) ∧ found.entry = fs.entry? found.place

/-- A way down arrives, if it arrives wherever it goes on after a link. -/
theorem arrives_of_advance {onLink : Place → List String → Except SystemError Found}
    (honLink : ∀ place names found, NoSlashes names → onLink place names = .ok found →
      Arrives fs place names found)
    {found : Found} (hnames : NoSlashes names)
    (h : advance fs true onLink place names = .ok found) : Arrives fs place names found := by
  induction names generalizing place with
  | nil =>
    rw [advance] at h
    obtain rfl := Except.ok.inj h
    exact ⟨⟨0, .done place⟩, rfl⟩
  | cons step rest ih =>
    obtain ⟨hslash, hrest⟩ := List.forall_mem_cons.mp hnames
    have hplace := admits_of_advance h
    rw [advance_of_admits hplace] at h
    split at h
    · next hstep =>
      obtain ⟨⟨n, hleads⟩, hentry⟩ := ih hrest h
      exact ⟨⟨n, .stay hplace hstep hleads⟩, hentry⟩
    next hstay =>
    split at h
    · next hstep =>
      obtain ⟨⟨n, hleads⟩, hentry⟩ := ih hrest h
      subst hstep
      exact ⟨⟨n, .up hplace hleads⟩, hentry⟩
    next hup =>
    split at h
    · cases h
    next hfits =>
    have hstep : IsStep step :=
      ⟨⟨hslash, fun he => hstay (.inl he), fun he => hstay (.inr he)⟩, hup,
        Nat.le_of_not_lt hfits⟩
    split at h
    · next target hlink =>
      -- the names of the target come before those that are left
      rw [Bool.not_true, Bool.and_false, if_neg Bool.false_ne_true] at h
      obtain ⟨⟨n, hleads⟩, hentry⟩ :=
        honLink _ _ _ ((noSlashes_steps target).append hrest) h
      obtain ⟨m, k, mid, htarget, hbehind, -⟩ := hleads.exists_of_append
      exact ⟨⟨_, .link hplace hstep hlink htarget hbehind⟩, hentry⟩
    · next hlink =>
      obtain ⟨⟨n, hleads⟩, hentry⟩ := ih hrest h
      exact ⟨⟨n, .down hplace hstep hlink hleads⟩, hentry⟩

/-- **A walk that comes to its end arrives** at the place that the names lead to. -/
theorem arrives_of_walk {links : Nat} {found : Found} (hnames : NoSlashes names)
    (h : walk fs true links place names = .ok found) : Arrives fs place names found := by
  induction links generalizing place names found with
  | zero =>
    refine arrives_of_advance ?_ hnames h
    intro _ _ _ _ hcircle
    cases hcircle
  | succ links ih =>
    refine arrives_of_advance ?_ hnames h
    intro _ _ _ hmore hwalk
    exact ih hmore hwalk

/-! ## Places -/

/-- A place that is reached through directories alone that may be entered, by names that the
    system takes. -/
def Reached (fs : FileSystem) (place : Place) : Prop :=
  ∀ before step after, place = before ++ step :: after → Admits fs before step ∧ IsStep step

theorem reached_root : Reached fs [] := by
  intro before step after heq
  simp at heq

theorem Reached.append (h : Reached fs place) {step : String}
    (hplace : Admits fs place step) (hstep : IsStep step) :
    Reached fs (place ++ [step]) := by
  intro before name after heq
  rcases List.eq_nil_or_concat after with rfl | ⟨init, x, rfl⟩
  · obtain ⟨rfl, hname⟩ := List.append_inj' heq rfl
    obtain rfl := (List.cons.inj hname).1
    exact ⟨hplace, hstep⟩
  · rw [List.concat_eq_append] at heq
    have hsplit : before ++ name :: (init ++ [x]) = (before ++ name :: init) ++ [x] := by simp
    obtain ⟨rfl, -⟩ := List.append_inj' (heq.trans hsplit) rfl
    exact h before name init rfl

theorem Reached.of_append {more : List String} (h : Reached fs (place ++ more)) :
    Reached fs place := by
  rintro before step after rfl
  exact h before step (after ++ more) (by simp)

theorem Reached.dropLast (h : Reached fs place) : Reached fs place.dropLast := by
  rcases List.eq_nil_or_concat place with rfl | ⟨init, x, rfl⟩
  · exact h
  · rw [List.concat_eq_append] at h ⊢
    rw [List.dropLast_concat]
    exact h.of_append

theorem Reached.isName (h : Reached fs place) : ∀ name ∈ place, IsStep name := by
  intro name hname
  obtain ⟨before, after, heq⟩ := List.append_of_mem hname
  exact (h before name after heq).2

theorem Reached.linkStart (h : Reached fs place) (target : String) :
    Reached fs (linkStart place target) := by
  unfold FileSystem.linkStart
  split
  · exact reached_root
  · exact h

/-- From a place that is reached, names lead to such places only. -/
theorem Leads.reached (h : Leads fs place names n last) (hplace : Reached fs place) :
    Reached fs last := by
  induction h with
  | done _ => exact hplace
  | stay _ _ _ ih => exact ih hplace
  | up _ _ ih => exact ih hplace.dropLast
  | down hdirectory hstep _ _ ih => exact ih (hplace.append hdirectory hstep)
  | link _ _ _ _ _ ihtarget ihrest => exact ihrest (ihtarget (hplace.linkStart _))

/-- Names below a place that reach another one walk there, and past no link. -/
theorem advance_of_reached {follow : Bool}
    (onLink : Place → List String → Except SystemError Found) (h : Reached fs (place ++ names))
    (hlink : follow = true → ∀ target, fs.entry? (place ++ names) ≠ some (.link target)) :
    advance fs follow onLink place names
      = .ok ⟨place ++ names, fs.entry? (place ++ names)⟩ := by
  induction names generalizing place with
  | nil => rw [advance, List.append_nil]
  | cons step rest ih =>
    obtain ⟨hplace, hstep⟩ := h place step rest rfl
    have hcons : place ++ step :: rest = place ++ [step] ++ rest := by simp
    rw [advance_of_admits hplace]
    rw [if_neg hstep.not_stay, if_neg hstep.ne_doubleDot, if_neg (Nat.not_lt.mpr hstep.fits)]
    rw [hcons] at h hlink ⊢
    split
    · next target htarget =>
      -- only the last name can be that of a link, which is followed if wanted
      cases rest with
      | nil =>
        rw [List.append_nil] at hlink
        cases follow with
        | true => exact absurd htarget (hlink rfl target)
        | false => simp [htarget]
      | cons name rest =>
        exact absurd htarget ((h (place ++ [step]) name rest rfl).1.no_link target)
    · exact ih h hlink

/-- Empty names stay at the root. -/
theorem advance_empties (follow : Bool) (onLink : Place → List String → Except SystemError Found)
    {empties : List String} (h : ∀ s ∈ empties, s = "") (names : List String) :
    advance fs follow onLink [] (empties ++ names) = advance fs follow onLink [] names := by
  induction empties with
  | nil => rfl
  | cons s empties ih =>
    obtain ⟨rfl, hempties⟩ := List.forall_mem_cons.mp h
    rw [List.cons_append, advance_of_admits admits_root_empty, if_pos (.inl rfl), ih hempties]

/-- With empty names in front, names lead from the root to the same place. -/
theorem leads_empties {empties : List String} (h : ∀ s ∈ empties, s = "")
    (hleads : Leads fs [] (empties ++ names) n last) : Leads fs [] names n last := by
  induction empties with
  | nil => exact hleads
  | cons s empties ih =>
    obtain ⟨hs, hempties⟩ := List.forall_mem_cons.mp h
    cases hleads with
    | stay _ _ hrest => exact ih hempties hrest
    | up _ _ => exact absurd hs (by decide)
    | down _ hstep _ _ => exact absurd hs hstep.ne_empty
    | link _ hstep _ _ _ => exact absurd hs hstep.ne_empty

/-- How a path from the root is found. -/
theorem find_of_absolute {p : Path} (habsolute : p.isAbsolute = true) (cwd : Place)
    (follow : Bool) : fs.find cwd follow p.text
      = if pathLimit < octets p.text then .error .nameTooLong
        else fs.walk follow linkLimit [] (steps p.text) := by
  have hstart := Path.startsWith_text habsolute
  obtain ⟨cs, hcs⟩ := startsWith_slash_iff.mp hstart
  have hne : p.text.isEmpty = false := by
    rw [← Bool.not_eq_true, String.isEmpty_iff]
    intro hempty
    rw [hempty] at hcs
    cases hcs
  unfold find
  rw [hne, if_neg Bool.false_ne_true, if_pos hstart]

/-- **A place that is reached is found by its path**, unless the path is too long. -/
theorem find_of_reached (cwd : Place) {follow : Bool} (h : Reached fs place) (hne : place ≠ [])
    (hlink : follow = true → ∀ target, fs.entry? place ≠ some (.link target)) :
    fs.find cwd follow (placePath place).text
      = if pathLimit < octets (placePath place).text then .error .nameTooLong
        else .ok ⟨place, fs.entry? place⟩ := by
  obtain ⟨empties, hempties, hcut⟩ := Path.exists_splitAt_text (p := placePath place) rfl hne
    fun name hname => (h.isName name hname).noSlash
  rw [find_of_absolute rfl, show steps (placePath place).text = empties ++ place from hcut]
  unfold linkLimit
  rw [walk, advance_empties _ _ hempties,
    advance_of_reached _ (by simpa using h) (by simpa using hlink), List.nil_append]

theorem stat_of_reached (cwd : Place) (h : Reached fs place) (hne : place ≠ [])
    (hlink : ∀ target, fs.entry? place ≠ some (.link target)) :
    fs.stat cwd (placePath place).text
      = if pathLimit < octets (placePath place).text then .error .nameTooLong
        else (fs.entry? place).elim (.error .notFound) .ok := by
  unfold stat
  rw [find_of_reached cwd h hne fun _ => hlink]
  by_cases hlong : pathLimit < octets (placePath place).text
  · rw [if_pos hlong, if_pos hlong]
  · rw [if_neg hlong, if_neg hlong]
    cases fs.entry? place <;> rfl

/-- A file that can be found is given out if it may be read. -/
theorem read_of_stat_file {cwd : Place} {s : String} {content : List UInt8} {mode : Nat}
    (hstat : fs.stat cwd s = .ok (.file content mode)) :
    fs.read cwd s
      = if fs.allows .read (.file content mode) = false then .error .notPermitted
        else .ok content := by
  unfold read
  rw [hstat]

/-! ## Paths from the root -/

/-- A path from the root is read alike from every directory. -/
theorem find_of_rooted {s : String} (h : startsWith s "/" = true) (cwd cwd' : Place)
    (follow : Bool) : fs.find cwd follow s = fs.find cwd' follow s := by
  unfold find
  rw [if_pos h, if_pos h]

theorem stat_of_rooted {s : String} (h : startsWith s "/" = true) (cwd cwd' : Place) :
    fs.stat cwd s = fs.stat cwd' s := by
  unfold stat
  rw [find_of_rooted h cwd cwd']

/-- The place to which a path leads from a directory, links followed, if something stands
    there. -/
def placeOf? (fs : FileSystem) (cwd : Place) (s : String) : Option Place :=
  match fs.find cwd true s with
  | .ok ⟨place, some _⟩ => some place
  | _ => none

theorem placeOf?_of_rooted {s : String} (h : startsWith s "/" = true) (cwd cwd' : Place) :
    fs.placeOf? cwd s = fs.placeOf? cwd' s := by
  unfold placeOf?
  rw [find_of_rooted h cwd cwd']

end SourceCheck.FileSystem
