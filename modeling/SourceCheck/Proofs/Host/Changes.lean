import SourceCheck.Proofs.Path.Canonical

/-! # Changes to a file system

    Making a directory where nothing stands and putting octets into a file leave all directories
    and links as they are, and with them the user's rights (`KeepsWays`), so names lead where
    they led before (`Leads.keepsWays`).  Where a file was written, its octets are found
    afterwards (`entry_put`). -/

namespace SourceCheck.FileSystem

open SourceCheck.Text

variable {fs later : FileSystem} {place last other : Place} {names : List String} {n : Nat}
  {e : Entry}

/-! ## Putting an entry -/

theorem lookup_go (place : Place) (e : Entry) (entries : List (Place × Entry)) (other : Place) :
    (put.go place e entries).lookup other
      = if other = place then some e else entries.lookup other := by
  -- `put` replaces the first entry at the place and otherwise goes to the end of the list
  induction entries with
  | nil =>
    by_cases h : other = place
    · rw [if_pos h, h]
      exact List.lookup_cons_self
    · rw [if_neg h, put.go, List.lookup_cons, beq_false_of_ne h]
  | cons first entries ih =>
    obtain ⟨p, old⟩ := first
    rw [put.go]
    by_cases hp : p = place
    · rw [if_pos hp, List.lookup_cons, List.lookup_cons, hp]
      by_cases h : other = place
      · rw [if_pos h, h, beq_self_eq_true]
      · rw [if_neg h, beq_false_of_ne h]
    · rw [if_neg hp, List.lookup_cons, List.lookup_cons, ih]
      by_cases hother : other = p
      · simp only [hother, beq_self_eq_true, if_neg hp]
      · rw [beq_false_of_ne hother]

/-- **An entry that is put** stands at its place; all others are as before. -/
theorem entry_put (hne : place ≠ []) (e : Entry) (other : Place) :
    FileSystem.entry? (fs.put place e) other
      = if other = place then some e else fs.entry? other := by
  unfold entry? put
  by_cases hroot : other = []
  · rw [if_pos hroot, if_pos hroot, hroot, if_neg (Ne.symm hne)]
  · rw [if_neg hroot, if_neg hroot]
    exact lookup_go place e fs.entries other

/-! ## Ways that are kept -/

/-- All directories are still there with the rights to them, and the links are those that were
    there. -/
structure KeepsWays (fs later : FileSystem) : Prop where
  isPrivileged : later.isPrivileged = fs.isPrivileged
  directories : ∀ place mode,
    fs.entry? place = some (.directory mode) → later.entry? place = some (.directory mode)
  links : ∀ place target,
    later.entry? place = some (.link target) ↔ fs.entry? place = some (.link target)

theorem KeepsWays.refl (fs : FileSystem) : KeepsWays fs fs :=
  ⟨rfl, fun _ _ h => h, fun _ _ => Iff.rfl⟩

theorem KeepsWays.trans {latest : FileSystem} (h : KeepsWays fs later)
    (hlatest : KeepsWays later latest) : KeepsWays fs latest where
  isPrivileged := hlatest.isPrivileged.trans h.isPrivileged
  directories place mode hplace := hlatest.directories place mode (h.directories place mode hplace)
  links place target := (hlatest.links place target).trans (h.links place target)

/-- What stands neither for a directory nor for a link may be replaced by what is no link. -/
theorem keepsWays_put (hne : place ≠ [])
    (hdirectory : ∀ mode, fs.entry? place ≠ some (.directory mode))
    (hlink : ∀ target, fs.entry? place ≠ some (.link target)) (he : ∀ target, e ≠ .link target) :
    KeepsWays fs (fs.put place e) where
  isPrivileged := rfl
  directories other mode hother := by
    rw [entry_put hne, if_neg]
    · exact hother
    · rintro rfl
      exact hdirectory mode hother
  links other target := by
    rw [entry_put hne]
    split
    · next heq =>
      subst heq
      exact ⟨fun h => absurd (Option.some.inj h) (he target), fun h => absurd h (hlink target)⟩
    · rfl

theorem KeepsWays.allows (h : KeepsWays fs later) (r : Right) (e : Entry) :
    later.allows r e = fs.allows r e := by
  unfold FileSystem.allows
  rw [h.isPrivileged]

theorem Admits.keepsWays {step : String} (h : Admits fs place step) (hkeeps : KeepsWays fs later) :
    Admits later place step := by
  obtain ⟨mode, hplace, henter⟩ := h
  refine ⟨mode, hkeeps.directories place mode hplace, fun hne => ?_⟩
  rw [hkeeps.allows]
  exact henter hne

/-- **Names lead where they led before.** -/
theorem Leads.keepsWays (h : Leads fs place names n last) (hkeeps : KeepsWays fs later) :
    Leads later place names n last := by
  induction h with
  | done place => exact .done place
  | stay hplace hstep _ ih => exact .stay (hplace.keepsWays hkeeps) hstep ih
  | up hplace _ ih => exact .up (hplace.keepsWays hkeeps) ih
  | down hplace hstep hlink _ ih =>
    exact .down (hplace.keepsWays hkeeps) hstep
      (fun target hnew => hlink target ((hkeeps.links _ target).mp hnew)) ih
  | link hplace hstep hlink _ _ ihtarget ihrest =>
    exact .link (hplace.keepsWays hkeeps) hstep ((hkeeps.links _ _).mpr hlink) ihtarget ihrest

theorem Reached.keepsWays (h : Reached fs place) (hkeeps : KeepsWays fs later) :
    Reached later place := by
  intro before step after heq
  obtain ⟨hbefore, hstep⟩ := h before step after heq
  exact ⟨hbefore.keepsWays hkeeps, hstep⟩

theorem LinksInReach.keepsWays (h : fs.LinksInReach) (hkeeps : KeepsWays fs later) :
    later.LinksInReach :=
  fun place target hlink => h place target ((hkeeps.links place target).mp hlink)

/-! ## Ways put together -/

theorem Leads.append {mid : Place} {before after : List String} {m : Nat}
    (h : Leads fs place before m mid) (hafter : Leads fs mid after n last) :
    ∃ k, Leads fs place (before ++ after) k last := by
  -- the links passed add up only along the second half, so the count is left open
  induction h with
  | done _ => exact ⟨n, hafter⟩
  | stay hplace hstep _ ih =>
    obtain ⟨k, hk⟩ := ih hafter
    exact ⟨k, .stay hplace hstep hk⟩
  | up hplace _ ih =>
    obtain ⟨k, hk⟩ := ih hafter
    exact ⟨k, .up hplace hk⟩
  | down hplace hstep hlink _ ih =>
    obtain ⟨k, hk⟩ := ih hafter
    exact ⟨k, .down hplace hstep hlink hk⟩
  | link hplace hstep hlink htarget _ _ ihrest =>
    obtain ⟨k, hk⟩ := ihrest hafter
    exact ⟨_, .link hplace hstep hlink htarget hk⟩

/-- The names of a place that is reached and no link lead to it. -/
theorem Reached.leads (h : Reached fs (place ++ names))
    (hlast : ∀ target, fs.entry? (place ++ names) ≠ some (.link target)) :
    Leads fs place names 0 (place ++ names) := by
  induction names generalizing place with
  | nil =>
    rw [List.append_nil]
    exact .done place
  | cons step rest ih =>
    have hcons : place ++ step :: rest = place ++ [step] ++ rest := by simp
    obtain ⟨hplace, hstep⟩ := h place step rest rfl
    rw [hcons] at h hlast ⊢
    refine .down hplace hstep ?_ (ih h hlast)
    -- each place on the way is a directory, and the last one is no link
    cases rest with
    | nil => simpa using hlast
    | cons name rest => exact (h (place ++ [step]) name rest rfl).1.no_link

/-- From a place that is reached and no link, names lead to places that are no links. -/
theorem Leads.no_link (h : Leads fs place names n last) (hplace : Reached fs place)
    (hlink : ∀ target, fs.entry? place ≠ some (.link target)) :
    ∀ target, fs.entry? last ≠ some (.link target) := by
  have hroot : ∀ target, fs.entry? [] ≠ some (.link target) := by
    intro target
    simp [ entry?]
  induction h with
  | done _ => exact hlink
  | stay _ _ _ ih => exact ih hplace hlink
  | @up place _ _ _ _ _ ih =>
    -- the parent of a place reached is a directory, for it was stepped through
    refine ih hplace.dropLast ?_
    rcases List.eq_nil_or_concat place with rfl | ⟨init, x, rfl⟩
    · exact hroot
    · rw [List.concat_eq_append, List.dropLast_concat]
      rw [List.concat_eq_append] at hplace
      exact (hplace init x [] rfl).1.no_link
  | down hdirectory hstep hnext _ ih => exact ih (hplace.append hdirectory hstep) hnext
  | @link place mid last step text rest m n hdirectory hstep _ htarget _ ihtarget ihrest =>
    -- a link's target is walked from the root or from a place that is no link itself
    have hstart : ∀ target, fs.entry? (linkStart place text) ≠ some (.link target) := by
      unfold linkStart
      split
      · exact hroot
      · exact hlink
    have hmid := htarget.reached (hplace.linkStart text)
    exact ihrest hmid (ihtarget (hplace.linkStart text) hstart)

/-- Empty names and dots lead nowhere else. -/
theorem Leads.eq_of_stay (h : Leads fs place names n last)
    (hnames : ∀ name ∈ names, name = "" ∨ name = ".") : last = place := by
  induction h with
  | done _ => rfl
  | stay _ _ _ ih => exact ih fun name hname => hnames name (List.mem_cons_of_mem _ hname)
  | up _ _ _ => exact absurd (hnames ".." List.mem_cons_self) (by decide)
  | down _ hstep _ _ _ => exact absurd (hnames _ List.mem_cons_self) hstep.not_stay
  | link _ hstep _ _ _ _ _ => exact absurd (hnames _ List.mem_cons_self) hstep.not_stay

/-! ## Where a text leads -/

/-- What a walk finds is what stands where it ends. -/
theorem entry_of_advance {follow : Bool} {onLink : Place → List String → Except SystemError Found}
    (honLink : ∀ place names found, onLink place names = .ok found →
      found.entry = fs.entry? found.place)
    {found : Found} (h : advance fs follow onLink place names = .ok found) :
    found.entry = fs.entry? found.place := by
  induction names generalizing place with
  | nil =>
    rw [advance] at h
    obtain rfl := Except.ok.inj h
    rfl
  | cons step rest ih =>
    -- a directory is always admitted here, since the walk went on from it
    rw [advance_of_admits (admits_of_advance h)] at h
    split at h
    · exact ih h
    split at h
    · exact ih h
    split at h
    · cases h
    split at h
    · next target hlink =>
      split at h
      · obtain rfl := Except.ok.inj h
        exact hlink.symm
      · exact honLink _ _ _ h
    · exact ih h

theorem entry_of_walk {follow : Bool} {links : Nat} {found : Found}
    (h : walk fs follow links place names = .ok found) : found.entry = fs.entry? found.place := by
  induction links generalizing place names found with
  | zero =>
    refine entry_of_advance ?_ h
    intro _ _ _ hcircle
    cases hcircle
  | succ links ih =>
    refine entry_of_advance ?_ h
    intro _ _ _ hwalk
    exact ih hwalk

theorem entry_of_find {cwd : Place} {follow : Bool} {s : String} {found : Found}
    (h : fs.find cwd follow s = .ok found) : found.entry = fs.entry? found.place := by
  unfold find at h
  split at h
  · cases h
  · split at h
    · cases h
    · exact entry_of_walk h

/-- A text that is found leads, from the root or from the working directory, to what is found. -/
theorem leads_of_find {cwd : Place} {s : String} {found : Found}
    (h : fs.find cwd true s = .ok found) :
    ∃ n, Leads fs (linkStart cwd s) (steps s) n found.place := by
  unfold find at h
  split at h
  · cases h
  · split at h
    · cases h
    · exact (arrives_of_walk (noSlashes_steps s) h).1

/-- A walk that comes to its end comes to the same place where the ways are kept. -/
theorem advance_keepsWays (hkeeps : KeepsWays fs later)
    {onLink onLink' : Place → List String → Except SystemError Found}
    (honLink : ∀ place names found, onLink place names = .ok found →
      onLink' place names = .ok ⟨found.place, later.entry? found.place⟩)
    {found : Found} (h : advance fs true onLink place names = .ok found) :
    advance later true onLink' place names = .ok ⟨found.place, later.entry? found.place⟩ := by
  induction names generalizing place with
  | nil =>
    rw [advance] at h ⊢
    obtain rfl := Except.ok.inj h
    rfl
  | cons step rest ih =>
    -- the later tree admits the same places, so both walks take the same branch at each step
    have hplace := admits_of_advance h
    rw [advance_of_admits hplace] at h
    rw [advance_of_admits (hplace.keepsWays hkeeps)]
    split at h
    · next hstay =>
      rw [if_pos hstay]
      exact ih h
    next hstay =>
    rw [if_neg hstay]
    split at h
    · next hup =>
      rw [if_pos hup]
      exact ih h
    next hup =>
    rw [if_neg hup]
    split at h
    · cases h
    next hfits =>
    rw [if_neg hfits]
    split at h
    · next target hlink =>
      rw [Bool.not_true, Bool.and_false, if_neg Bool.false_ne_true] at h
      simp only [(hkeeps.links _ target).mpr hlink, Bool.not_true, Bool.and_false,
        Bool.false_eq_true, if_false]
      exact honLink _ _ _ h
    -- what is no link before is no link after, although it may be new
    · next hlink =>
      split
      · next target hnew => exact absurd ((hkeeps.links _ target).mp hnew) (hlink target)
      · exact ih h

theorem walk_keepsWays (hkeeps : KeepsWays fs later) {links : Nat} {found : Found}
    (h : walk fs true links place names = .ok found) :
    walk later true links place names = .ok ⟨found.place, later.entry? found.place⟩ := by
  induction links generalizing place names found with
  | zero =>
    refine advance_keepsWays hkeeps ?_ h
    intro _ _ _ hcircle
    cases hcircle
  | succ links ih =>
    refine advance_keepsWays hkeeps ?_ h
    intro _ _ _ hwalk
    exact ih hwalk

theorem find_keepsWays (hkeeps : KeepsWays fs later) {cwd : Place} {s : String} {found : Found}
    (h : fs.find cwd true s = .ok found) :
    later.find cwd true s = .ok ⟨found.place, later.entry? found.place⟩ := by
  unfold find at h ⊢
  split at h
  · cases h
  next hempty =>
  rw [if_neg hempty]
  split at h
  · cases h
  next hfits =>
  rw [if_neg hfits]
  exact walk_keepsWays hkeeps h

/-! ## Changes -/

theorem keepsWays_makeDirectory {cwd : Place} {s : String}
    (h : fs.makeDirectory cwd s = .ok later) : KeepsWays fs later := by
  unfold makeDirectory at h
  split at h
  · cases h
  · cases h
  · next place hfind =>
    split at h
    · cases h
    obtain rfl := Except.ok.inj h
    have hfree : fs.entry? place = none := (entry_of_find hfind).symm
    have hne : place ≠ [] := by
      rintro rfl
      cases hfree
    exact keepsWays_put hne (by simp [hfree]) (by simp [hfree]) (by simp)

/-- What writing changed: what stood where the text leads is now a file with the rights that it
    had, or it is a device. -/
inductive Wrote (fs : FileSystem) (place : Place) (content : List UInt8) :
    Option Entry → FileSystem → Entry → Prop
  /-- A device takes everything. -/
  | device (d : Device) : Wrote fs place content (some (.device d)) fs (.device d)
  | file (old : Entry) (hdirectory : ∀ mode, old ≠ .directory mode) :
    Wrote fs place content (some old) (fs.put place (.file content old.mode))
      (.file content old.mode)
  | new : Wrote fs place content none (fs.put place (.file content newFileMode))
      (.file content newFileMode)

theorem wrote_of_write {cwd : Place} {s : String} {content : List UInt8}
    (h : fs.write cwd s content = .ok later) :
    ∃ place old e, fs.find cwd true s = .ok ⟨place, old⟩ ∧ Wrote fs place content old later e := by
  unfold write at h
  split at h
  · cases h
  split at h
  · cases h
  · cases h
  -- something is there: a device takes the content, a file is replaced by it
  · next place e hdirectory hfind =>
    split at h
    · cases h
    split at h
    · next d _ =>
      obtain rfl := Except.ok.inj h
      exact ⟨place, _, _, hfind, .device d⟩
    · obtain rfl := Except.ok.inj h
      exact ⟨place, _, _, hfind, .file e hdirectory⟩
  -- nothing is there: the write makes a file, if the directory may be added to
  · next place hfind =>
    split at h
    · cases h
    obtain rfl := Except.ok.inj h
    exact ⟨place, _, _, hfind, .new⟩

/-- **What was written** stands where it was written, and the ways are kept. -/
theorem Wrote.keepsWays {content : List UInt8} {old : Option Entry}
    (h : Wrote fs place content old later e) (hold : fs.entry? place = old)
    (hlink : ∀ target, old ≠ some (.link target)) :
    KeepsWays fs later ∧ later.entry? place = some e := by
  -- the root is a directory, so it is not there that something was written
  have hput : ∀ {mode : Nat}, (∀ mode, old ≠ some (.directory mode)) →
      KeepsWays fs (fs.put place (.file content mode))
        ∧ FileSystem.entry? (fs.put place (.file content mode)) place
          = some (.file content mode) := by
    intro mode hdirectory
    subst hold
    have hne : place ≠ [] := by
      rintro rfl
      exact hdirectory fs.rootMode rfl
    refine ⟨keepsWays_put hne hdirectory hlink (by simp), ?_⟩
    rw [entry_put hne, if_pos rfl]
  cases h with
  | device d => exact ⟨KeepsWays.refl fs, hold⟩
  | file old hdirectory => exact hput fun mode => by simpa using hdirectory mode
  | new => exact hput (by simp)

/-- What was written is neither a directory nor a link. -/
theorem Wrote.entry_cases {content : List UInt8} {old : Option Entry}
    (h : Wrote fs place content old later e) :
    (∃ d, e = .device d) ∨ ∃ mode, e = .file content mode := by
  cases h with
  | device d => exact .inl ⟨d, rfl⟩
  | file old _ => exact .inr ⟨old.mode, rfl⟩
  | new => exact .inr ⟨newFileMode, rfl⟩

end SourceCheck.FileSystem
