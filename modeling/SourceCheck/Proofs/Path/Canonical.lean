import SourceCheck.Path.Canonical
import SourceCheck.Proofs.Host.Walks

/-! # Canonical paths and walks

    The search for a canonical form follows names and links as a walk does, but without its
    limit, and it remembers the links it met.  Where names lead to a place, the search comes to
    this place (`search_leads`): what it remembers of a link is where that link leads (`Knows`),
    and no link is met while it is followed itself, for it would lead on through more links than
    it has (`Nested`).  So the path of a file has a canonical form, which is the path of the
    place that it leads to (`canonical_of_leads`). -/

namespace SourceCheck

open SourceCheck.Text FileSystem

/-- All links stand at places that can be looked at: their paths are not too long. -/
def FileSystem.LinksInReach (fs : FileSystem) : Prop :=
  ∀ place target, fs.entry? place = some (.link target) → octets (placePath place).text ≤ pathLimit

theorem FileSystem.mem_entries_of_link {fs : FileSystem} {place : Place} {target : String}
    (hlink : fs.entry? place = some (.link target)) : (place, .link target) ∈ fs.entries := by
  unfold entry? at hlink
  split at hlink
  · cases hlink
  · obtain ⟨before, after, hentries, -⟩ := List.lookup_eq_some_iff.mp hlink
    simp [hentries]

theorem linksInReach_of_mem {fs : FileSystem}
    (h : ∀ place target, (place, .link target) ∈ fs.entries →
      octets (placePath place).text ≤ pathLimit) : fs.LinksInReach :=
  fun place target hlink => h place target (mem_entries_of_link hlink)

namespace Canonical

variable {fs : FileSystem} {place last : Place} {names : List String} {n : Nat}

/-! ## Links -/

theorem linkAt?_of_link (hlinks : fs.LinksInReach) {target : String} (h : Reached fs place)
    (hlink : fs.entry? place = some (.link target)) : linkAt? fs place = some target := by
  have hne : place ≠ [] := by
    rintro rfl
    cases hlink
  unfold linkAt?
  rw [find_of_reached [] h hne (by simp), if_neg (Nat.not_lt.mpr (hlinks place target hlink)),
    hlink]

theorem linkAt?_of_no_link (h : Reached fs place) (hne : place ≠ [])
    (hlink : ∀ target, fs.entry? place ≠ some (.link target)) : linkAt? fs place = none := by
  unfold linkAt?
  rw [find_of_reached [] h hne (by simp)]
  split
  · next target heq =>
    split at heq
    · cases heq
    · injection heq with hfound
      injection hfound with _ hentry
      exact absurd hentry (hlink target)
  · rfl

/-- The link at a place leads to another one, through some number of further links. -/
def LinkLeads (fs : FileSystem) (place : Place) (n : Nat) (last : Place) : Prop :=
  ∃ target, fs.entry? place = some (.link target)
    ∧ Leads fs (linkStart place.dropLast target) (steps target) n last

theorem LinkLeads.unique (h : LinkLeads fs place n last) {n' : Nat} {last' : Place}
    (h' : LinkLeads fs place n' last') : n = n' ∧ last = last' := by
  obtain ⟨target, hlink, hleads⟩ := h
  obtain ⟨target', hlink', hleads'⟩ := h'
  rw [hlink] at hlink'
  obtain rfl := Entry.link.inj (Option.some.inj hlink')
  exact hleads.unique hleads'

/-! ## One name -/

section Names

variable {depth : Nat} {seen : Seen} {spot : Spot} {step : String} {rest : List String}

theorem search_nil : search fs depth seen spot [] = ⟨spot, true, seen⟩ := by
  cases depth <;> rfl

theorem search_stay (hstep : step = "" ∨ step = ".") :
    search fs depth seen spot (step :: rest) = search fs depth seen spot rest := by
  cases depth <;> (unfold search; rw [follow, if_pos hstep])

theorem search_up :
    search fs depth seen spot (".." :: rest) = search fs depth seen spot.above rest := by
  cases depth <;> (unfold search; rw [follow, if_neg (by decide), if_pos rfl])

theorem search_plain (hstep : IsStep step) (hlink : linkAt? fs (spot.below [step]).place = none) :
    search fs depth seen spot (step :: rest) = search fs depth seen (spot.below [step]) rest := by
  cases depth <;> (
    unfold search
    rw [follow, if_neg hstep.not_stay, if_neg hstep.ne_doubleDot]
    simp only [hlink])

/-- Where a link leads that was met before is known. -/
theorem search_known (hstep : IsStep step) {target : String} {known : Spot}
    (hlink : linkAt? fs (spot.below [step]).place = some target)
    (hseen : seen.lookup (spot.below [step]) = some (some known)) :
    search fs depth seen spot (step :: rest) = search fs depth seen known rest := by
  cases depth <;> (
    unfold search
    rw [follow, if_neg hstep.not_stay, if_neg hstep.ne_doubleDot]
    simp only [hlink, hseen])

/-- A new link is followed to its end, and then remembered. -/
theorem search_link (hstep : IsStep step) {target : String} {reached : Spot} {seen' : Seen}
    (hlink : linkAt? fs (spot.below [step]).place = some target)
    (hseen : seen.lookup (spot.below [step]) = none)
    (htarget : search fs depth ((spot.below [step], none) :: seen)
      (if startsWith target "/" then top else spot) (steps target) = ⟨reached, true, seen'⟩) :
    search fs (depth + 1) seen spot (step :: rest)
      = search fs (depth + 1) ((spot.below [step], some reached) :: seen') reached rest := by
  rw [search, follow, if_neg hstep.not_stay, if_neg hstep.ne_doubleDot]
  simp only [hlink, hseen, htarget, if_true]

end Names

/-! ## What is remembered -/

/-- The spot of a place, from the root. -/
def spotOf (place : Place) : Spot := ⟨false, place⟩

/-- Links are followed one inside the other, with `n` more to come: each leads on through these
    at least. -/
structure Nested (fs : FileSystem) (n : Nat) (active : List Place) : Prop where
  nodup : active.Nodup
  leads : ∀ place ∈ active, ∃ m last, LinkLeads fs place m last ∧ n ≤ m

/-- What is remembered of links is true; those without an end are followed right now. -/
structure Knows (fs : FileSystem) (active : List Place) (seen : Seen) : Prop where
  active : ∀ place, seen.lookup (spotOf place) = some none → place ∈ active
  known : ∀ place spot, seen.lookup (spotOf place) = some (some spot) →
    ∃ n last, LinkLeads fs place n last ∧ spot = spotOf last

variable {active : List Place} {seen : Seen}

/-- No more links can be followed one inside the other than there are entries. -/
theorem Nested.length_le (h : Nested fs n active) : active.length ≤ fs.entries.length := by
  rw [← List.length_map (Prod.fst : Place × Entry → Place)]
  refine h.nodup.length_le_of_subset fun place hplace => ?_
  obtain ⟨m, last, ⟨target, hlink, -⟩, -⟩ := h.leads place hplace
  exact List.mem_map_of_mem (mem_entries_of_link hlink)

theorem Nested.mono {m : Nat} (h : Nested fs n active) (hle : m ≤ n) : Nested fs m active :=
  ⟨h.nodup, fun place hplace => by
    obtain ⟨k, last, hleads, hn⟩ := h.leads place hplace
    exact ⟨k, last, hleads, Nat.le_trans hle hn⟩⟩

/-- **No link is met while it is followed**: it would lead on through more links than it has. -/
theorem Nested.not_mem (h : Nested fs n active) {m : Nat} (hleads : LinkLeads fs place m last)
    (hlt : m < n) : place ∉ active := by
  intro hmem
  obtain ⟨k, last', hother, hn⟩ := h.leads place hmem
  obtain ⟨rfl, -⟩ := hleads.unique hother
  omega

theorem Nested.cons (h : Nested fs n active) {m : Nat} (hleads : LinkLeads fs place m last)
    (hlt : m < n) : Nested fs m (place :: active) where
  nodup := List.nodup_cons.mpr ⟨h.not_mem hleads hlt, h.nodup⟩
  leads := List.forall_mem_cons.mpr
    ⟨⟨m, last, hleads, Nat.le_refl m⟩, (h.mono (Nat.le_of_lt hlt)).leads⟩

theorem lookup_cons_spotOf (place other : Place) (found : Option Spot) (seen : Seen) :
    List.lookup (spotOf other) ((spotOf place, found) :: seen)
      = if other = place then some found else seen.lookup (spotOf other) := by
  by_cases h : other = place
  · subst h
    rw [List.lookup_cons_self, if_pos rfl]
  · have hne : (spotOf other == spotOf place) = false := by
      rw [beq_eq_false_iff_ne]
      intro heq
      exact h (congrArg Spot.place heq)
    rw [List.lookup_cons, hne, if_neg h]

/-- A link that is followed from now on. -/
theorem Knows.follow (h : Knows fs active seen) (place : Place) :
    Knows fs (place :: active) ((spotOf place, none) :: seen) where
  active other hother := by
    rw [lookup_cons_spotOf] at hother
    split at hother
    · next heq => exact heq ▸ List.mem_cons_self
    · exact List.mem_cons_of_mem _ (h.active other hother)
  known other spot hother := by
    rw [lookup_cons_spotOf] at hother
    split at hother
    · cases hother
    · exact h.known other spot hother

/-- A link that was followed to its end. -/
theorem Knows.remember (h : Knows fs (place :: active) seen) (hleads : LinkLeads fs place n last) :
    Knows fs active ((spotOf place, some (spotOf last)) :: seen) where
  active other hother := by
    rw [lookup_cons_spotOf] at hother
    split at hother
    · cases hother
    · next hne => exact (List.mem_cons.mp (h.active other hother)).resolve_left hne
  known other spot hother := by
    rw [lookup_cons_spotOf] at hother
    split at hother
    · next heq =>
      obtain rfl := Option.some.inj (Option.some.inj hother)
      exact ⟨n, last, heq ▸ hleads, rfl⟩
    · exact h.known other spot hother

/-! ## Many names -/

/-- **The search comes to the place that names lead to**, if it may go as deep as there are
    entries of links that are not followed yet. -/
theorem search_leads (hlinks : fs.LinksInReach) (h : Leads fs place names n last)
    (hplace : Reached fs place) {depth : Nat} (hnested : Nested fs n active)
    (hknows : Knows fs active seen) (hdepth : fs.entries.length ≤ depth + active.length) :
    ∃ seen', search fs depth seen (spotOf place) names = ⟨spotOf last, true, seen'⟩
      ∧ Knows fs active seen' := by
  -- over the way that the names lead; a link's target goes one level deeper
  induction h generalizing depth active seen with
  | done place => exact ⟨seen, search_nil, hknows⟩
  | stay _ hstep _ ih =>
    rw [search_stay hstep]
    exact ih hplace hnested hknows hdepth
  | up _ _ ih =>
    rw [search_up]
    exact ih hplace.dropLast hnested hknows hdepth
  | @down place last step rest n hdirectory hstep hlink _ ih =>
    have hnext := hplace.append hdirectory hstep
    have htold : linkAt? fs ((spotOf place).below [step]).place = none :=
      linkAt?_of_no_link hnext (List.append_ne_nil_of_right_ne_nil _ (List.cons_ne_nil _ _)) hlink
    rw [search_plain hstep htold]
    exact ih hnext hnested hknows hdepth
  | @link place mid last step target rest m n hdirectory hstep hlink htarget _ ihtarget ihrest =>
    have hnext := hplace.append hdirectory hstep
    have hleads : LinkLeads fs (place ++ [step]) m mid :=
      ⟨target, hlink, by rwa [List.dropLast_concat]⟩
    have hmid := htarget.reached (hplace.linkStart target)
    have htold : linkAt? fs ((spotOf place).below [step]).place = some target :=
      linkAt?_of_link hlinks hnext hlink
    have hbehind : Nested fs n active := hnested.mono (by omega)
    cases hseen : seen.lookup (spotOf (place ++ [step])) with
    | none =>
      have hinside := hnested.cons hleads (by omega)
      have hlength := hinside.length_le
      rw [List.length_cons] at hlength
      obtain ⟨depth, rfl⟩ : ∃ d, depth = d + 1 := ⟨depth - 1, by omega⟩
      have hinner : ∃ seen', search fs depth ((spotOf (place ++ [step]), none) :: seen)
          (spotOf (linkStart place target)) (steps target) = ⟨spotOf mid, true, seen'⟩
            ∧ Knows fs ((place ++ [step]) :: active) seen' :=
        ihtarget (hplace.linkStart target) hinside (hknows.follow _)
          (by rw [List.length_cons]; omega)
      obtain ⟨seen', hsearch, hknows'⟩ := hinner
      have hstart : (if startsWith target "/" then top else spotOf place)
          = spotOf (linkStart place target) := by
        unfold linkStart
        split <;> rfl
      rw [search_link hstep htold hseen (hstart ▸ hsearch)]
      exact ihrest hmid hbehind (hknows'.remember hleads) hdepth
    | some found =>
      cases found with
      | none => exact absurd (hknows.active _ hseen) (hnested.not_mem hleads (by omega))
      | some spot =>
        obtain ⟨k, last', hother, rfl⟩ := hknows.known _ _ hseen
        obtain ⟨-, rfl⟩ := hleads.unique hother
        rw [search_known hstep htold hseen]
        exact ihrest hmid hbehind hknows hdepth

end Canonical

/-! ## Canonical paths -/

/-- The path of a place has neither dots nor slashes in its names, so it is read as it is. -/
theorem normal_placePath {fs : FileSystem} {place : Place} (h : Reached fs place) :
    (Path.ofText (placePath place).text).normal = placePath place := by
  have hnames : ∀ name ∈ place, IsName name := fun name hname => (h.isName name hname).toIsName
  have hplain : ".." ∉ place := fun hmem => (h.isName _ hmem).ne_doubleDot rfl
  rw [placePath, Path.ofText_text hnames, Path.normal_of_not_mem hplain]

/-- **The canonical form of a path is the path of the place it leads to**, where that is no
    link. -/
theorem canonical_of_leads {h : Host} {p : Path} {n : Nat} {last : Place}
    (hlinks : h.files.LinksInReach) (habsolute : p.isAbsolute = true)
    (hleads : Leads h.files [] p.parts n last) (hne : last ≠ [])
    (hlast : ∀ target, h.files.entry? last ≠ some (.link target)) :
    h.canonical p = .ok (placePath last) := by
  have hreached := hleads.reached reached_root
  have hnested : Canonical.Nested h.files n [] := ⟨List.nodup_nil, List.forall_mem_nil _⟩
  have hknows : Canonical.Knows h.files [] [] := ⟨by simp, by simp⟩
  -- the fuel covers every link of the tree, and a walk in reach follows none inside itself
  have hsearch : ∃ seen, Canonical.search h.files (2 * h.files.entries.length + 2) []
      Canonical.top p.parts = ⟨Canonical.spotOf last, true, seen⟩
        ∧ Canonical.Knows h.files [] seen :=
    Canonical.search_leads hlinks hleads reached_root hnested hknows (by omega)
  obtain ⟨seen, hsearch, -⟩ := hsearch
  -- what is looked at in the end is no link, so there is no circle to report
  have hstat : h.stat (placePath last).text ≠ .error .linkLoop := by
    unfold Host.stat
    rw [stat_of_reached h.cwd hreached hne hlast]
    split
    · simp
    · cases h.files.entry? last <;> simp
  unfold Host.canonical
  rw [if_pos habsolute, hsearch]
  dsimp only [Canonical.spotOf]
  rw [normal_placePath hreached]
  split
  · next hloop => exact absurd hloop hstat
  · rfl

end SourceCheck
