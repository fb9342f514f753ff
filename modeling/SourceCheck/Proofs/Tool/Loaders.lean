import SourceCheck.Proofs.Host.Walks
import SourceCheck.Tool.Process

/-! # Systems that run files

    Which files a system runs is known only as far as `System.Loads` tells it.  To run the file
    at a path it reads this path, and if the first line of the file names another one that runs
    it, that one as well.  What it runs is somewhere; and if all the paths that it reads start at
    the root, it runs the file from every directory or from none.

    Of several paths the first one at which the system runs a file is used
    (`startFirst_of_find?`). -/

namespace SourceCheck

open SourceCheck.Text

/-- **What is known of a system that runs files.**  `reads` are the paths that are read on the
    way to the program of the file at a path: its own, and those on first lines. -/
structure System.Loads (s : System) (reads : FileSystem → Place → String → List String) :
    Prop where
  /-- What is run is somewhere. -/
  found : ∀ {h : Host} {limit : Option Nat} {path : String} {argv : List String},
    (s h limit path argv).isOk = true → ∃ e, h.files.stat h.cwd path = .ok e
  mem_reads : ∀ fs cwd path, path ∈ reads fs cwd path
  /-- Paths that start at the root are read alike from every directory. -/
  rooted : ∀ {h : Host} {path : String}, (∀ r ∈ reads h.files h.cwd path, startsWith r "/" = true) →
    ∀ (cwd : Place) (limit : Option Nat) (argv : List String),
      (s { h with cwd := cwd } limit path argv).isOk = (s h limit path argv).isOk

variable {s : System} {h : Host} {limit : Option Nat} {argv paths : List String}

/-- The first path at which the system runs a file is the one of the process. -/
theorem startFirst_of_find? {path : String} (refusal : SystemError)
    (hfound : paths.find? (fun path => (s h limit path argv).isOk) = some path) :
    startFirst s h limit argv refusal paths = s h limit path argv := by
  -- what the system said of the paths before is forgotten once a file runs
  induction paths generalizing refusal with
  | nil => contradiction
  | cons first rest ih =>
    unfold startFirst
    cases hfirst : s h limit first argv with
    | ok ended =>
      rw [List.find?_cons_of_pos (by rw [hfirst]; rfl)] at hfound
      obtain rfl := Option.some.inj hfound
      exact hfirst.symm
    | error e =>
      rw [List.find?_cons_of_neg (by rw [hfirst]; exact Bool.false_ne_true)] at hfound
      exact ih _ hfound

/-- Where the system runs none, nothing is started. -/
theorem startFirst_of_find?_none (refusal : SystemError)
    (hnone : paths.find? (fun path => (s h limit path argv).isOk) = none) :
    ∃ e, startFirst s h limit argv refusal paths = .error e := by
  induction paths generalizing refusal with
  | nil => exact ⟨refusal, rfl⟩
  | cons first rest ih =>
    obtain ⟨hfirst, hrest⟩ := List.forall_mem_cons.mp (List.find?_eq_none.mp hnone)
    unfold startFirst
    cases hstart : s h limit first argv with
    | ok ended =>
      rw [hstart] at hfirst
      exact absurd rfl hfirst
    | error e => exact ih _ (List.find?_eq_none.mpr hrest)

end SourceCheck
