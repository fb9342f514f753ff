import SourceCheck.Proofs.Results
import SourceCheck.Proofs.Text.Octets
import SourceCheck.Proofs.Tool.Loaders
import SourceCheck.StandIn.Shell.Run

/-! # A system to run tools on

    The program that is modelled starts tools, and what a tool does is for the system to say: its
    definitions take a `System`, and what is proved of them holds of every system, or of every
    one that runs files as `System.Loads` tells.  To run the program on hosts that are described,
    with tools that are scripts, one such system is needed.  The modules below `StandIn` make it:

    - `Shell`: processes, and the shell language that scripts are written in,
    - `Utility`: the utilities that scripts call, with `FileMode` for changes of modes,
    - `Regex` and `Awk`: what those of them need that match texts or run programs of their own,
    - `Image`: a plain host, and hosts that are described by their files.

    None of this is part of the program that is modelled, and no definition of it uses one of
    these.  They follow what is documented of a shell and of the utilities where scripts that stand
    for tools need it.  All processes are those of one user; signals, times and the order in which
    processes run are reckoned, not observed.

    What the results ask of a system is proved of this one here (`Shell.loads_runProcess`): whether
    it runs the file at a path depends on the directory from which the path is read, and on nothing
    else that is told with it. -/

namespace SourceCheck.Shell

open SourceCheck.Text

/-! ## Texts of octets -/

theorem toUInt8_ofNat_toNat (b : UInt8) : (Char.ofNat b.toNat).toNat.toUInt8 = b := by
  have hlt : b.toNat < 0x100 := b.toNat_lt
  rw [toNat_ofNat (.inl (by omega))]
  exact UInt8.ofNat_toNat

theorem toOctets_ofOctets (octets : List UInt8) : toOctets (ofOctets octets) = octets := by
  unfold toOctets ofOctets
  rw [String.toList_ofList, List.map_map]
  exact List.map_id'' toUInt8_ofNat_toNat octets

/-- **A text of octets that was made of a text** writes that text. -/
theorem toText_ofText (s : String) : toText (ofText s) = s := by
  unfold toText ofText
  rw [toOctets_ofOctets, Utf8.decode_encode]

/-! ## Programs of files -/

def isKnownProgram (name : String) : Bool :=
  name == "sh" || name == "dash" || (Utility.named? name).isSome

/-- **The system runs the file at a path** that is read from a directory: the file is a program,
    or its first line names one that the system runs. -/
def canRun (fs : FileSystem) (cwd : Place) (path : String) : Bool :=
  ((programOf fs cwd headDepth (ofText path) []).map (·.1)).toOption.any isKnownProgram

/-- The arguments do not tell which program runs a file. -/
theorem programOf_fst (fs : FileSystem) (cwd : Place) (depth : Nat) (path : String)
    (argv argv' : List String) :
    (programOf fs cwd depth path argv).map (·.1)
      = (programOf fs cwd depth path argv').map (·.1) := by
  -- each look goes one program deeper, and none of them looks at the arguments
  induction depth generalizing path argv argv' with
  | zero => rfl
  | succ depth ih =>
    unfold programOf
    split
    · rfl
    · rfl
    · rfl
    · rfl
    · rfl
    · split
      · rfl
      · split
        · rfl
        · split
          · rfl
          · exact ih _ _ _

/-- The paths that are read on the way to the program that runs the file at a path: its own, and
    those on first lines. -/
def pathsRead (fs : FileSystem) (cwd : Place) : Nat → String → List String
  | 0, _ => []
  | depth + 1, path =>
    toText path :: match fs.stat cwd (toText path) with
      | .ok (.file content _) =>
        match readHead ((content.take headLimit).map fun b => Char.ofNat b.toNat) with
        | some (interpreter, _) => pathsRead fs cwd depth interpreter
        | none => []
      | _ => []

/-- If all paths that are read start at the root, the directory does not tell either. -/
theorem programOf_of_rooted {fs : FileSystem} {cwd : Place} {depth : Nat} {path : String}
    (h : ∀ s ∈ pathsRead fs cwd depth path, startsWith s "/" = true) (cwd' : Place)
    (argv : List String) :
    programOf fs cwd' depth path argv = programOf fs cwd depth path argv := by
  -- each first line leads one file further, with its own path at the head of those left
  induction depth generalizing path argv with
  | zero => rfl
  | succ depth ih =>
    unfold pathsRead at h
    obtain ⟨hpath, hrest⟩ := List.forall_mem_cons.mp h
    unfold programOf
    rw [FileSystem.stat_of_rooted hpath cwd' cwd]
    cases hstat : fs.stat cwd (toText path) with
    | error e => rfl
    | ok e =>
      cases e with
      | directory | device _ | link _ | program _ => rfl
      | file content mode =>
        rw [hstat] at hrest
        dsimp only at hrest ⊢
        split
        · rfl
        · cases hhead : readHead ((content.take headLimit).map fun b => Char.ofNat b.toNat) with
          | none => rfl
          | some head =>
            rw [hhead] at hrest
            dsimp only
            split
            · rfl
            · exact ih hrest _

/-- **A file whose paths start at the root** runs from every directory or from none. -/
theorem canRun_of_rooted {fs : FileSystem} {cwd : Place} {path : String}
    (h : ∀ s ∈ pathsRead fs cwd headDepth (ofText path), startsWith s "/" = true)
    (cwd' : Place) : canRun fs cwd' path = canRun fs cwd path := by
  unfold canRun
  rw [programOf_of_rooted h cwd' []]

theorem mem_pathsRead (fs : FileSystem) (cwd : Place) (path : String) :
    path ∈ pathsRead fs cwd headDepth (ofText path) := by
  unfold headDepth pathsRead
  rw [toText_ofText]
  exact List.mem_cons_self

theorem exists_stat_of_canRun {fs : FileSystem} {cwd : Place} {path : String}
    (h : canRun fs cwd path = true) : ∃ e, fs.stat cwd path = .ok e := by
  unfold canRun headDepth programOf at h
  rw [toText_ofText] at h
  cases hstat : fs.stat cwd path with
  | error e =>
    rw [hstat] at h
    contradiction
  | ok e => exact ⟨e, rfl⟩

/-! ## Processes -/

theorem isOk_runFile {run : Runner} {depth : Nat} {path name : String} {argv args : List String}
    {w : World}
    (h : programOf w.machine.files w.shell.cwd headDepth path argv = .ok (name, args)) :
    (runFile run (depth + 1) path argv w).isOk = isKnownProgram name := by
  unfold runFile isKnownProgram
  rw [h]
  dsimp only
  split
  · next hshell =>
    rcases hshell with rfl | rfl
    · rfl
    · rfl
  · next hshell =>
    obtain ⟨hsh, hdash⟩ := not_or.mp hshell
    rw [beq_eq_false_iff_ne.mpr hsh, beq_eq_false_iff_ne.mpr hdash]
    cases Utility.named? name with
    | none => rfl
    | some utility => rfl

/-- **A process starts** just if the system runs the file at its path. -/
theorem isOk_runProcess (h : Host) (limit : Option Nat) (path : String) (argv : List String) :
    (runProcess h limit path argv).isOk = canRun h.files h.cwd path := by
  unfold runProcess canRun
  rw [programOf_fst h.files h.cwd headDepth (ofText path) [] (argv.map ofText)]
  dsimp only
  cases hprogram : programOf h.files h.cwd headDepth (ofText path) (argv.map ofText) with
  | error e => rfl
  | ok found =>
    dsimp only
    rw [isOk_map]
    exact isOk_runFile hprogram

/-- **The system runs files** as it is asked of a system. -/
theorem loads_runProcess :
    runProcess.Loads fun fs cwd path => pathsRead fs cwd headDepth (ofText path) where
  found hok := by
    rw [isOk_runProcess] at hok
    exact exists_stat_of_canRun hok
  mem_reads := mem_pathsRead
  rooted hpaths cwd limit argv := by
    rw [isOk_runProcess, isOk_runProcess]
    exact canRun_of_rooted hpaths cwd

end SourceCheck.Shell
