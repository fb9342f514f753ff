import SourceCheck.StandIn.Shell.Script
import SourceCheck.StandIn.Shell.Words

/-! # Redirections

    A redirection is first prepared, by putting its word in place, and then made.
    One that cannot be made is complained about, and the command it belongs to is
    not run.
-/

namespace SourceCheck.Shell

open SourceCheck SourceCheck.Text

/-- A redirection whose word was put in place. -/
inductive Prepared where
  | file (descriptor : Nat) (how : Opening) (path : String)
  | copy (descriptor source : Nat)
  | close (descriptor : Nat)
  | document (descriptor number : Nat)

def Prepared.descriptor : Prepared → Nat
  | .file d _ _ => d
  | .copy d _ => d
  | .close d => d
  | .document d _ => d

/-- A descriptor given by a word, which is one digit or a hyphen. -/
def prepareCopy (descriptor : Nat) (target : String) : Option Prepared :=
  match target.toList with
  | ['-'] => some (.close descriptor)
  | [c] => if isDigitChar c then some (.copy descriptor (c.toNat - 0x30)) else none
  | _ => none

def prepareAll (substitute : Substitution) : List Redirect → World → List Prepared × World
  | [], w => ([], w)
  | r :: rest, w =>
    let (here, w) : List Prepared × World := match r with
      | .file d how word =>
        let (path, w) := expandText substitute word w
        ([.file d how path], w)
      | .copy d word =>
        let (target, w) := expandText substitute word w
        if !w.isRunning then ([], w)
        else match prepareCopy d target with
          | some p => ([p], w)
          | none => ([], (w.atLine w.shell.readLine).fail "Syntax error: Bad fd number")
      | .document d number => ([.document d number], w)
    if !w.isRunning then ([], w)
    else
      let (more, w) := prepareAll substitute rest w
      (here ++ more, w)

/-! ## Opening -/

/-- Why a file cannot be opened, in a message about the file. -/
def openingFault (makes : Bool) (path : String) (e : SystemError) : String :=
  let why :=
    if e == .notFound || e == .notDirectory then
      if makes then "Directory nonexistent" else "No such file"
    else e.wording
  (if makes then "cannot create " else "cannot open ") ++ path ++ ": " ++ why

def openForReading (path : String) (w : World) : Except SystemError (Channel × World) :=
  match w.stat path with
  | .error e => .error e
  | .ok (.device .null) => .ok (.null, w)
  | .ok (.device .zero) => .ok (.zeros, w)
  | .ok (.file content _) =>
    let (id, w) := w.addInput (ofOctets content).toList w.shell.clock true
    .ok (.input id, w)
  | .ok _ =>
    let (id, w) := w.addInput [] w.shell.clock true
    .ok (.input id, w)

/-- Opens a file for reading and writing; it is made if it is not there. -/
def openForUpdate (path : String) (w : World) : Except SystemError (Channel × World) :=
  match w.openFile false true path with
  | .error e => .error e
  | .ok (.file handle, w) =>
    let content := (w.readFile path).toOption.getD ""
    let (id, w) := w.addInput content.toList w.shell.clock true
    .ok (.both id handle, w)
  | .ok r => .ok r

def openAs (how : Opening) (path : String) (w : World) : Except SystemError (Channel × World) :=
  match how with
  | .read => openForReading path w
  | .update => openForUpdate path w
  | .append => w.openFile true true path
  | .overwrite => w.openFile false false path
  | .write =>
    if w.hasOption "noclobber" && (w.stat path).toOption.any Entry.isFile then
      .error .alreadyExists
    else w.openFile false false path

/-- A redirection is made; the second part of the result tells whether it could
    be. -/
def makeRedirect (substitute : Substitution) (w : World) : Prepared → World × Bool
  | .file d how path =>
    match openAs how path w with
    | .ok (channel, w) => (w.setChannel d channel, true)
    | .error e => ((w.complain (openingFault (how != .read) path e)).withStatus 2, false)
  | .close d => (w.closeChannel d, true)
  | .copy d source =>
    if d = source then (w, true)
    else match w.channel? source with
      | some channel => (w.setChannel d channel, true)
      | none =>
        ((w.complain (Number.natText source ++ ": Bad file descriptor")).withStatus 2, false)
  | .document d number =>
    let parts := (w.shell.documents.lookup number).getD []
    let (pieces, w) := expandParts substitute ⟨false, false, true, false⟩ false 0 false parts w
    match w.flow with
    | .next =>
      let (id, w) := w.addInput (marksOf pieces |>.map (·.1)) w.shell.clock false
      (w.setChannel d (.input id), true)
    | .failed => (w.withFlow .next, false)
    | _ => (w, false)

/-- Redirections are made one after the other, up to one that cannot be made. -/
def makeAll (substitute : Substitution) : List Prepared → World → World × Bool
  | [], w => (w, true)
  | r :: rest, w =>
    match makeRedirect substitute w r with
    | (w, true) => makeAll substitute rest w
    | (w, false) => (w, false)

def restoreAll (redirects : List Prepared) (before : World) (w : World) : World :=
  redirects.foldl (fun w r => w.restoreChannel r.descriptor (before.channel? r.descriptor)) w

end SourceCheck.Shell
