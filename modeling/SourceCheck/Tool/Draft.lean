import SourceCheck.Tool.Locate
import SourceCheck.Tool.Run

/-! # Drafts of invocations

    Options that nobody has validated may hold a value of any kind under any name,
    and so may an invocation that is drawn up from them.  Such a draft is kept as
    it is; what is wrong with it shows where it is used:

    - flags that have no items, and a tool that cannot be looked for, spoil the
      drawing up,
    - an argument that is no text spoils the run before the tool is started, and a
      time limit that is no number after it was started.

    A switch is on if its value counts as true.
-/

namespace SourceCheck

open SourceCheck.Text

/-! ## Drafts -/

/-- An invocation whose parts may be values of any kind. -/
structure Draft where
  check : CheckKind
  tool : Value
  /-- The program file; nothing if none was found. -/
  binary : Value
  /-- The directory in which the tool runs. -/
  directory : Path
  /-- The severity of findings that carry none. -/
  severity : Severity
  /-- The standard error is read instead of the standard output. -/
  readsErrors : Bool
  /-- What the user is told if the tool is missing. -/
  missing : String
  args : List Value
  /-- How long the tool may run. -/
  timeout : Value
  deriving Repr

def Invocation.draft (i : Invocation) : Draft where
  check := i.check
  tool := .text i.tool
  binary := (i.binary.map Value.text).getD .null
  directory := i.directory
  severity := i.severity
  readsErrors := i.readsErrors
  missing := i.missing
  args := i.args.map Value.text
  timeout := Options.timeoutValue i.timeout

namespace Draft

/-- The program: the binary, or the tool if the binary does not count as true. -/
def program (d : Draft) : Value :=
  if d.binary.isTruthy then d.binary else .text d.tool.display

def argv (d : Draft) : List Value := d.program :: d.args

/-- The texts in a row that should hold nothing else; `index` is the place of its
    first value. -/
def texts (index : Nat) : List Value → Except CheckFailure (List String)
  | [] => .ok []
  | v :: rest =>
    match v.text? with
    | some s => (texts (index + 1) rest).map (s :: ·)
    | none => .error (.notText index v.kindName)

def invocation (d : Draft) (args : List String) : Invocation where
  check := d.check
  tool := d.tool.display
  binary := if d.binary.isNull then none else some (d.binary.text?.getD "")
  directory := d.directory
  severity := d.severity
  readsErrors := d.readsErrors
  missing := d.missing
  args := args
  timeout := (timeLimit d.timeout).toOption.getD none

/-- Runs the tool of a draft.  The second part of the result are the files
    afterwards. -/
def start (x : Executor) (h : Host) (d : Draft) : ToolRun × FileSystem :=
  if d.binary.isNull then (⟨d.invocation [], .missing⟩, h.files)
  else match texts 0 d.argv with
    | .error f => (⟨d.invocation [], .spoiled f⟩, h.files)
    | .ok argv =>
      let (outcome, files) := x.runFor h argv d.directory d.timeout
      (⟨d.invocation (argv.drop 1), .started outcome⟩, files)

def run (x : Executor) (h : Host) (read : OutputReader) (d : Draft) : Task × FileSystem :=
  let (r, files) := d.start x h
  (r.task read, files)

end Draft

/-! ## Drawing up -/

/-- Why an invocation cannot be drawn up. -/
inductive DraftFault where
  /-- The flags of a tool have no items. -/
  | noRow (kind : String)
  /-- The flags of the linter have no items. -/
  | noItems (kind : String)
  /-- The linter is of a kind that no fixed answer is kept for. -/
  | noKey (kind : String)
  | noParts (kind : String)
  /-- The linter is of a kind that names no program. -/
  | noName (kind : String)
  /-- The system refuses to look for a program. -/
  | lookup (f : LookupFailure)
  deriving DecidableEq, Repr

def DraftFault.message : DraftFault → String
  | .noRow kind => "Value after * must be an iterable, not " ++ kind
  | .noItems kind => "'" ++ kind ++ "' object is not iterable"
  | .noKey kind => "unhashable type: '" ++ kind ++ "'"
  | .noParts kind => "argument of type '" ++ kind ++ "' is not iterable"
  | .noName kind => "expected str, bytes or os.PathLike object, not " ++ kind
  | .lookup f => f.message

def Value.holdsValues : Value → Bool
  | .list _ | .map _ => true
  | _ => false

def Value.holdsItem (s : String) (v : Value) : Bool :=
  (v.items?.getD []).any fun item => item.text? == some s

/-- The binary of a tool that is no text.  A value with items is looked for among
    the candidates as it is shown. -/
def Resolver.resolveValue (h : Host) (tool : Value) : Resolver → Except DraftFault (Option String)
  | .fixed _ => if tool.holdsValues then .error (.noKey tool.kindName) else .ok none
  | .search vs =>
    if !tool.holdsValues then .error (.noParts tool.kindName)
    else if tool.holdsItem "/" then .error (.noName tool.kindName)
    else match firstFile h (binaryCandidates vs tool.display) with
      | .error e => .error (.lookup e)
      | .ok (some path) => .ok (some path)
      | .ok none => .error (.noName tool.kindName)

/-- The binary of a tool of any kind, with what the log is told. -/
def Resolver.resolveAny (h : Host) (tool : Value) (r : Resolver) :
    Except DraftFault (Option String × List Effect) :=
  match tool.text? with
  | some name => (r.resolve h name).mapError .lookup
  | none => (r.resolveValue h tool).map (·, [])

namespace ToolCheck

def switchName : ToolCheck → String
  | .build => "build_on_save"
  | .lint => "lint_on_save"
  | .vet => "vet_on_save"

def flagsName : ToolCheck → String
  | .build => "build_flags"
  | .lint => "lint_flags"
  | .vet => "vet_flags"

end ToolCheck

namespace NamedOptions

def linter (o : NamedOptions) : Value :=
  if (o.value "linter").isTruthy then o.value "linter" else .text defaultLinter

def tool (o : NamedOptions) : ToolCheck → Value
  | .lint => o.linter
  | .build | .vet => .text goTool

/-- The checks that are wanted and run a tool, in merge order. -/
def toolChecks (o : NamedOptions) : List ToolCheck :=
  ToolCheck.all.filter fun c => (o.value c.switchName).isTruthy

def tagArgs (o : NamedOptions) : List Value :=
  if (o.value "build_tags").isTruthy then [.text "-tags", o.value "build_tags"] else []

def flags (o : NamedOptions) (c : ToolCheck) : Except DraftFault (List Value) :=
  match (o.value c.flagsName).items? with
  | some items => .ok items
  | none =>
    let kind := (o.value c.flagsName).kindName
    .error (if c = .lint then .noItems kind else .noRow kind)

def hasDefaultLinter (o : NamedOptions) : Bool :=
  o.linter.text? == some defaultLinter

def argsWith (h : Host) (target : Path) (o : NamedOptions) (flags : List Value) :
    ToolCheck → List Value
  | .build => (buildStart h target).map Value.text ++ o.tagArgs ++ flags ++ [.text "."]
  | .lint => flags ++ (if o.hasDefaultLinter then [.text target.text] else [])
  | .vet => [.text "tool", .text "vet"] ++ flags ++ [.text target.text]

def args (h : Host) (target : Path) (o : NamedOptions) (c : ToolCheck) :
    Except DraftFault (List Value) :=
  (o.flags c).map fun flags => o.argsWith h target flags c

/-- The draft of a check, with what the log is told on the way.  The linter is looked
    for after its flags were read, any other tool before. -/
def draft (h : Host) (target : Path) (o : NamedOptions) (resolver : Resolver) (c : ToolCheck) :
    Except DraftFault (Draft × List Effect) :=
  match o.args h target c, resolver.resolveAny h (o.tool c) with
  | .error e, .error f => .error (if c = .lint then e else f)
  | .error e, .ok _ => .error e
  | .ok _, .error f => .error f
  | .ok args, .ok (binary, es) => .ok (⟨c.kind, o.tool c, (binary.map Value.text).getD .null,
      target.parent, c.severity, c != .lint, c.missing h o.linter.display, args,
      o.value "tool_timeout"⟩, es)

/-- The drafts of some checks, with what the log is told on the way. -/
def drafts (h : Host) (target : Path) (o : NamedOptions) (resolver : Resolver) :
    List ToolCheck → Except DraftFault (List Draft × List Effect)
  | [] => .ok ([], [])
  | c :: rest =>
    match o.draft h target resolver c with
    | .error e => .error e
    | .ok (d, es) =>
      match o.drafts h target resolver rest with
      | .error e => .error e
      | .ok (ds, more) => .ok (d :: ds, es ++ more)

end NamedOptions

end SourceCheck
