import SourceCheck.StandIn.Awk.Record
import SourceCheck.StandIn.Awk.Table
import SourceCheck.StandIn.Utility.Launching

/-! # The state of a running program

    A program holds its variables and tables, the record, and what it has open for
    reading and writing.  What it writes is kept back until it ends, closes what it
    writes to, or starts another program.
-/

namespace SourceCheck.Awk

open SourceCheck SourceCheck.Number SourceCheck.Shell SourceCheck.Utility

/-! ## Parts of the state -/

/-- What a parameter of a function stands for. -/
inductive Slot where
  | value (v : Value)
  | table (name : String)
  deriving Inhabited

/-- Where a sink leads. -/
inductive SinkKind where
  | standard
  | errors
  | file (c : Channel)
  | command

/-- What is open for writing. -/
structure Sink where
  name : List Char
  kind : SinkKind
  /-- What was written and kept back, the last piece first. -/
  pieces : List (List Char)

/-- What is open for reading. -/
structure Source where
  name : List Char
  isCommand : Bool
  stream : Stream
  status : Nat

structure State where
  world : World
  scalars : Std.HashMap String Value
  /-- The tables; those of functions have numbers for names. -/
  tables : Std.HashMap String Table
  /-- What the parameters of the function stand for. -/
  frame : Array Slot
  /-- The number of the next table of a function. -/
  fresh : Nat
  record : Record
  /-- The rules for several records that are open, by their numbers. -/
  openRules : List Nat
  /-- What was written to the standard output and kept back, the last piece first. -/
  pieces : List (List Char)
  sinks : List Sink
  sources : List Source
  stream : Option Stream
  /-- The number of the next argument that may be a file. -/
  nextArgument : Nat
  hasFile : Bool
  isOver : Bool
  status : Nat
  regexes : Std.HashMap String Regex
  /-- The random numbers so far, from which the next one is made. -/
  randoms : Array Nat
  seed : Value

/-- Why something is not brought to its end. -/
inductive Stop where
  | record
  | file
  | exit
  | fault (message : String)
  | halted

/-- Something that is done with the state. -/
abbrev Run := EStateM Stop State

/-! ## Small changes -/

/-- Something is wrong at run time; the record is told. -/
def failAt {α : Type} (message : String) : Run α := do
  let s ← get
  let shown := fun (name : String) =>
    String.ofList ((s.scalars[name]?.getD .nothing).toText "%.6g".toList)
  let zero := fun (t : String) => if t.isEmpty then "0" else t
  throw (.fault ("run time error: " ++ message ++ "\n\tFILENAME=\"" ++ shown "FILENAME" ++ "\" FNR="
    ++ zero (shown "FNR") ++ " NR=" ++ zero (shown "NR")))

def onWorld (f : World → World) : Run Unit := modify fun s => { s with world := f s.world }

def plainScalar (name : String) : Run Value :=
  return (← get).scalars[name]?.getD .nothing

def conversion : Run (List Char) := do
  return (← plainScalar "CONVFMT").toText "%.6g".toList

def textOf (v : Value) : Run (List Char) := do
  match v with
  | .number _ => return v.toText (← conversion)
  | v => return v.toText []

def scalarText (name : String) : Run (List Char) := do textOf (← plainScalar name)

def regexOf (s : List Char) : Run Regex := do
  let key := String.ofList s
  match (← get).regexes[key]? with
  | some r => return r
  | none =>
    match readRegex s with
    | .ok r =>
      modify fun st => { st with regexes := st.regexes.insert key r }
      return r
    | .error message => throw (.fault ("line 0: " ++ message))

def setNumber (name : String) (n : Int) : Run Unit :=
  modify fun s => { s with scalars := s.scalars.insert name (.ofInt n) }

/-! ## The record -/

def fieldSeparator : Run Separator := do
  match separatorOf (← scalarText "FS") with
  | .ok sep => return sep
  | .error message => throw (.fault ("line 0: " ++ message))

def splitRecord : Run Unit := do
  if !(← get).record.isSplit then
    let sep ← fieldSeparator
    modify fun s => { s with record := s.record.split sep }

def recordText : Run (List Char) := do
  if (← get).record.isStale then
    let template ← conversion
    let between ← scalarText "OFS"
    modify fun s => { s with record := s.record.joined template between }
  return (← get).record.text

def setRecord (text : List Char) : Run Unit := modify fun s => { s with record := .ofText text }

def fieldLimit : Nat := 32767

/-- A field of the record; the field zero is all of it. -/
def field (n : Nat) : Run Value := do
  if n = 0 then return .input (← recordText)
  else
    splitRecord
    return ((← get).record.fields[n - 1]?).getD .nothing

def setField (n : Nat) (v : Value) : Run Unit := do
  if n = 0 then setRecord (← textOf v)
  else
    splitRecord
    modify fun s => { s with record := s.record.setField n v }

def fieldNumber (v : Value) : Run Nat := do
  let n := machineInteger v.toNumber
  if n < 0 then failAt ("negative field index $" ++ intText n)
  else if (fieldLimit : Int) < n then failAt ("field index too large $" ++ intText n)
  else return n.toNat

/-! ## Variables -/

def scalar (name : String) : Run Value := do
  if name = "NF" then
    splitRecord
    return .ofInt (← get).record.fields.size
  else plainScalar name

def setScalar (name : String) (v : Value) : Run Unit := do
  if name = "NF" then
    splitRecord
    let n ← fieldNumber v
    modify fun s => { s with record := s.record.setCount n }
  else
    if name = "FS" then splitRecord
    modify fun s => { s with scalars := s.scalars.insert name v }

def lookUp : Name → Run Value
  | .global name => scalar name
  | .parameter n => do
    match (← get).frame[n]? with
    | some (.value v) => return v
    | _ => return .nothing

def setName : Name → Value → Run Unit
  | .global name, v => setScalar name v
  | .parameter n, v => modify fun s => { s with frame := s.frame.setIfInBounds n (.value v) }

def tableName : Name → Run String
  | .global name => return name
  | .parameter n => do
    match (← get).frame[n]? with
    | some (.table name) => return name
    | _ => failAt "reference to a value as a table"

def table (name : String) : Run Table := return ((← get).tables[name]?).getD .empty

def onTable (name : String) (f : Table → Table) : Run Unit := do
  modify fun s =>
    let t := (s.tables[name]?).getD .empty
    { s with tables := (s.tables.erase name).insert name (f t) }

def keyOf (vs : List Value) : Run Table.Key := do
  let template ← conversion
  match vs with
  | [v] => return .ofValue template v
  | vs => return .text ((← scalarText "SUBSEP").intercalate (vs.map (Value.toText template)))

/-- An element of a table; it is there from now on. -/
def element (name : String) (k : Table.Key) : Run Value := do
  match (← table name).get? k with
  | some v =>
    onTable name (·.touch k)
    return v
  | none =>
    onTable name (·.insert k .nothing)
    return .nothing

/-! ## Places -/

/-- What can be assigned to. -/
inductive Place where
  | name (n : Name)
  | field (n : Nat)
  | element (table : String) (k : Table.Key)
  | nowhere (v : Value)
  deriving Inhabited

def Place.value : Place → Run Value
  | .name n => lookUp n
  | .field n => Awk.field n
  | .element t k => Awk.element t k
  | .nowhere v => return v

def Place.set : Place → Value → Run Unit
  | .name n, v => setName n v
  | .field n, v => setField n v
  | .element t k, v => onTable t (·.insert k v)
  | .nowhere _, _ => return

/-! ## Writing -/

def writeChannel (c : Channel) (s : String) (w : World) : World :=
  match c with
  | .file id => w.writeHandle id s
  | _ => w

def textOfPieces (pieces : List (List Char)) : String := String.ofList pieces.reverse.flatten

/-- The standard output and the files get what was kept back. -/
def flushAll : Run Unit := do
  let s ← get
  let w := s.world.print (textOfPieces s.pieces)
  let w := s.sinks.foldl (fun w sink => match sink.kind with
    | .file c => writeChannel c (textOfPieces sink.pieces) w
    | _ => w) w
  let sinks := s.sinks.map fun sink => match sink.kind with
    | .file _ => { sink with pieces := [] }
    | _ => sink
  set { s with world := w, pieces := [], sinks := sinks }

/-- Another program runs; the status of the process stays as it was.  The status of a program
    that was ended by a signal lies above all others. -/
def runProgram (l : Launcher) (command : List String) : Run Nat := do
  let w := (← get).world
  match l.call command w with
  | .error e =>
    return refusalStatus e
  | .ok (after, killer) =>
    modify fun s => { s with world := after.withStatus w.shell.status }
    if !after.isRunning then throw .halted
    else return (killer.map (256 + ·)).getD after.shell.status

def runReader (l : Launcher) (command : List Char) (text : String) : Run Nat := do
  let channel := (← get).world.channel? 0
  onWorld fun w =>
    let (id, w) := w.addInput text.toList w.shell.clock false
    w.setChannel 0 (.input id)
  let status ← runProgram l ["/bin/sh", "-c", String.ofList command]
  onWorld (World.restoreChannel 0 channel)
  return status

def runWriter (l : Launcher) (command : List Char) : Run (List Char × Nat) := do
  flushAll
  let channel := (← get).world.channel? 1
  let (pipe, w) := (← get).world.newId
  modify fun s => { s with world := w.setChannel 1 (.pipe pipe) }
  let status ← runProgram l ["/bin/sh", "-c", String.ofList command]
  let text := (← get).world.written pipe
  onWorld fun w => World.restoreChannel 1 channel (w.forget pipe)
  return (text.toList, status)

def openSink (isCommand atEnd : Bool) (name : List Char) : Run SinkKind := do
  if isCommand then
    flushAll
    return .command
  else if name == "/dev/stdout".toList || name == ['-'] then return .standard
  else if name == "/dev/stderr".toList then return .errors
  else
    match (← get).world.openFile atEnd false (String.ofList name) with
    | .ok (c, w) =>
      modify fun s => { s with world := w }
      return .file c
    | .error e =>
      throw (.fault ("cannot open \"" ++ String.ofList name ++ "\" for output (" ++ e.wording ++ ")"))

/-- A text is written to a sink, which is opened if it is not open yet. -/
def writeTo (isCommand atEnd : Bool) (name text : List Char) : Run Unit := do
  let isThis := fun (sink : Sink) =>
    sink.name == name && (match sink.kind with
      | .command => isCommand
      | _ => !isCommand)
  if !(← get).sinks.any isThis then
    let kind ← openSink isCommand atEnd name
    modify fun s => { s with sinks := ⟨name, kind, []⟩ :: s.sinks }
  match (← get).sinks.find? isThis with
  | none => return
  | some sink =>
    match sink.kind with
    | .standard => modify fun s => { s with pieces := text :: s.pieces }
    | .errors => onWorld fun w => w.write 2 (String.ofList text)
    | _ =>
      modify fun s =>
        { s with sinks := s.sinks.map fun k =>
            if isThis k then { k with pieces := text :: k.pieces } else k }

def closeSink (l : Launcher) (sink : Sink) : Run Nat := do
  match sink.kind with
  | .command => runReader l sink.name (textOfPieces sink.pieces)
  | .file c =>
    onWorld (writeChannel c (textOfPieces sink.pieces))
    return 0
  | _ => return 0

/-- All that is open under a name is closed; without any there is no status. -/
def closeNamed (l : Launcher) (name : List Char) : Run Int := do
  let s ← get
  let sinks := s.sinks.filter (·.name == name)
  let sources := s.sources.filter (·.name == name)
  set { s with
    sinks := s.sinks.filter (·.name != name)
    sources := s.sources.filter (·.name != name) }
  let statuses ← sinks.mapM (closeSink l)
  match statuses.getLast?, sources.getLast? with
  | some n, _ => return n
  | none, some source => return source.status
  | none, none => return -1

/-- All that is open for writing is closed, commands first, and then what was kept
    back is written to the standard output. -/
def closeAll (l : Launcher) : Run Unit := do
  let sinks := (← get).sinks
  modify fun s => { s with sinks := [] }
  for sink in sinks do
    let _ ← closeSink l sink
  flushAll

/-! ## Reading -/

def recordEnding : Run Ending := do
  match endingOf (← scalarText "RS") with
  | .ok e => return e
  | .error message => throw (.fault ("line 0: " ++ message))

def fileText (path : List Char) : Run (Except SystemError (List Char)) := do
  let path := if path == "/dev/stdin".toList then ['-'] else path
  let (content, w) := readSource (String.ofList path) (← get).world
  modify fun s => { s with world := w }
  if w.isRunning then return content else throw .halted

/-- The next record of a source, which is opened by `start` if it is not open yet. -/
def nextOf (isCommand : Bool) (name : List Char)
    (start : Run (Except SystemError (List Char × Nat))) :
    Run (Except SystemError (Option (List Char))) := do
  let isThis := fun (source : Source) => source.name == name && source.isCommand == isCommand
  let opened : Except SystemError Unit ←
    if (← get).sources.any isThis then pure (.ok ())
    else
      match ← start with
      | .error e => pure (.error e)
      | .ok (text, status) =>
        modify fun s => { s with sources := ⟨name, isCommand, .ofText text, status⟩ :: s.sources }
        pure (.ok ())
  match opened, (← get).sources.find? isThis with
  | .error e, _ => return .error e
  | .ok (), none => return .ok none
  | .ok (), some source =>
    match source.stream.next? (← recordEnding) with
    | none => return .ok none
    | some (record, stream) =>
      modify fun s =>
        { s with sources := s.sources.map fun k =>
            if isThis k then { k with stream := stream } else k }
      return .ok (some record)

/-- An argument that sets a variable: the name and the value. -/
def assignmentOf? (s : List Char) : Option (String × List Char) :=
  let name := s.takeWhile (· != '=')
  match s.drop name.length with
  | '=' :: value => if isName name then some (String.ofList name, unescaped value) else none
  | _ => none

/-- The next file among the arguments is opened, or the standard input if there is
    none; `fuel` bounds the arguments. -/
def openNext : Nat → Run Unit
  | 0 => modify fun s => { s with isOver := true }
  | fuel + 1 => do
    let s ← get
    let count := machineInteger (s.scalars["ARGC"]?.getD .nothing).toNumber
    let start := fun (path : List Char) => do
      match ← fileText path with
      | .error .isDirectory => throw (.fault "read error (Is a directory)")
      | .error e =>
        throw (.fault ("cannot open \"" ++ String.ofList path ++ "\" (" ++ e.wording ++ ")"))
      | .ok text => modify fun s => { s with stream := some (.ofText text), hasFile := true }
    if count ≤ s.nextArgument then
      if s.hasFile then modify fun s => { s with isOver := true }
      else start ['-']
    else
      modify fun s => { s with nextArgument := s.nextArgument + 1 }
      match (← table "ARGV").get? (.integer s.nextArgument) with
      | none => openNext fuel
      | some v =>
        let a ← textOf v
        if a.isEmpty then openNext fuel
        else match assignmentOf? a with
          | some (name, value) =>
            setScalar name (.input value)
            openNext fuel
          | none =>
            start a
            setScalar "FILENAME" (.text a)
            setNumber "FNR" 0

def argumentLimit : Nat := 100000

/-- The next record of the input; `fuel` bounds the files. -/
def nextRecordWith : Nat → Run (Option (List Char))
  | 0 => return none
  | fuel + 1 => do
    let s ← get
    if s.isOver then return none
    else match s.stream with
      | none =>
        openNext argumentLimit
        nextRecordWith fuel
      | some stream =>
        match stream.next? (← recordEnding) with
        | some (record, stream) =>
          modify fun s => { s with stream := some stream }
          return some record
        | none =>
          modify fun s => { s with stream := none }
          nextRecordWith fuel

def countRecord : Run Unit := do
  let n := machineInteger (← plainScalar "NR").toNumber
  let m := machineInteger (← plainScalar "FNR").toNumber
  setNumber "NR" (n + 1)
  setNumber "FNR" (m + 1)

def nextRecord : Run (Option (List Char)) := do
  match ← nextRecordWith argumentLimit with
  | some record =>
    countRecord
    return some record
  | none => return none

/-! ## Random numbers -/

/-- The random numbers that follow from a seed: each is made from the ones three and
    thirty-one places before it. -/
def randomsFrom (seed : Nat) : Array Nat :=
  let least := if seed = 0 then 1 else seed
  let first := (List.range 30).foldl (fun (a : Array Nat) _ =>
    a.push (16807 * (a.back?.getD 0) % 2147483647)) #[least]
  let first := (List.range 3).foldl (fun (a : Array Nat) _ => a.push (a[a.size - 31]?.getD 0)) first
  (List.range 310).foldl (fun (a : Array Nat) _ => a.push (nextOfRandoms a)) first
where
  nextOfRandoms (a : Array Nat) : Nat :=
    (a[a.size - 3]?.getD 0 + a[a.size - 31]?.getD 0) % Nat.pow 2 32

def random : Run Double := do
  let s ← get
  let a := if s.randoms.isEmpty then randomsFrom 1 else s.randoms
  let n := randomsFrom.nextOfRandoms a
  set { s with randoms := a.push n }
  return .divide (.ofInt (n / 2 : Nat)) (.ofInt 2147483647)

end SourceCheck.Awk
