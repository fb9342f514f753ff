import SourceCheck.StandIn.Awk.Builtin

/-! # Running programs that process records

    Expressions give values and statements tell how their surroundings go on.  What
    ends more than a function, the record or the whole program, stops all that is
    being done.
-/

namespace SourceCheck.Awk

open SourceCheck SourceCheck.Number SourceCheck.Shell SourceCheck.Utility

/-! ## Flow -/

/-- How a statement lets its surroundings go on. -/
inductive Flow where
  | next
  | leave
  /-- With the next turn of the loop. -/
  | again
  | back (v : Value)
  deriving Inhabited

/-- How many turns a loop takes before it counts as one that never ends. -/
def turnLimit : Nat := 2000000

/-- A loop: turns are taken as long as a condition holds, each followed by a step;
    `fuel` bounds the turns. -/
def loopWhile (test : Run Bool) (body : Run Flow) (step : Run Unit) : Nat → Run Flow
  | 0 => throw .halted
  | fuel + 1 => do
    if ← test then
      match ← body with
      | .next | .again =>
        step
        loopWhile test body step fuel
      | .leave => return .next
      | .back v => return .back v
    else return .next

def loopOver {α : Type} (body : α → Run Flow) : List α → Run Flow
  | [] => return .next
  | a :: rest => do
    match ← body a with
    | .next | .again => loopOver body rest
    | .leave => return .next
    | .back v => return .back v

/-! ## Expressions -/

/-- What is known while a program runs, and how its functions are called. -/
structure Context extends Setting where
  call : String → List Slot → Run Value

namespace Context

def isTable (k : Context) : Name → Run Bool
  | .global name => return k.globalTables.contains name
  | .parameter n => do
    match (← get).frame[n]? with
    | some (.table _) => return true
    | _ => return false

def newTable : Run String := do
  let s ← get
  let name := natText s.fresh
  set { s with fresh := s.fresh + 1, tables := s.tables.insert name .empty }
  return name

end Context

/-- One and zero for whether an attempt to read gave a record, and minus one for a
    file that cannot be read. -/
def readingStatus : Except SystemError (Option (List Char)) → Int
  | .error _ => -1
  | .ok none => 0
  | .ok (some _) => 1

def keepRead (target : Option Place) (found : Except SystemError (Option (List Char))) :
    Run Value := do
  match found with
  | .ok (some record) =>
    match target with
    | some p => p.set (.input record)
    | none => setRecord record
  | _ => pure ()
  return .ofInt (readingStatus found)

def stepAt (p : Place) (up before : Bool) : Run Value := do
  let old := (← p.value).toNumber
  let new := if up then Double.add old (.ofInt 1) else Double.subtract old (.ofInt 1)
  p.set (.number new)
  return .number (if before then new else old)

def assignAt (p : Place) (op : Option Operation) (v : Value) : Run Value := do
  let v ← match op with
    | none => pure v
    | some op => pure (Value.number (op.apply (← p.value).toNumber v.toNumber))
  p.set v
  match p with
  | .name (.global "NF") => p.value
  | _ => return v

def orderOf (v w : Value) : Run (Option Ordering) := do return v.order? (← conversion) w

mutual

def Expr.eval (k : Context) : Expr → Run Value
  | .number x => return .number x
  | .text s => return .text s
  | .regex r => do return .ofBool (hasMatch r (← recordText))
  | .variable n => lookUp n
  | .field e => do Awk.field (← fieldNumber (← e.eval k))
  | .element t keys => do
    let name ← tableName t
    Awk.element name (← keyOf (← evalAll k keys))
  | .assign target op value => do
    let p ← target.place k
    assignAt p op (← value.eval k)
  | .choose c yes no => do
    if (← c.eval k).isTrue then yes.eval k else no.eval k
  | .both a b => do
    if (← a.eval k).isTrue then return .ofBool (← b.eval k).isTrue else return .ofBool false
  | .either a b => do
    if (← a.eval k).isTrue then return .ofBool true else return .ofBool (← b.eval k).isTrue
  | .not e => do return .ofBool !(← e.eval k).isTrue
  | .negate e => do return .number (Double.subtract (.zero false) (← e.eval k).toNumber)
  | .plus e => do return .number (← e.eval k).toNumber
  | .operate op a b => do
    let v ← a.eval k
    let w ← b.eval k
    return .number (op.apply v.toNumber w.toNumber)
  | .compare rel a b => do
    let v ← a.eval k
    let w ← b.eval k
    return .ofBool (rel.holds (← orderOf v w))
  | .join a b => do
    let s ← textOf (← a.eval k)
    let t ← textOf (← b.eval k)
    return .text (s ++ t)
  | .matches negated a b => do
    let s ← textOf (← a.eval k)
    let r ← b.asRegex k
    return .ofBool (hasMatch r s != negated)
  | .contains keys t => do
    let key ← keyOf (← evalAll k keys)
    let name ← tableName t
    onTable name (·.seek key)
    return .ofBool ((← table name).contains key)
  | .step target up before => do stepAt (← target.place k) up before
  | .call f args => do k.call f (← evalSlots k f 0 args)
  | .builtin f args => do callBuiltin k.launcher f (← evalArguments k f 0 args)
  | .readRecord target => do
    let p ← match target with
      | some e => some <$> e.place k
      | none => pure none
    keepRead p (.ok (← nextRecord))
  | .readFile target file => do
    let p ← match target with
      | some e => some <$> e.place k
      | none => pure none
    let name ← textOf (← file.eval k)
    let found ← nextOf false name do
      return (← fileText name).map (·, 0)
    keepRead p found
  | .readCommand target command => do
    let name ← textOf (← command.eval k)
    let p ← match target with
      | some e => some <$> e.place k
      | none => pure none
    let found ← nextOf true name do
      return .ok (← runWriter k.launcher name)
    keepRead p found
  | .grouped e => e.eval k

def Expr.place (k : Context) : Expr → Run Place
  | .variable n => return .name n
  | .field e => do return .field (← fieldNumber (← e.eval k))
  | .element t keys => do
    let name ← tableName t
    return .element name (← keyOf (← evalAll k keys))
  | .grouped e => e.place k
  | _ => return .nowhere .nothing

def Expr.asRegex (k : Context) : Expr → Run Regex
  | .regex r => return r
  | .grouped e => e.asRegex k
  | .text s => regexOf s
  | .variable n => do regexOf (← textOf (← lookUp n))
  | .field e => do regexOf (← textOf (← Awk.field (← fieldNumber (← e.eval k))))
  | .join a b => do
    let s ← textOf (← a.eval k)
    let t ← textOf (← b.eval k)
    regexOf (s ++ t)
  | .element t keys => do
    let name ← tableName t
    regexOf (← textOf (← Awk.element name (← keyOf (← evalAll k keys))))
  | .choose c yes no => do
    if (← c.eval k).isTrue then yes.asRegex k else no.asRegex k
  | .call f args => do regexOf (← textOf (← k.call f (← evalSlots k f 0 args)))
  | .builtin f args => do
    regexOf (← textOf (← callBuiltin k.launcher f (← evalArguments k f 0 args)))
  | .number x => do regexOf (← textOf (.number x))
  | .assign target op value => do
    let p ← target.place k
    regexOf (← textOf (← assignAt p op (← value.eval k)))
  | .step target up before => do
    regexOf (← textOf (← stepAt (← target.place k) up before))
  | .operate op a b => do
    let v ← a.eval k
    let w ← b.eval k
    regexOf (← textOf (.number (op.apply v.toNumber w.toNumber)))
  | .negate e => do
    regexOf (← textOf (.number (Double.subtract (.zero false) (← e.eval k).toNumber)))
  | .plus e => do regexOf (← textOf (.number (← e.eval k).toNumber))
  | _ => regexOf []

def evalAll (k : Context) : List Expr → Run (List Value)
  | [] => return []
  | e :: rest => do
    let v ← e.eval k
    return v :: (← evalAll k rest)

/-- The arguments of a function of the program, from a number on. -/
def evalSlots (k : Context) (f : String) (i : Nat) : List Expr → Run (List Slot)
  | [] => return []
  | e :: rest => do
    let slot ← match e with
      | .variable n =>
        if k.tableParameters.contains (f, i) then Slot.table <$> tableName n
        else Slot.value <$> lookUp n
      | e => Slot.value <$> e.eval k
    return slot :: (← evalSlots k f (i + 1) rest)

def evalArguments (k : Context) (f : String) (i : Nat) : List Expr → Run (List Argument)
  | [] => return []
  | e :: rest => do
    let a ← match wanted f i, e with
      | .table, .variable n => Argument.table <$> tableName n
      | .tableOrValue, .variable n => do
        if ← k.isTable n then Argument.table <$> tableName n
        else Argument.value <$> lookUp n
      | .separator, .regex r => pure (Argument.regex r)
      | .regex, e => Argument.regex <$> e.asRegex k
      | .place, e => Argument.place <$> e.place k
      | _, e => Argument.value <$> e.eval k
    return a :: (← evalArguments k f (i + 1) rest)

end

/-! ## Statements -/

def Output.write (k : Context) (s : List Char) : Output → Run Unit
  | .standard => modify fun st => { st with pieces := s :: st.pieces }
  | .file e => do writeTo false false (← textOf (← e.eval k)) s
  | .append e => do writeTo false true (← textOf (← e.eval k)) s
  | .command e => do writeTo true false (← textOf (← e.eval k)) s

def printValues (k : Context) (values : List Value) (sink : Output) : Run Unit := do
  let template ← scalarText "OFMT"
  let between ← scalarText "OFS"
  let after ← scalarText "ORS"
  sink.write k (between.intercalate (values.map (Value.toText template)) ++ after)

def printFormatted (k : Context) (values : List Value) (sink : Output) : Run Unit := do
  let (s, complaint) ← formatted values "printf"
  sink.write k s
  match complaint with
  | some message => failAt message
  | none => return

mutual

def Statement.exec (k : Context) : Statement → Run Flow
  | .expr e => do
    let _ ← e.eval k
    return .next
  | .print values sink => do
    let vs ← if values.isEmpty then (fun s => [Value.text s]) <$> recordText else evalAll k values
    printValues k vs sink
    return .next
  | .format values sink => do
    printFormatted k (← evalAll k values) sink
    return .next
  | .branch c yes none => do
    if (← c.eval k).isTrue then yes.exec k else return .next
  | .branch c yes (some no) => do
    if (← c.eval k).isTrue then yes.exec k else no.exec k
  | .whileLoop c body =>
    loopWhile (Value.isTrue <$> c.eval k) (body.exec k) (pure ()) turnLimit
  | .doLoop body c => do
    match ← body.exec k with
    | .next | .again =>
      loopWhile (Value.isTrue <$> c.eval k) (body.exec k) (pure ()) turnLimit
    | .leave => return .next
    | .back v => return .back v
  | .forLoop start c step body => do
    match start with
    | some s =>
      let _ ← s.exec k
      pure ()
    | none => pure ()
    let test : Run Bool := match c with
      | some c => Value.isTrue <$> c.eval k
      | none => pure true
    let after : Run Unit := match step with
      | some s => do
        let _ ← s.exec k
        pure ()
      | none => pure ()
    loopWhile test (body.exec k) after turnLimit
  | .forKeys target t body => do
    let name ← tableName t
    onTable name (·.withTexts)
    let keys := (← table name).keys
    loopOver (fun key => do
      setName target (.text key)
      body.exec k) keys
  | .block body => execBody k body
  | .leave => return .leave
  | .again => return .again
  | .next => throw .record
  | .nextFile => throw .file
  | .exit none => throw .exit
  | .exit (some e) => do
    let v ← e.eval k
    modify fun s => { s with status := (machineInteger v.toNumber % 256).toNat }
    throw .exit
  | .back none => return .back .nothing
  | .back (some e) => do return .back (← e.eval k)
  | .delete t none => do
    onTable (← tableName t) fun _ => .empty
    return .next
  | .delete t (some keys) => do
    let key ← keyOf (← evalAll k keys)
    onTable (← tableName t) (·.erase key)
    return .next

def execBody (k : Context) : List Statement → Run Flow
  | [] => return .next
  | s :: rest => do
    match ← s.exec k with
    | .next => execBody k rest
    | flow => return flow

end

/-! ## Functions -/

/-- How deep functions may call one another. -/
def callLimit : Nat := 1000

/-- The parameters of a function from some arguments; those that are missing are new
    tables, or nothing. -/
def fillFrame (p : Setting) (f : Function) (args : List Slot) : Nat → Run (List Slot)
  | 0 => return []
  | left + 1 => do
    let i := f.parameters.length - (left + 1)
    let isTable := p.tableParameters.contains (f.name, i)
    let slot ← match args[i]?, isTable with
      | some (.table t), _ => pure (Slot.table t)
      | some (.value v), false => pure (Slot.value v)
      | _, true => Slot.table <$> Context.newTable
      | none, false => pure (Slot.value .nothing)
    return slot :: (← fillFrame p f args left)

/-- A function is called; `depth` bounds how deep functions call one another. -/
def callFunction (p : Setting) : Nat → String → List Slot → Run Value
  | 0, _, _ => failAt "function stack overflow"
  | depth + 1, name, args => do
    match p.functions.find? (·.name == name) with
    | none => return .nothing
    | some f =>
      let s ← get
      let frame ← fillFrame p f args f.parameters.length
      modify fun st => { st with frame := frame.toArray }
      let flow ← execBody { p with call := callFunction p depth } f.body
      let made := (List.range ((← get).fresh - s.fresh)).map fun i => natText (s.fresh + i)
      modify fun st =>
        { st with
          frame := s.frame
          fresh := s.fresh
          tables := made.foldl (fun t name => t.erase name) st.tables }
      match flow with
      | .back v => return v
      | _ => return .nothing

/-! ## Rules -/

/-- The record is one that a rule is for; `i` is the number of the rule. -/
def isMeant (k : Context) (i : Nat) : Pattern → Run Bool
  | .first | .last => return false
  | .all => return true
  | .holds e => do return (← e.eval k).isTrue
  | .range start stop => do
    let isOpen := (← get).openRules.contains i
    let starts ← if isOpen then pure true else Value.isTrue <$> start.eval k
    if !starts then return false
    else
      let stops := (← stop.eval k).isTrue
      modify fun s =>
        let others := s.openRules.filter (· != i)
        { s with openRules := if stops then others else i :: others }
      return true

def Rule.act (k : Context) (r : Rule) : Run Unit := do
  match r.action with
  | some body =>
    let _ ← execBody k body
    return
  | none => printValues k [.text (← recordText)] .standard

def runRules (k : Context) : Nat → List Rule → Run Unit
  | _, [] => return
  | i, r :: rest => do
    if ← isMeant k i r.pattern then r.act k
    runRules k (i + 1) rest

/-- How many records are read before a program counts as one that never ends. -/
def recordLimit : Nat := 10000000

/-- The rules are carried out for one record after the other; `fuel` bounds them. -/
def runRecords (k : Context) (rules : List Rule) : Nat → Run Unit
  | 0 => throw .halted
  | fuel + 1 => do
    match ← nextRecord with
    | none => return
    | some record =>
      setRecord record
      tryCatch (runRules k 0 rules) fun stop => match stop with
        | .record => return
        | .file => modify fun s => { s with stream := none }
        | stop => throw stop
      runRecords k rules fuel

/-- The rules with a pattern are carried out one after the other. -/
def runEach (k : Context) (rules : List Rule) : Run Unit := rules.forM fun r => r.act k

/-- The program runs: first the rules before the first record, then those for
    records, then those after the last one, which an end that is asked for does not
    leave out. -/
def Program.run (k : Context) (p : Program) : Run Unit := do
  let isFirst := fun (r : Rule) => match r.pattern with
    | .first => true
    | _ => false
  let isLast := fun (r : Rule) => match r.pattern with
    | .last => true
    | _ => false
  let first := p.rules.filter isFirst
  let last := p.rules.filter isLast
  let rules := p.rules.filter fun r => !isFirst r && !isLast r
  let untilExit := fun (body : Run Unit) => tryCatch (body *> pure false) fun stop =>
    match stop with
    | .exit => pure true
    | stop => throw stop
  let isEnded ← untilExit (runEach k first)
  let isEnded ← if isEnded || (rules.isEmpty && last.isEmpty) then pure isEnded
    else untilExit (runRecords k rules recordLimit)
  let _ ← if last.isEmpty then pure isEnded else untilExit (runEach k last)
  closeAll k.launcher

end SourceCheck.Awk
