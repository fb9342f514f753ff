import SourceCheck.Tool.Run

/-! # Tasks side by side

    The tasks of a check run side by side, one step of one task at a time.  A task is
    ready, waits, has ended or was cancelled.  A move lets one task take its next
    step or, after some task failed or the check was given up from outside, cancels
    one task:

    - a task that was not started, or waits for the pipes of a tool that was killed,
      is cancelled at once,
    - a task that waits for its tool kills it first and waits for its pipes,
    - a task that has ended stays as it is.

    Any list of moves is a run; the usual one starts all tasks in order and then lets
    each go on when its time has come.  The failure that is reported is that of the
    task that failed first.  A check that was given up reports nothing.
-/

namespace SourceCheck

/-! ## One task -/

/-- Where a task stands. -/
inductive Stage where
  | ready (task : Task)
  /-- It waits, with the steps that it has left. -/
  | waiting (wait : Wait) (rest : Task)
  /-- It was cancelled and waits for the pipes of its tool, which it killed. -/
  | closing
  | ended (result : Except CheckFailure (List Finding))
  | cancelled
  deriving Repr

/-- What the next step of a task lets others see, and where the task stands then. -/
def Task.next : Task → List Effect × Stage
  | .last es result => (es, .ended result)
  | .step es wait _ rest => (es, .waiting wait rest)

namespace Stage

/-- A task in this stage may still do something. -/
def isOpen : Stage → Bool
  | .ready _ | .waiting _ _ | .closing => true
  | .ended _ | .cancelled => false

def failure? : Stage → Option CheckFailure
  | .ended (.error e) => some e
  | _ => none

def findings : Stage → List Finding
  | .ended (.ok fs) => fs
  | _ => []

def advance : Stage → List Effect × Stage
  | .ready t => t.next
  | .waiting _ t => t.next
  | .closing => ([], .cancelled)
  | .ended result => ([], .ended result)
  | .cancelled => ([], .cancelled)

def cancel : Stage → List Effect × Stage
  | .ready _ => ([], .cancelled)
  | .waiting (.creation command) _ => ([.kill command false], .closing)
  | .waiting (.output command) _ => ([.kill command true], .closing)
  | .waiting .drain _ => ([], .cancelled)
  | .closing => ([], .closing)
  | .ended result => ([], .ended result)
  | .cancelled => ([], .cancelled)

end Stage

/-! ## All tasks -/

/-- A move of a run. -/
inductive Move where
  /-- The task of a number goes on. -/
  | advance (i : Nat)
  /-- The task of a number is cancelled, if the check is stopping. -/
  | cancel (i : Nat)
  deriving DecidableEq, Repr

/-- How far a run has come. -/
structure Progress where
  /-- Where each task stands. -/
  stages : List Stage
  effects : List Effect
  failure : Option CheckFailure
  givenUp : Bool
  deriving Repr

namespace Progress

def start (tasks : List Task) : Progress := ⟨tasks.map .ready, [], none, false⟩

/-- The task of a number comes to a stage, and others see something. -/
def enter (i : Nat) (next : List Effect × Stage) (p : Progress) : Progress where
  stages := p.stages.set i next.2
  effects := p.effects ++ next.1
  failure := p.failure <|> next.2.failure?
  givenUp := p.givenUp

def advance (i : Nat) (p : Progress) : Progress :=
  match p.stages[i]? with
  | some s => p.enter i s.advance
  | none => p

/-- The check is stopping: its tasks are being cancelled. -/
def isStopping (p : Progress) : Bool := p.failure.isSome || p.givenUp

/-- The task of a number is cancelled, if the check is stopping. -/
def cancel (i : Nat) (p : Progress) : Progress :=
  match p.isStopping, p.stages[i]? with
  | true, some s => p.enter i s.cancel
  | _, _ => p

def giveUp (p : Progress) : Progress := { p with givenUp := true }

/-- A move is made. -/
def move (p : Progress) : Move → Progress
  | .advance i => p.advance i
  | .cancel i => p.cancel i

def moves (ms : List Move) (p : Progress) : Progress := ms.foldl move p

/-- No task can do anything more. -/
def isOver (p : Progress) : Bool := p.stages.all fun s => !s.isOpen

/-- What the tasks of a run that is over give: the first failure, or all their
    findings in the order of the tasks. -/
def result (p : Progress) : Except CheckFailure (List Finding) :=
  match p.failure with
  | some e => .error e
  | none => .ok (p.stages.flatMap Stage.findings)

end Progress

/-! ## Orders -/

/-- In which order tasks make their moves. -/
abbrev Order := List Task → List Move

/-- The run of some tasks in an order. -/
def runTasks (order : Order) (tasks : List Task) : Progress :=
  (Progress.start tasks).moves (order tasks)

/-! ## The usual order -/

/-- The times at which tasks go on after they have waited, with their numbers. -/
def wakingTimes (tasks : List Task) : List (Nat × Nat) :=
  tasks.zipIdx.flatMap fun (t, i) => t.times.map fun time => (time, i)

def eachTask (tasks : List Task) (m : Nat → Move) : List Move :=
  (List.range tasks.length).map m

/-- The moves of the usual run: all tasks are started in order, then each goes on
    when its time has come, the first one first; after a failure all are cancelled. -/
def usualMoves : Order := fun tasks =>
  let waking := (wakingTimes tasks).mergeSort fun a b =>
    a.1 < b.1 || (a.1 == b.1 && a.2 ≤ b.2)
  eachTask tasks .advance ++ eachTask tasks .cancel
    ++ (waking.flatMap fun (_, i) => .advance i :: eachTask tasks .cancel)
    ++ eachTask tasks .advance

end SourceCheck
