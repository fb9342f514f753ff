import SourceCheck.Finding.Severity
import SourceCheck.Value.Display

/-! # Levels and formats of the log

    A record has a level; the log shows records from a chosen level on, as text
    or as JSON.
-/

namespace SourceCheck.Log

open SourceCheck

/-! ## Levels -/

/-- How important a record is. -/
inductive Level where
  | unset
  /-- Only for finding faults. -/
  | debug
  /-- The usual course of things. -/
  | info
  | warning
  | error
  /-- Nothing can go on. -/
  | critical
  deriving DecidableEq, Repr, Inhabited

namespace Level

def all : List Level := [.unset, .debug, .info, .warning, .error, .critical]

def name : Level → String
  | .unset => "notset"
  | .debug => "debug"
  | .info => "info"
  | .warning => "warning"
  | .error => "error"
  | .critical => "critical"

def label : Level → String
  | .unset => "NOTSET"
  | .debug => "DEBUG"
  | .info => "INFO"
  | .warning => "WARNING"
  | .error => "ERROR"
  | .critical => "CRITICAL"

/-- The number of a level; more important ones have greater numbers. -/
def number : Level → Nat
  | .unset => 0
  | .debug => 10
  | .info => 20
  | .warning => 30
  | .error => 40
  | .critical => 50

def synonyms : List (String × Level) := [("WARN", .warning), ("FATAL", .critical)]

def ofLabel? (label : String) : Option Level :=
  all.find? (·.label == label) <|> synonyms.lookup label

/-- The levels that can be chosen for the log. -/
def choices : List Level := [.debug, .info, .warning, .error]

/-- The level a word names, blanks at its ends and case aside. -/
def read? (word : String) : Option Level := choices.find? (·.name == Severity.normalWord word)

end Level

/-! ## Formats -/

/-- The forms of the log. -/
inductive Format where
  | text
  /-- A JSON object per record. -/
  | json
  deriving DecidableEq, Repr, Inhabited

namespace Format

def all : List Format := [.text, .json]

def name : Format → String
  | .text => "text"
  | .json => "json"

/-- The form a word names, blanks at its ends and case aside. -/
def read? (word : String) : Option Format := all.find? (·.name == Severity.normalWord word)

end Format

/-! ## Components -/

/-- The parts of the program that write to the log. -/
inductive Component where
  /-- Reading output and running checks. -/
  | engine
  | runner
  | config
  /-- Looking up binaries and telling the user. -/
  | services
  | cli
  deriving DecidableEq, Repr, Inhabited

namespace Component

def all : List Component := [.engine, .runner, .config, .services, .cli]

def name : Component → String
  | .engine => "engine"
  | .runner => "runner"
  | .config => "config"
  | .services => "services"
  | .cli => "cli"

def ofName? (word : String) : Option Component := all.find? (·.name == word)

def unknownWording (v : Value) : String := v.noMemberWording "LogComponent"

theorem ofName?_name (c : Component) : ofName? c.name = some c := by
  cases c <;> rfl

end Component

end SourceCheck.Log
