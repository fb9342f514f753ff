import SourceCheck.Log.Raised
import SourceCheck.Log.Record
import SourceCheck.Log.Template
import SourceCheck.Text.Casing

/-! # Log entries

    An entry is a record before it is put into words: its message is a template
    with arguments, and every part of it can be set to a value of any kind.  What
    was raised with it, and the place where it was written, follow on lines of
    their own in the text form; the JSON form tells what was raised in a member of
    its own.
-/

namespace SourceCheck.Log

open SourceCheck.Text

/-- An entry of the log. -/
structure Entry where
  label : Value
  logger : Value
  template : Value
  arguments : Option Template.Arguments
  /-- When it was written, in seconds since the start of 1970. -/
  created : Value
  /-- The lines that tell what was raised with it, if anything was and it can be told. -/
  raised : Except TellingFault (Option String)
  /-- What the text form shows in place of what was raised. -/
  raisedText : Value
  stack : Value
  attributes : List (String × Value)
  deriving Repr

/-- Why an entry cannot be put into words. -/
inductive EntryFault where
  | template (f : Template.Fault)
  /-- The time cannot be told. -/
  | instant (f : InstantFault)
  | label (kind : String)
  /-- What was raised cannot be told. -/
  | telling (f : TellingFault)
  /-- What follows on a line of its own is no text. -/
  | notText (kind : String)
  deriving DecidableEq, Repr

def EntryFault.message : EntryFault → String
  | .template f => f.message
  | .instant f => f.message
  | .telling f => f.message
  | .label kind => Value.noAttributeWording "lower" kind
  | .notText kind => "can only concatenate str (not \"" ++ kind ++ "\") to str"

namespace Entry

/-- An entry with one of its parts set; any other name is that of an attribute. -/
def set (e : Entry) (name : String) (v : Value) : Entry :=
  match name with
  | "levelname" => { e with label := v }
  | "name" => { e with logger := v }
  | "msg" => { e with template := v }
  | "args" => { e with arguments := Template.argumentsOf v }
  | "created" => { e with created := v }
  | "exc_text" => { e with raisedText := v }
  | "exc_info" => { e with raised := Raised.toldBy v }
  | "stack_info" => { e with stack := v }
  | name => { e with attributes := Value.insert name v e.attributes }

def message (e : Entry) : Except EntryFault String :=
  (Template.message e.template.display e.arguments).mapError .template

def below (s : String) : Value → Except EntryFault String
  | .text t => .ok ((if s.toList.getLast? == some '\n' then s else s ++ "\n") ++ t)
  | .severity t => .ok ((if s.toList.getLast? == some '\n' then s else s ++ "\n") ++ t.name)
  | v => .error (.notText v.kindName)

/-- A text with a value below it, unless that does not count as true. -/
def belowIf (s : String) (v : Value) : Except EntryFault String :=
  if v.isTruthy then below s v else .ok s

/-- The lines that tell what was raised. -/
def told (e : Entry) : Except EntryFault Value :=
  (e.raised.map fun lines => (lines.map Value.text).getD .null).mapError .telling

/-- What the text form tells about what was raised; nothing if nothing was. -/
def shownRaised (e : Entry) : Except EntryFault Value :=
  if e.raisedText.isTruthy then .ok e.raisedText else e.told

def text (e : Entry) : Except EntryFault String := do
  let message ← e.message
  let raised ← e.shownRaised
  let s ← belowIf (textLine e.label.display message) raised
  belowIf s e.stack

def time (e : Entry) : Except EntryFault String :=
  ((Instant.ofValue e.created).bind Instant.text).mapError .instant

def level (e : Entry) : Except EntryFault String :=
  match e.label with
  | .text label => .ok (lowerText label)
  | .severity s => .ok s.name
  | v => .error (.label v.kindName)

def json (e : Entry) : Except EntryFault String := do
  let time ← e.time
  let level ← e.level
  let message ← e.message
  let raised ← e.told
  return Json.write Json.plain (.map ([("timestamp", .text time), ("level", .text level),
    ("logger", e.logger), ("message", .text message)] ++ shownOf e.attributes
    ++ given "exc_info" (if raised.isNull then none else some raised)))

end Entry

end SourceCheck.Log
