import SourceCheck.Log.Record

/-! # What a run lets others see

    While a check runs it writes records to the log, lines to the run log and
    notices to the user, and it may kill a tool that it started.  These are kept in
    the order in which they happen.
-/

namespace SourceCheck

/-- Something that others see of a run. -/
inductive Effect where
  | record (r : Log.Record)
  /-- A line for the run log. -/
  | line (s : String)
  | notice (message : String)
  /-- The process of a command is killed, with all that it started if `group` says
      so. -/
  | kill (command : List String) (group : Bool)
  deriving Repr

namespace Effect

def lines (es : List Effect) : List String :=
  es.filterMap fun
    | .line s => some s
    | _ => none

def notices (es : List Effect) : List String :=
  es.filterMap fun
    | .notice s => some s
    | _ => none

def noticeRecord (message : String) : Log.Record :=
  Log.record .info "services" message (Log.Fields.only .services)

def records (es : List Effect) : List Log.Record :=
  es.filterMap fun
    | .record r => some r
    | _ => none

end Effect

end SourceCheck
