import SourceCheck.StandIn.Shell.Builtin.Directory
import SourceCheck.StandIn.Shell.Builtin.Jobs
import SourceCheck.StandIn.Shell.Builtin.Names
import SourceCheck.StandIn.Shell.Builtin.Variables

/-! # The commands of the shell by name
-/

namespace SourceCheck.Shell

namespace Builtin

/-- Jobs cannot be brought to the front or sent to the back. -/
def noJobs : Builtin := fun _ _ _ w => w.fail "No current job"

/-- Shows that a resource is not limited; limits are taken and do not matter. -/
def limit : Builtin := fun _ _ args w =>
  let isSet := args.any fun a => a == "unlimited" || (count? a).isSome
  (if isSet then w else w.print "unlimited\n").withStatus 0

def named? (name : String) : Option Builtin :=
  ([(":", succeed), ("true", succeed), ("false", refuse), ("test", test false),
    ("[", test true), ("echo", echo), ("printf", print), ("times", times), ("exit", exit),
    ("return", back), ("break", leave), ("continue", again), ("shift", shift), ("eval", eval),
    (".", source), ("export", exportAll), ("readonly", protectAll), ("local", declareLocal),
    ("unset", unset), ("set", set), ("getopts", getOption), ("read", read), ("cd", cd),
    ("chdir", cd), ("pwd", pwd), ("umask", mask), ("trap", trap), ("kill", kill), ("wait", wait),
    ("jobs", jobs), ("fg", noJobs), ("bg", noJobs), ("alias", makeAlias),
    ("unalias", dropAlias), ("hash", remember), ("type", explain), ("command", lookUp),
    ("exec", succeed), ("ulimit", limit)
    ] : List (String × Builtin)).lookup name

end Builtin

end SourceCheck.Shell
