import SourceCheck.StandIn.Utility.Awk
import SourceCheck.StandIn.Utility.Checksums
import SourceCheck.StandIn.Utility.Copying
import SourceCheck.StandIn.Utility.Counting
import SourceCheck.StandIn.Utility.Diff
import SourceCheck.StandIn.Utility.Dump
import SourceCheck.StandIn.Utility.Encoding
import SourceCheck.StandIn.Utility.Expr
import SourceCheck.StandIn.Utility.Fields
import SourceCheck.StandIn.Utility.Find
import SourceCheck.StandIn.Utility.Grep
import SourceCheck.StandIn.Utility.Launching
import SourceCheck.StandIn.Utility.Layout
import SourceCheck.StandIn.Utility.Numbers
import SourceCheck.StandIn.Utility.Paragraphs
import SourceCheck.StandIn.Utility.Precedence
import SourceCheck.StandIn.Utility.Sed
import SourceCheck.StandIn.Utility.Sorting
import SourceCheck.StandIn.Utility.Splitting
import SourceCheck.StandIn.Utility.Translation
import SourceCheck.StandIn.Utility.Units

/-! # The utilities by name -/

namespace SourceCheck.Utility

open SourceCheck SourceCheck.Shell

def plainUtilities : List (String × Utility) := [
  ("[", bracket), ("arch", arch), ("base32", base32), ("base64", base64), ("basename", basename),
  ("cat", cat), ("chgrp", chgrp), ("chmod", chmod), ("chown", chown), ("cksum", cksum),
  ("cmp", cmp), ("comm", comm), ("cp", cp), ("cut", cut), ("date", date), ("dd", dd),
  ("diff", diff), ("dirname", dirname), ("echo", echo), ("egrep", egrep), ("expand", expand),
  ("expr", expr), ("factor", factor), ("false", fun _ _ w => w.withStatus 1), ("fgrep", fgrep),
  ("fmt", fmt), ("fold", fold), ("grep", grep), ("groups", groups), ("head", head),
  ("id", identity), ("install", install), ("join", join), ("link", link), ("ln", ln),
  ("logname", logname), ("ls", ls), ("md5sum", md5sum), ("mkdir", mkdir), ("mktemp", mktemp),
  ("mv", mv), ("nl", nl), ("numfmt", numfmt), ("od", od), ("paste", paste),
  ("printenv", printenv), ("printf", printf), ("pwd", pwd), ("readlink", readlink),
  ("realpath", realpath), ("rev", rev), ("rm", rm), ("rmdir", rmdir), ("sed", sed), ("seq", seq),
  ("sha1sum", sha1sum), ("sha224sum", sha224sum), ("sha256sum", sha256sum),
  ("sha384sum", sha384sum), ("sha512sum", sha512sum), ("sleep", sleep), ("sort", sort),
  ("split", split), ("stat", stat), ("sum", sum), ("sync", fun _ _ w => w.withStatus 0),
  ("tac", tac), ("tail", tail), ("tee", tee), ("test", test), ("touch", touch), ("tr", tr),
  ("true", fun _ _ w => w.withStatus 0), ("truncate", truncate), ("tsort", tsort), ("tty", tty),
  ("uname", uname), ("unexpand", unexpand), ("uniq", uniq), ("unlink", unlink),
  ("users", fun _ _ w => w.withStatus 0), ("wc", wc), ("which", which), ("whoami", whoami),
  ("yes", yes)]

def launchingUtilities : List (String × (Launcher → Utility)) := [
  ("awk", awk), ("env", env), ("find", find), ("mawk", awk), ("nice", nice), ("nohup", nohup),
  ("setsid", setsid), ("stdbuf", stdbuf), ("timeout", timeout), ("xargs", xargs)]

def named? (name : String) : Option (Launcher → Utility) :=
  ((plainUtilities.lookup name).map fun u _ => u).or (launchingUtilities.lookup name)

end SourceCheck.Utility
