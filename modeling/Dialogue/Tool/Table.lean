import Dialogue.Tool.Awk.Run
import Dialogue.Tool.Characters
import Dialogue.Tool.Columns
import Dialogue.Tool.Files
import Dialogue.Tool.Grep
import Dialogue.Tool.Ordering
import Dialogue.Tool.Passing
import Dialogue.Tool.Printing
import Dialogue.Tool.Reckoning
import Dialogue.Tool.Running
import Dialogue.Tool.Sed.Edit

/-!
# The table of tools

What the tools of the system do, by their names (`Tool.job`). The shell is not among them: it is a
process of its own kind.
-/

set_option autoImplicit false
set_option relaxedAutoImplicit false

namespace Dialogue.Tool

open Dialogue.Machine

/-- The tools that look at nothing but their words. -/
def plainWorks : List (String × (List Text → Work Nat)) :=
  [("cat", cat), ("tee", tee), ("head", head), ("tail", tail), ("tac", tac), ("rev", rev),
    ("yes", yes), ("cut", cut), ("paste", paste), ("fold", fold), ("nl", nl), ("wc", wc),
    ("sort", sort), ("uniq", uniq), ("comm", comm), ("tr", tr), ("od", od), ("seq", seq),
    ("expr", expr), ("ls", ls), ("find", find), ("mkdir", mkdir), ("rmdir", rmdir), ("rm", rm),
    ("unlink", unlink), ("touch", touch), ("cp", cp), ("mv", mv), ("chmod", chmod), ("cmp", cmp),
    ("basename", basename), ("dirname", dirname), ("realpath", realpath), ("readlink", readlink),
    ("pwd", pwd), ("grep", grep false false), ("egrep", grep true false),
    ("fgrep", grep false true), ("sed", Sed.sed), ("echo", echo), ("printf", printf),
    ("test", test), ("[", bracket), ("true", fun _ ↦ pure 0), ("false", fun _ ↦ pure 1),
    ("sleep", sleep), ("id", id), ("whoami", whoami), ("uname", uname), ("tty", tty),
    ("sync", fun _ ↦ pure 0)]

/-- The tools that look at the variables they are given, too. -/
def runningWorks : List (String × (List Text → List (Text × Text) → Work Nat)) :=
  [("env", env), ("printenv", printenv), ("nohup", nohup), ("nice", nice), ("stdbuf", stdbuf),
    ("setsid", setsid), ("timeout", timeout), ("xargs", xargs), ("awk", Awk.awk),
    ("mawk", Awk.awk)]

/-- The tools that speak of themselves by the last part of the name they were called by. -/
def shortNamed : List String := ["rev", "setsid"]

/-- What a tool does that is called by a name, with some words and some variables. -/
def job (tool : String) (name : Text) (words : List Text) (environment : List (Text × Text)) :
    Job :=
  let name := if shortNamed.contains tool then tool.toList else name
  match plainWorks.lookup tool, runningWorks.lookup tool with
  | some work, _ => Work.job name environment (work words)
  | none, some work => Work.job name environment (work words environment)
  | none, none => .ends 127

end Dialogue.Tool
