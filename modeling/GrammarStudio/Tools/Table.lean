import GrammarStudio.Tools.Blocks
import GrammarStudio.Tools.Compare
import GrammarStudio.Tools.Count
import GrammarStudio.Tools.Dump
import GrammarStudio.Tools.Encoding
import GrammarStudio.Tools.Excerpt
import GrammarStudio.Tools.Finding
import GrammarStudio.Tools.Gathering
import GrammarStudio.Tools.Launching
import GrammarStudio.Tools.Layout
import GrammarStudio.Tools.Listing
import GrammarStudio.Tools.Making
import GrammarStudio.Tools.Matching
import GrammarStudio.Tools.Merging
import GrammarStudio.Tools.Mode
import GrammarStudio.Tools.Moving
import GrammarStudio.Tools.Order
import GrammarStudio.Tools.Paths
import GrammarStudio.Tools.Scripting
import GrammarStudio.Tools.Summing
import GrammarStudio.Tools.Translate
import GrammarStudio.Tools.Values

/-!
# All tools

* `allTools` — every tool by its name, as the program that it is.
-/

namespace GrammarStudio.Tools

open Machine

/-- The tools whose status is one when they cannot do their work. -/
def plainTools : List (String × (List Octets → Tool Unit)) :=
  [("basename", basenameTool), ("base32", encodingTool thirtyTwo), ("base64", encodingTool sixtyFour), ("cat", catTool),
    ("chmod", chmodTool), ("cksum", cksumTool), ("comm", commTool), ("cp", cpTool), ("cut", cutTool), ("date", dateTool),
    ("dd", ddTool), ("dirname", dirnameTool), ("echo", echoTool), ("expand", expandTool), ("factor", factorTool),
    ("false", fun _ => setStatus 1), ("find", findTool), ("fold", foldTool), ("groups", groupsTool), ("head", headTool), ("hostname", telling "localhost"), ("id", idTool),
    ("join", joinTool), ("link", linkTool), ("ln", lnTool), ("logname", lognameTool), ("mkdir", mkdirTool),
    ("mkfifo", mkfifoTool), ("mktemp", mktempTool), ("mv", mvTool), ("nl", nlTool), ("nproc", telling "1"),
    ("od", odTool), ("paste", pasteTool), ("printf", printfTool), ("pwd", pwdTool), ("python3", scriptTool), ("python3.11", scriptTool), ("readlink", readlinkTool),
    ("realpath", realpathTool), ("rev", revTool), ("rm", rmTool), ("rmdir", rmdirTool), ("sed", sedTool), ("seq", seqTool),
    ("sleep", sleepTool), ("stat", statTool), ("sum", sumTool), ("tac", tacTool), ("tail", tailTool), ("tee", teeTool),
    ("touch", touchTool), ("tr", trTool), ("true", fun _ => pure ()), ("truncate", truncateTool), ("tsort", tsortTool), ("tty", ttyTool),
    ("uname", unameTool), ("unexpand", unexpandTool), ("uniq", uniqTool), ("unlink", unlinkTool), ("wc", wcTool),
    ("which", whichTool), ("whoami", telling "root"), ("xargs", xargsTool), ("yes", yesTool)] ++
    algorithms.map fun a => ((if a.1 = "blake2b" then "b2" else a.1) ++ "sum", digestTool a.2)

/-- The tools whose status is two when they cannot do their work. -/
def judgingTools : List (String × (List Octets → Tool Unit)) :=
  [("[", testTool true), ("awk", awkTool), ("cmp", cmpTool), ("diff", diffTool), ("dir", lsTool), ("egrep", grepTool (some "E")), ("expr", exprTool),
    ("fgrep", grepTool (some "F")), ("grep", grepTool none), ("ls", lsTool), ("mawk", awkTool), ("printenv", printenvTool), ("sort", sortTool), ("test", testTool false)]

/-- The tools whose status is another one when they cannot do their work, since they end with that of a program. -/
def launchingTools : List (String × (List Octets → Tool Unit)) :=
  [("env", envTool), ("nice", niceTool), ("nohup", nohupTool), ("setsid", plainLaunchTool ["c|ctty", "f|fork", "w|wait"] none),
    ("stdbuf", plainLaunchTool ["e|error=", "i|input=", "o|output="] (some "buffering mode")), ("timeout", timeoutTool)]

/-- Every tool by its name, as the program that it is. -/
def allTools : List (String × (Image → Work Nat)) :=
  plainTools.map (fun t => (t.1, Tool.work 1 t.2)) ++ judgingTools.map (fun t => (t.1, Tool.work 2 t.2)) ++
    launchingTools.map fun t => (t.1, Tool.work 125 t.2)

end GrammarStudio.Tools
