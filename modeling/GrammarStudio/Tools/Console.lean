import GrammarStudio.Machine.Stream

/-!
# What a tool says

A tool writes its output in larger pieces and its complaints at once.  Before it complains it writes what it has, so
that the two come in order.

* `Console`, `Tool` — a tool that runs, with what it has not yet written;
* `say`, `complain`, `giveUp` — its output, its complaints, and its end;
* `Tool.work` — the program that a tool is.
-/

namespace GrammarStudio.Tools

open Machine Files

/-- A tool that runs. -/
structure Console where
  name : Octets
  environment : List (Octets × Octets) := []
  /-- What is not yet written, the latest first. -/
  pending : List Octets := []
  size : Nat := 0
  status : Nat := 0
  /-- The status of a tool that cannot do its work. -/
  failure : Nat := 1
  /-- Why output was lost. -/
  lost : Option Fault := none

abbrev Tool := StateT Console Work

/-- How much is held back before it is written. -/
def heldBack : Nat := 4096

def ask (call : Call) : Tool call.Answer := (Work.ask call : Work call.Answer)

def flush : Tool Unit := do
  let c ← get
  if c.size > 0 then
    set { c with pending := [], size := 0 }
    match ← (Work.write 1 c.pending.reverse.flatten : Work (Except Fault Unit)) with
    | .ok _ => return
    | .error fault => modify fun c => { c with lost := c.lost.or (some fault) }

def say (o : Octets) : Tool Unit := do
  modify fun c => { c with pending := o :: c.pending, size := c.size + o.length }
  if (← get).size ≥ heldBack then flush

/-- Writes to the standard error, whatever is held back. -/
def mutter (o : Octets) : Tool Unit := (Work.put 2 o : Work Unit)

/-- Complains, behind what was said. -/
def complain (message : Octets) : Tool Unit := do
  flush
  mutter ((← get).name ++ ascii ": " ++ message ++ ['\n'])

def setStatus (n : Nat) : Tool Unit := modify fun c => { c with status := n }

/-- Complains, and will end with a failure. -/
def failing (message : Octets) : Tool Unit := do
  complain message
  setStatus (← get).failure

/-- Writes what is held back, and gives the status to end with. -/
def lastStatus (status : Nat) : Tool Nat := do
  flush
  match (← get).lost with
  | none => return status
  | some fault =>
    mutter ((← get).name ++ ascii ": write error: " ++ reason fault ++ ['\n'])
    return (← get).failure

/-- Ends the tool. -/
def finish {α : Type} (status : Nat) : Tool α := do
  let status ← lastStatus status
  (Work.exit status : Work α)

/-- Complains, and ends. -/
def giveUp {α : Type} (message : Octets) : Tool α := do
  complain message
  finish (← get).failure

/-- The program that a tool is.  `failure` is its status when it cannot do its work. -/
def Tool.work (failure : Nat) (tool : List Octets → Tool Unit) (image : Image) : Work Nat := do
  let body : Tool Nat := do
    tool image.arguments
    lastStatus (← get).status
  body.run' { name := image.name, environment := image.environment, failure }

/-- The value of a name in the environment. -/
def environmentValue? (name : String) : Tool (Option Octets) := do
  return (← get).environment.lookup (ascii name)

end GrammarStudio.Tools
