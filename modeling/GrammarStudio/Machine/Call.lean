import GrammarStudio.Machine.Disk

/-!
# What a program asks of its machine

A program computes by itself, and for all else asks the machine: to open a file, to write, to wait.  An activity is a
program as the machine sees it: an end, a question with what the program does with each answer, a second activity that
is to go on beside the first, or another program in the place of this one.

* `Signal`, `Ending` — how a program ends: with a status or by a signal;
* `Call`, `Call.Answer` — the questions, each with the type of its answers;
* `Image` — what a program is started with;
* `Activity` — programs, as trees of questions;
* `Work` — a computation that ends in a value, or never comes back;
* `Work.ask`, `Work.fork`, `Work.split`, `Work.exit` — what tasks are built from.
-/

namespace GrammarStudio.Machine

open Files

/-! ### How a program ends -/

/-- The signals that have a name, by their numbers. -/
def signalNames : List (Nat × String) :=
  [(1, "HUP"), (2, "INT"), (3, "QUIT"), (4, "ILL"), (5, "TRAP"), (6, "ABRT"), (7, "BUS"), (8, "FPE"), (9, "KILL"),
    (10, "USR1"), (11, "SEGV"), (12, "USR2"), (13, "PIPE"), (14, "ALRM"), (15, "TERM"), (16, "STKFLT"), (17, "CHLD"),
    (18, "CONT"), (19, "STOP"), (20, "TSTP"), (21, "TTIN"), (22, "TTOU"), (23, "URG"), (24, "XCPU"), (25, "XFSZ"),
    (26, "VTALRM"), (27, "PROF"), (28, "WINCH"), (29, "IO"), (30, "PWR"), (31, "SYS")]

/-- The last signal there is. -/
def lastSignal : Nat := 64

/-- How a program ends. -/
inductive Ending where
  | status (n : Nat)
  | signal (n : Nat)
  deriving DecidableEq, Repr

namespace Ending

def isSuccess (e : Ending) : Bool := e == .status 0

/-- The status a shell gives to an ending. -/
def code : Ending → Nat
  | .status n => n
  | .signal n => 128 + n

/-- What is told of an end. -/
def text : Ending → String
  | .status n => "exit status: " ++ n.repr
  | .signal n =>
    "signal: " ++ n.repr ++
      (match signalNames.lookup n with
      | some name => " (SIG" ++ name ++ ")"
      | none => "")

end Ending

/-! ### Questions -/

/-- How a file is opened. -/
structure Opening where
  reads : Bool := false
  writes : Bool := false
  appends : Bool := false
  creates : Bool := false
  truncates : Bool := false
  exclusive : Bool := false
  deriving DecidableEq, Repr

/-- What happens to a program that gets a signal. -/
inductive Response where
  | usual
  | ignored
  /-- The program is told when it asks. -/
  | caught
  deriving DecidableEq, Repr

inductive Kind where
  | file
  | directory
  | link
  | device
  | fifo
  deriving DecidableEq, Repr

/-- What is known of a node. -/
structure Info where
  node : Nat
  kind : Kind
  mode : Nat
  size : Nat
  names : Nat
  modified : Nat
  deriving DecidableEq, Repr

/-- What a path that is to be run leads to. -/
inductive Runnable where
  | program (name : String)
  | script (content : Octets)

/-- What comes of waiting for other programs. -/
inductive Waited where
  | ended (process : Nat) (ending : Ending)
  /-- There is none to wait for. -/
  | nobody
  | notYet
  /-- A signal came first. -/
  | interrupted
  deriving DecidableEq, Repr

/-- From where an offset counts. -/
inductive Whence where
  | start
  | current
  | finish
  deriving DecidableEq, Repr

/-- A question to the machine. -/
inductive Call where
  | openFile (path : Octets) (how : Opening) (mode : Nat)
  | close (descriptor : Nat)
  | read (descriptor count : Nat)
  | write (descriptor : Nat) (data : Octets)
  | seek (descriptor : Nat) (whence : Whence) (offset : Int)
  /-- The same under the least free number from one on. -/
  | duplicate (descriptor least : Nat)
  /-- The same under another number, in the place of what had it. -/
  | replace (descriptor target : Nat)
  | makePipe
  | wait (who : Option Nat) (hangs interruptible : Bool)
  | kill (process signal : Nat)
  /-- A signal to all programs of the group. -/
  | killGroup (signal : Nat)
  /-- Begins a group of its own. -/
  | newGroup
  /-- Gives way to others more, or less, and tells how much now. -/
  | giveWay (more : Int)
  | respond (signal : Nat) (response : Response)
  | responseTo (signal : Nat)
  /-- The signals caught since the last such question. -/
  | caught
  | self
  | enter (path : Octets)
  | here
  | mask (new : Option Nat)
  | inspect (path : Octets) (follows : Bool)
  | describe (descriptor : Nat)
  | makeDirectory (path : Octets) (mode : Nat)
  | removeDirectory (path : Octets)
  | remove (path : Octets)
  | rename (old new : Octets)
  | nameToo (old new : Octets)
  | makeLink (target path : Octets)
  | target (path : Octets)
  | list (path : Octets)
  | setMode (path : Octets) (mode : Nat)
  | setTime (path : Octets) (time : Nat)
  | resize (descriptor size : Nat)
  | makeFifo (path : Octets) (mode : Nat)
  | findRunnable (path : Octets)
  | now
  | sleep (until_ : Nat)
  /-- Lets others go on. -/
  | pause
  /-- A number that no other question of this kind gets. -/
  | fresh

/-- The answers to a question. -/
abbrev Call.Answer : Call → Type
  | .openFile .. | .duplicate .. | .seek .. => Except Fault Nat
  | .close .. | .write .. | .replace .. | .kill .. | .enter .. | .makeDirectory .. | .removeDirectory .. | .remove ..
  | .rename .. | .nameToo .. | .makeLink .. | .setMode .. | .setTime .. | .resize .. | .makeFifo .. => Except Fault Unit
  | .read .. | .target .. => Except Fault Octets
  | .makePipe => Nat × Nat
  | .wait .. => Waited
  | .respond .. | .pause | .killGroup .. | .newGroup => Unit
  | .giveWay .. => Int
  | .responseTo .. => Response
  | .caught => List Nat
  | .self => Nat × Nat
  | .here => Octets
  | .mask .. | .now | .fresh => Nat
  | .inspect .. | .describe .. => Except Fault Info
  | .list .. => Except Fault (List Octets)
  | .findRunnable .. => Except Fault Runnable
  | .sleep .. => Bool

/-- What a program is started with. -/
structure Image where
  /-- The name by which the machine knows the program. -/
  program : String
  /-- The name it was called by. -/
  name : Octets
  arguments : List Octets
  environment : List (Octets × Octets)

/-- A program that runs. -/
inductive Activity where
  | done (status : Nat)
  | ask (call : Call) (next : call.Answer → Activity)
  /-- Begins another activity, and goes on with its number. -/
  | fork (child : Activity) (next : Nat → Activity)
  /-- Another program takes the place of this one. -/
  | become (image : Image)

instance : Inhabited Activity := ⟨.done 0⟩

/-- A computation of an activity: what is done with its value is the rest of the activity. -/
def Work (α : Type) : Type := (α → Activity) → Activity

namespace Work

instance : Monad Work where
  pure a := fun k => k a
  bind m f := fun k => m fun a => f a k

def ask (call : Call) : Work call.Answer := fun k => .ask call k

/-- Ends the activity. -/
def exit {α : Type} (status : Nat) : Work α := fun _ => .done (status % 256)

/-- The activity of a task whose value is a status. -/
def activity (t : Work Nat) : Activity := t fun status => .done (status % 256)

/-- Gives the place of this program to another. -/
def become {α : Type} (image : Image) : Work α := fun _ => .become image

/-- Begins an activity beside this one, and gives its number. -/
def fork (child : Work Nat) : Work Nat := fun k => .fork child.activity k

/-- Goes on twice from here: with the number of the other activity, and in that one with zero. -/
def split : Work Nat := fun k => .fork (k 0) k

/-- Lets others go on. -/
def pause : Work Unit := ask .pause

end Work

end GrammarStudio.Machine
