import GrammarStudio.Shell.State

/-!
# Shells beside a shell

* `Runner` — how the commands inside a command are run;
* `fork`, `foreground` — a shell that goes on beside this one, and waiting for it;
* `capture` — what a command writes.
-/

namespace GrammarStudio.Shell

open Machine Files

/-- How the commands inside a command are run.  What is said to be last may take the place of the shell. -/
structure Runner where
  run : (last : Bool) → Command → Sh Unit
  /-- Runs a text as a script. -/
  script : (last : Bool) → Octets → Sh Unit
  /-- What is done when a shell ends. -/
  atEnd : Sh Unit

/-- The program that a computation of a shell is, from its beginning to its end. -/
def toEnd (atEnd : Sh Unit) (s : State) (act : Sh Unit) : Work Nat := do
  let (result, s) ← act.run.run s
  let status := match result with
    | .error (.leave n) => n
    | .error (.failed n) => n
    | .error (.discarded n) => n
    | _ => s.status
  let (result, _) ← atEnd.run.run { s with status }
  return match result with
    | .error (.leave n) => n
    | _ => status

/-- A shell with the signals it ignores, and no others. -/
def withoutTraps (s : State) : State := { s with traps := s.traps.filter fun t => t.1 ≠ 0 && t.2.isEmpty }

/-- Begins a shell that goes on beside this one, and gives its number. -/
def fork (r : Runner) (act : Sh Unit) : Sh Nat := do
  let s ← get
  let child := { withoutTraps s with isSubshell := true, jobs := [], outcomes := [], isTrapping := false }
  let begin : Work Nat := do
    for t in s.traps do
      if t.1 ≠ 0 && !t.2.isEmpty then Work.ask (.respond t.1 .usual)
    let (own, _) ← Work.ask .self
    toEnd r.atEnd { child with own } act
  (Work.fork begin : Work Nat)

/-- What the system calls the end by a signal. -/
def signalText : Nat → String
  | 1 => "Hangup"
  | 2 => "Interrupt"
  | 3 => "Quit"
  | 4 => "Illegal instruction"
  | 5 => "Trace/breakpoint trap"
  | 6 => "Aborted"
  | 7 => "Bus error"
  | 8 => "Floating point exception"
  | 9 => "Killed"
  | 10 => "User defined signal 1"
  | 11 => "Segmentation fault"
  | 12 => "User defined signal 2"
  | 13 => "Broken pipe"
  | 14 => "Alarm clock"
  | 15 => "Terminated"
  | 16 => "Stack fault"
  | 24 => "CPU time limit exceeded"
  | 25 => "File size limit exceeded"
  | 26 => "Virtual timer expired"
  | 27 => "Profiling timer expired"
  | 29 => "I/O possible"
  | 30 => "Power failure"
  | 31 => "Bad system call"
  | n => if n ≥ 34 then "Real-time signal " ++ (n - 34).repr else "Unknown signal " ++ n.repr

/-- Waits for a program that nothing else can be done before. -/
def waitFor (number : Nat) : Sh Ending := do
  match ← ask (.wait (some number) true false) with
  | .ended _ ending => return ending
  | _ => return .status 127

/-- Tells of an end by a signal. -/
def tellSignal (number : Nat) (ending : Ending) : Sh Unit := do
  match ending with
  | .signal n =>
    if n ≠ 2 && n ≠ 13 then
      if ← isRichShell then
        report ((← complaintHead) ++ Octets.padLeft 5 (Octets.ofNat number) ++ [' '] ++ Octets.padRight 24 (ascii (signalText n)) ++ ['\n'])
      else report (ascii (signalText n) ++ ['\n'])
  | .status _ => return

/-- Waits for a program, tells of an end by a signal, and gives the status. -/
def foreground (number : Nat) : Sh Nat := do
  let ending ← waitFor number
  tellSignal number ending
  return ending.code

def closeDescriptor (n : Nat) : Sh Unit := do
  let _ ← ask (.close n)

/-- Gives a descriptor another number, in the place of what had it. -/
def moveDescriptor (n target : Nat) : Sh Unit := do
  if n ≠ target then
    let _ ← ask (.replace n target)
    closeDescriptor n

/-- What a command writes, and how it ended. -/
def capture (r : Runner) (c : Command) : Sh Octets := do
  let (source, sink) ← ask .makePipe
  let number ← fork r do
    closeDescriptor source
    moveDescriptor sink 1
    modify fun s => { s with isTested := false, isCaptured := s.dialect = .rich, options := if s.dialect = .rich then s.options.filter (· ≠ 'e') else s.options }
    r.run true c
  closeDescriptor sink
  let output ← (Work.readAll source : Work (Except Fault Octets))
  closeDescriptor source
  let ending ← waitFor number
  if (← get).dialect = .plain then tellSignal number ending
  modify fun s => { s with substituted := some ending.code, status := if s.dialect = .rich then ending.code else s.status }
  return Octets.dropEnd (· == '\n') (((output.toOption).getD []).filter (· ≠ '\x00'))

end GrammarStudio.Shell
