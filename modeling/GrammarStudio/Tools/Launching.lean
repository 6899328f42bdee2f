import GrammarStudio.Tools.Values

/-!
# Tools that start other programs

Such a tool reads its own options only before the first operand, which is the name of the program; what follows are the
program's arguments.

* `launch` — a program in the place of the tool;
* `envTool`, `printenvTool` — the environment, changed and shown;
* `timeoutTool` — a program that has only some time;
* `niceTool`, `nohupTool`, `plainLaunchTool` — programs under other conditions.
-/

namespace GrammarStudio.Tools

open Machine Files

/-- The status for a program that cannot be run: whether it is not there, or only cannot be started. -/
def launchStatus (fault : Fault) : Nat :=
  match fault with
  | .notFound => 127
  | _ => 126

/-- Gives the place of the tool to a program.  `told` comes before the name where that cannot be done. -/
def launch {α : Type} (told : String) (environment : List (Octets × Octets)) (name : Octets) (arguments : List Octets) :
    Tool α := do
  flush
  let fault ← (Work.executeByName environment name arguments : Work Fault)
  complain (ascii told ++ quoted name ++ ascii ": " ++ reason fault)
  finish (launchStatus fault)

/-! ### The environment -/

/-- An environment with a value for a name: in its place if the name is there, or else at the end. -/
def withValue (name value : Octets) : List (Octets × Octets) → List (Octets × Octets)
  | [] => [(name, value)]
  | (n, v) :: rest => if n = name then (name, value) :: rest else (n, v) :: withValue name value rest

/-- The assignments that come first among operands. -/
def leadingAssignments : List (Octets × Octets) → List Octets → List (Octets × Octets) × List Octets
  | environment, [] => (environment, [])
  | environment, o :: rest =>
    if o.contains '=' then
      let name := o.takeWhile (· ≠ '=')
      leadingAssignments (withValue name (o.drop (name.length + 1)) environment) rest
    else (environment, o :: rest)

/-- Where the cutting of a text into arguments stands. -/
structure Cutting where
  /-- The arguments, the latest first. -/
  done : List Octets := []
  /-- The argument at hand, the latest octet first. -/
  part : Option Octets := none

def Cutting.put (s : Cutting) (o : Octets) : Cutting := { s with part := some (o.reverse ++ s.part.getD []) }

def Cutting.break (s : Cutting) : Cutting :=
  match s.part with
  | some part => { done := part.reverse :: s.done, part := none }
  | none => s

/-- Cuts a text into arguments, as a line of a script would be: at blanks, with quotes, backslashes and values of the
environment. -/
def cutArguments (environment : List (Octets × Octets)) :
    (mark : Option Char) → Cutting → (fuel : Nat) → Octets → Except String (List Octets)
  | _, s, 0, _ => .ok s.break.done.reverse
  | none, s, _ + 1, [] => .ok s.break.done.reverse
  | some _, _, _ + 1, [] => .error "no terminating quote in -S string"
  | mark, s, fuel + 1, c :: rest =>
    if mark = some c then cutArguments environment none { s with part := some (s.part.getD []) } fuel rest
    else if mark = none && (c = '\'' || c = '"') then
      cutArguments environment (some c) { s with part := some (s.part.getD []) } fuel rest
    else if mark = none && Octets.isSpace c then cutArguments environment none s.break fuel rest
    else if mark = none && c = '#' && s.part.isNone then .ok s.done.reverse
    else if c = '\\' then
      match rest with
      | [] => .error "invalid backslash at end of string in -S"
      | d :: rest =>
        if mark = some '\'' && d ≠ '\\' && d ≠ '\'' then cutArguments environment mark (s.put ['\\', d]) fuel rest
        else if d = '_' && mark = none then cutArguments environment mark s.break fuel rest
        else if d = '_' then cutArguments environment mark (s.put [' ']) fuel rest
        else if d = 'c' then
          if mark = some '"' then .error "'\\c' must not appear in double-quoted -S string" else .ok s.break.done.reverse
        else if (ascii "\"#$'\\").contains d then cutArguments environment mark (s.put [d]) fuel rest
        else
          match (escapeNames.filter fun e => e.2 ≠ 'a' && e.2 ≠ 'b').find? (·.2 = d) with
          | some (sign, _) => cutArguments environment mark (s.put [sign]) fuel rest
          | none => .error ("invalid sequence '\\" ++ String.singleton d ++ "' in -S")
    else if c = '$' && mark ≠ some '\'' then
      match rest with
      | '{' :: rest =>
        let name := rest.takeWhile (· ≠ '}')
        if (rest.drop name.length).isEmpty || name.isEmpty then .error "only $\x7bVARNAME\x7d expansion is supported, error at: $\x7b"
        else
          let s := match environment.lookup name with
            | some value => s.put value
            | none => s
          cutArguments environment mark s fuel (rest.drop (name.length + 1))
      | _ => .error ("only $\x7bVARNAME\x7d expansion is supported, error at: $" ++ String.ofList rest)
    else cutArguments environment mark (s.put [c]) fuel rest

/-- Arguments in which texts to be cut are cut. -/
def withCutTexts (environment : List (Octets × Octets)) : (fuel : Nat) → List Octets → Except String (List Octets)
  | 0, args => .ok args
  | _ + 1, [] => .ok []
  | fuel + 1, arg :: rest =>
    let cut (text : Octets) (rest : List Octets) : Except String (List Octets) := do
      withCutTexts environment fuel ((← cutArguments environment none {} (text.length + 1) text) ++ rest)
    match arg, rest with
    | ['-', 'S'], text :: rest => cut text rest
    | '-' :: 'S' :: text, rest => cut text rest
    | ['-', 'v', 'S'], text :: rest => cut text rest
    | ['-', 'i', 'S'], text :: rest => do .ok (['-', 'i'] :: (← cut text rest))
    | ['-', '-'], rest => .ok (['-', '-'] :: rest)
    | ['-', 'u'], name :: rest => do .ok (['-', 'u'] :: name :: (← withCutTexts environment fuel rest))
    | ['-', 'C'], name :: rest => do .ok (['-', 'C'] :: name :: (← withCutTexts environment fuel rest))
    | '-' :: _, rest =>
      if (ascii "--split-string=").isPrefixOf arg then cut (arg.drop 15) rest
      else do .ok (arg :: (← withCutTexts environment fuel rest))
    | _, rest => .ok (arg :: rest)

/-- Runs a program in an environment that is changed, or shows that environment. -/
def envTool (args : List Octets) : Tool Unit := do
  let start := (← get).environment
  let args ← (match withCutTexts start (args.length + 1 + (args.map List.length).sum) args with
    | .ok args => pure args
    | .error message => giveUp (ascii message) : Tool (List Octets))
  let (given, operands) ← optionsWith true
    ["i|ignore-environment", "u|unset=", "0|null", "C|chdir=", "v|debug", "S|split-string=", "default-signal=?",
      "ignore-signal=?", "block-signal=?", "list-signal-handling"] args
  let (bareDash, operands) := match operands with
    | ['-'] :: rest => (true, rest)
    | operands => (false, operands)
  let mut environment := if bareDash || given.has "i" then [] else start
  for (option, name) in given do
    if option = "u" then
      if name.isEmpty || name.contains '=' then
        giveUp (ascii "cannot unset " ++ quoted name ++ ascii ": Invalid argument")
      environment := environment.filter (·.1 ≠ name)
  let (changed, command) := leadingAssignments environment operands
  if given.has "0" && !command.isEmpty then misused (ascii "cannot specify --null (-0) with command")
  match given.value? "C" with
  | none => pure ()
  | some directory =>
    if command.isEmpty then misused (ascii "must specify command with --chdir (-C)")
    match ← ask (.enter directory) with
    | .ok _ => pure ()
    | .error fault => giveUp (ascii "cannot change directory to " ++ shellWordAlways directory ++ ascii ": " ++ reason fault)
  if given.has "ignore-signal" then
    for s in Octets.splitOn ',' ((given.value? "ignore-signal").getD []) do
      match signalNames.find? fun n => n.2.toList = s || "SIG".toList ++ n.2.toList = s || Octets.ofNat n.1 = s with
      | some (number, _) => let _ ← ask (.respond number .ignored)
      | none => misused (quoted s ++ ascii ": invalid signal")
  match command with
  | [] => for (name, value) in changed do say (name ++ '=' :: value ++ [if given.has "0" then '\x00' else '\n'])
  | name :: arguments => launch "" changed name arguments

def printenvTool (args : List Octets) : Tool Unit := do
  let (given, operands) ← optionsWith true ["0|null"] args
  let ender := if given.has "0" then '\x00' else '\n'
  let environment := (← get).environment
  if operands.isEmpty then for (name, value) in environment do say (name ++ '=' :: value ++ [ender])
  let mut missing := false
  for name in operands do
    match environment.lookup name with
    | some value => say (value ++ [ender])
    | none => missing := true
  if missing then setStatus 1

/-! ### Time -/

/-- The number of a signal by its name or number. -/
def signalNumber? (o : Octets) : Option Nat :=
  match Octets.nat? o with
  | some n => if n ≤ lastSignal then some n else none
  | none =>
    let name := Octets.upper o
    let name := if (ascii "SIG").isPrefixOf name then name.drop 3 else name
    if name = ascii "EXIT" then some 0
    else if name = ascii "CLD" then some 17
    else if name = ascii "POLL" then some 29
    else if name = ascii "IOT" then some 6
    else (signalNames.find? (·.2.toList = name)).map Prod.fst

def signalWord (n : Nat) : Octets := ascii ((signalNames.lookup n).getD n.repr)

/-- Sends a signal to another program after some time. -/
def alarm (number signal after : Nat) : Tool Unit := do
  let bell : Work Nat := do
    for d in [0, 1, 2] do Work.close d
    let now ← Work.ask .now
    let _ ← Work.ask (.sleep (now + after))
    let _ ← Work.ask (.kill number signal)
    return 0
  let _ ← (Work.fork bell : Work Nat)

/-- The signal by which a timer calls. -/
def alarmSignal : Nat := 14

/-- Waits for a program, and passes on the signals that come; what the timer calls for is the signal that is to end
the program.  Gives the ending and whether the time was up. -/
def waitWithin (child own signal : Nat) (harder : Option Nat) (alone loud : Bool) (command : Octets) :
    (fuel : Nat) → (timedOut : Bool) → (signal' : Nat) → Tool (Ending × Bool)
  | 0, timedOut, _ => return (.status 125, timedOut)
  | fuel + 1, timedOut, now => do
    match ← ask (.wait (some child) true true) with
    | .ended _ ending => return (ending, timedOut)
    | .interrupted =>
      let mut up := timedOut
      let mut next := now
      for s in ← ask .caught do
        let sent := if s = alarmSignal then next else s
        if s = alarmSignal then up := true
        if loud then
          complain (ascii "sending signal " ++ signalWord sent ++ ascii " to command " ++ quoted command)
        match harder with
        | some after =>
          next := 9
          alarm own alarmSignal after
        | none => pure ()
        let _ ← ask (.kill child sent)
        if !alone then
          let _ ← ask (.respond sent .ignored)
          ask (.killGroup sent)
          if sent ≠ 9 && sent ≠ 18 then ask (.killGroup 18)
      waitWithin child own signal harder alone loud command fuel up next
    | _ => return (.status 125, timedOut)

def timeoutTool (args : List Octets) : Tool Unit := do
  let (given, operands) ← optionsWith true
    ["k|kill-after=", "s|signal=", "v|verbose", "foreground", "preserve-status"] args
  let time (o : Octets) : Tool Nat := do
    match duration? o with
    | some n => return n
    | none => misused (ascii "invalid time interval " ++ quoted o)
  let mut harder : Option Nat := none
  let mut signal := 15
  for (option, o) in given do
    if option = "k" then harder := some (← time o)
    if option = "s" then
      match signalNumber? o with
      | some n => signal := n
      | none => misused (quoted o ++ ascii ": invalid signal")
  match operands with
  | length :: name :: arguments =>
    let length ← time length
    if !given.has "foreground" then ask .newGroup
    let environment := (← get).environment
    let told := (← get).name
    let (own, _) ← ask .self
    for s in [alarmSignal, 2, 3, 1, 15, signal] do
      if s ≠ 9 && s ≠ 0 then
        if (← ask (.responseTo s)) ≠ .ignored || s = alarmSignal then ask (.respond s .caught)
    let body : Work Nat := do
      let fault ← Work.executeByName environment name arguments
      Work.put 2 (told ++ ascii ": failed to run command " ++ quoted name ++ ascii ": " ++ reason fault ++ ['\n'])
      return launchStatus fault
    let child ← (Work.fork body : Work Nat)
    if length > 0 then alarm own alarmSignal length
    let (ending, timedOut) ←
      waitWithin child own signal (harder.filter (· > 0)) (given.has "foreground") (given.has "v") name endless false signal
    match ending with
    | .status n => finish (if timedOut && !given.has "preserve-status" then 124 else n)
    | .signal n =>
      if timedOut && n ≠ 9 && !given.has "preserve-status" then finish 124
      else if timedOut then finish (128 + n)
      else
        ask (.respond n .usual)
        let _ ← ask (.kill own n)
        finish (128 + n)
  | _ => pointToHelp

/-! ### Other conditions -/

/-- Is an argument a number behind a dash? -/
def isDashedNumber : Octets → Bool
  | '-' :: c :: more =>
    let digits := if c = '-' || c = '+' then more else c :: more
    !digits.isEmpty && digits.all Char.isDigit
  | _ => false

/-- Arguments in which the numbers behind a dash are the values of an option. -/
def withPlainNumbers (letter : Char) : List Octets → List Octets
  | [] => []
  | [arg] => if isDashedNumber arg then [['-', letter], arg.drop 1] else [arg]
  | arg :: value :: rest =>
    if isDashedNumber arg then ['-', letter] :: arg.drop 1 :: withPlainNumbers letter (value :: rest)
    else if arg = ['-', letter] then arg :: value :: withPlainNumbers letter rest
    else if arg = ['-', '-'] || arg.head? ≠ some '-' then arg :: value :: rest
    else arg :: withPlainNumbers letter (value :: rest)

def niceTool (args : List Octets) : Tool Unit := do
  let (given, operands) ← optionsWith true ["n|adjustment="] (withPlainNumbers 'n' args)
  let more ← (match given.value? "n" with
    | some o =>
      match Octets.number? o with
      | some n => pure (some n)
      | none => giveUp (ascii "invalid adjustment " ++ quoted o)
    | none => pure none : Tool (Option Int))
  match operands with
  | [] =>
    if more.isSome then misused (ascii "a command must be given with an adjustment")
    let n ← ask (.giveWay 0)
    say (Octets.ofInt n ++ ['\n'])
  | name :: arguments =>
    let _ ← ask (.giveWay (more.getD 10))
    launch "" (← get).environment name arguments

def nohupTool (args : List Octets) : Tool Unit := do
  let (_, operands) ← optionsWith true [] args
  match operands with
  | [] => misused (ascii "missing operand")
  | name :: arguments =>
    ask (.respond 1 .ignored)
    launch "failed to run command " (← get).environment name arguments

/-- Runs a program with other buffers, or in a session of its own: neither can be told from outside. -/
def plainLaunchTool (texts : List String) (needed : Option String) (args : List Octets) : Tool Unit := do
  let (given, operands) ← optionsWith true texts args
  match operands with
  | [] => misused (ascii "missing operand")
  | name :: arguments =>
    match needed with
    | some what => if given.isEmpty then misused (ascii "you must specify a " ++ ascii what ++ ascii " option")
    | none => pure ()
    launch "failed to run command " (← get).environment name arguments

/-- Looks for programs, as a shell would. -/
def whichTool (args : List Octets) : Tool Unit := do
  let letters := args.takeWhile fun a => a ≠ ['-', '-'] && a.length > 1 && a.head? = some '-'
  let operands := (args.drop letters.length)
  let operands := if operands.head? = some ['-', '-'] then operands.tail else operands
  let letters := letters.flatMap List.tail
  if letters.any fun c => c ≠ 'a' && c ≠ 's' then
    say (ascii "Usage: /usr/bin/which [-as] args\n")
    finish 2
  let path := ((← get).environment.lookup (ascii "PATH")).getD []
  if operands.isEmpty then setStatus 1
  for name in operands do
    let places := if name.contains '/' then [name]
      else (Octets.splitOn ':' path).map fun d => (if d.isEmpty then ['.'] else d) ++ '/' :: name
    let mut found := false
    for place in places do
      if !found || letters.contains 'a' then
        match ← ask (.inspect place true) with
        | .ok info =>
          if info.kind = .file && info.mode &&& 0o111 ≠ 0 then
            found := true
            if !letters.contains 's' then say (place ++ ['\n'])
        | .error _ => pure ()
    if !found then setStatus 1

end GrammarStudio.Tools
