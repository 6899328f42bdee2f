import GrammarStudio.ObjectScript.Library.Disk

/-!
# Programs that run

* `programNames`, `programFunction?` — what the library of the operating system does with programs;
* `environmentOf` — the environment that a script gives to other programs;
* `runShell` — a command of the shell.
-/

namespace GrammarStudio.ObjectScript

open Machine Files Tools

def programNames : List (String × Value) :=
  functionsOf "os" ("getpid getppid kill killpg fork wait waitpid system popen _exit abort execv execve execvp execvpe execl execlp execle execlpe " ++
      "getuid geteuid getgid getegid getlogin getgroups getpgid getpgrp getsid setpgid setsid setpgrp nice cpu_count uname times getloadavg urandom getrandom " ++
      "getenv putenv unsetenv strerror WIFEXITED WEXITSTATUS WIFSIGNALED WTERMSIG WIFSTOPPED WCOREDUMP waitstatus_to_exitcode get_terminal_size " ++
      "sched_yield get_exec_path register_at_fork ctermid setuid setgid sched_getaffinity getpriority") ++
    [("name", textValue "posix"), ("WNOHANG", .int 1), ("WUNTRACED", .int 2), ("EX_OK", .int 0), ("EX_USAGE", .int 64), ("EX_DATAERR", .int 65),
      ("EX_SOFTWARE", .int 70), ("EX_TEMPFAIL", .int 75), ("EX_CONFIG", .int 78), ("error", .kind "OSError"), ("PathLike", .kind "os.PathLike"),
      ("stat_result", .kind "os.stat_result"), ("P_NOWAIT", .int 1), ("P_WAIT", .int 0), ("supports_follow_symlinks", .tuple [])]

/-- The environment that a value says. -/
def environmentFrom [Caller] [Resumer] (v : Value) : Run (List (Octets × Octets)) := do
  (← itemsFor v).mapM fun (k, v) => do
    let word (v : Value) : Run Octets := do
      match ← coreOf v with
      | .text g => return Glyphs.toSystem g
      | .octets o => return o
      | _ => typeError ("expected str, bytes or os.PathLike object, not " ++ (← kindNameOf v))
    return (← word k, ← word v)

/-- The environment that a script gives to other programs. -/
def environmentOf [Caller] [Resumer] : Run (List (Octets × Octets)) := do
  match ← libraryValue "os" "environ" with
  | .none => return (← tool get).environment
  | v => environmentFrom v

/-- The number by which the end of a program is told. -/
def endingStatus : Ending → Nat
  | .status n => n * 256
  | .signal n => n

/-- Waits for a program to end, and deals with the signals that come before. -/
def awaitEnd [Caller] (who : Option Nat) : (rounds : Nat) → Run Waited
  | 0 => return .nobody
  | rounds + 1 => do
    match ← system (.wait who true true) with
    | .interrupted =>
      pollSignals
      awaitEnd who rounds
    | w => return w

/-- Runs a command of the shell to its end. -/
def runShell [Caller] [Resumer] (command : Octets) : Run Nat := do
  let environment ← environmentOf
  let body : Work Nat := do
    let _ ← Work.ask (.respond 2 .usual)
    let _ ← Work.execute environment (ascii "/bin/sh") (ascii "sh") [ascii "-c", command]
    return 127
  let child ← tool (Work.fork body : Work Nat)
  match ← awaitEnd (some child) endless with
  | .ended _ e => return endingStatus e
  | _ => return 0

/-- What a command of the shell writes, and how it ends. -/
def outputOfShell [Caller] [Resumer] (command : Octets) : Run (Octets × Nat) := do
  let environment ← environmentOf
  let (r, w) ← system .makePipe
  let body : Work Nat := do
    let _ ← Work.ask (.replace w 1)
    let _ ← Work.ask (.close r)
    let _ ← Work.ask (.close w)
    let _ ← Work.ask (.respond 2 .usual)
    let _ ← Work.ask (.respond 13 .usual)
    let _ ← Work.execute environment (ascii "/bin/sh") (ascii "sh") [ascii "-c", command]
    return 127
  let child ← tool (Work.fork body : Work Nat)
  let _ ← system (.close w)
  let o ← answered [] (← tool (Work.readAll r : Work (Except Fault Octets)))
  let _ ← system (.close r)
  match ← awaitEnd (some child) endless with
  | .ended _ e => return (o, endingStatus e)
  | _ => return (o, 0)

/-- The arguments of a program as octets. -/
def programArguments [Caller] [Resumer] (v : Value) : Run (List Octets) := do
  let items ← collect v
  if items.isEmpty then valueError "execv() arg 2 must not be empty"
  items.mapM pathOctets

/-- The lines of the library in which a program is given the place of the script. -/
def executingLines (name : String) : List LibraryLine :=
  let at_ (line : Nat) (name : String) : LibraryLine := { file := "<frozen os>", line, name }
  match name with
  | "execl" => [at_ 542 "execl"]
  | "execle" => [at_ 550 "execle"]
  | "execlp" => [at_ 557 "execlp", at_ 574 "execvp"]
  | "execlpe" => [at_ 566 "execlpe", at_ 583 "execvpe"]
  | "execvp" => [at_ 574 "execvp"]
  | "execvpe" => [at_ 583 "execvpe"]
  | _ => []

/-- Gives the place of the script to a program. -/
def givePlace [Caller] (environment : List (Octets × Octets)) (path : Octets) (args : List Octets) (searches : Bool)
    (lines : List LibraryLine) : Run Value := do
  let name := args.headD path
  let rest := args.drop 1
  let isSearched := searches && !path.contains '/'
  let fault ← tool (if isSearched then
      Work.searchOn environment path rest (Octets.splitOn ':' ((environment.lookup (ascii "PATH")).getD Work.usualPath)) .notFound
    else Work.execute environment path name rest : Work Fault)
  let at_ (line : Nat) : LibraryLine := { file := "<frozen os>", line, name := "_execvpe" }
  let inner := if isSearched then [at_ 616, at_ 607] else if searches then [at_ 597] else []
  alongLibrary (lines ++ inner) (raiseFault fault [])

def programFunction? [Caller] [Resumer] (name : String) (given : Given) : Run (Option Value) := do
  let give (v : Value) : Run (Option Value) := return some v
  let nothing : Run (Option Value) := return some .none
  let a := given.first
  let second (word : String) : Value := given.getD 1 word .none
  let status : Run Nat := Int.toNat <$> integerOf a
  match name with
  | "getpid" => do return some (.ofNat (← system .self).1)
  | "getppid" => do return some (.ofNat (← system .self).2)
  | "getpgrp" | "getpgid" | "getsid" => do return some (.ofNat (← system .self).1)
  | "getuid" | "geteuid" | "getgid" | "getegid" => give (.int 0)
  | "getgroups" => do return some (← newList [.int 0])
  | "getlogin" | "get_terminal_size" => raiseFault (.system 25) []
  | "kill" | "killpg" =>
    expectArgs name 2 2 given
    let who ← integerOf a
    let signal ← integerOf (second "")
    if signal < 0 || signal > 64 then raiseFault (.system 22) []
    if who > 0 && name == "kill" then answered [] (← system (.kill who.toNat signal.toNat))
    else system (.killGroup signal.toNat)
    pollSignals
    nothing
  | "fork" => do return some (.ofNat (← tool (Work.split : Work Nat)))
  | "wait" | "waitpid" =>
    let who ← if name == "wait" then pure (-1) else integerOf a
    let options ← if name == "wait" then pure 0 else integerOf (given.getD 1 "options" (.int 0))
    let who : Option Nat := if who > 0 then some who.toNat else none
    let w ← if options % 2 = 1 then system (.wait who false false) else awaitEnd who endless
    match w with
    | .ended n e => give (.tuple [.ofNat n, .ofNat (endingStatus e)])
    | .notYet => give (.tuple [.int 0, .int 0])
    | _ => raiseFault (.system 10) []
  | "system" => do return some (.ofNat (← runShell (← pathOctets (given.getD 0 "command" .none))))
  | "popen" =>
    let (o, _) ← outputOfShell (← pathOctets a)
    let g ← decoded .utf8 "strict" o
    some <$> alloc (.channel
      { descriptor := 0, name := .none, mode := "r", isText := true, canRead := true, canWrite := false, memory := some g, newline := none })
  | "_exit" =>
    let n ← integerOf (given.getD 0 "status" .none)
    tool (Work.exit (n % 256).toNat : Work (Option Value))
  | "abort" =>
    let (me, _) ← system .self
    system (.respond 6 .usual)
    answered [] (← system (.kill me 6))
    nothing
  | "execv" | "execvp" => do
    return some (← givePlace (← environmentOf) (← pathOctets a) (← programArguments (second "argv")) (name == "execvp") (executingLines name))
  | "execve" | "execvpe" => do
    return some (← givePlace (← environmentFrom (given.getD 2 "env" .none)) (← pathOctets a) (← programArguments (second "argv")) (name == "execvpe") (executingLines name))
  | "execl" | "execlp" => do
    return some (← givePlace (← environmentOf) (← pathOctets a) (← (given.args.drop 1).mapM pathOctets) (name == "execlp") (executingLines name))
  | "execle" | "execlpe" => do
    return some (← givePlace (← environmentFrom (given.args.getLast?.getD .none)) (← pathOctets a) (← (given.args.drop 1).dropLast.mapM pathOctets) (name == "execlpe") (executingLines name))
  | "setpgid" | "setsid" | "setpgrp" =>
    system .newGroup
    nothing
  | "putenv" | "unsetenv" | "setuid" | "setgid" | "sched_yield" | "register_at_fork" => nothing
  | "nice" => do return some (.int (← system (.giveWay (← integerOf a))))
  | "getpriority" => do return some (.int (← system (.giveWay 0)))
  | "cpu_count" => give (.int 1)
  | "sched_getaffinity" => do return some (← alloc (.set (← setOf [.int 0]) false))
  | "uname" =>
    some <$> namedTuple "posix.uname_result"
      [("sysname", textValue "Linux"), ("nodename", textValue "localhost"), ("release", textValue "6.1.0"), ("version", textValue "#1 SMP"), ("machine", textValue "x86_64")]
  | "times" =>
    some <$> namedTuple "posix.times_result"
      [("user", .float 0.02), ("system", .float 0.01), ("children_user", .float 0.0), ("children_system", .float 0.0), ("elapsed", .float 17000000.0)]
  | "getloadavg" => give (.tuple [.float 0.0, .float 0.0, .float 0.0])
  | "urandom" | "getrandom" =>
    let n ← integerOf a
    if n < 0 then valueError "negative argument not allowed"
    let start ← system .fresh
    let (_, o) := (List.range n.toNat).foldl (fun ((x, o) : Nat × Octets) _ =>
      let x := (x * 6364136223846793005 + 1442695040888963407) % 2 ^ 64
      (x, Char.ofNat (x / 2 ^ 33 % 256) :: o)) (start * 7919 + 12345, [])
    give (.octets o)
  | "getenv" =>
    let key ← match ← coreOf (given.getD 0 "key" .none) with
      | .text g => pure g
      | other => typeError ("str expected, not " ++ (← kindNameOf other))
    match ← environmentWord? key with
    | some g => give (.text g)
    | none => give (given.getD 1 "default" .none)
  | "strerror" =>
    let n ← integerOf a
    give (textValue (Fault.systemText n.toNat))
  | "WIFEXITED" => do return some (.bool ((← status) % 128 = 0))
  | "WEXITSTATUS" => do return some (.ofNat ((← status) / 256 % 256))
  | "WIFSIGNALED" => do return some (.bool ((← status) % 128 ≠ 0 && (← status) % 128 ≠ 127))
  | "WTERMSIG" => do return some (.ofNat ((← status) % 128))
  | "WIFSTOPPED" => do return some (.bool ((← status) % 256 = 127))
  | "WCOREDUMP" => do return some (.bool ((← status) / 128 % 2 = 1))
  | "waitstatus_to_exitcode" =>
    let s ← status
    give (.int (if s % 128 = 0 then (s / 256 : Nat) else -((s % 128 : Nat) : Int)))
  | "get_exec_path" =>
    let path := (← environmentWord? (glyphs "PATH")).getD (glyphs "/bin:/usr/bin")
    do return some (← newList ((splitOn [58] (path.length + 1) none path).map Value.text))
  | "ctermid" => give (textValue "/dev/tty")
  | _ => return none

/-- The names of the library of the operating system. -/
def operatingLibrary [Caller] [Resumer] : Run (List (String × Value)) := do
  let environment := (← tool get).environment
  let items := environment.map fun (k, v) => (Value.text (Glyphs.ofSystem k), Value.text (Glyphs.ofSystem v))
  let environ ← alloc (.dict (← dictOf items) "os._Environ" .none)
  return diskNames ++ programNames ++ [("environ", environ), ("path", .library "os.path")]

end GrammarStudio.ObjectScript
