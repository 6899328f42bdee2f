import GrammarStudio.Calendar.Written
import GrammarStudio.ObjectScript.Functions
import GrammarStudio.ObjectScript.Sites

/-!
# The libraries of the system itself

* `functionsOf` — the functions of a library as values;
* `systemNames`, `systemFunction?` — how the script was started, and its streams;
* `signalLibrary`, `signalFunction?` — signals, and what is done when they come;
* `timeLibrary`, `timeFunction?` — the time.
-/

namespace GrammarStudio.ObjectScript

open Machine Number Tools

/-- The functions of a library, as values. -/
def functionsOf (library : String) (names : String) : List (String × Value) :=
  (splitWords names.toList).map fun n => (n, .native (library ++ "." ++ n))

/-- A value with named parts that is a tuple as well. -/
def namedTuple (kind : String) (parts : List (String × Value)) : Run Value :=
  alloc (.instance_ (.kind kind) (Ordered.ofList parts) (.tuple (parts.map Prod.snd)))

/-! ### How the script was started -/

def versionText : String := "3.11.2 (main, Mar 13 2023, 12:18:29) [GCC 12.2.0]"

def largestSize : Nat := 2 ^ 63 - 1

def systemNames : Run (List (String × Value)) := do
  let version ← namedTuple "sys.version_info"
    [("major", .int 3), ("minor", .int 11), ("micro", .int 2), ("releaselevel", textValue "final"), ("serial", .int 0)]
  let arguments := (← get).arguments
  let argv ← newList (arguments.map fun o => .text (Glyphs.ofSystem o))
  let path ← newList (["", "/usr/lib/python311.zip", "/usr/lib/python3.11", "/usr/lib/python3.11/lib-dynload",
    "/usr/local/lib/python3.11/dist-packages", "/usr/lib/python3/dist-packages"].map textValue)
  let places := (← tool get).environment
  let word := (["LC_ALL", "LC_CTYPE", "LANG"].findSome? fun n => (places.lookup (ascii n)).filter fun w => !w.isEmpty).getD (ascii "C")
  let usesUtf8 := word = ascii "C" || word = ascii "POSIX"
  let flags ← alloc (.record "sys.flags" (Ordered.ofList (["debug", "inspect", "interactive", "optimize", "dont_write_bytecode", "no_user_site",
    "no_site", "ignore_environment", "verbose", "bytes_warning", "quiet", "hash_randomization", "isolated", "dev_mode", "utf8_mode"].map
      fun n => (n, .int (if n == "hash_randomization" || (n == "utf8_mode" && usesUtf8) then 1 else 0)))))
  let floatInfo ← alloc (.record "sys.float_info" (Ordered.ofList
    [("max", .float 1.7976931348623157e308), ("min", .float 2.2250738585072014e-308), ("epsilon", .float 2.220446049250313e-16), ("dig", .int 15),
      ("mant_dig", .int 53), ("radix", .int 2), ("max_exp", .int 1024), ("min_exp", .int (-1021)), ("max_10_exp", .int 308), ("min_10_exp", .int (-307))]))
  let implementation ← alloc (.record "types.SimpleNamespace" (Ordered.ofList
    [("name", textValue "cpython"), ("cache_tag", textValue "cpython-311"), ("version", version), ("hexversion", .int 51053296)]))
  let modules ← alloc (.dict {} "dict" .none)
  let streams : List (String × Value) := ["stdin", "stdout", "stderr", "__stdin__", "__stdout__", "__stderr__"].map fun n => (n, Value.none)
  return functionsOf "sys" ("exit getrecursionlimit setrecursionlimit getdefaultencoding getfilesystemencoding getfilesystemencodeerrors getsizeof exc_info " ++
      "exception intern getrefcount _getframe set_int_max_str_digits get_int_max_str_digits displayhook excepthook __excepthook__ getswitchinterval " ++
      "setswitchinterval settrace setprofile gettrace audit addaudithook is_finalizing call_tracing _clear_type_cache") ++
    [("argv", argv), ("orig_argv", argv), ("path", path), ("flags", flags), ("float_info", floatInfo), ("implementation", implementation),
      ("modules", modules), ("version", textValue versionText), ("version_info", version), ("hexversion", .int 51053296), ("platform", textValue "linux"),
      ("maxsize", .ofNat largestSize), ("maxunicode", .int 1114111), ("byteorder", textValue "little"), ("executable", textValue "/usr/bin/python3"),
      ("prefix", textValue "/usr"), ("exec_prefix", textValue "/usr"), ("base_prefix", textValue "/usr"), ("base_exec_prefix", textValue "/usr"),
      ("api_version", .int 1013), ("dont_write_bytecode", .bool false), ("warnoptions", ← newList []), ("copyright", textValue ""),
      ("float_repr_style", textValue "short"), ("abiflags", textValue ""), ("platlibdir", textValue "lib"), ("pycache_prefix", .none),
      ("builtin_module_names", .tuple (["_io", "builtins", "errno", "itertools", "math", "posix", "sys", "time"].map textValue))] ++ streams

/-- The names of the script's frame, as far as they are kept. -/
def frameValue (depth : Nat) : Run Value := do
  let s ← get
  let names := (s.name, s.file, s.span) :: s.stack.map fun a => (a.name, a.file, a.span)
  match names[depth]? with
  | some (name, file, span) =>
    let code ← alloc (.record "code" (Ordered.ofList [("co_name", textValue name), ("co_filename", textValue file)]))
    alloc (.record "frame" (Ordered.ofList [("f_code", code), ("f_lineno", .ofNat span.line), ("f_back", .none), ("f_globals", .thing s.shared)]))
  | none => valueError "call stack is not deep enough"

def systemFunction? [Caller] [Resumer] (name : String) (given : Given) : Run (Option Value) := do
  let give (v : Value) : Run (Option Value) := return some v
  match name with
  | "exit" =>
    expectArgs "exit" 0 1 given
    raiseWith "SystemExit" given.args
  | "getrecursionlimit" => do return some (.ofNat (← get).limit)
  | "setrecursionlimit" =>
    let n ← integerOf (← oneArg "setrecursionlimit" given)
    if n < 1 then valueError "recursion limit must be greater or equal than 1"
    modify fun s => { s with limit := n.toNat }
    give .none
  | "getdefaultencoding" | "getfilesystemencoding" => give (textValue "utf-8")
  | "getfilesystemencodeerrors" => give (textValue "surrogateescape")
  | "getsizeof" =>
    let size ← match ← coreOf given.first with
      | .text g => pure (49 + g.length)
      | .octets o => pure (33 + o.length)
      | .int n => pure (if n = 0 then 24 else 24 + 4 * (n.natAbs.log2 / 30 + 1))
      | .float _ => pure 24
      | .bool b => pure (if b then 28 else 24)
      | .none => pure 16
      | .tuple items => pure (40 + 8 * items.length)
      | .thing n =>
        match ← look n with
        | .list items => pure (56 + 8 * items.size)
        | .dict d _ _ => pure (if d.size = 0 then 64 else 184)
        | .set .. => pure 216
        | _ => pure 48
      | _ => pure 48
    give (.ofNat size)
  | "exc_info" =>
    match (← get).handling with
    | e :: _ => do return some (.tuple [← kindOf e, e, ← traceOf e "__traceback__"])
    | [] => give (.tuple [.none, .none, .none])
  | "exception" => give ((← get).handling.headD .none)
  | "intern" => give given.first
  | "getrefcount" => give (.int 2)
  | "_getframe" =>
    let n ← match given.args.head? with
      | some v => integerOf v
      | none => pure 0
    some <$> frameValue n.toNat
  | "get_int_max_str_digits" => give (.int 4300)
  | "set_int_max_str_digits" | "settrace" | "setprofile" | "setswitchinterval" | "audit" | "addaudithook" | "_clear_type_cache" => give .none
  | "gettrace" => give .none
  | "getswitchinterval" => give (.float 0.005)
  | "is_finalizing" => give (.bool false)
  | "displayhook" =>
    match given.first with
    | .none => give .none
    | v =>
      let g ← shown v
      writeOn (← libraryValue "sys" "stdout") (g ++ [10])
      give .none
  | _ => return none
where
  traceOf (e : Value) (name : String) : Run Value := do
    match ← exceptionOf? e with
    | some x =>
      let lines := x.passages.map fun p => Value.ofNat p.span.line
      if name == "__traceback__" && !x.passages.isEmpty then
        alloc (.record "traceback" (Ordered.ofList [("exception", e), ("tb_lineno", lines.headD .none), ("tb_next", .none), ("tb_frame", .none)]))
      else return .none
    | none => return .none

/-! ### Signals -/

/-- A number that has a name of its own. -/
def namedNumber (kind name : String) (n : Nat) : Run Value :=
  alloc (.instance_ (.kind kind)
    (Ordered.ofList [("name", textValue name), ("value", .ofNat n), ("_name_", textValue name), ("_value_", .ofNat n)]) (.ofNat n))

def signalLibrary : Run (List (String × Value)) := do
  let signals ← (signalNames.map fun (n, name) => ("SIG" ++ name, n)).mapM fun (name, n) => do
    return (name, ← namedNumber "signal.Signals" name n)
  let alias_ (other name : String) : List (String × Value) := match signals.lookup name with
    | some v => [(other, v)]
    | none => []
  let usual ← namedNumber "signal.Handlers" "SIG_DFL" 0
  let ignored ← namedNumber "signal.Handlers" "SIG_IGN" 1
  return functionsOf "signal" ("signal getsignal raise_signal alarm setitimer pause strsignal default_int_handler valid_signals siginterrupt " ++
      "pthread_sigmask set_wakeup_fd sigpending pthread_kill") ++
    signals ++ alias_ "SIGCLD" "SIGCHLD" ++ alias_ "SIGIOT" "SIGABRT" ++ alias_ "SIGPOLL" "SIGIO" ++
    [("SIGRTMIN", ← namedNumber "signal.Signals" "SIGRTMIN" 34), ("SIGRTMAX", ← namedNumber "signal.Signals" "SIGRTMAX" 64), ("SIG_DFL", usual), ("SIG_IGN", ignored), ("NSIG", .int 65), ("ITIMER_REAL", .int 0), ("SIG_BLOCK", .int 0), ("SIG_UNBLOCK", .int 1), ("SIG_SETMASK", .int 2),
      ("Signals", .kind "signal.Signals"), ("Handlers", .kind "signal.Handlers")]

def signalNumber [Caller] (v : Value) : Run Nat := do
  let n ← integerOf v
  if n < 1 || n > 64 then valueError "signal number out of range"
  return n.toNat

/-- What is done when a signal comes. -/
def responseOf (n : Nat) : Run Value := do
  match (← get).responses.lookup n with
  | some f => return f
  | none =>
    match ← system (.responseTo n) with
    | .ignored => libraryValue "signal" "SIG_IGN"
    | _ => libraryValue "signal" "SIG_DFL"

/-- Sends a signal to a program after a while, unless that has another alarm then. -/
def alarmAfter (micros : Nat) : Run Unit := do
  let (me, _) ← system .self
  let time ← system .now
  let bell : Work Nat := do
    let inner : Work Nat := do
      let _ ← Work.ask (.sleep (time + micros))
      let _ ← Work.ask (.kill me 14)
      return 0
    let _ ← Work.fork inner
    return 0
  let child ← tool (Work.fork bell : Work Nat)
  let _ ← system (.wait (some child) true false)

/-- Waits for a signal. -/
def untilSignal [Caller] : (rounds : Nat) → Run Unit
  | 0 => return
  | rounds + 1 => do
    let now ← system .now
    if ← system (.sleep (now + 3600000000)) then untilSignal rounds else pollSignals

def secondsOf [Caller] (v : Value) : Run Float := do
  match numeric? (← coreOf v) with
  | some n => n.toFloat
  | none =>
    match ← indexOf? v with
    | some n => floatOf n
    | none => typeError ("'" ++ (← kindNameOf v) ++ "' object cannot be interpreted as an integer")

def millionths (x : Float) : Nat := (x * 1000000.0).round.toUInt64.toNat

def signalFunction? [Caller] [Resumer] (name : String) (given : Given) : Run (Option Value) := do
  let give (v : Value) : Run (Option Value) := return some v
  match name with
  | "signal" =>
    expectArgs name 2 2 given
    let n ← signalNumber given.first
    let f := given.getD 1 "" .none
    let number : Option Int ← do
      match ← coreOf f with
      | .int k => pure (some k)
      | _ => pure none
    let response : Response ← match number with
      | some 0 => pure .usual
      | some 1 => pure .ignored
      | _ =>
        if ← isCallable f then pure .caught
        else typeError "signal handler must be signal.SIG_IGN, signal.SIG_DFL, or a callable object"
    if n = 9 || n = 19 then
      alongLibrary [{ file := "/usr/lib/python3.11/signal.py", line := 58, name := "signal"
                      text := "handler = _signal.signal(_enum_to_int(signalnum), _enum_to_int(handler))"
                      meant := "_signal.signal(_enum_to_int(signalnum), _enum_to_int(handler))" }] (raiseFault (.system 22) [])
    let before ← responseOf n
    system (.respond n response)
    modify fun s => { s with responses := (n, f) :: s.responses.filter (·.1 ≠ n) }
    give before
  | "getsignal" => do return some (← responseOf (← signalNumber (← oneArg name given)))
  | "raise_signal" =>
    let n ← signalNumber (← oneArg name given)
    let (me, _) ← system .self
    answered [] (← system (.kill me n))
    pollSignals
    give .none
  | "pthread_kill" =>
    let n ← signalNumber (given.getD 1 "" .none)
    let (me, _) ← system .self
    answered [] (← system (.kill me n))
    pollSignals
    give .none
  | "alarm" | "setitimer" =>
    let x ← secondsOf (given.getD (if name == "alarm" then 0 else 1) "seconds" .none)
    if x > 0.0 then alarmAfter (millionths x)
    give (if name == "alarm" then .int 0 else .tuple [.float 0.0, .float 0.0])
  | "pause" =>
    untilSignal endless
    give .none
  | "strsignal" =>
    let n ← signalNumber (← oneArg name given)
    let texts := ["Hangup", "Interrupt", "Quit", "Illegal instruction", "Trace/breakpoint trap", "Aborted", "Bus error", "Floating point exception",
      "Killed", "User defined signal 1", "Segmentation fault", "User defined signal 2", "Broken pipe", "Alarm clock", "Terminated", "Stack fault",
      "Child exited", "Continued", "Stopped (signal)", "Stopped", "Stopped (tty input)", "Stopped (tty output)", "Urgent I/O condition",
      "CPU time limit exceeded", "File size limit exceeded", "Virtual timer expired", "Profiling timer expired", "Window changed", "I/O possible",
      "Power failure", "Bad system call"]
    give ((texts[n - 1]?).elim .none textValue)
  | "default_int_handler" => raiseWith "KeyboardInterrupt" []
  | "valid_signals" =>
    let items := (List.range 64).map fun i => Value.ofNat (i + 1)
    do return some (← alloc (.set (← setOf items) false))
  | "siginterrupt" => give .none
  | "set_wakeup_fd" => give (.int (-1))
  | "pthread_sigmask" | "sigpending" => do return some (← alloc (.set {} false))
  | _ => return none

/-- The signal of a number or a name. -/
def signalOf [Caller] (kind : String) (v : Value) : Run Value := do
  let n ← match ← coreOf v with
    | .int n => pure n
    | _ => pure (-1)
  match ← libraryScope? "signal" with
  | some scope =>
    let found ← (← namesIn scope).values.findM? fun w => do
      return (← isOfKind w kind) && (match ← coreOf w with
        | .int m => m == n
        | _ => false)
    match found with
    | some w => return w
    | none => raiseGlyphs "ValueError" ((← shown v) ++ glyphs (" is not a valid " ++ shortName kind))
  | none => return v

/-! ### Time -/

def timeLibrary : Run (List (String × Value)) := do
  return functionsOf "time" ("time time_ns sleep monotonic monotonic_ns perf_counter perf_counter_ns process_time process_time_ns thread_time strftime strptime " ++
      "localtime gmtime ctime asctime mktime tzset get_clock_info clock_gettime") ++
    [("timezone", .int 0), ("altzone", .int 0), ("daylight", .int 0), ("tzname", .tuple [textValue "UTC", textValue "UTC"]),
      ("CLOCK_REALTIME", .int 0), ("CLOCK_MONOTONIC", .int 1), ("struct_time", .kind "time.struct_time")]

/-- A moment with the names of its parts. -/
def momentValue (seconds : Int) : Run Value := do
  let m := Calendar.Moment.ofSeconds seconds
  let weekday : Int := ((m.weekday : Int) + 6) % 7
  namedTuple "time.struct_time"
    [("tm_year", .int m.year), ("tm_mon", .ofNat m.month), ("tm_mday", .ofNat m.day), ("tm_hour", .ofNat m.hour), ("tm_min", .ofNat m.minute),
      ("tm_sec", .ofNat m.second), ("tm_wday", .int weekday), ("tm_yday", .ofNat m.dayOfYear), ("tm_isdst", .int 0)]

/-- The seconds that a moment's parts stand for. -/
def momentSeconds [Caller] [Resumer] (v : Value) : Run Int := do
  let parts ← (← collect v).mapM integerOf
  match parts with
  | y :: mo :: d :: h :: mi :: s :: _ => return Calendar.daysTo y mo.toNat 1 * 86400 + (d - 1) * 86400 + h * 3600 + mi * 60 + s
  | _ => typeError "Tuple or struct_time argument required"

/-- The whole seconds of a time that may be given. -/
def secondsGiven [Caller] (v : Option Value) : Run Int := do
  match v with
  | none | some .none => return (((← system .now) / 1000000 : Nat) : Int)
  | some v => return ((Wide.ofFloat (← secondsOf v).floor).truncate?).getD 0

def sleepUntil [Caller] (time : Nat) : (rounds : Nat) → Run Unit
  | 0 => return
  | rounds + 1 => do
    if ← system (.sleep time) then return
    else
      pollSignals
      sleepUntil time rounds

def timeFunction? [Caller] [Resumer] (name : String) (given : Given) : Run (Option Value) := do
  let give (v : Value) : Run (Option Value) := return some v
  let now : Run Float := do return Float.ofNat (← system .now) / 1000000.0
  match name with
  | "time" | "clock_gettime" => do return some (.float (← now))
  | "time_ns" => do return some (.ofNat ((← system .now) * 1000))
  | "monotonic" | "perf_counter" | "process_time" | "thread_time" => do
    return some (.float (Float.ofNat ((← system .now) % 100000000000) / 1000000.0))
  | "monotonic_ns" | "perf_counter_ns" | "process_time_ns" => do return some (.ofNat ((← system .now) % 100000000000 * 1000))
  | "sleep" =>
    let v ← oneArg "sleep" given
    let x ← secondsOf v
    if x < 0.0 then valueError "sleep length must be non-negative"
    sleepUntil ((← system .now) + millionths x) endless
    pollSignals
    give .none
  | "localtime" | "gmtime" => some <$> (do momentValue (← secondsGiven (given.get? 0 "seconds")))
  | "ctime" | "asctime" =>
    let s ← match name, given.args.head? with
      | "asctime", some v => momentSeconds v
      | _, v => secondsGiven v
    let m := Calendar.Moment.ofSeconds s
    give (.text (Glyphs.ofOctets (Calendar.write m 0 (ascii "%a %b %e %H:%M:%S %Y"))))
  | "strftime" =>
    match given.first with
    | .text g =>
      let s ← match given.args[1]? with
        | some v => momentSeconds v
        | none => secondsGiven none
      give (.text (Glyphs.ofOctets (Calendar.write (Calendar.Moment.ofSeconds s) 0 (Glyphs.toSystem g))))
    | v => typeError ("strftime() argument 1 must be str, not " ++ (← kindNameOf v))
  | "mktime" => do return some (.float (← floatOf (← momentSeconds (← oneArg name given))))
  | "tzset" => give .none
  | _ => return none

end GrammarStudio.ObjectScript
