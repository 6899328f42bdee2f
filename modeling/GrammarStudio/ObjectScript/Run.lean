import GrammarStudio.ObjectScript.Generators
import GrammarStudio.ObjectScript.Library.Json
import GrammarStudio.ObjectScript.Library.Programs
import GrammarStudio.ObjectScript.Reported

/-!
# Running a script

* `commonNames` — the names that are known everywhere;
* `libraryNames?` — the names of a library;
* `nativeFunction` — what a function of a library gives back;
* `doer` — what finds the values of expressions and carries out statements, with some fuel;
* `loadLibrary` — a library by its name;
* `runScript` — a script from its beginning to its end.

The fuel bounds how deep expressions and statements nest; functions that call themselves are stopped before it is used
up.
-/

namespace GrammarStudio.ObjectScript

open Machine Files Tools

/-! ### All libraries -/

/-- The functions that are known everywhere, behind what every library knows. -/
def commonFunctions : String :=
  "__build_class__ __import__ abs all any ascii bin breakpoint callable chr compile delattr dir divmod eval exec format getattr globals hasattr hash hex " ++
    "id input isinstance issubclass iter aiter len locals max min next anext oct ord pow print repr round setattr sorted sum vars"

/-- The kinds that are known everywhere. -/
def commonKinds : String :=
  "bool memoryview bytearray bytes classmethod complex dict enumerate filter float frozenset property int list map object range reversed set slice " ++
    "staticmethod str super tuple type zip"

/-- The kinds of exceptions that are known everywhere. -/
def commonExceptions : String :=
  "BaseException BaseExceptionGroup Exception GeneratorExit KeyboardInterrupt SystemExit ArithmeticError AssertionError AttributeError BufferError " ++
    "EOFError ImportError LookupError MemoryError NameError OSError ReferenceError RuntimeError StopAsyncIteration StopIteration SyntaxError SystemError " ++
    "TypeError ValueError Warning FloatingPointError OverflowError ZeroDivisionError BytesWarning DeprecationWarning EncodingWarning FutureWarning " ++
    "ImportWarning PendingDeprecationWarning ResourceWarning RuntimeWarning SyntaxWarning UnicodeWarning UserWarning BlockingIOError ChildProcessError " ++
    "ConnectionError FileExistsError FileNotFoundError InterruptedError IsADirectoryError NotADirectoryError PermissionError ProcessLookupError " ++
    "TimeoutError IndentationError IndexError KeyError ModuleNotFoundError NotImplementedError RecursionError UnboundLocalError UnicodeError " ++
    "BrokenPipeError ConnectionAbortedError ConnectionRefusedError ConnectionResetError TabError UnicodeDecodeError UnicodeEncodeError " ++
    "UnicodeTranslateError ExceptionGroup"

/-- The names that are known everywhere. -/
def commonNames : List (String × Value) :=
  let natives (names : String) : List (String × Value) := (splitWords names.toList).map fun n => (n, .native n)
  let kinds (names : String) : List (String × Value) := (splitWords names.toList).map fun n => (n, .kind n)
  [("__name__", textValue "builtins"), ("__doc__", .none), ("__package__", textValue ""), ("__loader__", .none), ("__spec__", .none)] ++
    natives commonFunctions ++
    [("None", .none), ("Ellipsis", .ellipsis), ("NotImplemented", .notImplemented), ("False", .bool false), ("True", .bool true)] ++
    kinds commonKinds ++ [("__debug__", .bool true)] ++ kinds commonExceptions ++
    [("EnvironmentError", .kind "OSError"), ("IOError", .kind "OSError")] ++
    natives "open quit exit copyright credits license help"

/-- The names of a library. -/
def libraryNames? [Caller] [Resumer] (name : String) : Run (Option (List (String × Value))) := do
  match name with
  | "builtins" => return some commonNames
  | "sys" => some <$> systemNames
  | "os" => some <$> operatingLibrary
  | "posix" => some <$> operatingLibrary
  | "os.path" => some <$> pathLibrary
  | "signal" => some <$> signalLibrary
  | "time" => some <$> timeLibrary
  | "json" => some <$> jsonLibrary
  | _ => return none

/-- The text of a library that is a script itself. -/
def libraryScript? (_name : String) : Option String := none

/-- The other names of libraries. -/
def libraryAliases : List (String × String) := [("posixpath", "os.path"), ("json.decoder", "json"), ("json.encoder", "json")]

/-- Can a library have others within it? -/
def isFolder (name : String) : Bool :=
  ["json", "collections", "concurrent", "email", "html", "http", "importlib", "logging", "multiprocessing", "unittest", "urllib", "xml"].contains name

/-- What a function of a library gives back. -/
def nativeFunction [Caller] [Resumer] (name : String) (given : Given) : Run Value := do
  let library := libraryOf name
  let short := shortName name
  let r ← match library with
    | "builtins" => commonFunction? short given
    | "sys" => systemFunction? short given
    | "os" => do
      match ← diskFunction? short given with
      | some v => pure (some v)
      | none => programFunction? short given
    | "os.path" => pathFunction? short given
    | "signal" => signalFunction? short given
    | "time" => timeFunction? short given
    | "json" => jsonFunction? short given
    | _ => pure none
  match r with
  | some v => return v
  | none =>
    if hasMethod library short then unboundMethod library short given
    else raise "NotImplementedError" (name ++ "() is not available")

/-! ### Code in values -/

/-- The scope that a value is, and whether it was made for it. -/
def scopeOf [Caller] [Resumer] (v : Value) : Run (Nat × Bool) := do
  match v with
  | .thing n =>
    match ← look n with
    | .scope _ => return (n, false)
    | _ =>
      let items ← itemsFor v
      let names := items.filterMap fun (k, w) => match k with
        | .text g => some (Glyphs.toString g, w)
        | _ => none
      return (← allocNumber (.scope (Ordered.ofList names)), true)
  | v => typeError ("globals must be a dict, not " ++ (← kindNameOf v))

/-- Puts the names of a scope back into the value that it was made from. -/
def keepScope [Caller] (scope : Nat) (v : Value) : Run Unit := do
  match v with
  | .thing n => putItems n ((← namesIn scope).toList.map fun (k, w) => (textValue k, w))
  | _ => return

/-- The text of some code, and the file that it is said to be from. -/
def codeText [Caller] (name : String) (v : Value) : Run (Glyphs × String) := do
  match ← coreOf v with
  | .text g => return (g, "<string>")
  | core =>
    match ← octetsOf? core with
    | some o => return (← decoded .utf8 "strict" o, "<string>")
    | none =>
      match core with
      | .thing n =>
        match ← look n with
        | .record "code" names =>
          match names.get? "source", names.get? "co_filename" with
          | some (.text g), some (.text f) => return (g, Glyphs.toString f)
          | _, _ => return ([], "<string>")
        | _ => refuse
      | _ => refuse
where
  refuse : Run (Glyphs × String) := typeError (name ++ "() arg 1 must be a string, bytes or code object")

def charsOf (g : Glyphs) : List Char := (Glyphs.toString g).toList

/-- Line ends of all systems as line feeds. -/
def plainLines : List Char → List Char
  | '\r' :: '\n' :: rest => '\n' :: plainLines rest
  | '\r' :: rest => '\n' :: plainLines rest
  | c :: rest => c :: plainLines rest
  | [] => []

/-- The value of an expression, or what comes of statements, that are given as a text. -/
def runCode [Doer] (p : Site) (isExpression : Bool) (given : Given) : Run Value := do
  let name := if isExpression then "eval" else "exec"
  match given.args with
  | [] => typeError (name ++ " expected at least 1 argument, got 0")
  | code :: more =>
    let (g, file) ← codeText name code
    let source := plainLines (charsOf g)
    let shared := (more.head?.or (given.named.lookup "globals")).filter fun v => !(v matches .none)
    let own := ((more[1]?).or (given.named.lookup "locals")).filter fun v => !(v matches .none)
    let (site, after) : Site × Run Unit ← match shared, own with
      | none, none => pure ({ p with within := "" }, pure ())
      | some d, none => do
        let (n, isNew) ← scopeOf d
        pure ({ here := n }, if isNew then keepScope n d else pure ())
      | d, some l => do
        let (m, newOwn) ← scopeOf l
        let (n, isNew) ← match d with
          | some d => scopeOf d
          | none => pure (p.script, false)
        pure ({ here := m, around := [n] }, do
          if newOwn then keepScope m l
          match d with
          | some d => if isNew then keepScope n d
          | none => pure ())
    let finish {α : Type} (act : Run α) : Run α := do
      let v ← tryCatch act fun e => do
        after
        throw e
      after
      return v
    if isExpression then
      match readExpression source with
      | .error problem => raiseProblem problem file source
      | .ok e => inFrame "<module>" file (finish (Doer.eval site e))
    else
      match readScript source with
      | .error problem => raiseProblem problem file source
      | .ok body =>
        let _ ← inFrame "<module>" file (finish (execAll site body))
        return .none

/-- Code that is kept as a value. -/
def compiled [Caller] (given : Given) : Run Value := do
  let (g, _) ← codeText "compile" (given.getD 0 "source" .none)
  let file ← pathGlyphs (given.getD 1 "filename" (textValue "<string>"))
  let source := plainLines (charsOf g)
  let mode := match given.getD 2 "mode" .none with
    | .text m => Glyphs.toString m
    | _ => "exec"
  let problem : Option Problem := if mode == "eval" then
      match readExpression source with
      | .error p => some p
      | .ok _ => none
    else
      match readScript source with
      | .error p => some p
      | .ok _ => none
  match problem with
  | some p => raiseProblem p (Glyphs.toString file) source
  | none => alloc (.record "code" (Ordered.ofList [("source", .text g), ("co_filename", .text file), ("co_name", textValue "<module>")]))

/-! ### Libraries -/

/-- The exception that there is no such library. -/
def raiseNoLibrary {α : Type} (name message : String) : Run α := do
  let e ← newException "ModuleNotFoundError" [textValue message]
  match e with
  | .thing n => change n (Thing.withNames (·.put "name" (textValue name)))
  | _ => pure ()
  throwValue e

/-- Keeps the names of a library. -/
def newLibrary (name : String) (names : List (String × Value)) : Run Nat := do
  let scope ← allocNumber (.scope (Ordered.ofList names))
  modify fun s => { s with libraries := s.libraries ++ [(name, scope)] }
  let modules : Option Nat ← do
    match ← libraryValue "sys" "modules" with
    | .thing n => pure (some n)
    | _ => pure none
  match modules with
  | some n =>
    change n fun
      | .dict d kind maker => .dict (d.put (3 :: (glyphs name).map Int.ofNat) (textValue name, .library name)) kind maker
      | t => t
  | none => pure ()
  return scope

/-- The directories in which scripts look for other scripts. -/
def scriptPlaces [Caller] [Resumer] : Run (List Octets) := do
  match ← libraryValue "sys" "path" with
  | .none => return [[]]
  | v =>
    (← collect v).filterMapM fun
      | .text g => return some (Glyphs.toSystem g)
      | _ => return none

/-- The file of a script that others load, and whether it is a directory of such. -/
def scriptFile? (name : Octets) : List Octets → Run (Option (Octets × Bool))
  | [] => return none
  | place :: rest => do
    let base := if place.isEmpty then name else pathIn place name
    match ← system (.inspect (base ++ ascii "/__init__.py") true) with
    | .ok _ => return some (base ++ ascii "/__init__.py", true)
    | .error _ =>
      let path := base ++ ascii ".py"
      match ← system (.inspect path true) with
      | .ok i => if i.kind = .file then return some (path, false) else scriptFile? name rest
      | .error _ => scriptFile? name rest

/-- Runs a script for its names. -/
def runLibrary [Doer] (name file : String) (source : List Char) (isShown : Bool) (scope : Nat) : Run Unit := do
  match readScript source with
  | .error problem => raiseProblem problem file source
  | .ok body =>
    if isShown then modify fun s => { s with sources := (file, ((String.ofList source).splitOn "\n").toArray.map String.toList) :: s.sources }
    tryCatch (do
      let _ ← inFrame "<module>" file (execAll { here := scope } body)) fun e => do
        modify fun s => { s with libraries := s.libraries.filter (·.1 ≠ name) }
        throw e

/-- A library by its whole name. -/
def loadOne [Doer] (name : String) : Run Value := do
  let name := (libraryAliases.lookup name).getD name
  match ← libraryScope? name with
  | some _ => return .library name
  | none =>
    match ← libraryNames? name with
    | some names =>
      let scope ← newLibrary name names
      if name == "os" then
        match ← libraryNames? "os.path" with
        | some inner =>
          let _ ← newLibrary "os.path" inner
        | none => pure ()
      match libraryScript? name with
      | some text => runLibrary name ("/usr/lib/python3.11/" ++ name ++ ".py") text.toList false scope
      | none => pure ()
      return .library name
    | none =>
      match libraryScript? name with
      | some text =>
        let scope ← newLibrary name [("__name__", textValue name)]
        runLibrary name ("/usr/lib/python3.11/" ++ name ++ ".py") text.toList false scope
        return .library name
      | none =>
        let path : Octets := (ascii name).map fun c => if c = '.' then '/' else c
        match ← scriptFile? path (← scriptPlaces) with
        | none => raiseNoLibrary name ("No module named '" ++ name ++ "'")
        | some (file, isFolder) =>
          match ← tool (Work.slurp file : Work (Except Fault Octets)) with
          | .error fault => raiseFault fault [.text (Glyphs.ofSystem file)]
          | .ok content =>
            let here := Glyphs.ofSystem (← system .here)
            let whole := Glyphs.toString (normalPath (joinPaths here (Glyphs.ofSystem file)))
            let scope ← newLibrary name
              ([("__name__", textValue name), ("__doc__", .none), ("__package__", textValue (if isFolder then name else "")),
                ("__file__", textValue whole)])
            runLibrary name whole (plainLines (charsOf (← decoded .utf8 "strict" content))) true scope
            return .library name

/-- Loads libraries within one another; gives the innermost. -/
def loadPath [Doer] (whole : String) : (done : String) → List String → Run Value
  | done, [] => loadOne done
  | done, step :: rest => do
    let outer ← loadOne done
    let name := done ++ "." ++ step
    if name == "os.path" || (libraryAliases.lookup name).isSome then
      let v ← loadOne name
      match rest with
      | [] => return v
      | _ => loadPath whole name rest
    else
      let known := (← libraryNames? name).isSome || (libraryScript? name).isSome
      let isOwn := match ← member? outer "__package__" with
        | some (.text g) => !g.isEmpty
        | _ => false
      if !known && !isOwn then
        let message := "No module named '" ++ name ++ "'"
        raiseNoLibrary name (if isFolder done then message else message ++ "; '" ++ done ++ "' is not a package")
      let inner ← loadOne name
      match ← libraryScope? done with
      | some scope => putIn scope step inner
      | none => pure ()
      match rest with
      | [] => return inner
      | _ => loadPath whole name rest

/-- A library by its name, with those that it is within. -/
def loadLibrary [Doer] (name : String) : Run Value := do
  match name.splitOn "." with
  | [] => raise "ValueError" "Empty module name"
  | first :: rest => loadPath name first rest

/-! ### Functions that know where they are called -/

/-- Calls a value from a place in a script. -/
def callFrom [Doer] (p : Site) (f : Value) (given : Given) : Run Value := do
  match f with
  | .native "locals" => siteNames p
  | .native "globals" => return .thing p.script
  | .native "vars" => if given.args.isEmpty then siteNames p else Caller.call f given
  | .native "dir" =>
    if given.args.isEmpty then
      let names := (← namesIn p.here).keys
      newList ((names.mergeSort fun a b => decide (a ≤ b)).map textValue)
    else Caller.call f given
  | .native "eval" => runCode p true given
  | .native "exec" => runCode p false given
  | .kind "super" => if given.args.isEmpty then aboveHere p else Caller.call f given
  | f => Caller.call f given

/-- What a function of a library gives back, also of those that run code. -/
def nativeWith [Doer] (name : String) (given : Given) : Run Value := do
  match name with
  | "__import__" | "importlib.import_module" =>
    let n ← wordOf "module name" given.first
    let v ← loadLibrary n
    if name == "__import__" then loadLibrary ((n.splitOn ".").headD n) else return v
  | "importlib.reload" => return given.first
  | "compile" => compiled given
  | "eval" => runCode { here := (← get).shared } true given
  | "exec" => runCode { here := (← get).shared } false given
  | "globals" | "locals" | "vars" => if given.args.isEmpty then return .thing (← get).shared else nativeFunction name given
  | name => nativeFunction name given

/-- What a call gives back. -/
def callAnything [Doer] (f : Value) (given : Given) : Run Value := do
  match f with
  | .kind "signal.Signals" | .kind "signal.Handlers" =>
    match f with
    | .kind k => signalOf k given.first
    | _ => return .none
  | f => callWith nativeWith f given

/-! ### Everything together -/

/-- The functions that need one another, as one. -/
@[reducible]
def doerOf (eval : Site → Expr → Run Value) (exec : Site → Stmt → Run Flow) (call : Value → Given → Run Value)
    (resume : Nat → Flow → Run (Value ⊕ Value)) : Doer := { eval, exec, call, resume }

mutual

def evalOn : (fuel : Nat) → Site → Expr → Run Value
  | 0, _, _ => raise "RecursionError" "maximum recursion depth exceeded"
  | fuel + 1, p, e =>
    let _ := doerOf (evalOn fuel) (execOn fuel) (callOn fuel) (resumeOn fuel)
    evalWith callFrom p e

def execOn : (fuel : Nat) → Site → Stmt → Run Flow
  | 0, _, _ => raise "RecursionError" "maximum recursion depth exceeded"
  | fuel + 1, p, s =>
    let _ := doerOf (evalOn fuel) (execOn fuel) (callOn fuel) (resumeOn fuel)
    execWith loadLibrary p s

def callOn : (fuel : Nat) → Value → Given → Run Value
  | 0, _, _ => raise "RecursionError" "maximum recursion depth exceeded"
  | fuel + 1, f, given =>
    let _ := doerOf (evalOn fuel) (execOn fuel) (callOn fuel) (resumeOn fuel)
    callAnything f given

def resumeOn : (fuel : Nat) → Nat → Flow → Run (Value ⊕ Value)
  | 0, _, _ => raise "RecursionError" "maximum recursion depth exceeded"
  | fuel + 1, n, flow =>
    let _ := doerOf (evalOn fuel) (execOn fuel) (callOn fuel) (resumeOn fuel)
    resumeWith n flow

end

/-- How deep everything nests at most. -/
def deepest : Nat := 1000000

/-- What runs scripts. -/
@[reducible]
def doer : Doer := doerOf (evalOn deepest) (execOn deepest) (callOn deepest) (resumeOn deepest)

/-! ### A whole script -/

/-- How a script is started. -/
structure Start where
  /-- The file that is told when something goes wrong. -/
  file : String
  source : Octets
  /-- The lines of the script can be shown. -/
  showsLines : Bool
  arguments : List Octets
  /-- Where other scripts are looked for first. -/
  place : Octets
  /-- Nothing that is written is held back. -/
  isRaw : Bool := false

/-- Makes the streams that every script has. -/
def openStreams [Doer] (isRaw : Bool) : Run Unit := do
  let mode (reads : Bool) : OpenMode := { reads, writes := !reads, appends := false, creates := false, isBinary := false, updates := false }
  let input ← newChannel 0 (textValue "<stdin>") (mode true) "r" .utf8 "surrogateescape" none false false false
  let output ← newChannel 1 (textValue "<stdout>") (mode false) "w" .utf8 "surrogateescape" none isRaw false false
  let errors ← newChannel 2 (textValue "<stderr>") (mode false) "w" .utf8 "backslashreplace" none isRaw true false
  if isRaw then
    for v in [output, errors] do
      match v with
      | .thing n => changeChannel n fun c => { c with isRaw := true }
      | _ => pure ()
  match ← libraryScope? "sys" with
  | some scope =>
    for (name, v) in [("stdin", input), ("stdout", output), ("stderr", errors)] do
      putIn scope name v
      putIn scope ("__" ++ name ++ "__") v
  | none => pure ()

/-- Writes what is held back, and tells whether that went well. -/
def flushStream [Caller] (name : String) : Run Bool := do
  match ← libraryValue "sys" name with
  | .thing n =>
    match ← look n with
    | .channel c =>
      if !c.isOpen then return true
      else
        tryCatch (do
          flushChannel n
          return true) fun e => do
            let isShown := name == "stdout"
            if isShown then
              let head := glyphs "Exception ignored in: " ++ (← shown (.thing n)) ++ [10]
              let text ← match ← exceptionOf? e with
                | some x => ownReport { x with passages := [] } e
                | none => pure []
              tool (Work.put 2 (Glyphs.toSystem (head ++ text)) : Work Unit)
            return false
    | _ => return true
  | _ => return true

/-- Tells of an exception that nobody dealt with. -/
def reported [Doer] (e : Value) : Run Unit := do
  let hook ← libraryValue "sys" "excepthook"
  match hook with
  | .native _ | .none =>
    let _ ← flushStream "stdout"
    let text ← reportText e
    match ← libraryValue "sys" "stderr" with
    | .none => return
    | stream => writeOn stream text
  | hook =>
    let trace ← getMember e "__traceback__"
    let _ ← Caller.call hook { args := [← kindOf e, e, trace] }

/-- The status that an exception which ends a script asks for. -/
def exitStatus [Doer] (e : Value) : Run Nat := do
  match ← getMember e "code" with
  | .none => return 0
  | v =>
    match ← coreOf v with
    | .int n => return (n % 256).toNat
    | .bool b => return if b then 1 else 0
    | _ =>
      let _ ← flushStream "stdout"
      match ← libraryValue "sys" "stderr" with
      | .none => pure ()
      | stream => writeOn stream ((← texted v) ++ [10])
      return 1

/-- Calls what is to be called at the end. -/
def sayFarewell [Doer] : (rounds : Nat) → Run Unit
  | 0 => return
  | rounds + 1 => do
    match (← get).farewells with
    | [] => return
    | (f, args, named) :: rest =>
      modify fun s => { s with farewells := rest }
      tryCatch (do
        let _ ← Caller.call f { args, named }) fun e => do
          let text ← reportText e
          let head := glyphs "Exception ignored in atexit callback: " ++ (← shown f) ++ [10]
          match ← libraryValue "sys" "stderr" with
          | .none => pure ()
          | stream => writeOn stream (head ++ text)
      sayFarewell rounds

/-- Runs a script, and gives the status that it ends with; or it ends by a signal. -/
def runScript [Doer] (start : Start) : Run Nat := do
  let shared := (← get).shared
  for name in ["builtins", "sys"] do
    match ← libraryNames? name with
    | some names =>
      let _ ← newLibrary name names
    | none => pure ()
  openStreams start.isRaw
  let main := ["__name__", "__doc__", "__package__", "__loader__", "__spec__", "__annotations__", "__builtins__"]
  for name in main do
    let v ← match name with
      | "__name__" => pure (textValue "__main__")
      | "__builtins__" => pure (.library "builtins")
      | "__annotations__" => alloc (.dict {} "dict" .none)
      | _ => pure .none
    putIn shared name v
  if start.showsLines then putIn shared "__file__" (textValue start.file)
  match ← libraryValue "sys" "path" with
  | .thing n => withItems n fun items => items.set! 0 (.text (Glyphs.ofSystem start.place))
  | _ => pure ()
  system (.respond 13 .ignored)
  system (.respond 25 .ignored)
  if (← system (.responseTo 2)) ≠ .ignored then
    system (.respond 2 .caught)
    modify fun s => { s with responses := [(2, .native "signal.default_int_handler")] }
  let act : Run Unit := do
    let source ← match Glyphs.decode .utf8 "strict" start.source with
      | .ok g => pure (charsOf g)
      | .error _ => pure (charsOf (Glyphs.ofSystem start.source))
    let source := plainLines source
    if start.showsLines then
      modify fun s => { s with sources := [(start.file, ((String.ofList source).splitOn "\n").toArray.map String.toList)] }
    match readScript source with
    | .error problem =>
      modify fun s => { s with noted := true }
      let r ← tryCatch (do
        let _ : Unit ← raiseProblem problem start.file source
        return none) fun e => return some e
      match r with
      | some e =>
        modify fun s => { s with noted := true }
        throw e
      | none => pure ()
    | .ok body =>
      let _ ← execAll { here := shared } body
  let (status, isInterrupted) : Nat × Bool ← tryCatch (do
    act
    return (0, false)) fun e => do
      notePassage e
      if ← isOfKind e "SystemExit" then return (← exitStatus e, false)
      else
        reported e
        return (1, ← isOfKind e "KeyboardInterrupt")
  sayFarewell endless
  let ok ← flushStream "stdout"
  let _ ← flushStream "stderr"
  flushFiles
  if isInterrupted then
    system (.respond 2 .usual)
    let (me, _) ← system .self
    let _ ← system (.kill me 2)
  return if ok then status else 120

end GrammarStudio.ObjectScript
