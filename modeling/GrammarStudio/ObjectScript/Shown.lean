import GrammarStudio.ObjectScript.Running
import GrammarStudio.ObjectScript.Written

/-!
# Values as texts

A kind that a script defines may say itself how its values are shown, so its attributes come first.

* `fromLine?` — what the kinds of a line say of a name;
* `bindTo` — what a function of a kind becomes when it is asked of a value;
* `ownMethod?` — the method that a script gave to a value's kind;
* `shown` — a value as scripts write it;
* `texted` — a value as a text;
* `laidOut` — a value as a short text says.
-/

namespace GrammarStudio.ObjectScript

open Machine Tools

/-! ### Attributes -/

/-- What the kinds of a line that scripts define say of a name, and the kind that says it. -/
def fromLine? (line : List Value) (name : String) : Run (Option (Value × Value)) := do
  match line with
  | [] => return none
  | .thing n :: rest =>
    match ← look n with
    | .class_ c =>
      match c.attributes.get? name with
      | some v => return some (.thing n, v)
      | none => fromLine? rest name
    | _ => fromLine? rest name
  | _ :: rest => fromLine? rest name

/-- The kinds of a line that scripts do not define. -/
def plainKinds (line : List Value) : List String :=
  line.filterMap fun
    | .kind k => some k
    | _ => none

/-- What a function of a kind becomes when it is asked of a value of that kind. -/
def bindTo [Caller] (owner kind v : Value) : Run Value := do
  match v with
  | .thing n =>
    match ← look n with
    | .function _ => return .method owner v
    | .plainFunction f => return f
    | .kindFunction f => return .method kind f
    | .property get _ _ _ =>
      match get with
      | .none => raise "AttributeError" "unreadable attribute"
      | get => Caller.call get { args := [owner] }
    | _ => return v
  | .native _ => return v
  | v => return v

/-- What a function of a kind becomes when it is asked of the kind itself. -/
def bindToKind (kind v : Value) : Run Value := do
  match v with
  | .thing n =>
    match ← look n with
    | .plainFunction f => return f
    | .kindFunction f => return .method kind f
    | _ => return v
  | v => return v

/-- Is a value of a kind that a script defines? -/
def isScripted (v : Value) : Run Bool := do
  match ← kindOf v with
  | .thing _ => return true
  | _ => return false

/-- The method that a script gave to the kind of a value. -/
def ownMethod? [Caller] (v : Value) (name : String) : Run (Option Value) := do
  match v with
  | .thing _ =>
    match ← kindOf v with
    | .thing k =>
      match ← fromLine? (← lineOf (.thing k)) name with
      | some (_, f) => return some (← bindTo v (.thing k) f)
      | none => return none
    | _ => return none
  | _ => return none

/-- Calls the method that a script gave to the kind of a value, if it gave one. -/
def callOwn? [Caller] (v : Value) (name : String) (args : List Value) : Run (Option Value) := do
  match ← ownMethod? v name with
  | some f => return some (← Caller.call f { args })
  | none => return none

/-- The names that a value keeps itself. -/
def ownNames? (v : Value) : Run (Option Names) := do
  match v with
  | .thing n =>
    match ← look n with
    | .instance_ _ names _ => return some names
    | .exception e => return some e.attributes
    | .class_ c => return some c.attributes
    | .function f => return some f.attributes
    | .record _ names => return some names
    | _ => return none
  | _ => return none

/-- Keeps a value under a name. -/
def Thing.withNames (f : Names → Names) : Thing → Thing
  | .instance_ kind names core => .instance_ kind (f names) core
  | .exception e => .exception { e with attributes := f e.attributes }
  | .class_ c => .class_ { c with attributes := f c.attributes }
  | .function g => .function { g with attributes := f g.attributes }
  | .record kind names => .record kind (f names)
  | t => t

/-! ### Texts -/

/-- The items of a text, with commas between them. -/
def withCommas (items : List Glyphs) : Glyphs := (items.intersperse (glyphs ", ")).flatten

/-- A number that stands for where a thing is kept. -/
def addressOf (n : Nat) : Nat := 0x7f0000000000 + n * 16

def addressText (n : Nat) : String := "0x" ++ String.ofList (Octets.inBase 16 (addressOf n))

/-- The name of a kind with that of its library. -/
def fullKindName (kind : Value) : Run String := do
  match kind with
  | .kind k => return if libraryOf k == "builtins" then shortName k else k
  | .thing n =>
    match ← look n with
    | .class_ c =>
      match c.attributes.get? "__module__" with
      | some (.text g) =>
        let library := Glyphs.toString g
        return if library == "builtins" then c.qualified else library ++ "." ++ c.qualified
      | _ => return c.qualified
    | _ => return "object"
  | _ => return "object"

/-- The name of a text that must be one. -/
def textResult (what : String) (v : Value) : Run Glyphs := do
  match ← coreOf v with
  | .text g => return g
  | other => typeError (what ++ " returned non-string (type " ++ (← kindNameOf other) ++ ")")

/-- The parts of a fault that is told as a text: what codes cannot stand for. -/
def codingFaultText (attributes : Names) : Glyphs :=
  let textOf (name : String) : Glyphs := match attributes.get? name with
    | some (.text g) => g
    | _ => []
  let numberOf (name : String) : Nat := match attributes.get? name with
    | some (.int n) => n.toNat
    | _ => 0
  let start := numberOf "start"
  let stop := numberOf "end"
  let place : Glyphs := if stop = start + 1 then glyphs ("position " ++ start.repr) else glyphs ("position " ++ start.repr ++ "-" ++ (stop - 1).repr)
  let what : Glyphs := match attributes.get? "object" with
    | some (.octets o) =>
      glyphs "can't decode " ++ (if stop = start + 1 then
        glyphs "byte 0x" ++ Glyphs.ofOctets (Glyphs.hexText 2 ((o[start]?).getD 'a').toNat) else glyphs "bytes")
    | some (.text g) =>
      glyphs "can't encode " ++ (if stop = start + 1 then
        glyphs "character '" ++ Glyphs.ofOctets (Glyphs.spelled ((g[start]?).getD 0)) ++ glyphs "'" else glyphs "characters")
    | _ => []
  glyphs "'" ++ textOf "encoding" ++ glyphs "' codec " ++ what ++ glyphs " in " ++ place ++ glyphs ": " ++ textOf "reason"

/-- How a library's functions and kinds are shown that are made of scripts themselves. -/
def isScriptedNative (name : String) : Bool :=
  ["json.", "os.path.", "os.walk", "os.makedirs", "os.getenv", "os.popen", "shutil.", "base64.", "textwrap.", "signal.", "traceback."].any fun p =>
    p.toList.isPrefixOf name.toList

/-- The least number that is too long to be written in tens. -/
def longestWritten : Nat := 10 ^ 4300

mutual

/-- A value as scripts write it. -/
def shownOn [Caller] : (fuel : Nat) → Value → Run Glyphs
  | 0, _ => raise "RecursionError" "maximum recursion depth exceeded while getting the repr of an object"
  | fuel + 1, v => do
    match v with
    | .none => return glyphs "None"
    | .ellipsis => return glyphs "Ellipsis"
    | .notImplemented => return glyphs "NotImplemented"
    | .bool b => return glyphs (if b then "True" else "False")
    | .int n =>
      if n.natAbs ≥ longestWritten then
        raise "ValueError" "Exceeds the limit (4300 digits) for integer string conversion; use sys.set_int_max_str_digits() to increase the limit"
      return Glyphs.ofOctets (Octets.ofInt n)
    | .float x => return glyphs (floatText x)
    | .text g => return quoted false g
    | .octets o => return quotedOctets o
    | .tuple items => shownTuple fuel items
    | .range a b c => return glyphs ("range(" ++ toString a ++ ", " ++ toString b ++ (if c = 1 then "" else ", " ++ toString c) ++ ")")
    | .slice a b c => do
      return glyphs "slice" ++ (← shownTuple fuel [a, b, c])
    | .native name =>
      if name == "quit" || name == "exit" then return glyphs ("Use " ++ name ++ "() or Ctrl-D (i.e. EOF) to exit")
      else if isScriptedNative name then return glyphs ("<function " ++ shortName name ++ " at 0x7f00000a0000>")
      else return glyphs ("<built-in function " ++ shortName name ++ ">")
    | .bound owner name => do
      let n := match owner with
        | .thing n => n
        | _ => 1
      match owner with
      | .kind _ => return glyphs ("<built-in method " ++ name ++ " of type object at " ++ addressText n ++ ">")
      | owner => return glyphs ("<built-in method " ++ name ++ " of " ++ (← kindNameOf owner) ++ " object at " ++ addressText n ++ ">")
    | .method owner function => do
      let name ← match function with
        | .thing n => do
          match ← look n with
          | .function f => pure f.qualified
          | _ => pure "function"
        | .native name => pure name
        | _ => pure "function"
      return glyphs ("<bound method " ++ name ++ " of ") ++ (← shownOn fuel owner) ++ glyphs ">"
    | .kind k => return glyphs ("<class '" ++ k ++ "'>")
    | .library name =>
      if ["sys", "time", "itertools", "_io", "builtins", "errno"].contains name then return glyphs ("<module '" ++ name ++ "' (built-in)>")
      else if ["os", "io", "posixpath", "abc", "codecs", "stat"].contains name then return glyphs ("<module '" ++ name ++ "' (frozen)>")
      else if name == "os.path" then return glyphs "<module 'posixpath' (frozen)>"
      else if ["math"].contains name then
        return glyphs ("<module '" ++ name ++ "' from '/usr/lib/python3.11/lib-dynload/" ++ name ++ ".cpython-311-x86_64-linux-gnu.so'>")
      else
        let path := String.ofList (name.toList.map fun c => if c = '.' then '/' else c)
        let isFolder := ["json", "collections", "re", "unittest", "asyncio", "logging", "importlib"].contains name
        return glyphs ("<module '" ++ name ++ "' from '/usr/lib/python3.11/" ++ path ++ (if isFolder then "/__init__" else "") ++ ".py'>")
    | .above kind owner => do
      return glyphs "<super: " ++ (← shownOn fuel kind) ++ glyphs (", <" ++ (← kindNameOf owner) ++ " object>>")
    | .thing n =>
      match ← callOwn? v "__repr__" [] with
      | some r => textResult "__repr__" r
      | none => shownThing fuel n

def shownTuple [Caller] : (fuel : Nat) → List Value → Run Glyphs
  | 0, _ => return []
  | fuel + 1, items => do
    let texts ← shownEach fuel items
    return glyphs "(" ++ withCommas texts ++ (if items.length = 1 then glyphs ",)" else glyphs ")")

def shownEach [Caller] : (fuel : Nat) → List Value → Run (List Glyphs)
  | 0, _ => return []
  | fuel + 1, items => items.mapM fun v => shownOn fuel v

/-- A thing, unless it is within itself. -/
def shownThing [Caller] : (fuel : Nat) → Nat → Run Glyphs
  | 0, _ => return []
  | fuel + 1, n => do
    let t ← look n
    let within (short : String) (show_ : Run Glyphs) : Run Glyphs := do
      if (← get).shown.contains n then return glyphs short
      modify fun s => { s with shown := n :: s.shown }
      let done : Run Unit := modify fun s => { s with shown := s.shown.erase n }
      let g ← tryCatch show_ fun e => do
        done
        throw e
      done
      return g
    let pairs (items : List (Value × Value)) : Run Glyphs := do
      let texts ← items.mapM fun (k, v) => do return (← shownOn fuel k) ++ glyphs ": " ++ (← shownOn fuel v)
      return glyphs "\x7b" ++ withCommas texts ++ glyphs "\x7d"
    match t with
    | .list items => within "[...]" do return glyphs "[" ++ withCommas (← shownEach fuel items.toList) ++ glyphs "]"
    | .octets o => return glyphs "bytearray(" ++ quotedOctets o ++ glyphs ")"
    | .dict d kind maker =>
      let items := d.values
      match kind with
      | "collections.OrderedDict" =>
        if items.isEmpty then return glyphs "OrderedDict()"
        else within "..." do
          let texts ← items.mapM fun (k, v) => shownTuple fuel [k, v]
          return glyphs "OrderedDict([" ++ withCommas texts ++ glyphs "])"
      | "collections.defaultdict" =>
        within "defaultdict(...)" do return glyphs "defaultdict(" ++ (← shownOn fuel maker) ++ glyphs ", " ++ (← pairs items) ++ glyphs ")"
      | "collections.Counter" =>
        if items.isEmpty then return glyphs "Counter()"
        else
          let amount (v : Value) : Int := match v with
            | .int n => n
            | _ => 0
          let sorted := items.mergeSort fun a b => amount a.2 ≥ amount b.2
          within "..." do return glyphs "Counter(" ++ (← pairs sorted) ++ glyphs ")"
      | "os._Environ" => return glyphs "environ(" ++ (← pairs items) ++ glyphs ")"
      | "mappingproxy" => return glyphs "mappingproxy(" ++ (← pairs items) ++ glyphs ")"
      | _ => within "\x7b...\x7d" (pairs items)
    | .set d isFrozen =>
      let items := d.values.map Prod.fst
      if items.isEmpty then return glyphs (if isFrozen then "frozenset()" else "set()")
      else within (if isFrozen then "frozenset(...)" else "set(...)") do
        let body := glyphs "\x7b" ++ withCommas (← shownEach fuel items) ++ glyphs "\x7d"
        return if isFrozen then glyphs "frozenset(" ++ body ++ glyphs ")" else body
    | .scope names =>
      within "\x7b...\x7d" (pairs (names.toList.map fun (k, v) => (textValue k, v)))
    | .function f => return glyphs ("<function " ++ f.qualified ++ " at " ++ addressText n ++ ">")
    | .class_ _ => return glyphs ("<class '" ++ (← fullKindName (.thing n)) ++ "'>")
    | .instance_ kind _ core =>
      match kind with
      | .kind "signal.Signals" | .kind "signal.Handlers" =>
        let name := match (t matches .instance_ ..), (← ownNames? (.thing n)) with
          | true, some names => names.get? "name"
          | _, _ => none
        let word ← texted' fuel (name.getD .none)
        return glyphs ("<" ++ (← kindName kind) ++ ".") ++ word ++ glyphs ": " ++ (← shownOn fuel core) ++ glyphs ">"
      | _ =>
        match kind, core with
        | .kind k, .tuple _ => do
          let names := ((← ownNames? (.thing n)).map Ordered.toList).getD []
          let texts ← names.mapM fun (k, v) => do return glyphs (k ++ "=") ++ (← shownOn fuel v)
          return glyphs (k ++ "(") ++ withCommas texts ++ glyphs ")"
        | _, .none => return glyphs ("<" ++ (← fullKindName kind) ++ " object at " ++ addressText n ++ ">")
        | _, core => shownOn fuel core
    | .exception e => do
      let name ← kindName e.kind
      match e.args with
      | [one] => return glyphs (name ++ "(") ++ (← shownOn fuel one) ++ glyphs ")"
      | args => return glyphs name ++ (← shownTuple fuel args)
    | .course c name => return glyphs ("<" ++ c.kindName name ++ " object at " ++ addressText n ++ ">")
    | .generator g => return glyphs ("<generator object " ++ g.qualified ++ " at " ++ addressText n ++ ">")
    | .channel c => do
      let name ← shownOn fuel c.name
      if c.memory.isSome then return glyphs ("<" ++ (if c.isText then "_io.StringIO" else "_io.BytesIO") ++ " object at " ++ addressText n ++ ">")
      else if c.isText then
        return glyphs "<_io.TextIOWrapper name=" ++ name ++ glyphs (" mode='" ++ c.mode ++ "' encoding='" ++ c.coding.name ++ "'>")
      else if c.isRaw then
        return glyphs "<_io.FileIO name=" ++ name ++ glyphs (" mode='" ++ c.mode ++ "' closefd=" ++ (if c.isClosing then "True" else "False") ++ ">")
      else return glyphs (if c.canWrite then "<_io.BufferedWriter name=" else "<_io.BufferedReader name=") ++ name ++ glyphs ">"
    | .property .. => return glyphs ("<property object at " ++ addressText n ++ ">")
    | .plainFunction f => return glyphs "<staticmethod(" ++ (← shownOn fuel f) ++ glyphs ")>"
    | .kindFunction f => return glyphs "<classmethod(" ++ (← shownOn fuel f) ++ glyphs ")>"
    | .record kind names => do
      let parts (items : List (String × Value)) : Run Glyphs := do
        let texts ← items.mapM fun (k, v) => do return glyphs (k ++ "=") ++ (← shownOn fuel v)
        return withCommas texts
      match kind with
      | "types.UnionType" =>
        match names.get? "kinds" with
        | some (.tuple kinds) =>
          let words ← kinds.mapM fun k => do
            match k with
            | .none => return glyphs "None"
            | .thing m =>
              match ← look m with
              | .class_ _ => return glyphs (← fullKindName k)
              | _ => shownOn fuel k
            | k => return glyphs (← fullKindName k)
          return (words.intersperse (glyphs " | ")).flatten
        | _ => return []
      | "code" =>
        let file := match names.get? "co_filename" with
          | some (.text g) => g
          | _ => []
        let name := match names.get? "co_name" with
          | some (.text g) => g
          | _ => []
        return glyphs "<code object " ++ name ++ glyphs (" at " ++ addressText n ++ ", file \"") ++ file ++ glyphs "\", line 1>"
      | "types.SimpleNamespace" => return glyphs "namespace(" ++ (← parts names.toList) ++ glyphs ")"
      | "subprocess.CompletedProcess" =>
        return glyphs "CompletedProcess(" ++ (← parts (names.toList.filter fun p => !(p.2 matches .none))) ++ glyphs ")"
      | "collections.deque" =>
        let items ← match names.get? "items" with
          | some v => shownOn fuel v
          | none => pure (glyphs "[]")
        match names.get? "maxlen" with
        | some (.int m) => return glyphs "deque(" ++ items ++ glyphs (", maxlen=" ++ toString m ++ ")")
        | _ => return glyphs "deque(" ++ items ++ glyphs ")"
      | "re.Match" =>
        let part (name : String) : Value := (names.get? name).getD .none
        return glyphs "<re.Match object; span=" ++ (← shownOn fuel (part "span")) ++ glyphs ", match=" ++ (← shownOn fuel (part "match")) ++ glyphs ">"
      | "re.Pattern" =>
        return glyphs "re.compile(" ++ (← shownOn fuel ((names.get? "pattern").getD .none)) ++ glyphs ")"
      | "pathlib.PosixPath" =>
        return glyphs "PosixPath(" ++ (← shownOn fuel ((names.get? "path").getD .none)) ++ glyphs ")"
      | kind => return glyphs ("<" ++ kind ++ " object at " ++ addressText n ++ ">")
    | .view what object => do
      let items ← match ← look object with
        | .dict d _ _ => pure d.values
        | .scope names => pure (names.toList.map fun (k, v) => (textValue k, v))
        | _ => pure []
      let body ← match what with
        | "keys" => shownEach fuel (items.map Prod.fst)
        | "values" => shownEach fuel (items.map Prod.snd)
        | _ => items.mapM fun (k, v) => shownTuple fuel [k, v]
      return glyphs ("dict_" ++ what ++ "([") ++ withCommas body ++ glyphs "])"
    | .cell _ => return glyphs ("<object object at " ++ addressText n ++ ">")

/-- A value as a text, where no script says how. -/
def texted' [Caller] : (fuel : Nat) → Value → Run Glyphs
  | 0, _ => return []
  | fuel + 1, v =>
    match v with
    | .text g => return g
    | v => shownOn fuel v

end

/-- How deep values are shown. -/
def depthShown : Nat := 3000

def shown [Caller] (v : Value) : Run Glyphs := shownOn depthShown v

/-- The text of an exception. -/
def exceptionText [Caller] (e : Raised) : Run Glyphs := do
  let line ← lineOf e.kind
  let kinds := plainKinds line
  let plain : Run Glyphs := do
    match e.args with
    | [] => return []
    | [.text g] => return g
    | [one] =>
      match ← callOwn? one "__str__" [] with
      | some r => textResult "__str__" r
      | none => match ← coreOf one with
        | .text g => return g
        | _ =>
          match ← exceptionOf? one with
          | none => shown one
          | some inner =>
            match inner.args with
            | [.text g] => return g
            | _ => shown one
    | args => shown (.tuple args)
  if kinds.contains "KeyError" then
    match e.args with
    | [one] => shown one
    | _ => plain
  else if kinds.contains "OSError" then
    match e.attributes.get? "errno", e.attributes.get? "strerror" with
    | some n, some text =>
      let front := glyphs "[Errno " ++ (← shown n) ++ glyphs "] " ++ (← match text with
        | .text g => pure g
        | v => shown v)
      match e.attributes.get? "filename", e.attributes.get? "filename2" with
      | some .none, _ | none, _ => return front
      | some a, some .none | some a, none => return front ++ glyphs ": " ++ (← shown a)
      | some a, some b => return front ++ glyphs ": " ++ (← shown a) ++ glyphs " -> " ++ (← shown b)
    | _, _ => plain
  else if (kinds.contains "UnicodeDecodeError" || kinds.contains "UnicodeEncodeError") && e.attributes.has "object" then
    return codingFaultText e.attributes
  else if kinds.contains "BaseExceptionGroup" then
    match e.args with
    | .text g :: .tuple es :: _ => return g ++ glyphs (" (" ++ counted es.length "sub-exception" ++ ")")
    | _ => plain
  else if kinds.contains "SyntaxError" && e.attributes.has "lineno" then
    match e.args, e.attributes.get? "lineno" with
    | .text g :: _, some (.int n) => return g ++ glyphs (" (<string>, line " ++ toString n ++ ")")
    | _, _ => plain
  else if kinds.contains "subprocess.CalledProcessError" && e.attributes.has "returncode" then
    match e.attributes.get? "returncode" with
    | some (.int n) =>
      let command ← shown ((e.attributes.get? "cmd").getD .none)
      if n < 0 then
        match Machine.signalNames.lookup n.natAbs with
        | some name =>
          return glyphs "Command '" ++ command ++ glyphs ("' died with <Signals." ++ (if "SIG".toList.isPrefixOf name.toList then name else "SIG" ++ name) ++
            ": " ++ n.natAbs.repr ++ ">.")
        | none => return glyphs "Command '" ++ command ++ glyphs ("' died with unknown signal " ++ n.natAbs.repr ++ ".")
      else return glyphs "Command '" ++ command ++ glyphs ("' returned non-zero exit status " ++ toString n ++ ".")
    | _ => plain
  else if kinds.contains "subprocess.TimeoutExpired" && e.attributes.has "timeout" then
    let command ← shown ((e.attributes.get? "cmd").getD .none)
    return glyphs "Command '" ++ command ++ glyphs "' timed out after " ++ (← shown ((e.attributes.get? "timeout").getD .none)) ++ glyphs " seconds"
  else plain

/-- A value as a text. -/
def texted [Caller] (v : Value) : Run Glyphs := do
  match v with
  | .text g => return g
  | .thing n =>
    match ← callOwn? v "__str__" [] with
    | some r => textResult "__str__" r
    | none =>
      match ← look n with
      | .exception e =>
        exceptionText e
      | .instance_ kind _ core =>
        match kind, core with
        | .kind "signal.Signals", c | .kind "signal.Handlers", c => shown c
        | _, .text g =>
          match ← ownMethod? v "__repr__" with
          | some _ => return g
          | none => return g
        | _, _ => shown v
      | .record "pathlib.PosixPath" names => texted' 5 ((names.get? "path").getD .none)
      | _ => shown v
  | v => shown v

/-- A value without characters that are not in the small set. -/
def shownPlain [Caller] (v : Value) : Run Glyphs := do
  let g ← shown v
  return g.flatMap fun n => if n < 128 then [n] else Glyphs.ofOctets (Glyphs.spelled n)

def complained {α : Type} (r : Except Complaint α) : Run α :=
  match r with
  | .ok a => return a
  | .error (kind, message) => raise kind message

/-- A value as a short text says. -/
def laidOut [Caller] (v : Value) (layout : Glyphs) : Run Glyphs := do
  match ← callOwn? v "__format__" [.text layout] with
  | some r => textResult "__format__" r
  | none =>
    match ← coreOf v with
    | .text g =>
      if layout.isEmpty then texted v
      else complained (do layText (← readLayout "str" layout) g)
    | .int n =>
      if layout.isEmpty then texted v
      else complained (do layInteger (← readLayout "int" layout) "int" n)
    | .bool b =>
      if layout.isEmpty then texted v
      else complained (do layInteger (← readLayout "bool" layout) "bool" (if b then 1 else 0))
    | .float x =>
      if layout.isEmpty then texted v
      else complained (do layFloat (← readLayout "float" layout) "float" x)
    | _ =>
      if layout.isEmpty then texted v
      else typeError ("unsupported format string passed to " ++ (← kindNameOf v) ++ ".__format__")

end GrammarStudio.ObjectScript
