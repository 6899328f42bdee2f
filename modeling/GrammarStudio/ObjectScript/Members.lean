import GrammarStudio.ObjectScript.Items

/-!
# What stands behind a point

* `member?`, `getMember` — what a value has under a name;
* `setMember`, `deleteMember` — what scripts may put there and take away.
-/

namespace GrammarStudio.ObjectScript

open Machine Tools

/-- The exception that something is not there under a name. -/
def raiseNoMember {α : Type} (owner : Value) (name message : String) : Run α := do
  let e ← newException "AttributeError" [textValue message]
  match e with
  | .thing n =>
    change n fun
      | .exception x => .exception { x with attributes := (x.attributes.put "name" (textValue name)).put "obj" owner }
      | t => t
  | _ => pure ()
  throwValue e

def noMember {α : Type} (v : Value) (name : String) : Run α := do
  match v with
  | .library l => raiseNoMember v name ("module '" ++ l ++ "' has no attribute '" ++ name ++ "'")
  | v =>
    if ← isClass v then raiseNoMember v name ("type object '" ++ (← kindName v) ++ "' has no attribute '" ++ name ++ "'")
    else raiseNoMember v name ("'" ++ (← kindNameOf v) ++ "' object has no attribute '" ++ name ++ "'")

/-- The names of a library in use. -/
def libraryScope? (name : String) : Run (Option Nat) := do return (← get).libraries.lookup name

/-- The kind and all that it comes from, as values. -/
def basesOf (kind : Value) : Run (List Value) := do
  match kind with
  | .kind k => return if k == "object" then [] else [.kind ((kindParents.lookup k).getD "object")]
  | .thing n =>
    match ← look n with
    | .class_ c => return c.bases
    | _ => return []
  | _ => return []

/-- The words that functions and kinds are known by. -/
def namesOfFunction (f : Function) (name : String) : Run (Option Value) := do
  match name with
  | "__name__" => return some ((f.attributes.get? name).getD (textValue f.name))
  | "__qualname__" => return some ((f.attributes.get? name).getD (textValue f.qualified))
  | "__doc__" => return some ((f.attributes.get? name).getD f.doc)
  | "__module__" => return some ((f.attributes.get? name).getD (textValue "__main__"))
  | "__defaults__" =>
    let defaults := f.formals.filterMap fun p => match p.kind with
      | .nameOnly => none
      | _ => p.default
    return some (if defaults.isEmpty then .none else .tuple defaults)
  | "__kwdefaults__" =>
    let defaults := f.formals.filterMap fun p => match p.kind with
      | .nameOnly => p.default.map fun v => (p.name, v)
      | _ => none
    if defaults.isEmpty then return some .none
    else return some (← alloc (.dict (Ordered.ofList (defaults.map fun (k, v) => (3 :: (glyphs k).map Int.ofNat, textValue k, v))) "dict" .none))
  | "__dict__" =>
    return some (← alloc (.dict (Ordered.ofList (f.attributes.toList.map fun (k, v) => (3 :: (glyphs k).map Int.ofNat, textValue k, v))) "dict" .none))
  | "__annotations__" => return some (← alloc (.dict {} "dict" .none))
  | "__code__" =>
    let names := f.formals.filterMap fun p => match p.kind with
      | .usual | .positionOnly => some p.name
      | _ => none
    return some (← alloc (.record "code" (Ordered.ofList
      [("co_name", textValue f.name), ("co_argcount", .ofNat names.length), ("co_varnames", .tuple (names.map textValue)),
        ("co_filename", textValue (← get).file), ("co_firstlineno", .int 1)])))
  | "__globals__" => return some (.thing (← get).shared)
  | "__call__" => return none
  | _ => return f.attributes.get? name

/-- What an exception has under a name. -/
def exceptionMember? (n : Nat) (e : Raised) (name : String) : Run (Option Value) := do
  let kinds := plainKinds (← lineOf e.kind)
  match name with
  | "args" => return some (.tuple e.args)
  | "__cause__" => return some e.cause
  | "__context__" => return some e.context
  | "__suppress_context__" => return some (.bool e.hidesContext)
  | "__traceback__" =>
    if e.passages.isEmpty then return some .none
    else
      let lines := e.passages.map fun p => Value.ofNat p.span.line
      return some (← alloc (.record "traceback" (Ordered.ofList
        [("exception", .thing n), ("tb_lineno", lines.headD .none), ("tb_next", .none), ("tb_frame", .none)])))
  | "with_traceback" | "add_note" => return some (.bound (.thing n) name)
  | name =>
    match e.attributes.get? name with
    | some v => return some v
    | none =>
      if kinds.contains "OSError" && ["errno", "strerror", "filename", "filename2"].contains name then return some .none
      else if kinds.contains "SystemExit" && name == "code" then
        return some (match e.args with
          | [] => .none
          | [v] => v
          | vs => .tuple vs)
      else if kinds.contains "StopIteration" && name == "value" then return some (e.args.headD .none)
      else if kinds.contains "ImportError" && ["name", "path", "msg"].contains name then
        return some (if name == "msg" then e.args.headD .none else .none)
      else if kinds.contains "NameError" && name == "name" then return some .none
      else if kinds.contains "BaseExceptionGroup" && name == "exceptions" then return some ((e.args[1]?).getD (.tuple []))
      else if kinds.contains "BaseExceptionGroup" && name == "message" then return some (e.args.headD .none)
      else if kinds.contains "SyntaxError" && name == "msg" then return some (e.args.headD .none)
      else if kinds.any fun k => hasMethod k name then return some (.bound (.thing n) name)
      else return none

/-- What a stream has under a name. -/
def channelMember? (n : Nat) (c : Channel) (name : String) : Run (Option Value) := do
  let kind := match (Thing.channel c).kind with
    | .kind k => k
    | _ => ""
  match name with
  | "closed" => return some (.bool !c.isOpen)
  | "name" => return if c.memory.isSome then none else some c.name
  | "mode" => return if c.memory.isSome then none else some (textValue c.mode)
  | "encoding" => return if c.isText then some (if c.memory.isSome then .none else textValue c.coding.name) else none
  | "errors" => return if c.isText then some (if c.memory.isSome then .none else textValue c.handling) else none
  | "newlines" => return some .none
  | "line_buffering" => return some (.bool c.byLine)
  | "write_through" => return some (.bool c.isRaw)
  | "closefd" => return some (.bool c.isClosing)
  | "buffer" =>
    match c.below with
    | some b => return some (.thing b)
    | none => return none
  | "raw" => return if c.isText then none else some (.thing n)
  | name => return if hasMethod kind name then some (.bound (.thing n) name) else none

/-- What a value of a kind that scripts do not define has under a name. -/
def plainMember? (v : Value) (k name : String) : Run (Option Value) := do
  match name with
  | "__class__" => return some (← kindOf v)
  | "__doc__" => return some .none
  | _ => pure ()
  match v, name with
  | .int n, "real" | .int n, "numerator" => return some (.int n)
  | .int _, "imag" => return some (.int 0)
  | .int _, "denominator" => return some (.int 1)
  | .bool b, "real" | .bool b, "numerator" => return some (.int (if b then 1 else 0))
  | .float x, "real" => return some (.float x)
  | .float _, "imag" => return some (.float 0.0)
  | .range a _ _, "start" => return some (.int a)
  | .range _ b _, "stop" => return some (.int b)
  | .range _ _ c, "step" => return some (.int c)
  | .slice a _ _, "start" => return some a
  | .slice _ b _, "stop" => return some b
  | .slice _ _ c, "step" => return some c
  | .native f, "__name__" | .native f, "__qualname__" => return some (textValue (shortName f))
  | .native f, "__module__" => return some (textValue (libraryOf f))
  | .native f, "__self__" =>
    return if f == shortName f then some (.library "builtins") else some (.library (libraryOf f))
  | .bound _ f, "__name__" => return some (textValue f)
  | .bound owner f, "__qualname__" => return some (textValue ((← kindNameOf owner) ++ "." ++ f))
  | .bound owner _, "__self__" => return some owner
  | .method owner _, "__self__" => return some owner
  | .method _ f, "__func__" => return some f
  | .method _ f, name =>
    match f with
    | .thing n =>
      match ← look n with
      | .function g => namesOfFunction g name
      | _ => return none
    | _ => return none
  | _, _ => return if hasMethod k name then some (.bound v name) else none

/-- What a record has under a name. -/
def recordMember? (n : Nat) (k : String) (names : Names) (name : String) : Run (Option Value) := do
  match k, name with
  | "types.SimpleNamespace", "__dict__" =>
    return some (← alloc (.dict (Ordered.ofList (names.toList.map fun (k, v) => (3 :: (glyphs k).map Int.ofNat, textValue k, v))) "dict" .none))
  | "collections.deque", "items" => return none
  | "functools.partial", "keywords" => return names.get? "keywords"
  | "pathlib.PosixPath", name => return if name == "path" then none else names.get? name
  | _, "__class__" => return some (.kind k)
  | _, name =>
    match names.get? name with
    | some v => if hasMethod k name then return some (.bound (.thing n) name) else return some v
    | none => return if hasMethod k name then some (.bound (.thing n) name) else none

/-- The methods of paths that are asked without a call. -/
def pathMembers : List String := ["name", "stem", "suffix", "parent", "parts", "suffixes", "parents", "anchor", "root"]

mutual

/-- What a value has under a name, if it has that. -/
def memberOn? [Caller] : (fuel : Nat) → Value → String → Run (Option Value)
  | 0, _, _ => return none
  | fuel + 1, v, name => do
    match v with
    | .library l =>
      match ← libraryScope? l with
      | some scope =>
        match ← getIn? scope name with
        | some v => return some v
        | none =>
          match name with
          | "__name__" => return some (textValue (if l == "os.path" then "posixpath" else l))
          | "__doc__" => return some .none
          | "__dict__" => return some (.thing scope)
          | "__class__" => return some (.kind "module")
          | "__file__" => return if ["sys", "time", "itertools", "builtins", "errno"].contains l then none else some (textValue ("/usr/lib/python3.11/" ++ l ++ ".py"))
          | _ => return none
      | none => return none
    | .kind k =>
      match name with
      | "__name__" | "__qualname__" => return some (textValue (shortName k))
      | "__module__" => return some (textValue (libraryOf k))
      | "__mro__" => return some (.tuple ((kindLine k).map Value.kind))
      | "__bases__" => return some (.tuple (← basesOf v))
      | "__base__" => return some ((← basesOf v).headD .none)
      | "__class__" => return some (.kind "type")
      | "__doc__" => return some .none
      | "__dict__" => return some (← alloc (.dict {} "mappingproxy" .none))
      | "mro" | "__subclasses__" => return some (.bound v name)
      | "SIGTERM" | _ =>
        match k, name with
        | "int", "real" | "float", "real" => return some .none
        | "datetime", _ => return none
        | _, _ =>
          if (← libraryScope? k).isSome then
            memberOn? fuel (.library k) name
          else if hasMethod k name then return some (.native (k ++ "." ++ name))
          else return none
    | .above kind owner =>
      let line ← if ← isClass owner then lineOf owner else lineOf (← kindOf owner)
      let behind := (line.dropWhile fun k => !sameKind k kind).drop 1
      match ← fromLine? behind name with
      | some (_, f) =>
        if ← isClass owner then return some (← bindToKind owner f)
        else return some (← bindTo owner (← kindOf owner) f)
      | none =>
        if name == "__class__" then return some (.kind "super")
        else if name == "__new__" then return some (.native "object.__new__")
        else if (plainKinds behind).any fun k => hasMethod k name then return some (.bound owner name)
        else return none
    | .thing n =>
      match ← look n with
      | .instance_ kind names core => instanceMember? fuel v kind names core name
      | .exception e =>
        match e.kind with
        | .thing _ => instanceMember? fuel v e.kind e.attributes .none name
        | _ =>
          if name == "__class__" then return some e.kind
          else if name == "__dict__" then return some (← namesDict e.attributes)
          else exceptionMember? n e name
      | .class_ c => classMember? fuel n c name
      | .function f =>
        match name with
        | "__class__" => return some (.kind "function")
        | "__get__" => return some (.bound v name)
        | name => namesOfFunction f name
      | .channel c => if name == "__class__" then return some (Thing.channel c).kind else channelMember? n c name
      | .record k names =>
        if k == "pathlib.PosixPath" && !pathMembers.contains name then
          return if name == "__class__" then some (.kind k) else some (.bound v name)
        else recordMember? n k names name
      | .generator g =>
        match name with
        | "__name__" => return some (textValue g.name)
        | "__qualname__" => return some (textValue g.qualified)
        | "gi_running" => return some (.bool g.isRunning)
        | _ => plainMember? v "generator" name
      | .property get set delete doc =>
        match name with
        | "fget" => return some get
        | "fset" => return some set
        | "fdel" => return some delete
        | "__doc__" => return some doc
        | _ => plainMember? v "property" name
      | .plainFunction f | .kindFunction f =>
        match name with
        | "__func__" | "__wrapped__" => return some f
        | _ => memberOn? fuel f name
      | .dict _ k maker =>
        match k, name with
        | "collections.defaultdict", "default_factory" => return some maker
        | _, _ => plainMember? v k name
      | t =>
        match t.kind with
        | .kind k => plainMember? v k name
        | _ => return none
    | v =>
      match ← kindOf v with
      | .kind k => plainMember? v k name
      | _ => return none

/-- What one of a script's kind has under a name. -/
def instanceMember? [Caller] : (fuel : Nat) → (v kind : Value) → Names → (core : Value) → String → Run (Option Value)
  | 0, _, _, _, _, _ => return none
  | fuel + 1, v, kind, names, core, name => do
    match name with
    | "__class__" => return some kind
    | "__dict__" => return some (← namesDict names)
    | _ => pure ()
    let line ← lineOf kind
    let found ← fromLine? line name
    -- a property of the kind comes before what the value keeps itself
    let first : Option Value ← match found with
      | some (_, .thing m) =>
        match ← look m with
        | .property .. => pure (some (.thing m))
        | _ => pure none
      | _ => pure none
    match first with
    | some p => return some (← bindTo v kind p)
    | none =>
      match names.get? name with
      | some x => return some x
      | none =>
        match found with
        | some (_, f) =>
          match f with
          | .thing m =>
            match ← look m with
            | .instance_ .. =>
              match ← ownMethod? f "__get__" with
              | some g => return some (← Caller.call g { args := [v, kind] })
              | none => return some f
            | .record "functools.cached_property" parts =>
              let value ← Caller.call ((parts.get? "func").getD .none) { args := [v] }
              match v with
              | .thing n => change n (Thing.withNames (·.put name value))
              | _ => pure ()
              return some value
            | .record "functools.partial" _ => return some f
            | _ => return some (← bindTo v kind f)
          | f => return some (← bindTo v kind f)
        | none =>
          let builtin : Option Value ← match v, core with
            | .thing n, .none =>
              match ← look n with
              | .exception e => exceptionMember? n e name
              | _ =>
                match name with
                | "__doc__" =>
                  match ← fromLine? line "__doc__" with
                  | some (_, d) => pure (some d)
                  | none => pure (some .none)
                | "__module__" => pure (some (textValue "__main__"))
                | name => pure (if (plainKinds line).any fun k => hasMethod k name then some (.bound v name) else none)
            | _, .none => pure none
            | _, core => memberOn? fuel core name
          match builtin with
          | some x => return some x
          | none =>
            match ← fromLine? line "__getattr__" with
            | some (_, f) => return some (← Caller.call (← bindTo v kind f) { args := [textValue name] })
            | none => return none

/-- What a kind that a script defines has under a name. -/
def classMember? [Caller] : (fuel : Nat) → (n : Nat) → ClassInfo → String → Run (Option Value)
  | 0, _, _, _ => return none
  | fuel + 1, n, c, name => do
    let v : Value := .thing n
    match name with
    | "__name__" => return some (textValue c.name)
    | "__qualname__" => return some (textValue c.qualified)
    | "__mro__" => return some (.tuple c.line)
    | "__bases__" => return some (.tuple c.bases)
    | "__base__" => return some (c.bases.headD .none)
    | "__class__" => return some (.kind "type")
    | "__dict__" => return some (← namesDict c.attributes)
    | "mro" | "__subclasses__" => return some (.bound v name)
    | _ =>
      match ← fromLine? c.line name with
      | some (_, f) =>
        match f with
        | .thing m =>
          match ← look m with
          | .instance_ .. =>
            match ← ownMethod? f "__get__" with
            | some g => return some (← Caller.call g { args := [.none, v] })
            | none => return some f
          | _ => return some (← bindToKind v f)
        | f => return some f
      | none =>
        match name with
        | "__doc__" => return some .none
        | "__module__" => return some (textValue "__main__")
        | "__annotations__" => return some (← alloc (.dict {} "dict" .none))
        | _ =>
          let kinds := plainKinds c.line
          match kinds.find? fun k => (ownMethods k).contains name with
          | some k => memberOn? fuel (.kind k) name
          | none => return none

def namesDict [Caller] (names : Names) : Run Value :=
  alloc (.dict (Ordered.ofList (names.toList.map fun (k, v) => (3 :: (glyphs k).map Int.ofNat, textValue k, v))) "dict" .none)

end

def member? [Caller] (v : Value) (name : String) : Run (Option Value) := memberOn? 100 v name

def getMember [Caller] (v : Value) (name : String) : Run Value := do
  match ← member? v name with
  | some r => return r
  | none => noMember v name

/-! ### Changing -/

/-- Keeps a value under a name, whatever the kind says. -/
def setMemberPlainly [Caller] (v : Value) (name : String) (new : Value) : Run Unit := do
  let readOnly {α : Type} : Run α := do noMember v name
  match v with
  | .library l =>
    match ← libraryScope? l with
    | some scope => putIn scope name new
    | none => readOnly
  | .thing n =>
    match ← look n with
    | .instance_ kind _ _ =>
      match ← fromLine? (← lineOf kind) name with
      | some (_, .thing m) =>
        match ← look m with
        | .property _ set _ _ =>
          match set with
          | .none => raiseNoMember v name ("property '" ++ name ++ "' of '" ++ (← kindNameOf v) ++ "' object has no setter")
          | set => let _ ← Caller.call set { args := [v, new] }
        | .instance_ .. =>
          match ← ownMethod? (.thing m) "__set__" with
          | some f => let _ ← Caller.call f { args := [v, new] }
          | none => change n (Thing.withNames (·.put name new))
        | _ => change n (Thing.withNames (·.put name new))
      | _ =>
        if name == "__class__" then
          change n fun
            | .instance_ _ names core => .instance_ new names core
            | t => t
        else if name == "__dict__" then return
        else
          match ← fromLine? (← lineOf kind) "__slots__" with
          | some (_, slots) =>
            let names : List Value := match slots with
              | .tuple vs => vs
              | v => [v]
            let names ← match slots with
              | .thing m =>
                match ← look m with
                | .list items => pure items.toList
                | _ => pure names
              | _ => pure names
            if names.any (fun s => same s (textValue name)) then change n (Thing.withNames (·.put name new))
            else readOnly
          | none => change n (Thing.withNames (·.put name new))
    | .exception _ =>
      match name with
      | "args" =>
        match new with
        | .tuple args =>
          change n fun
            | .exception e => .exception { e with args }
            | t => t
        | _ => typeError "args must be iterable"
      | "__cause__" =>
        change n fun
          | .exception e => .exception { e with cause := new, hidesContext := true }
          | t => t
      | "__context__" =>
        change n fun
          | .exception e => .exception { e with context := new }
          | t => t
      | "__suppress_context__" =>
        change n fun
          | .exception e => .exception { e with hidesContext := !(new matches .bool false) }
          | t => t
      | "__traceback__" =>
        change n fun
          | .exception e => .exception { e with passages := if (new matches .none) then [] else e.passages }
          | t => t
      | _ => change n (Thing.withNames (·.put name new))
    | .class_ _ | .function _ =>
      match name, ← look n with
      | "__name__", .class_ c =>
        match new with
        | .text g => change n fun _ => .class_ { c with name := Glyphs.toString g }
        | _ => typeError ("can only assign string to " ++ c.name ++ ".__name__, not '" ++ (← kindNameOf new) ++ "'")
      | "__name__", .function f =>
        match new with
        | .text g => change n fun _ => .function { f with name := Glyphs.toString g }
        | _ => typeError "__name__ must be set to a string object"
      | _, _ => change n (Thing.withNames (·.put name new))
    | .record k _ =>
      if k == "types.SimpleNamespace" || k == "functools.partial" || k == "subprocess.Popen" then change n (Thing.withNames (·.put name new))
      else readOnly
    | _ => readOnly
  | .kind k => typeError ("cannot set '" ++ name ++ "' attribute of immutable type '" ++ shortName k ++ "'")
  | _ => readOnly

def setMember [Caller] (v : Value) (name : String) (new : Value) : Run Unit := do
  match ← callOwn? v "__setattr__" [textValue name, new] with
  | some _ => return
  | none => setMemberPlainly v name new

def deleteMemberPlainly [Caller] (v : Value) (name : String) : Run Unit := do
  match v with
  | .library l =>
    match ← libraryScope? l with
    | some scope => if (← getIn? scope name).isSome then eraseIn scope name else noMember v name
    | none => noMember v name
  | .thing n =>
    let property : Option Value ← match ← look n with
      | .instance_ kind _ _ =>
        match ← fromLine? (← lineOf kind) name with
        | some (_, .thing m) =>
          match ← look m with
          | .property _ _ delete _ => pure (some delete)
          | _ => pure none
        | _ => pure none
      | _ => pure none
    match property with
    | some .none => raiseNoMember v name ("property '" ++ name ++ "' of '" ++ (← kindNameOf v) ++ "' object has no deleter")
    | some f => let _ ← Caller.call f { args := [v] }
    | none =>
      match ← ownNames? v with
      | some names =>
        if names.has name then change n (Thing.withNames (·.erase name)) else noMember v name
      | none => noMember v name
  | v => noMember v name

def deleteMember [Caller] (v : Value) (name : String) : Run Unit := do
  match ← callOwn? v "__delattr__" [textValue name] with
  | some _ => return
  | none => deleteMemberPlainly v name

end GrammarStudio.ObjectScript
