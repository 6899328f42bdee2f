import GrammarStudio.ObjectScript.Kinds
import GrammarStudio.ObjectScript.Value
import GrammarStudio.Tools.Console

/-!
# What a running script holds

* `Running`, `Run` — things, the functions that are being run, the exceptions that are being dealt with; and what is done
  with them.  What is done may end in an exception;
* `Caller` — how functions are called, for those who are given functions;
* `alloc`, `look`, `change` — things;
* `raise`, `raiseAt`, `throwValue` — exceptions;
* `kindOf`, `lineOf`, `isOf` — the kinds of values.
-/

namespace GrammarStudio.ObjectScript

open Machine Files Tools

/-- A function that is being run, and where the one that called it stands. -/
structure Activation where
  name : String
  file : String
  span : Span

structure Running where
  heap : Heap := {}
  /-- The functions that are being run, without the innermost. -/
  stack : List Activation := []
  depth : Nat := 0
  /-- The innermost function, and where it stands. -/
  name : String := "<module>"
  file : String
  span : Span := ⟨1, 0, 1, 0⟩
  /-- The passage of the exception under way is already told. -/
  noted : Bool := false
  /-- The exceptions that are being dealt with, the latest first. -/
  handling : List Value := []
  /-- The names of the script. -/
  shared : Nat
  /-- The libraries in use, with their names. -/
  libraries : List (String × Nat) := []
  /-- The lines of the script, where they can be shown. -/
  sources : List (String × Array (List Char)) := []
  /-- What is called at the end, the latest first. -/
  farewells : List (Value × List Value × List (String × Value)) := []
  /-- What is called when a signal comes. -/
  responses : List (Nat × Value) := []
  arguments : List Octets := []
  /-- How many functions may be run within one another. -/
  limit : Nat := 1000
  chance : Nat := 0
  /-- The things that are being shown, so that one within itself is not shown again. -/
  shown : List Nat := []

/-- What is done with a running script.  It may end in an exception. -/
abbrev Run := ExceptT Value (StateT Running Tool)

/-- Arguments by place and by name. -/
structure Given where
  args : List Value := []
  named : List (String × Value) := []
  deriving Inhabited

/-- How functions are called. -/
@[nospecialize]
class Caller where
  call : Value → Given → Run Value

def tool {α : Type} (t : Tool α) : Run α := (t : StateT Running Tool α)

def system (c : Call) : Run c.Answer := tool (ask c)

/-! ### Things -/

def allocNumber (t : Thing) : Run Nat :=
  modifyGet fun s =>
    let n := s.heap.things.size
    (n, { s with heap := (s.heap.alloc t).1 })

def alloc (t : Thing) : Run Value := do return .thing (← allocNumber t)

def look (n : Nat) : Run Thing := do return ((← get).heap.get? n).getD (.cell .none)

def change (n : Nat) (f : Thing → Thing) : Run Unit := modify fun s => { s with heap := s.heap.change n f }

def newList (items : List Value) : Run Value := alloc (.list items.toArray)

def textValue (s : String) : Value := .text (glyphs s)

/-! ### Scopes -/

def namesIn (scope : Nat) : Run Names := do
  match ← look scope with
  | .scope names => return names
  | _ => return {}

def getIn? (scope : Nat) (name : String) : Run (Option Value) := do
  match (← get).heap.get? scope with
  | some (.scope names) => return names.get? name
  | _ => return none

def putIn (scope : Nat) (name : String) (v : Value) : Run Unit :=
  change scope fun
    | .scope names => .scope (names.put name v)
    | t => t

def eraseIn (scope : Nat) (name : String) : Run Unit :=
  change scope fun
    | .scope names => .scope (names.erase name)
    | t => t

/-! ### Exceptions -/

/-- Begins an exception's way. -/
def throwValue {α : Type} (e : Value) : Run α := do
  let s ← get
  match e, s.handling with
  | .thing n, context :: _ =>
    match context with
    | .thing m =>
      if n ≠ m then
        change n fun
          | .exception x => .exception { x with context }
          | t => t
    | _ => pure ()
  | _, _ => pure ()
  modify fun s => { s with noted := false }
  throw e

/-- An exception of a kind that scripts do not define. -/
def newException (kind : String) (args : List Value) : Run Value := alloc (.exception { kind := .kind kind, args })

def raiseWith {α : Type} (kind : String) (args : List Value) : Run α := do throwValue (← newException kind args)

def raise {α : Type} (kind message : String) : Run α := raiseWith kind [textValue message]

def raiseGlyphs {α : Type} (kind : String) (message : Glyphs) : Run α := raiseWith kind [.text message]

def typeError {α : Type} (message : String) : Run α := raise "TypeError" message

def valueError {α : Type} (message : String) : Run α := raise "ValueError" message

/-- The kind of exception for a fault of the system. -/
def faultKind : Nat → String
  | 1 | 13 => "PermissionError"
  | 2 => "FileNotFoundError"
  | 3 => "ProcessLookupError"
  | 4 => "InterruptedError"
  | 10 => "ChildProcessError"
  | 11 => "BlockingIOError"
  | 17 => "FileExistsError"
  | 20 => "NotADirectoryError"
  | 21 => "IsADirectoryError"
  | 32 => "BrokenPipeError"
  | 110 => "TimeoutError"
  | _ => "OSError"

/-- An exception for a fault of the system, which may be that of a file. -/
def raiseFault {α : Type} (fault : Fault) (files : List Value) : Run α := do
  match fault with
  | .system n =>
    let e ← newException (faultKind n) [.int n, textValue (Fault.systemText n)]
    match e with
    | .thing id =>
      change id fun
        | .exception x =>
          let attributes := (x.attributes.put "errno" (.int n)).put "strerror" (textValue (Fault.systemText n))
          let attributes := match files with
            | [] => attributes.put "filename" .none
            | [a] => attributes.put "filename" a
            | a :: b :: _ => (attributes.put "filename" a).put "filename2" b
          .exception { x with attributes }
        | t => t
    | _ => pure ()
    throwValue e
  | other => raise "ValueError" other.message

/-- The answer of the system, or an exception. -/
def answered {α : Type} (files : List Value) (answer : Except Fault α) : Run α :=
  match answer with
  | .ok a => return a
  | .error fault => raiseFault fault files

def exceptionOf? (v : Value) : Run (Option Raised) := do
  match v with
  | .thing n =>
    match ← look n with
    | .exception e => return some e
    | _ => return none
  | _ => return none

/-! ### Lines of libraries -/

/-- A line of a library, in one of its functions.  What is meant is a part of the text; the whole of it is not marked. -/
structure LibraryLine where
  file : String
  line : Nat
  name : String
  text : String := ""
  meant : String := ""

def LibraryLine.passage (l : LibraryLine) : Passage :=
  { file := l.file, name := l.name, span := ⟨l.line, 0, l.line, 0⟩, shown := if l.text.isEmpty then none else some (l.text, l.meant) }

/-- What a library does, on lines that an exception from within goes through. -/
def alongLibrary {α : Type} (lines : List LibraryLine) (act : Run α) : Run α :=
  tryCatch act fun e => do
    match e with
    | .thing n =>
      change n fun
        | .exception x => .exception { x with passages := lines.map LibraryLine.passage ++ x.passages }
        | t => t
    | _ => pure ()
    modify fun s => { s with noted := false }
    throw e

/-! ### Kinds -/

def Course.kindName (name : String) : Course → String
  | .together .. => "zip"
  | .numbered .. => "enumerate"
  | .mapped .. => "map"
  | .filtered .. => "filter"
  | _ => name

/-- The kind of a thing. -/
def Thing.kind : Thing → Value
  | .list _ => .kind "list"
  | .octets _ => .kind "bytearray"
  | .dict _ kind _ => .kind kind
  | .set _ true => .kind "frozenset"
  | .set _ false => .kind "set"
  | .scope _ => .kind "dict"
  | .function _ => .kind "function"
  | .class_ _ => .kind "type"
  | .instance_ kind _ _ => kind
  | .exception e => e.kind
  | .course c name => .kind (c.kindName name)
  | .generator _ => .kind "generator"
  | .channel c =>
    .kind (if c.isText then (if c.memory.isSome then "_io.StringIO" else "_io.TextIOWrapper")
      else if c.memory.isSome then "_io.BytesIO"
      else if c.isRaw then "_io.FileIO"
      else if c.canWrite then "_io.BufferedWriter" else "_io.BufferedReader")
  | .property .. => .kind "property"
  | .plainFunction _ => .kind "staticmethod"
  | .kindFunction _ => .kind "classmethod"
  | .record kind _ => .kind kind
  | .view what _ => .kind ("dict_" ++ what)
  | .cell _ => .kind "object"

def kindOf (v : Value) : Run Value := do
  match v with
  | .none => return .kind "NoneType"
  | .ellipsis => return .kind "ellipsis"
  | .notImplemented => return .kind "NotImplementedType"
  | .bool _ => return .kind "bool"
  | .int _ => return .kind "int"
  | .float _ => return .kind "float"
  | .text _ => return .kind "str"
  | .octets _ => return .kind "bytes"
  | .tuple _ => return .kind "tuple"
  | .range .. => return .kind "range"
  | .slice .. => return .kind "slice"
  | .native _ => return .kind "builtin_function_or_method"
  | .bound .. => return .kind "builtin_function_or_method"
  | .method .. => return .kind "method"
  | .kind _ => return .kind "type"
  | .library _ => return .kind "module"
  | .above .. => return .kind "super"
  | .thing n => return (← look n).kind

/-- The name of a kind. -/
def kindName (kind : Value) : Run String := do
  match kind with
  | .kind k => return shortName k
  | .thing n =>
    match ← look n with
    | .class_ c => return c.name
    | _ => return "object"
  | _ => return "object"

/-- The name of the kind of a value. -/
def kindNameOf (v : Value) : Run String := do kindName (← kindOf v)

/-- A kind with all that it comes from. -/
def lineOf (kind : Value) : Run (List Value) := do
  match kind with
  | .kind k => return (kindLine k).map Value.kind
  | .thing n =>
    match ← look n with
    | .class_ c => return c.line
    | _ => return []
  | _ => return []

def sameKind (a b : Value) : Bool :=
  match a, b with
  | .kind a, .kind b => a == b
  | .thing a, .thing b => a == b
  | _, _ => false

def isSubkind (kind base : Value) : Run Bool := do
  match kind, base with
  | .kind a, .kind b => return a == b || isKindOf a b
  | _, _ => return (← lineOf kind).any (sameKind base)

/-- Is a value of a kind? -/
def isOf (v base : Value) : Run Bool := do isSubkind (← kindOf v) base

/-- Is a value of a kind that scripts do not define? -/
def isOfKind (v : Value) (kind : String) : Run Bool := isOf v (.kind kind)

def isClass (v : Value) : Run Bool := do
  match v with
  | .kind _ => return true
  | .thing n => return ((← look n) matches .class_ _)
  | _ => return false

/-- The value that one of a script's kind is besides. -/
def coreOf (v : Value) : Run Value := do
  match v with
  | .thing n =>
    match ← look n with
    | .instance_ _ _ core => return if (core matches .none) then v else core
    | _ => return v
  | v => return v

/-! ### Given arguments -/

/-- The argument at a place or with a name. -/
def Given.get? (g : Given) (at_ : Nat) (name : String) : Option Value := (g.args[at_]?).or (g.named.lookup name)

def Given.getD (g : Given) (at_ : Nat) (name : String) (default : Value) : Value := (g.get? at_ name).getD default

def Given.first (g : Given) : Value := g.args.headD .none

/-- How a number of things is said. -/
def counted (n : Nat) (word : String) : String := n.repr ++ " " ++ word ++ (if n = 1 then "" else "s")

/-- Complains of the number of arguments of a function that takes so many, none of them by name. -/
def expectArgs (name : String) (least most : Nat) (g : Given) : Run Unit := do
  if !g.named.isEmpty then typeError (name ++ "() takes no keyword arguments")
  let n := g.args.length
  if n < least || n > most then
    if least = most then
      typeError (if least = 0 then name ++ "() takes no arguments (" ++ n.repr ++ " given)"
        else if least = 1 then name ++ "() takes exactly one argument (" ++ n.repr ++ " given)"
        else name ++ " expected " ++ counted least "argument" ++ ", got " ++ n.repr)
    else if n < least then typeError (name ++ " expected at least " ++ counted least "argument" ++ ", got " ++ n.repr)
    else typeError (name ++ " expected at most " ++ counted most "argument" ++ ", got " ++ n.repr)

/-- The one argument of a function. -/
def oneArg (name : String) (g : Given) : Run Value := do
  expectArgs name 1 1 g
  return g.first

end GrammarStudio.ObjectScript
