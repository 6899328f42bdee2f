import GrammarStudio.ObjectScript.Calls
import GrammarStudio.ObjectScript.Expressions

/-!
# What statements do

* `Shape.fits?` — the values that a shape gives names to, when a value has that shape;
* `execWith` — a statement, when those within it can be carried out;
* `attempted`, `handled` — exceptions that are dealt with;
* `within` — what is entered before, and left behind;
* `defined`, `definedClass` — functions and kinds.
-/

namespace GrammarStudio.ObjectScript

open Machine Tools

/-! ### The shapes that values have -/

/-- The items of a value that counts as a sequence. -/
def sequenceItems? [Doer] (v : Value) : Run (Option (List Value)) := do
  match ← coreOf v with
  | .tuple items => return some items
  | .range .. => return some (← collect v)
  | .thing n =>
    match ← look n with
    | .list items => return some items.toList
    | .record "collections.deque" names => return some (← dequeItems names).toList
    | _ => return none
  | _ => return none

/-- The kinds whose one part by place is the value itself. -/
def wholeKinds : List String := ["bool", "bytearray", "bytes", "dict", "float", "frozenset", "int", "list", "set", "str", "tuple"]

/-- The values that a shape gives names to, when a value has that shape. -/
def Shape.fits? [Doer] (p : Site) : (fuel : Nat) → Shape → Value → Run (Option (List (String × Value)))
  | 0, _, _ => return none
  | fuel + 1, shape, v => do
    let all (parts : List (Shape × Value)) : Run (Option (List (String × Value))) :=
      parts.foldlM (fun (known : Option (List (String × Value))) (s, v) => do
        match known with
        | none => return none
        | some known => return (← s.fits? p fuel v).map (known ++ ·)) (some [])
    match shape with
    | .value e =>
      let w ← Doer.eval p e
      match w with
      | .none | .bool _ => return if same v w then some [] else none
      | w => return if ← equal v w then some [] else none
    | .capture name => return some (name.toList.map fun n => (n, v))
    | .star name => return some (name.toList.map fun n => (n, v))
    | .named s name => return (← s.fits? p fuel v).map (· ++ [(name, v)])
    | .either shapes =>
      shapes.foldlM (fun (found : Option (List (String × Value))) s => do
        match found with
        | some _ => return found
        | none => s.fits? p fuel v) none
    | .sequence shapes =>
      match ← sequenceItems? v with
      | none => return none
      | some items =>
        let starAt := shapes.findIdx? fun
          | .star _ => true
          | _ => false
        match starAt with
        | none => if items.length = shapes.length then all (shapes.zip items) else return none
        | some i =>
          let behind := shapes.length - i - 1
          if items.length + 1 < shapes.length then return none
          else
            let middle ← newList ((items.drop i).take (items.length - i - behind))
            all (shapes.zip (items.take i ++ middle :: items.drop (items.length - behind)))
    | .mapping items restName =>
      match ← coreOf v with
      | .thing n =>
        match ← look n with
        | .dict d _ _ =>
          let (parts, left, ok) ← items.foldlM (fun ((parts, left, ok) : List (Shape × Value) × Dict × Bool) (e, s) => do
            if !ok then return (parts, left, ok)
            let k ← keyOf (← Doer.eval p e)
            match d.get? k with
            | some (_, w) => return (parts ++ [(s, w)], left.erase k, true)
            | none => return (parts, left, false)) ([], d, true)
          if !ok then return none
          match ← all parts with
          | none => return none
          | some known =>
            match restName with
            | some name => return some (known ++ [(name, ← alloc (.dict left "dict" .none))])
            | none => return some known
        | _ => return none
      | _ => return none
    | .instance_ e shapes others =>
      let kind ← Doer.eval p e
      if !(← isClass kind) then typeError "called match pattern must be a type"
      if !(← isOf v kind) then return none
      let placed ← match kind, shapes with
        | _, [] => pure (some [])
        | .kind k, [s] =>
          if wholeKinds.contains k then pure (some [(s, v)]) else typeError (shortName k ++ "() accepts 0 positional sub-patterns (1 given)")
        | kind, shapes =>
          match ← member? kind "__match_args__" with
          | some names =>
            let names ← collect names
            if names.length < shapes.length then
              typeError ((← kindName kind) ++ "() accepts " ++ counted names.length "positional sub-pattern" ++ " (" ++ shapes.length.repr ++ " given)")
            let parts ← (names.zip shapes).mapM fun (name, s) => do
              match name with
              | .text g => return (← member? v (Glyphs.toString g)).map fun w => (s, w)
              | _ => return none
            pure (parts.mapM id)
          | none => typeError ((← kindName kind) ++ "() accepts 0 positional sub-patterns (" ++ shapes.length.repr ++ " given)")
      let byName ← others.mapM fun (name, s) => do return (← member? v name).map fun w => (s, w)
      match placed, byName.mapM id with
      | some a, some b => all (a ++ b)
      | _, _ => return none

/-! ### One statement after the other -/

/-- Carries out statements until one does not go on. -/
def execAll [Doer] (p : Site) : List Stmt → Run Flow
  | [] => return .goesOn
  | s :: rest => do
    match ← Doer.exec p s with
    | .goesOn => execAll p rest
    | f => return f

/-! ### Exceptions -/

/-- What is done, with the exception that it may end in. -/
def caught {α : Type} (act : Run α) : Run (Except Value α) :=
  tryCatch (Except.ok <$> act) fun e => do
    notePassage e
    return .error e

/-- Something is done while an exception is dealt with. -/
def whileHandling {α : Type} (e : Value) (act : Run α) : Run α := do
  modify fun s => { s with handling := e :: s.handling }
  let done : Run Unit := modify fun s => { s with handling := s.handling.drop 1 }
  let v ← tryCatch act fun x => do
    done
    throw x
  done
  return v

/-- Is an exception of a kind, or of one of several? -/
def fitsKind : (fuel : Nat) → (e kind : Value) → Run Bool
  | 0, _, _ => return false
  | fuel + 1, e, kind => do
    match kind with
    | .tuple kinds => kinds.anyM (fitsKind fuel e)
    | kind =>
      if (← isClass kind) && (← isSubkind kind (.kind "BaseException")) then isOf e kind
      else typeError "catching classes that do not inherit from BaseException is not allowed"

/-- Finds the handler of an exception, and does what it says. -/
def handled [Doer] (p : Site) (e : Value) : List Handler → Run Flow
  | [] => rethrow e
  | .mk kind name body :: rest => do
    let fits ← match kind with
      | none => pure true
      | some k =>
        whileHandling e do
          let kind ← Doer.eval p k
          fitsKind 10 e kind
    if fits then
      match name with
      | some name => setName p name e
      | none => pure ()
      let r ← caught (whileHandling e (execAll p body))
      match name with
      | some name =>
        let scope ← keeperOf p name
        eraseIn scope name
      | none => pure ()
      match r with
      | .ok f => return f
      | .error x => rethrow x
    else handled p e rest

/-- What is done at the end, however it ends. -/
def atTheEnd [Doer] (p : Site) (body : List Stmt) (r : Except Value Flow) : Run Flow := do
  match r with
  | .ok f =>
    match ← execAll p body with
    | .goesOn => return f
    | g => return g
  | .error e =>
    match ← whileHandling e (execAll p body) with
    | .goesOn => rethrow e
    | g => return g

def attempted [Doer] (p : Site) (body : List Stmt) (handlers : List Handler) (otherwise finally_ : List Stmt) : Run Flow := do
  let act : Run Flow := do
    match ← caught (execAll p body) with
    | .ok .goesOn => execAll p otherwise
    | .ok f => return f
    | .error e => handled p e handlers
  if finally_.isEmpty then act else atTheEnd p finally_ (← caught act)

/-- The exception that a raised value is. -/
def raisedFrom [Caller] (v : Value) : Run Value := do
  if ← isClass v then
    if ← isSubkind v (.kind "BaseException") then
      let e ← Caller.call v {}
      if (← exceptionOf? e).isSome then return e
      else typeError ("calling " ++ Glyphs.toString (← shown v) ++ " should have returned an instance of BaseException, not " ++ (← kindNameOf e))
    else typeError "exceptions must derive from BaseException"
  else if (← exceptionOf? v).isSome then return v
  else typeError "exceptions must derive from BaseException"

def raised [Doer] (p : Site) (e cause : Option Expr) (span : Span) : Run Flow := do
  match e with
  | none =>
    atSpan span
    match (← get).handling with
    | x :: _ => rethrow x
    | [] => raise "RuntimeError" "No active exception to reraise"
  | some e =>
    let v ← Doer.eval p e
    let why ← match cause with
      | some c => some <$> Doer.eval p c
      | none => pure none
    atSpan span
    let x ← raisedFrom v
    match why with
    | none => pure ()
    | some .none =>
      match x with
      | .thing n =>
        change n fun
          | .exception r => .exception { r with cause := .none, hidesContext := true }
          | t => t
      | _ => pure ()
    | some c =>
      let c ← (do
        if ← isClass c then Caller.call c {} else return c : Run Value)
      if (← exceptionOf? c).isNone then typeError "exception causes must derive from BaseException"
      match x with
      | .thing n =>
        change n fun
          | .exception r => .exception { r with cause := c, hidesContext := true }
          | t => t
      | _ => pure ()
    throwValue x

/-! ### What is entered and left -/

/-- The method of a value that its kind has, or has in any case. -/
def specialMethod? [Caller] (v : Value) (name : String) : Run (Option Value) := do
  match ← ownMethod? v name with
  | some f => return some f
  | none => if ← isScripted v then (match ← coreOf v with
    | .thing n => if same v (.thing n) then return none else member? (.thing n) name
    | _ => return none) else member? v name

/-- Enters a value; gives what leaves it. -/
def entered [Caller] (v : Value) : Run (Value × Value) := do
  let name ← kindNameOf v
  match ← specialMethod? v "__enter__" with
  | none => typeError ("'" ++ name ++ "' object does not support the context manager protocol")
  | some enter =>
    match ← specialMethod? v "__exit__" with
    | none => typeError ("'" ++ name ++ "' object does not support the context manager protocol (missed __exit__ method)")
    | some leave => return (← Caller.call enter {}, leave)

/-- Leaves a value after an exception; tells whether it is dealt with. -/
def leftAfter [Caller] (leave e : Value) : Run Bool := do
  let trace ← getMember e "__traceback__"
  truth (← Caller.call leave { args := [← kindOf e, e, trace] })

def within [Doer] (p : Site) (body : List Stmt) : List (Expr × Option Expr) → Run Flow
  | [] => execAll p body
  | (e, target) :: rest => do
    let v ← Doer.eval p e
    atSpan e.span
    let (value, leave) ← entered v
    let act : Run Flow := do
      match target with
      | some t => assign p t value
      | none => pure ()
      within p body rest
    match ← caught act with
    | .ok f =>
      atSpan e.span
      let _ ← Caller.call leave { args := [.none, .none, .none] }
      return f
    | .error x =>
      if ← whileHandling x (leftAfter leave x) then return .goesOn else rethrow x

/-! ### Loops -/

/-- A loop that goes on while a test holds.  Nothing is given when the test fails at the end. -/
def loopWhile [Doer] (p : Site) (test : Expr) (body : List Stmt) : (rounds : Nat) → Run (Option Flow)
  | 0 => return none
  | rounds + 1 => do
    rest rounds
    if ← truth (← Doer.eval p test) then
      match ← execAll p body with
      | .goesOn | .nextRound => loopWhile p test body rounds
      | f => return some f
    else return none

/-- A loop through values. -/
def loopEach [Doer] (p : Site) (course : Value) (target : Expr) (body : List Stmt) (span : Span) : (rounds : Nat) → Run (Option Flow)
  | 0 => return none
  | rounds + 1 => do
    rest rounds
    atSpan span
    match ← next? course with
    | none => return none
    | some v =>
      assign p target v
      match ← execAll p body with
      | .goesOn | .nextRound => loopEach p course target body span rounds
      | f => return some f

/-- What comes of a loop. -/
def afterLoop [Doer] (p : Site) (otherwise : List Stmt) (r : Option Flow) : Run Flow := do
  match r with
  | none => execAll p otherwise
  | some .leavesLoop => return .goesOn
  | some f => return f

/-! ### Functions and kinds -/

/-- What a body says about itself in its first statement. -/
def docOf (body : List Stmt) : Value :=
  match body with
  | .expr (.constant (.text g) _) :: _ => .text g
  | _ => .none

/-- What decorators make of a value, the last one first. -/
def adorned [Doer] (decorators : List (Value × Span)) (v : Value) : Run Value :=
  decorators.reverse.foldlM (fun v (d, span) => do
    atSpan span
    Caller.call d { args := [v] }) v

def defined [Doer] (p : Site) (name : String) (parameters : List Parameter) (body : List Stmt) (decorators : List Expr) : Run Unit := do
  let decorators ← decorators.mapM fun d => do return (← Doer.eval p d, d.span)
  let formals ← formalsOf p parameters
  let shared := body.flatMap (Stmt.declared true nesting)
  let outer := body.flatMap (Stmt.declared false nesting)
  let assigned := body.flatMap (Stmt.assigned nesting)
  let own := parameters.map Parameter.name ++ (assigned.filter fun n => !shared.contains n && !outer.contains n).eraseDups
  let f ← alloc (.function
    { name, qualified := p.within ++ name, formals, body, file := (← get).file, around := p.inner, own, shared
      yields := body.any (Stmt.yields nesting), doc := docOf body })
  setName p name (← adorned decorators f)

/-- The words in the head of a kind that say which kind of kinds it is. -/
def kindOfKinds (given : Given) : List Value :=
  match given.named.lookup "metaclass" with
  | some (.kind "abc.ABCMeta") => [.kind "abc.ABC"]
  | _ => []

def definedClass [Doer] (p : Site) (name : String) (args : List Argument) (body : List Stmt) (decorators : List Expr) (span : Span) :
    Run Unit := do
  let decorators ← decorators.mapM fun d => do return (← Doer.eval p d, d.span)
  let given ← givenFor p .none args span
  let qualified := p.within ++ name
  let cell ← allocNumber (.scope {})
  let library := (← getIn? p.script "__name__").getD (textValue "builtins")
  let here ← allocNumber (.scope (Ordered.ofList (("__module__", library) :: (match docOf body with
    | .none => []
    | d => [("__doc__", d)]))))
  let site : Site :=
    { here, around := cell :: p.inner, shared := body.flatMap (Stmt.declared true nesting), within := qualified ++ ".", isClass := true }
  inFrame name (← get).file do
    let _ ← execAll site body
  atSpan span
  let kind ← makeClass name qualified (given.args ++ kindOfKinds given) (← namesIn here)
  putIn cell "__class__" kind
  setName p name (← adorned decorators kind)

/-! ### Libraries -/

/-- A name that a library gives. -/
def importName [Doer] (load : String → Run Value) (path : String) (library : Value) (name : String) : Run Value := do
  match ← member? library name with
  | some v => return v
  | none =>
    let inner := path ++ "." ++ name
    match ← tryCatch (some <$> load inner) (fun e => do
      if ← isOfKind e "ModuleNotFoundError" then return none else throw e) with
    | some v => return v
    | none =>
      let place ← match ← member? library "__file__" with
        | some (.text g) => pure (Glyphs.toString g)
        | _ => pure "unknown location"
      let e ← newException "ImportError" [textValue ("cannot import name '" ++ name ++ "' from '" ++ path ++ "' (" ++ place ++ ")")]
      match e with
      | .thing n => change n (Thing.withNames fun names => (names.put "name" (textValue path)).put "name_from" (textValue name))
      | _ => pure ()
      throwValue e

/-- All names of a library that are for others. -/
def namesForOthers [Doer] (library : Value) : Run (List String) := do
  match ← member? library "__all__" with
  | some v =>
    (← collect v).filterMapM fun
      | .text g => return some (Glyphs.toString g)
      | _ => return none
  | none =>
    match library with
    | .library l =>
      match ← libraryScope? l with
      | some scope => return (← namesIn scope).keys.filter fun n => n.toList.head? ≠ some '_'
      | none => return []
    | _ => return []

/-- A dotted path as one text. -/
def dottedPath (path : List String) : String := String.intercalate "." path

/-! ### Statements -/

/-- Carries out a statement. -/
def execWith [Doer] (load : String → Run Value) (p : Site) (s : Stmt) : Run Flow := do
  match s with
  | .expr e =>
    let _ ← Doer.eval p e
    return .goesOn
  | .assign targets e =>
    let v ← Doer.eval p e
    targets.forM fun t => assign p t v
    return .goesOn
  | .augmented target op e span =>
    match target with
    | .name name nameSpan =>
      atSpan nameSpan
      let old ← getName p name
      let v ← Doer.eval p e
      atSpan span
      setName p name (← augmented op old v)
    | .attribute owner name _ =>
      let owner ← Doer.eval p owner
      atSpan span
      let old ← getMember owner name
      let v ← Doer.eval p e
      atSpan span
      setMember owner name (← augmented op old v)
    | .subscript owner index _ =>
      let owner ← Doer.eval p owner
      let index ← Doer.eval p index
      atSpan span
      let old ← getItem owner index
      let v ← Doer.eval p e
      atSpan span
      setItem owner index (← augmented op old v)
    | _ => pure ()
    return .goesOn
  | .annotated target value =>
    match value with
    | some e => assign p target (← Doer.eval p e)
    | none => pure ()
    match target, p.isClass with
    | .name name _, true =>
      let n ← match ← getIn? p.here "__annotations__" with
        | some (.thing n) => pure n
        | _ =>
          let n ← allocNumber (.dict {} "dict" .none)
          putIn p.here "__annotations__" (.thing n)
          pure n
      putItems n [(textValue name, .none)]
    | _, _ => pure ()
    return .goesOn
  | .delete targets =>
    targets.forM (deleteOn p nesting)
    return .goesOn
  | .pass | .shared _ | .outer _ => return .goesOn
  | .leave => return .leavesLoop
  | .nextRound => return .nextRound
  | .giveBack e =>
    match e with
    | some e => return .givesBack (← Doer.eval p e)
    | none => return .givesBack .none
  | .raise e cause span => raised p e cause span
  | .load modules =>
    for m in modules do
      atSpan m.span
      let leaf ← load (dottedPath m.path)
      match m.name, m.path with
      | some name, _ => setName p name leaf
      | none, [one] => setName p one leaf
      | none, first :: _ => setName p first (← load first)
      | none, [] => pure ()
    return .goesOn
  | .loadFrom path names span =>
    atSpan span
    if path.head? == some "." then raise "ImportError" "attempted relative import with no known parent package"
    let whole := dottedPath path
    if whole == "__future__" then return .goesOn
    let library ← load whole
    match names with
    | [("*", _)] =>
      for name in ← namesForOthers library do setName p name (← importName load whole library name)
    | names =>
      for (name, other) in names do setName p (other.getD name) (← importName load whole library name)
    return .goesOn
  | .claim test message span =>
    if ← truth (← Doer.eval p test) then return .goesOn
    else
      let args ← match message with
        | some e => do pure [← Doer.eval p e]
        | none => pure []
      atSpan span
      raiseWith "AssertionError" args
  | .branch test yes no => if ← truth (← Doer.eval p test) then execAll p yes else execAll p no
  | .loop test body otherwise => do afterLoop p otherwise (← loopWhile p test body endless)
  | .each target source body otherwise =>
    let v ← Doer.eval p source
    atSpan source.span
    let course ← iterate v
    afterLoop p otherwise (← loopEach p course target body source.span endless)
  | .attempt body handlers otherwise finally_ => attempted p body handlers otherwise finally_
  | .within items body => within p body items
  | .define name parameters body decorators span =>
    atSpan span
    defined p name parameters body decorators
    return .goesOn
  | .class_ name args body decorators span =>
    atSpan span
    definedClass p name args body decorators span
    return .goesOn
  | .choose subject arms =>
    let v ← Doer.eval p subject
    let rec choose : List Arm → Run Flow
      | [] => return .goesOn
      | .mk shape guard body :: rest => do
        match ← shape.fits? p nesting v with
        | none => choose rest
        | some known =>
          for (name, w) in known do setName p name w
          let ok ← match guard with
            | some g => do truth (← Doer.eval p g)
            | none => pure true
          if ok then execAll p body else choose rest
    choose arms

end GrammarStudio.ObjectScript
