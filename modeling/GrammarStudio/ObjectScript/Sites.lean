import GrammarStudio.ObjectScript.Construct

/-!
# Where code stands

* `Site` — the scopes in which code finds its names and keeps them;
* `getName`, `setName`, `deleteName` — the names of a site;
* `inFrame` — what a function does, as one more function that is being run;
* `notePassage` — the lines that an exception goes through;
* `Doer` — what finds the values of expressions and carries out statements.
-/

namespace GrammarStudio.ObjectScript

open Machine Tools

/-- Where code stands. -/
structure Site where
  /-- The scope in which names are kept. -/
  here : Nat
  /-- The scopes of the functions around, innermost first, and that of the script. -/
  around : List Nat := []
  /-- The names of the function; where there is no function all names are kept here. -/
  own : Option (List String) := none
  /-- The names that are said to be those of the script. -/
  shared : List String := []
  /-- Where a comprehension keeps what is named in it. -/
  keeper : Option Nat := none
  /-- What stands before the names of functions that are defined here. -/
  within : String := ""
  isClass : Bool := false

/-- The scopes around a function that is defined here. -/
def Site.inner (p : Site) : List Nat := if p.isClass then p.around else p.here :: p.around

/-- The scope of the script. -/
def Site.script (p : Site) : Nat := p.around.getLast?.getD p.here

/-- What finds the values of expressions and carries out statements. -/
@[nospecialize]
class Doer extends Caller, Resumer where
  eval : Site → Expr → Run Value
  exec : Site → Stmt → Run Flow

/-! ### Names -/

/-- What the first scope that knows a name says of it. -/
def lookupIn (name : String) : List Nat → Run (Option Value)
  | [] => return none
  | scope :: rest => do
    match ← getIn? scope name with
    | some v => return some v
    | none => lookupIn name rest

/-- The exception that a name has no value. -/
def raiseNameError {α : Type} (kind name message : String) : Run α := do
  let e ← newException kind [textValue message]
  match e with
  | .thing n => change n (Thing.withNames (·.put "name" (textValue name)))
  | _ => pure ()
  throwValue e

def raiseUnbound {α : Type} (name : String) : Run α :=
  raiseNameError "UnboundLocalError" name ("cannot access local variable '" ++ name ++ "' where it is not associated with a value")

def raiseUnknown {α : Type} (name : String) : Run α := raiseNameError "NameError" name ("name '" ++ name ++ "' is not defined")

/-- What a name means everywhere. -/
def commonName? (name : String) : Run (Option Value) := do
  match ← libraryScope? "builtins" with
  | some scope => getIn? scope name
  | none => return none

def isOwn (p : Site) (name : String) : Bool :=
  match p.own with
  | some own => own.contains name
  | none => !p.shared.contains name

def getName (p : Site) (name : String) : Run Value := do
  let scopes := if p.shared.contains name then [p.script] else match p.own with
    | some _ => p.around
    | none => p.here :: p.around
  if p.own.isSome && isOwn p name then
    match ← getIn? p.here name with
    | some v => return v
    | none => raiseUnbound name
  else
    match ← lookupIn name scopes with
    | some v => return v
    | none =>
      match ← commonName? name with
      | some v => return v
      | none => raiseUnknown name

/-- The scope in which a name is kept that is not the function's own. -/
def ownerOf (name : String) : List Nat → Run (Option Nat)
  | [] => return none
  | scope :: rest => do
    match ← getIn? scope name with
    | some _ => return some scope
    | none => ownerOf name rest

/-- The scope in which a name is kept. -/
def keeperOf (p : Site) (name : String) : Run Nat := do
  if isOwn p name then return p.here
  else if p.shared.contains name then return p.script
  else return (← ownerOf name p.around).getD (p.around.headD p.here)

def setName (p : Site) (name : String) (v : Value) : Run Unit := do putIn (← keeperOf p name) name v

def deleteName (p : Site) (name : String) : Run Unit := do
  let scope ← keeperOf p name
  match ← getIn? scope name with
  | some _ => eraseIn scope name
  | none => if p.own.isSome && isOwn p name then raiseUnbound name else raiseUnknown name

/-! ### Functions that are being run -/

/-- Something happens at a place. -/
def atSpan (span : Span) : Run Unit := modify fun s => { s with span }

/-- Tells an exception of the line that it goes through. -/
def notePassage (e : Value) : Run Unit := do
  let s ← get
  if !s.noted then
    let passage : Passage := { file := s.file, name := s.name, span := s.span }
    match e with
    | .thing n =>
      change n fun
        | .exception x => .exception { x with passages := passage :: x.passages }
        | t => t
    | _ => pure ()
    modify fun s => { s with noted := true }

/-- Goes on with an exception that was stopped on its way. -/
def rethrow {α : Type} (e : Value) : Run α := do
  modify fun s => { s with noted := true }
  throw e

/-- What a function does, as one more function that is being run. -/
def inFrame {α : Type} (name file : String) (body : Run α) : Run α := do
  let s ← get
  if s.depth ≥ s.limit then raise "RecursionError" "maximum recursion depth exceeded"
  let outer : Activation := { name := s.name, file := s.file, span := s.span }
  modify fun s => { s with stack := outer :: s.stack, depth := s.depth + 1, name, file, noted := false }
  if s.depth % 16 = 0 then system .pause
  let back : Run Unit :=
    modify fun s =>
      { s with stack := s.stack.drop 1, depth := s.depth - 1, name := outer.name, file := outer.file, span := outer.span, noted := false }
  let v ← tryCatch body fun e => do
    notePassage e
    back
    throw e
  back
  return v

/-! ### Signals -/

/-- Calls what a script wants called for the signals that came. -/
def answerSignals [Caller] (signals : List Nat) : Run Unit := do
  for n in signals do
    match (← get).responses.lookup n with
    | some f =>
      match f with
      | .native "signal.default_int_handler" => raiseWith "KeyboardInterrupt" []
      | .int _ | .none => pure ()
      | f =>
        let _ ← Caller.call f { args := [.ofNat n, .none] }
    | none => pure ()

/-- Deals with the signals that came. -/
def pollSignals [Caller] : Run Unit := do answerSignals (← system .caught)

/-- Lets others go on, now and then, and deals with the signals that came. -/
def rest [Caller] (n : Nat) : Run Unit := do
  if n % 64 = 0 then
    system .pause
    pollSignals

end GrammarStudio.ObjectScript
