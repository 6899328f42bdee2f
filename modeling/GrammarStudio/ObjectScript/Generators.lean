import GrammarStudio.ObjectScript.Statements

/-!
# Functions that give values one by one

Such a function stops at each value that it gives, and goes on from there.  What is left of it is kept as a list: the
statements that come next, the loops, handlers and ends around them.

* `Expr.hoisted` — an expression whose values to be given are named before it;
* `stepWith` — one step of what is left;
* `resumeWith` — goes on up to the next value.
-/

namespace GrammarStudio.ObjectScript

open Machine Tools

/-! ### Values that are given within expressions -/

/-- What was given within an expression, under names, the latest first. -/
abbrev Hoisting := StateM (List (String × Expr))

/-- The names for what is sent to a function that gave a value. -/
def sentNames : List String := [".sent0", ".sent1", ".sent2", ".sent3", ".sent4", ".sent5", ".sent6", ".sent7"]

def hoist (e : Expr) (span : Span) : Hoisting Expr := do
  let known ← get
  let name := (sentNames[known.length % 8]?).getD ".sent0"
  set ((name, e) :: known)
  return .name name span

mutual

/-- An expression whose values to be given are named before it. -/
def Expr.hoisted : (fuel : Nat) → Expr → Hoisting Expr
  | 0, e => return e
  | fuel + 1, e => do
    if !e.yields nesting then return e
    let each (es : List Expr) : Hoisting (List Expr) := es.mapM (Expr.hoisted fuel)
    let maybe (e : Option Expr) : Hoisting (Option Expr) := e.mapM (Expr.hoisted fuel)
    match e with
    | .yield e s => do hoist (.yield (← maybe e) s) s
    | .yieldFrom e s => do hoist (.yieldFrom (← e.hoisted fuel) s) s
    | .formatted parts s => return .formatted (← parts.mapM (FormatPart.hoisted fuel)) s
    | .tuple es s => return .tuple (← each es) s
    | .list es s => return .list (← each es) s
    | .set es s => return .set (← each es) s
    | .dict items s => return .dict (← items.mapM fun (k, v) => do return (← maybe k, ← v.hoisted fuel)) s
    | .starred e s => return .starred (← e.hoisted fuel) s
    | .unary op e s => return .unary op (← e.hoisted fuel) s
    | .binary op a b s => return .binary op (← a.hoisted fuel) (← b.hoisted fuel) s
    | .compare a rest s =>
      let a ← a.hoisted fuel
      return .compare a (← rest.mapM fun (op, e) => do return (op, ← e.hoisted fuel)) s
    | .not e s => return .not (← e.hoisted fuel) s
    | .and a b s => return .and (← a.hoisted fuel) (← b.hoisted fuel) s
    | .or a b s => return .or (← a.hoisted fuel) (← b.hoisted fuel) s
    | .conditional a b c s => return .conditional (← a.hoisted fuel) (← b.hoisted fuel) (← c.hoisted fuel) s
    | .call f args s =>
      let f ← f.hoisted fuel
      let args ← args.mapM fun
        | .plain e => do return Argument.plain (← e.hoisted fuel)
        | .named n e => do return .named n (← e.hoisted fuel)
        | .spread e => do return .spread (← e.hoisted fuel)
        | .spreadNamed e => do return .spreadNamed (← e.hoisted fuel)
      return .call f args s
    | .attribute e n s => return .attribute (← e.hoisted fuel) n s
    | .subscript a b s => return .subscript (← a.hoisted fuel) (← b.hoisted fuel) s
    | .slice a b c s => return .slice (← maybe a) (← maybe b) (← maybe c) s
    | .assigned n e s => return .assigned n (← e.hoisted fuel) s
    | .constant .. | .name .. | .lambda .. | .comprehension .. => return e

def FormatPart.hoisted : (fuel : Nat) → FormatPart → Hoisting FormatPart
  | 0, p => return p
  | fuel + 1, p => do
    match p with
    | .text g => return .text g
    | .trouble m => return .trouble m
    | .field e shown conversion layout => return .field (← e.hoisted fuel) shown conversion (← layout.mapM (FormatPart.hoisted fuel))

end

/-- The statements that come before one whose expressions give values, and that one without them. -/
def hoistedFrom {α : Type} (a : Hoisting α) : List Stmt × α :=
  let (a, known) := a.run []
  (known.reverse.map fun (name, e) => .assign [.name name e.span] e, a)

def hoistedExpr (e : Expr) : List Stmt × Expr := hoistedFrom (e.hoisted nesting)

/-- A statement as several, of which only simple ones give values. -/
def Stmt.parted (s : Stmt) : List Stmt :=
  let expr (e : Expr) : Hoisting Expr := e.hoisted nesting
  let alone (r : List Stmt × Stmt) : List Stmt := r.1 ++ [r.2]
  match s with
  | .expr e => alone (hoistedFrom (Stmt.expr <$> expr e))
  | .assign ts e => alone (hoistedFrom do
    let e ← expr e
    return .assign (← ts.mapM expr) e)
  | .augmented t op e span => alone (hoistedFrom do return .augmented (← expr t) op (← expr e) span)
  | .annotated t e => alone (hoistedFrom do return .annotated t (← e.mapM expr))
  | .giveBack e => alone (hoistedFrom do return .giveBack (← e.mapM expr))
  | .raise e c span => alone (hoistedFrom do return .raise (← e.mapM expr) (← c.mapM expr) span)
  | .claim e m span => alone (hoistedFrom do return .claim (← expr e) (← m.mapM expr) span)
  | .delete ts => alone (hoistedFrom do return .delete (← ts.mapM expr))
  | .branch e yes no => alone (hoistedFrom do return .branch (← expr e) yes no)
  | .loop e body otherwise =>
    if e.yields nesting then
      let (before, e') := hoistedExpr e
      [.loop (.constant .true e.span) (before ++ [.branch e' body [.leave]]) otherwise]
    else [s]
  | .each t e body otherwise => alone (hoistedFrom do return .each t (← expr e) body otherwise)
  | .within ((e, t) :: items) body =>
    let body := if items.isEmpty then body else [.within items body]
    alone (hoistedFrom do return .within [(← expr e, t)] body)
  | .choose e arms => alone (hoistedFrom do return .choose (← expr e) arms)
  | s => [s]

/-! ### Steps -/

/-- What comes of a step: a value, or what is left and how it goes on. -/
inductive Step where
  | gives (v : Value) (rest : List Remaining)
  | goes (rest : List Remaining) (flow : Flow)

/-- The exceptions that are being dealt with in what is left. -/
def Remaining.dealtWith (rs : List Remaining) : List Value :=
  rs.filterMap fun
    | .handling e _ => some e
    | .resume (.raised e) => some e
    | _ => none

def pushHandling (e : Value) : Run Unit := modify fun s => { s with handling := e :: s.handling }

def popHandling : Run Unit := modify fun s => { s with handling := s.handling.drop 1 }

def forgetName (p : Site) (name : Option String) : Run Unit := do
  match name with
  | some n => eraseIn (← keeperOf p n) n
  | none => return

/-- The first handler that is for an exception. -/
def handlerFor? [Doer] (p : Site) (e : Value) : List Handler → Run (Option Handler)
  | [] => return none
  | .mk kind name body :: rest => do
    let fits ← match kind with
      | none => pure true
      | some k => whileHandling e (do fitsKind 10 e (← Doer.eval p k))
    if fits then return some (.mk kind name body) else handlerFor? p e rest

/-- The arm of a choice that a value has the shape of. -/
def armFor [Doer] (p : Site) (v : Value) : List Arm → Run (List Stmt)
  | [] => return []
  | .mk shape guard body :: rest => do
    match ← shape.fits? p nesting v with
    | none => armFor p v rest
    | some known =>
      for (name, w) in known do setName p name w
      let ok ← match guard with
        | some g => do truth (← Doer.eval p g)
        | none => pure true
      if ok then return body else armFor p v rest

/-- The first step of a statement that gives values. -/
def begin [Doer] (p : Site) (s : Stmt) (rest : List Remaining) : Run Step := do
  let simple (e : Option Expr) : Bool := !(e.any (Expr.yields nesting))
  let value (e : Option Expr) : Run Value := do
    match e with
    | some e => Doer.eval p e
    | none => return .none
  match s with
  | .expr (.yield e _) =>
    if simple e then return .gives (← value e) (.got "" :: rest)
    else return .goes (.block s.parted :: rest) .goesOn
  | .assign ts (.yield e span) =>
    if simple e && !(ts.any (Expr.yields nesting)) then
      let v ← value e
      match ts with
      | [.name n _] =>
        if sentNames.contains n then return .gives v (.got n :: rest)
        else return .gives v (.got ".sent" :: .block [.assign ts (.name ".sent" span)] :: rest)
      | ts => return .gives v (.got ".sent" :: .block [.assign ts (.name ".sent" span)] :: rest)
    else return .goes (.block s.parted :: rest) .goesOn
  | .expr (.yieldFrom e _) =>
    if simple (some e) then return .goes (.from_ (← iterate (← Doer.eval p e)) "" :: rest) .goesOn
    else return .goes (.block s.parted :: rest) .goesOn
  | .assign ts (.yieldFrom e span) =>
    if simple (some e) && !(ts.any (Expr.yields nesting)) then
      let course ← iterate (← Doer.eval p e)
      return .goes (.from_ course ".sent" :: .block [.assign ts (.name ".sent" span)] :: rest) .goesOn
    else return .goes (.block s.parted :: rest) .goesOn
  | .branch test yes no =>
    if simple (some test) then
      return .goes (.block (if ← truth (← Doer.eval p test) then yes else no) :: rest) .goesOn
    else return .goes (.block s.parted :: rest) .goesOn
  | .loop test body otherwise =>
    if simple (some test) then return .goes (.loop test body otherwise :: rest) .goesOn
    else return .goes (.block s.parted :: rest) .goesOn
  | .each target source body otherwise =>
    if simple (some source) then
      let v ← Doer.eval p source
      atSpan source.span
      return .goes (.each (← iterate v) target body otherwise :: rest) .goesOn
    else return .goes (.block s.parted :: rest) .goesOn
  | .attempt body handlers otherwise finally_ =>
    let around := if finally_.isEmpty then rest else .finally_ finally_ :: rest
    return .goes (.block body :: .attempt handlers otherwise :: around) .goesOn
  | .within [] body => return .goes (.block body :: rest) .goesOn
  | .within ((e, target) :: items) body =>
    if simple (some e) then
      let v ← Doer.eval p e
      atSpan e.span
      let (value, leave) ← entered v
      let inner := if items.isEmpty then .block body else .block [.within items body]
      let inner : List Remaining := match target with
        | some t => [.block [.assign [t] (.name ".sent" e.span)], inner]
        | none => [inner]
      putIn p.here ".sent" value
      return .goes (inner ++ .within leave e.span :: rest) .goesOn
    else return .goes (.block s.parted :: rest) .goesOn
  | .choose subject arms =>
    if simple (some subject) then
      let v ← Doer.eval p subject
      return .goes (.block (← armFor p v arms) :: rest) .goesOn
    else return .goes (.block s.parted :: rest) .goesOn
  | s => return .goes (.block s.parted :: rest) .goesOn

/-- Goes on with what another run gives. -/
def passOn [Doer] (p : Site) (course : Value) (name : String) (flow : Flow) (rest : List Remaining) : Run Step := do
  let top : Remaining := .from_ course name
  let finish (v : Value) : Run Step := do
    if name ≠ "" then putIn p.here name v
    return .goes rest .goesOn
  let generator : Option Nat ← match course with
    | .thing n =>
      match ← look n with
      | .generator _ => pure (some n)
      | _ => pure none
    | _ => pure none
  match generator with
  | some n =>
    let flow := match flow with
      | .goesOn => .givesBack .none
      | f => f
    match ← Resumer.resume n flow with
    | .inl v => return .gives v (top :: rest)
    | .inr v => finish v
  | none =>
    match flow with
    | .raised e => throw e
    | .givesBack v =>
      match v with
      | .none =>
        match ← next? course with
        | some v => return .gives v (top :: rest)
        | none => finish .none
      | v =>
        let f ← getMember course "send"
        return .gives (← Caller.call f { args := [v] }) (top :: rest)
    | _ =>
      match ← next? course with
      | some v => return .gives v (top :: rest)
      | none => finish .none

/-- One step of what is left of a function that gives values. -/
def stepWith [Doer] (p : Site) (top : Remaining) (rest : List Remaining) (flow : Flow) : Run Step := do
  match flow with
  | .goesOn =>
    match top with
    | .block [] => return .goes rest .goesOn
    | .block (s :: ss) =>
      let rest := if ss.isEmpty then rest else .block ss :: rest
      if s.yields nesting then begin p s rest
      else return .goes rest (← Doer.exec p s)
    | .loop test body otherwise =>
      if ← truth (← Doer.eval p test) then return .goes (.block body :: top :: rest) .goesOn
      else return .goes (.block otherwise :: rest) .goesOn
    | .each course target body otherwise =>
      match ← next? course with
      | some v =>
        assign p target v
        return .goes (.block body :: top :: rest) .goesOn
      | none => return .goes (.block otherwise :: rest) .goesOn
    | .attempt _ otherwise => return .goes (.block otherwise :: rest) .goesOn
    | .handling _ name =>
      popHandling
      forgetName p name
      return .goes rest .goesOn
    | .finally_ body => return .goes (.block body :: .resume .goesOn :: rest) .goesOn
    | .within leave span =>
      atSpan span
      let _ ← Caller.call leave { args := [.none, .none, .none] }
      return .goes rest .goesOn
    | .from_ course name => passOn p course name flow rest
    | .got _ => return .goes rest .goesOn
    | .resume f =>
      match f with
      | .raised _ => popHandling
      | _ => pure ()
      return .goes rest f
  | .raised e =>
    match top with
    | .attempt handlers _ =>
      match ← handlerFor? p e handlers with
      | some (.mk _ name body) =>
        match name with
        | some n => setName p n e
        | none => pure ()
        pushHandling e
        return .goes (.block body :: .handling e name :: rest) .goesOn
      | none => return .goes rest flow
    | .handling _ name =>
      popHandling
      forgetName p name
      return .goes rest flow
    | .finally_ body =>
      pushHandling e
      return .goes (.block body :: .resume flow :: rest) .goesOn
    | .within leave _ => return .goes rest (if ← whileHandling e (leftAfter leave e) then .goesOn else flow)
    | .resume (.raised _) =>
      popHandling
      return .goes rest flow
    | _ => return .goes rest flow
  | flow =>
    match top, flow with
    | .loop .., .leavesLoop | .each .., .leavesLoop => return .goes rest .goesOn
    | .loop .., .nextRound | .each .., .nextRound => return .goes (top :: rest) .goesOn
    | .handling _ name, _ =>
      popHandling
      forgetName p name
      return .goes rest flow
    | .finally_ body, _ => return .goes (.block body :: .resume flow :: rest) .goesOn
    | .within leave span, _ =>
      atSpan span
      let _ ← Caller.call leave { args := [.none, .none, .none] }
      return .goes rest flow
    | .resume (.raised _), _ =>
      popHandling
      return .goes rest flow
    | _, _ => return .goes rest flow

/-- Goes on up to the next value, or to the end. -/
def runOn [Doer] (p : Site) : (rounds : Nat) → List Remaining → Flow → Run (Value × List Remaining ⊕ Value)
  | 0, _, _ => return .inr .none
  | rounds + 1, rs, flow => do
    ObjectScript.rest rounds
    match rs with
    | [] =>
      match flow with
      | .raised e => rethrow e
      | .givesBack v => return .inr v
      | _ => return .inr .none
    | top :: rest =>
      match ← caught (stepWith p top rest flow) with
      | .ok (.gives v rs) => return .inl (v, rs)
      | .ok (.goes rs flow) => runOn p rounds rs flow
      | .error e =>
        let rest := match top with
          | .block (_ :: s :: ss) => .block (s :: ss) :: rest
          | _ => rest
        runOn p rounds rest (.raised e)

/-- Goes on with a function that gives values. -/
def resumeWith [Doer] (n : Nat) (flow : Flow) : Run (Value ⊕ Value) := do
  match ← look n with
  | .generator g =>
    if g.isRunning then valueError "generator already executing"
    if g.isOver then
      match flow with
      | .raised e => throwValue e
      | _ => return .inr .none
    match g.hasBegun, flow with
    | false, .givesBack .none | true, _ | false, .raised _ => pure ()
    | _, _ => typeError "can't send non-None value to a just-started generator"
    let keep (f : Generator → Generator) : Run Unit :=
      change n fun
        | .generator g => .generator (f g)
        | t => t
    keep fun g => { g with isRunning := true, hasBegun := true }
    let f := g.function
    let p : Site :=
      { here := g.scopes.headD 0, around := f.around, own := some (f.own ++ ".sent" :: sentNames), shared := f.shared
        within := f.qualified ++ ".<locals>." }
    let before := (← get).handling
    let restore : Run Unit := do modify fun s => { s with handling := before }
    let (rs, start) : List Remaining × Flow ← match g.remaining, flow, g.hasBegun with
      | rs, .raised e, false => do
        let _ := rs
        pure ([], .raised e)
      | .got name :: rs, .givesBack v, _ => do
        if name ≠ "" then putIn p.here name v
        pure (rs, .goesOn)
      | .from_ c name :: rs, flow, _ => do
        let _ := c
        pure (.from_ c name :: rs, flow)
      | rs, .raised e, true => pure (rs, .raised e)
      | rs, _, _ => pure (rs, .goesOn)
    modify fun s => { s with handling := Remaining.dealtWith rs ++ before }
    let act : Run (Value × List Remaining ⊕ Value) := inFrame g.name f.file do
      match rs, start with
      | .from_ c name :: rs, flow =>
        match ← caught (passOn p c name flow rs) with
        | .ok (.gives v rs) => return .inl (v, rs)
        | .ok (.goes rs flow) => runOn p endless rs flow
        | .error e => runOn p endless rs (.raised e)
      | rs, .raised e =>
        notePassage e
        runOn p endless rs start
      | rs, flow => runOn p endless rs flow
    let r ← tryCatch (Except.ok <$> act) fun e => return .error e
    restore
    match r with
    | .ok (.inl (v, rs)) =>
      keep fun g => { g with isRunning := false, remaining := rs }
      return .inl v
    | .ok (.inr v) =>
      keep fun g => { g with isRunning := false, isOver := true, remaining := [] }
      return .inr v
    | .error e =>
      keep fun g => { g with isRunning := false, isOver := true, remaining := [] }
      if ← isOfKind e "StopIteration" then
        let x ← newException "RuntimeError" [textValue "generator raised StopIteration"]
        match x with
        | .thing m =>
          change m fun
            | .exception r => .exception { r with cause := e, context := e, hidesContext := true }
            | t => t
        | _ => pure ()
        throw x
      else throw e
  | _ => return .inr .none

end GrammarStudio.ObjectScript
