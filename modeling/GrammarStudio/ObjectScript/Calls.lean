import GrammarStudio.ObjectScript.Expressions

/-!
# Calling functions that scripts define

* `bindArguments` — the values of a function's parameters for a call, or what is wrong with the call;
* `runFunction` — what a function gives back.
-/

namespace GrammarStudio.ObjectScript

open Machine Tools

/-- Words with commas and a last `and` between them. -/
def listed (words : List String) : String :=
  match words with
  | [] => ""
  | [a] => a
  | [a, b] => a ++ " and " ++ b
  | words => String.intercalate ", " words.dropLast ++ ", and " ++ words.getLast?.getD ""

/-- Complains of parameters that got no value. -/
def lacking {α : Type} (f : Function) (what : String) (names : List String) : Run α :=
  typeError (f.qualified ++ "() missing " ++ counted names.length ("required " ++ what ++ " argument") ++ ": " ++
    listed (names.map fun n => "'" ++ n ++ "'"))

/-- Complains of too many arguments. -/
def tooManyGiven {α : Type} (f : Function) (places : List Formal) (given : Given) : Run α := do
  let most := places.length
  let least := most - (places.filter fun p => p.default.isSome).length
  let takes := if least < most then "from " ++ least.repr ++ " to " ++ most.repr else most.repr
  let onlyNamed := (f.formals.filter fun p => (p.kind matches .nameOnly) && (given.named.lookup p.name).isSome).length
  let isPlural := if least < most then true else most ≠ 1
  let count := given.args.length
  let extra :=
    if onlyNamed > 0 then " positional argument" ++ (if count ≠ 1 then "s" else "") ++ " (and " ++ counted onlyNamed "keyword-only argument" ++ ")"
    else ""
  typeError (f.qualified ++ "() takes " ++ takes ++ " positional argument" ++ (if isPlural then "s" else "") ++ " but " ++ count.repr ++ extra ++
    (if count = 1 && onlyNamed = 0 then " was" else " were") ++ " given")

/-- The values of a function's parameters for a call. -/
def bindArguments [Caller] (f : Function) (given : Given) : Run (List (String × Value)) := do
  let places := f.formals.filter fun p => match p.kind with
    | .usual | .positionOnly => true
    | _ => false
  let restName := (f.formals.find? fun p => p.kind matches .rest).map Formal.name
  let namedRest := (f.formals.find? fun p => p.kind matches .namedRest).map Formal.name
  let placed := (places.zip given.args).map fun (p, v) => (p.name, v)
  let canBeNamed := f.formals.filter fun p => match p.kind with
    | .usual | .nameOnly => true
    | _ => false
  -- arguments by name
  let (named, others) := given.named.partition fun (name, _) => canBeNamed.any fun p => p.name == name
  if namedRest.isNone then
    match others with
    | (name, _) :: _ =>
      let wrong := others.filter fun (n, _) => places.any fun p => p.name == n
      if wrong.isEmpty then typeError (f.qualified ++ "() got an unexpected keyword argument '" ++ name ++ "'")
      else
        typeError (f.qualified ++ "() got some positional-only arguments passed as keyword arguments: '" ++
          String.intercalate ", " (wrong.map Prod.fst) ++ "'")
    | [] => pure ()
  match named.find? fun (name, _) => (placed.lookup name).isSome with
  | some (name, _) => typeError (f.qualified ++ "() got multiple values for argument '" ++ name ++ "'")
  | none => pure ()
  if restName.isNone && given.args.length > places.length then tooManyGiven f places given
  let known := placed ++ named
  let behind := places.drop given.args.length
  let absent := behind.filter fun p => (known.lookup p.name).isNone && p.default.isNone
  if !absent.isEmpty then lacking f "positional" (absent.map Formal.name)
  let onlyNamed := f.formals.filter fun p => p.kind matches .nameOnly
  let absent := onlyNamed.filter fun p => (known.lookup p.name).isNone && p.default.isNone
  if !absent.isEmpty then lacking f "keyword-only" (absent.map Formal.name)
  let defaults := (behind ++ onlyNamed).filterMap fun p =>
    if (known.lookup p.name).isSome then none else p.default.map fun v => (p.name, v)
  let rest := match restName with
    | some name => [(name, Value.tuple (given.args.drop places.length))]
    | none => []
  let more ← match namedRest with
    | some name => do pure [(name, ← newDict (others.map fun (k, v) => (textValue k, v)))]
    | none => pure []
  return known ++ defaults ++ rest ++ more

/-- Carries out statements until one gives a value back. -/
def runBody [Doer] (site : Site) : List Stmt → Run Value
  | [] => return .none
  | s :: rest => do
    match ← Doer.exec site s with
    | .givesBack v => return v
    | _ => runBody site rest

/-- What a function that a script defines gives back. -/
def runFunction [Doer] (f : Function) (given : Given) : Run Value := do
  let values ← bindArguments f given
  let here ← allocNumber (.scope (Ordered.ofList values))
  if f.yields then
    alloc (.generator { name := f.name, qualified := f.qualified, scopes := [here], function := f, remaining := [.block f.body] })
  else
    let site : Site := { here, around := f.around, own := some f.own, shared := f.shared, within := f.qualified ++ ".<locals>." }
    inFrame f.name f.file do
      match f.value with
      | some e => Doer.eval site e
      | none => runBody site f.body

/-- Calls a value. -/
def callWith [Doer] (native : String → Given → Run Value) (v : Value) (given : Given) : Run Value := do
  let refuse {α : Type} : Run α := do typeError ("'" ++ (← kindNameOf v) ++ "' object is not callable")
  match v with
  | .native name => native name given
  | .bound owner name => callBound owner name given
  | .method owner f => Caller.call f { given with args := owner :: given.args }
  | .kind "type" =>
    match given.args with
    | [one] => kindOf one
    | [name, bases, names] =>
      match name, bases with
      | .text g, .tuple bases =>
        let items ← itemsFor names
        let attributes := items.filterMap fun (k, v) => match k with
          | .text g => some (Glyphs.toString g, v)
          | _ => none
        makeClass (Glyphs.toString g) (Glyphs.toString g) bases (Ordered.ofList attributes)
      | .text _, other => typeError ("type.__new__() argument 2 must be tuple, not " ++ (← kindNameOf other))
      | other, _ => typeError ("type.__new__() argument 1 must be str, not " ++ (← kindNameOf other))
    | _ => typeError "type() takes 1 or 3 arguments"
  | .kind k => if k == "object" || (methodTable.lookup k).isSome || (kindParents.lookup k).isSome then construct k given else native k given
  | .thing n =>
    match ← look n with
    | .function f => runFunction f given
    | .class_ _ => instantiate v given
    | .plainFunction f => Caller.call f given
    | .record "functools.partial" names =>
      let args := match names.get? "args" with
        | some (.tuple vs) => vs
        | _ => []
      let named ← match names.get? "keywords" with
        | some d => itemsFor d
        | none => pure []
      let named := named.filterMap fun (k, v) => match k with
        | .text g => some (Glyphs.toString g, v)
        | _ => none
      let named := (named.filter fun (k, _) => (given.named.lookup k).isNone) ++ given.named
      Caller.call ((names.get? "func").getD .none) { args := args ++ given.args, named }
    | .record _ names =>
      match names.get? "__call__" with
      | some f => Caller.call f { given with args := v :: given.args }
      | none => refuse
    | .instance_ .. =>
      match ← ownMethod? v "__call__" with
      | some f => Caller.call f given
      | none => refuse
    | _ => refuse
  | _ => refuse

end GrammarStudio.ObjectScript
