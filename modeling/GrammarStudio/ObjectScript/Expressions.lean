import GrammarStudio.ObjectScript.Formatting
import GrammarStudio.ObjectScript.Sites

/-!
# What expressions stand for

* `evalWith` — the value of an expression, when those of its parts can be found;
* `assign`, `unpack` — values for names, members and items;
* `givenFor` — the arguments of a call;
* `comprehended` — what a comprehension makes.
-/

namespace GrammarStudio.ObjectScript

open Machine Tools

def Constant.value : Constant → Value
  | .none => .none
  | .true => .bool Bool.true
  | .false => .bool Bool.false
  | .ellipsis => .ellipsis
  | .integer n => .ofNat n
  | .float x => .float x
  | .text g => .text g
  | .octets o => .octets o

/-- The items of a display, in which others may be spread. -/
def itemsOf [Doer] (p : Site) (es : List Expr) : Run (List Value) := do
  let parts ← es.mapM fun e => do
    match e with
    | .starred e span =>
      let v ← Doer.eval p e
      atSpan span
      tryCatch (collect v) fun x => do
        if (← isOfKind x "TypeError") && !(← isScripted v) then
          typeError ("Value after * must be an iterable, not " ++ (← kindNameOf v))
        else throw x
    | e => return [← Doer.eval p e]
  return parts.flatten

/-! ### Assigning -/

/-- Cuts values for targets, of which one may take what is left. -/
def unpack [Doer] (v : Value) (targets : List Expr) : Run (List Value) := do
  let count := targets.length
  let starAt := targets.findIdx? fun
    | .starred .. => true
    | _ => false
  let simple ← match v with
    | .tuple items => pure (some items)
    | .thing n =>
      match ← look n with
      | .list items => pure (some items.toList)
      | _ => pure none
    | _ => pure none
  let start : Run Value := tryCatch (iterate v) fun x => do
    if (← isOfKind x "TypeError") && !(← isScripted v) then typeError ("cannot unpack non-iterable " ++ (← kindNameOf v) ++ " object")
    else throw x
  match starAt with
  | none =>
    let few (n : Nat) : Run (List Value) :=
      valueError ("not enough values to unpack (expected " ++ count.repr ++ ", got " ++ n.repr ++ ")")
    let many : Run (List Value) := valueError ("too many values to unpack (expected " ++ count.repr ++ ")")
    match simple with
    | some items => if items.length < count then few items.length else if items.length > count then many else return items
    | none =>
      let course ← start
      let items ← (List.range (count + 1)).foldlM (fun (items : List Value) n => do
        if items.length < n then return items
        match ← next? course with
        | some item => return items ++ [item]
        | none => return items) []
      if items.length < count then few items.length else if items.length > count then many else return items
  | some i =>
    let items ← match simple with
      | some items => pure items
      | none => collectOn (← start) endless []
    let behind := count - i - 1
    if items.length < count - 1 then
      valueError ("not enough values to unpack (expected at least " ++ (count - 1).repr ++ ", got " ++ items.length.repr ++ ")")
    let middle ← newList ((items.drop i).take (items.length - i - behind))
    return items.take i ++ middle :: items.drop (items.length - behind)

/-- Gives values to what stands on the left. -/
def assignOn [Doer] (p : Site) : (fuel : Nat) → Expr → Value → Run Unit
  | 0, _, _ => return
  | fuel + 1, target, v => do
    match target with
    | .name name _ => setName p name v
    | .attribute e name span =>
      let owner ← Doer.eval p e
      atSpan span
      setMember owner name v
    | .subscript e index span =>
      let owner ← Doer.eval p e
      let index ← Doer.eval p index
      atSpan span
      setItem owner index v
    | .tuple targets span | .list targets span =>
      atSpan span
      let items ← unpack v targets
      (targets.zip items).forM fun (t, item) => assignOn p fuel t item
    | .starred e _ => assignOn p fuel e v
    | _ => return

def assign [Doer] (p : Site) (target : Expr) (v : Value) : Run Unit := assignOn p nesting target v

/-- Takes away what stands there. -/
def deleteOn [Doer] (p : Site) : (fuel : Nat) → Expr → Run Unit
  | 0, _ => return
  | fuel + 1, target => do
    match target with
    | .name name span =>
      atSpan span
      deleteName p name
    | .attribute e name span =>
      let owner ← Doer.eval p e
      atSpan span
      deleteMember owner name
    | .subscript e index span =>
      let owner ← Doer.eval p e
      let index ← Doer.eval p index
      atSpan span
      deleteItem owner index
    | .tuple targets _ | .list targets _ => targets.forM (deleteOn p fuel)
    | _ => return

/-! ### Calls -/

/-- How a function is called in complaints about its arguments. -/
def functionSaid (f : Value) : Run String := do
  match f with
  | .thing n =>
    match ← look n with
    | .function g => return "__main__." ++ g.qualified ++ "()"
    | .class_ c => return "__main__." ++ c.qualified ++ "()"
    | _ => return (← kindNameOf f) ++ " object"
  | .native name => return name ++ "()"
  | .kind k => return shortName k ++ "()"
  | .bound owner name => return (← kindNameOf owner) ++ "." ++ name ++ "()"
  | .method owner g =>
    match g with
    | .thing n =>
      match ← look n with
      | .function h => return "__main__." ++ h.qualified ++ "()"
      | _ => return (← kindNameOf owner) ++ " object"
    | _ => return (← kindNameOf owner) ++ " object"
  | f => return (← kindNameOf f) ++ " object"

/-- The items of a mapping whose keys are names. -/
def namedFrom [Doer] (f v : Value) : Run (List (String × Value)) := do
  let items ← tryCatch (do
    match ← coreOf v with
    | .thing n =>
      match ← look n with
      | .dict .. | .scope _ => itemsFor v
      | _ => if (← member? v "keys").isSome then itemsFor v else raiseWith "TypeError" []
    | _ => raiseWith "TypeError" []) fun _ => do
      typeError ((← functionSaid f) ++ " argument after ** must be a mapping, not " ++ (← kindNameOf v))
  items.mapM fun (k, v) => do
    match ← coreOf k with
    | .text g => return (Glyphs.toString g, v)
    | _ => typeError "keywords must be strings"

/-- The arguments of a call. -/
def givenFor [Doer] (p : Site) (f : Value) (args : List Argument) (span : Span) : Run Given := do
  let given ← args.foldlM (fun (given : Given) arg => do
    let more (items : List (String × Value)) : Run Given := do
      for (name, _) in items do
        if (given.named.lookup name).isSome then
          atSpan span
          typeError ((← functionSaid f) ++ " got multiple values for keyword argument '" ++ name ++ "'")
      return { given with named := items.reverse ++ given.named }
    match arg with
    | .plain e => return { given with args := (← Doer.eval p e) :: given.args }
    | .named name e => more [(name, ← Doer.eval p e)]
    | .spread e =>
      let v ← Doer.eval p e
      atSpan span
      let items ← tryCatch (collect v) fun x => do
        if (← isOfKind x "TypeError") && !(← isScripted v) then
          typeError ((← functionSaid f) ++ " argument after * must be an iterable, not " ++ (← kindNameOf v))
        else throw x
      return { given with args := items.reverse ++ given.args }
    | .spreadNamed e =>
      let v ← Doer.eval p e
      atSpan span
      more (← namedFrom f v)) {}
  return { args := given.args.reverse, named := given.named.reverse }

/-- What continues a method at the kinds behind its own, when nothing more is said. -/
def aboveHere (p : Site) : Run Value := do
  match ← lookupIn "__class__" p.around with
  | some kind =>
    match p.own with
    | some (first :: _) =>
      match ← getIn? p.here first with
      | some owner => return .above kind owner
      | none => raise "RuntimeError" "super(): no arguments"
    | _ => raise "RuntimeError" "super(): no arguments"
  | none => if p.own.isSome then raise "RuntimeError" "super(): __class__ cell not found" else raise "RuntimeError" "super(): no arguments"

/-- The names of a site with their values. -/
def siteNames (p : Site) : Run Value := do
  if p.own.isSome then namesAsDict (← namesIn p.here) else return .thing p.here
where
  namesAsDict (names : Names) : Run Value :=
    alloc (.dict (Ordered.ofList (names.toList.map fun (k, v) => (3 :: (glyphs k).map Int.ofNat, textValue k, v))) "dict" .none)

/-! ### Functions -/

/-- What a function needs of its parameters. -/
def formalsOf [Doer] (p : Site) (parameters : List Parameter) : Run (List Formal) :=
  parameters.mapM fun
    | .mk name kind default => do
      let default ← match default with
        | some e => some <$> Doer.eval p e
        | none => pure none
      return { name, kind, default }

/-! ### Comprehensions -/

/-- The first source of a comprehension, and the site of all else in it. -/
def comprehensionSite (p : Site) (clauses : List Clause) : Run Site := do
  let own := clauses.flatMap fun
    | .each target _ => target.targets nesting
    | .when _ => []
  let here ← allocNumber (.scope {})
  return { here, around := p.inner, own := some own, keeper := some (p.keeper.getD p.here), within := p.within, isClass := false }

/-- A run through values, with something done for each. -/
def eachOf [Doer] (course : Value) (act : Value → Run Unit) : (rounds : Nat) → Run Unit
  | 0 => return
  | rounds + 1 => do
    rest rounds
    match ← next? course with
    | some v =>
      act v
      eachOf course act rounds
    | none => return

/-- Works through the clauses of a comprehension. -/
def throughClauses [Doer] (p : Site) (act : Run Unit) : List Clause → Run Unit
  | [] => act
  | .when test :: clauses => do if ← truth (← Doer.eval p test) then throughClauses p act clauses
  | .each target source :: clauses => do
    let v ← Doer.eval p source
    atSpan source.span
    let course ← iterate v
    eachOf course (fun item => do
      assign p target item
      throughClauses p act clauses) endless

/-- The statements that a comprehension stands for when its values are given one by one. -/
def clauseBody (give : Stmt) : List Clause → List Stmt
  | [] => [give]
  | .when test :: clauses => [.branch test (clauseBody give clauses) []]
  | .each target source :: clauses => [.each target source (clauseBody give clauses) []]

/-- What a comprehension makes. -/
def comprehended [Doer] (p : Site) (kind : Collecting) (element : Expr) (value : Option Expr) (clauses : List Clause) (span : Span) :
    Run Value := do
  match clauses with
  | .each target source :: clauses =>
    let first ← Doer.eval p source
    atSpan source.span
    let course ← iterate first
    let site ← comprehensionSite p (.each target source :: clauses)
    let file := (← get).file
    let through (act : Run Unit) : Run Unit :=
      eachOf course (fun item => do
        assign site target item
        throughClauses site act clauses) endless
    match kind with
    | .list => do
      let n ← allocNumber (.list #[])
      inFrame "<listcomp>" file do
        atSpan span
        through do
          let v ← Doer.eval site element
          withItems n (·.push v)
      return .thing n
    | .set => do
      let n ← allocNumber (.set {} false)
      inFrame "<setcomp>" file do
        atSpan span
        through do
          let v ← Doer.eval site element
          atSpan element.span
          let key ← keyOf v
          change n fun
            | .set d f => .set (if d.has key then d else d.put key (v, .none)) f
            | t => t
      return .thing n
    | .dict => do
      let n ← allocNumber (.dict {} "dict" .none)
      inFrame "<dictcomp>" file do
        atSpan span
        through do
          let k ← Doer.eval site element
          let v ← match value with
            | some e => Doer.eval site e
            | none => pure .none
          atSpan element.span
          let key ← keyOf k
          change n fun
            | .dict d kind maker => .dict (d.put key (match d.get? key with
              | some (old, _) => (old, v)
              | none => (k, v))) kind maker
            | t => t
      return .thing n
    | .generator => do
      putIn site.here ".0" course
      let own := ".0" :: site.own.getD []
      let body := [Stmt.each target (.name ".0" source.span) (clauseBody (.expr (.yield (some element) element.span)) clauses) []]
      let qualified := p.within ++ "<genexpr>"
      let f : Function :=
        { name := "<genexpr>", qualified, formals := [], body, file, around := site.around, own, shared := [], yields := true }
      alloc (.generator { name := "<genexpr>", qualified, scopes := [site.here], function := f, remaining := [.block body] })
  | _ => return .none

/-! ### Expressions -/

/-- Compares values one after another, until one comparison fails. -/
def comparedFrom [Doer] (p : Site) (span : Span) : Value → List (CompareOp × Expr) → Run Value
  | a, [] => return a
  | a, (op, e) :: more => do
    let b ← Doer.eval p e
    atSpan span
    let r ← compared op a b
    if more.isEmpty then return r
    else if ← truth r then comparedFrom p span b more
    else return r
where
  compared (op : CompareOp) (a b : Value) : Run Value := do
    match op with
    | .equal => own op a b fun a b => .bool <$> equal a b
    | .unequal => own op a b fun a b => do return .bool !(← equal a b)
    | .is => return .bool (isSame a b)
    | .isNot => return .bool !(isSame a b)
    | .isIn => return .bool (← contains b a)
    | .notIn => return .bool !(← contains b a)
    | op => own op a b fun a b => .bool <$> ordered op a b
  /-- What a script's kind says of a comparison, or else what is said of the values. -/
  own (op : CompareOp) (a b : Value) (usual : Value → Value → Run Value) : Run Value := do
    match ← callOwn? a op.method [b] with
    | some .notImplemented | none =>
      match op with
      | .unequal =>
        match ← callOwn? b op.method [a] with
        | some .notImplemented | none => usual a b
        | some r => return r
      | _ => usual a b
    | some r => return r

/-- The text of a value within another text. -/
def fieldText [Doer] (v : Value) (conversion : Option Char) (layout : Glyphs) : Run Glyphs := do
  match conversion with
  | none => laidOut v layout
  | some _ => do laidOut (← converted conversion v) layout

/-- The parts of a text with values in it. -/
def partsText [Doer] (p : Site) : (fuel : Nat) → List FormatPart → Run Glyphs
  | 0, _ => return []
  | fuel + 1, parts => do
    let texts ← parts.mapM fun part => do
      match part with
      | .text g => return g
      | .trouble _ => return []
      | .field e shown conversion layout =>
        let v ← Doer.eval p e
        let layout ← partsText p fuel layout
        atSpan e.span
        let conversion := if shown.isSome && conversion.isNone && layout.isEmpty then some 'r' else conversion
        return shown.getD [] ++ (← fieldText v conversion layout)
    return texts.flatten

/-- The value of an expression. -/
def evalWith [Doer] (call : Site → Value → Given → Run Value) (p : Site) (e : Expr) : Run Value := do
  match e with
  | .constant c _ => return c.value
  | .name name span =>
    atSpan span
    getName p name
  | .formatted parts _ => return .text (← partsText p nesting parts)
  | .tuple items _ => return .tuple (← itemsOf p items)
  | .list items _ => newList (← itemsOf p items)
  | .set items span =>
    let items ← itemsOf p items
    atSpan span
    alloc (.set (← setOf items) false)
  | .dict items span =>
    let n ← allocNumber (.dict {} "dict" .none)
    for (key, e) in items do
      match key with
      | some k =>
        let k ← Doer.eval p k
        let v ← Doer.eval p e
        atSpan span
        putItems n [(k, v)]
      | none =>
        let v ← Doer.eval p e
        atSpan span
        let more ← tryCatch (do
          match ← coreOf v with
          | .thing _ => itemsFor v
          | _ => raiseWith "TypeError" []) fun _ => do
            typeError ("'" ++ (← kindNameOf v) ++ "' object is not a mapping")
        putItems n more
    return .thing n
  | .starred _ span =>
    atSpan span
    raise "SyntaxError" "can't use starred expression here"
  | .unary op e span =>
    let v ← Doer.eval p e
    atSpan span
    unary op v
  | .binary op a b span =>
    let a ← Doer.eval p a
    let b ← Doer.eval p b
    atSpan span
    binary op a b
  | .compare first more span =>
    let a ← Doer.eval p first
    comparedFrom p span a more
  | .not e span =>
    let v ← Doer.eval p e
    atSpan span
    return .bool !(← truth v)
  | .and a b _ =>
    let v ← Doer.eval p a
    if ← truth v then Doer.eval p b else return v
  | .or a b _ =>
    let v ← Doer.eval p a
    if ← truth v then return v else Doer.eval p b
  | .conditional test yes no _ => if ← truth (← Doer.eval p test) then Doer.eval p yes else Doer.eval p no
  | .lambda parameters body _ =>
    let formals ← formalsOf p parameters
    let own := parameters.map Parameter.name ++ body.named nesting
    let yields := body.yields nesting
    alloc (.function
      { name := "<lambda>", qualified := p.within ++ "<lambda>", formals, body := if yields then [.giveBack (some body)] else []
        value := if yields then none else some body, file := (← get).file, around := p.inner, own, shared := [], yields })
  | .call f args span =>
    let f ← Doer.eval p f
    let given ← givenFor p f args span
    atSpan span
    let v ← call p f given
    atSpan span
    return v
  | .attribute e name span =>
    let v ← Doer.eval p e
    atSpan span
    getMember v name
  | .subscript e index span =>
    let v ← Doer.eval p e
    let index ← Doer.eval p index
    atSpan span
    getItem v index
  | .slice a b c _ =>
    let part (e : Option Expr) : Run Value := do
      match e with
      | some e => Doer.eval p e
      | none => return .none
    return .slice (← part a) (← part b) (← part c)
  | .comprehension kind element value clauses span => comprehended p kind element value clauses span
  | .assigned name e _ =>
    let v ← Doer.eval p e
    match p.keeper with
    | some scope => putIn scope name v
    | none => setName p name v
    return v
  | .yield _ span | .yieldFrom _ span =>
    atSpan span
    raise "SyntaxError" "'yield' outside function"

end GrammarStudio.ObjectScript
