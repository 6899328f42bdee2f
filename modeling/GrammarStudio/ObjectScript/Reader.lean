import GrammarStudio.ObjectScript.Program

/-!
# Reading a script

* `Parsing`, `Read` — the words that are left, and reading them;
* `expression`, `simpleStatement`, `statement` — the parts of a script;
* `readScript` — a whole script, or why it is none.

The fuel bounds how deep a script nests and how much stands in a row; it has enough of it by its length.
-/

namespace GrammarStudio.ObjectScript

open Machine

def Token.isWord (t : Token) (s : String) : Bool :=
  match t with
  | .name n => n == s
  | _ => false

/-- Can an expression begin with the word? -/
def Token.startsExpression : Token → Bool
  | .name s => !keywords.contains s || ["None", "True", "False", "not", "lambda", "await"].contains s
  | .integer _ | .float _ | .text _ | .octets _ | .pieces _ => true
  | .sign s => ["(", "[", "\x7b", "-", "+", "~", "..."].contains s
  | _ => false

/-- What an expression is called where it cannot be assigned to. -/
def Expr.called : Expr → String
  | .constant .none _ => "None"
  | .constant .true _ => "True"
  | .constant .false _ => "False"
  | .constant .ellipsis _ => "ellipsis"
  | .constant .. => "literal"
  | .formatted .. => "f-string expression"
  | .tuple .. => "tuple"
  | .list .. => "list"
  | .set .. => "set display"
  | .dict .. => "dict literal"
  | .call .. => "function call"
  | .lambda .. => "lambda"
  | .compare .. => "comparison"
  | .conditional .. => "conditional expression"
  | .comprehension .list .. => "list comprehension"
  | .comprehension .set .. => "set comprehension"
  | .comprehension .dict .. => "dict comprehension"
  | .comprehension .generator .. => "generator expression"
  | .yield .. | .yieldFrom .. => "yield expression"
  | .assigned .. => "named expression"
  | .starred .. => "starred"
  | .name .. => "name"
  | .attribute .. => "attribute"
  | .subscript .. => "subscript"
  | _ => "expression"

namespace Reader

structure Parsing where
  rest : List Lexeme
  /-- What is wrong behind the last word. -/
  trouble : Option Problem := none
  /-- Where the last word that was passed stands. -/
  last : Span := ⟨1, 0, 1, 0⟩
  /-- How many brackets are open. -/
  depth : Nat := 0
  inFunction : Bool := false
  inLoop : Bool := false
  /-- Words that make sense, but not where they stand; those that are found first have the lower rank. -/
  late : List (Nat × Problem) := []

abbrev Read := StateT Parsing (Except Problem)

/-! ### Words -/

def current : Read Lexeme := do return (← get).rest.headD { token := .finish, span := (← get).last }

def ahead (n : Nat) : Read Token := do return (((← get).rest[n]?).map Lexeme.token).getD .finish

def pass : Read Lexeme := do
  let l ← current
  modify fun s => { s with rest := if s.rest.length > 1 then s.rest.tail else s.rest, last := l.span }
  return l

def refuse {α : Type} (span : Span) (message : String) : Read α := throw { message, span }

/-- Words that make sense stand where they do not. -/
def noteLate (rank : Nat) (span : Span) (message : String) : Read Unit :=
  modify fun s => { s with late := s.late ++ [(rank, { message, span, isLate := true })] }

/-- The column that is told of a word that has no characters. -/
def Lexeme.offset (l : Lexeme) : Option Nat :=
  match l.token with
  | .indent | .dedent | .finish => some l.span.column
  | _ => none

/-- Something is wrong at the next word. -/
def refuseHere {α : Type} (message : String) (kind : String := "SyntaxError") : Read α := do
  let l ← current
  match l.token, (← get).trouble with
  | .finish, some p => throw p
  | _, _ => throw { kind, message, span := l.span, offset := Lexeme.offset l }

/-- A word stands where it cannot. -/
def unexpected {α : Type} : Read α := do
  let l ← current
  match l.token, (← get).trouble with
  | .finish, some p => throw p
  | .indent, _ => refuseHere "unexpected indent" "IndentationError"
  | .dedent, _ => refuseHere "unexpected unindent" "IndentationError"
  | .finish, _ => throw { message := "invalid syntax", span := l.span, offset := some 0 }
  | _, _ => refuse l.span "invalid syntax"

def isSign (s : String) : Read Bool := do return (← current).token.isSign s

def isWord (s : String) : Read Bool := do return (← current).token.isWord s

/-- Passes a sign if it is next. -/
def accept (s : String) : Read Bool := do
  if ← isSign s then
    let _ ← pass
    return true
  else return false

def acceptWord (s : String) : Read Bool := do
  if ← isWord s then
    let _ ← pass
    return true
  else return false

def expect (s : String) : Read Unit := do
  if !(← accept s) then unexpected

def expectWord (s : String) : Read Unit := do
  if !(← acceptWord s) then unexpected

/-- A name that is no keyword. -/
def expectName : Read String := do
  match (← current).token with
  | .name s =>
    if keywords.contains s then unexpected
    else
      let _ ← pass
      return s
  | _ => unexpected

/-- Reads something inside brackets. -/
def bracketed {α : Type} (read : Read α) : Read α := do
  modify fun s => { s with depth := s.depth + 1 }
  let a ← read
  modify fun s => { s with depth := s.depth - 1 }
  return a

/-- The span from where something began to the last word. -/
def since (start : Span) : Read Span := do return start.through (← get).last

def compareOps : List (String × CompareOp) :=
  [("==", .equal), ("!=", .unequal), ("<", .less), ("<=", .lessEqual), (">", .greater), (">=", .greaterEqual)]

/-- The signs between operands, those that bind least first. -/
def binaryLevels : List (List (String × BinaryOp)) :=
  [[("|", .or)], [("^", .xor)], [("&", .and)], [("<<", .shiftLeft), (">>", .shiftRight)], [("+", .add), ("-", .subtract)],
    [("*", .multiply), ("/", .divide), ("//", .floorDivide), ("%", .remainder), ("@", .matrix)]]

def augmentedOps : List (String × BinaryOp) :=
  [("+=", .add), ("-=", .subtract), ("*=", .multiply), ("/=", .divide), ("//=", .floorDivide), ("%=", .remainder),
    ("**=", .power), ("<<=", .shiftLeft), (">>=", .shiftRight), ("&=", .and), ("|=", .or), ("^=", .xor), ("@=", .matrix)]

/-- Checks that an expression can be assigned to. -/
def checkTarget (isDelete : Bool) : (fuel : Nat) → Expr → Read Unit
  | 0, _ => return
  | fuel + 1, e => do
    match e with
    | .name .. | .attribute .. | .subscript .. => return
    | .tuple es _ | .list es _ => for e in es do checkTarget isDelete fuel e
    | .starred e s => if isDelete then refuse s "cannot delete starred" else checkTarget isDelete fuel e
    | e =>
      let verb := if isDelete then "delete " else "assign to "
      refuse e.span ("cannot " ++ verb ++ e.called)

/-- Parameters as what they stand between makes them: by place only, or by name only. -/
def arranged (ps : List (Parameter × Span)) : Read (List Parameter) := do
  let spans := ps.map fun (p, s) => (p.name, s)
  let ps := ps.map Prod.fst
  let slash := ps.findIdx? fun
    | .mk "" .positionOnly _ => true
    | _ => false
  let star := ps.findIdx? fun
    | .mk _ .rest _ => true
    | _ => false
  let kept := ps.zipIdx.filterMap fun (p, i) => match p with
    | .mk "" _ _ => none
    | .mk name .usual default =>
      let kind : ParameterKind := if slash.any (i < ·) then .positionOnly else if star.any (· < i) then .nameOnly else .usual
      some (.mk name kind default)
    | p => some p
  let names := kept.map Parameter.name
  match names.find? fun n => (names.filter (· == n)).length > 1 with
  | some n =>
    match (spans.filter (·.1 == n))[1]? with
    | some (_, span) => noteLate 0 span ("duplicate argument '" ++ n ++ "' in function definition")
    | none => pure ()
  | none => pure ()
  return kept

/-- Several operands behind each other, the first one first. -/
def joinSpan (a b : Expr) : Span := a.span.through b.span

/-! ### Expressions -/

/-- Complains of a comprehension that spreads its values. -/
def refuseSpread (e : Expr) : Read Unit := do
  match e with
  | .starred _ s => refuse s "iterable unpacking cannot be used in comprehension"
  | _ => return

/-- Complains of several values before the loop of a comprehension. -/
def refuseTargets (first : Expr) (rest : List Expr) : Read Unit := do
  if (← isWord "for") && !rest.isEmpty then
    refuse (first.span.through (rest.getLast?.elim first.span Expr.span)) "did you forget parentheses around the comprehension target?"

/-- What is known of the arguments before one. -/
structure ArgumentsBefore where
  count : Nat := 0
  /-- The names of those that are given by name. -/
  names : List String := []
  /-- The place behind a mapping whose items are given by name. -/
  afterNamedRest : Option Span := none
  /-- One without a name came behind one with a name. -/
  isMixed : Bool := false

/-- What is known of the parameters before one. -/
structure ParametersBefore where
  slash : Bool := false
  star : Bool := false
  namedRest : Bool := false
  /-- One before has a value of its own, so that one without would be left out. -/
  needsValue : Bool := false
  count : Nat := 0

/-- Can an expression stand on the left of a sign that binds stronger than comparisons? -/
def Expr.bindsTight : Expr → Bool
  | .compare .. | .not .. | .and .. | .or .. | .conditional .. | .lambda .. | .starred .. | .yield .. | .yieldFrom .. | .assigned .. => false
  | _ => true

mutual

/-- Complains of a sign for assigning where one for comparing was meant. -/
def mistakenEquals : (fuel : Nat) → Expr → Read Unit
  | 0, _ => return
  | fuel + 1, e => do
    let canBe := Expr.bindsTight e && (match e with
      | .list .. | .tuple .. | .comprehension .generator .. | .constant .true _ | .constant .false _ | .constant .none _ => false
      | _ => true)
    if (← isSign "=") && canBe then
      match (do expect "="; binary fuel binaryLevels : Read Expr).run (← get) with
      | .ok (b, after) =>
        let next := (after.rest.headD default).token
        if !(next.isSign "=" || next.isSign ":=") then
          match e with
          | .name .. => refuse (joinSpan e b) "invalid syntax. Maybe you meant '==' or ':=' instead of '='?"
          | e => refuse e.span ("cannot assign to " ++ e.called ++ " here. Maybe you meant '==' instead of '='?")
      | .error _ => return

/-- An expression that may give its value a name. -/
def namedExpression : (fuel : Nat) → Read Expr
  | 0 => unexpected
  | fuel + 1 => do
    let l ← current
    match l.token, ← ahead 1 with
    | .name s, .sign ":=" =>
      if keywords.contains s then expression fuel
      else
        let _ ← pass
        let _ ← pass
        let e ← expression fuel
        return .assigned s e (← since l.span)
    | _, _ =>
      let e ← expression fuel
      mistakenEquals fuel e
      if ← isSign ":=" then
        match e with
        | .name .. => pure ()
        | e => refuse e.span ("cannot use assignment expressions with " ++ e.called)
      return e

def expression : (fuel : Nat) → Read Expr
  | 0 => unexpected
  | fuel + 1 => do
    if ← isWord "lambda" then lambda fuel
    else
      let e ← disjunction fuel
      let e ← (do
        if ← isWord "if" then
          let _ ← pass
          let test ← disjunction fuel
          if !(← isWord "else") then
            let s ← since e.span
            refuse s "expected 'else' after 'if' expression"
          let _ ← pass
          let no ← expression fuel
          return Expr.conditional test e no (joinSpan e no)
        else return e)
      let s ← get
      -- two expressions in a row inside brackets lack a comma
      if (← current).token.startsExpression && !((← current).token matches .name "lambda") then
        match (e, (← current).token) with
        | (.name "print" _, _) | (.name "exec" _, _) => return e
        | _ =>
          match (expression fuel).run s with
          | .ok (b, _) => if s.depth > 0 then refuse (joinSpan e b) "invalid syntax. Perhaps you forgot a comma?" else return e
          | .error p => if s.trouble.any fun t => t.span = p.span && t.message == p.message then throw p else return e
      else return e

def lambda : (fuel : Nat) → Read Expr
  | 0 => unexpected
  | fuel + 1 => do
    let start := (← current).span
    let _ ← pass
    let ps ← arranged (← parameters fuel false ":" {})
    expect ":"
    let before ← get
    modify fun s => { s with inFunction := true }
    let body ← expression fuel
    modify fun s => { s with inFunction := before.inFunction }
    return .lambda ps body (← since start)

/-- Parameters up to a sign, each with its place, behind those that came before. -/
def parameters : (fuel : Nat) → (typed : Bool) → (stop : String) → ParametersBefore → Read (List (Parameter × Span))
  | 0, _, _, _ => unexpected
  | fuel + 1, typed, stop, before => do
    if ← isSign stop then return []
    let start := (← current).span
    if before.namedRest then refuse start "arguments cannot follow var-keyword argument"
    let (own, now) ← (do
      if ← accept "/" then
        if before.slash then refuse start "/ may appear only once"
        if before.star then refuse start "/ must be ahead of *"
        if before.count = 0 then refuse start "at least one argument must precede /"
        return (Parameter.mk "" .positionOnly none, { before with slash := true })
      else if ← accept "**" then
        let name ← expectName
        annotation fuel typed
        if ← isSign "=" then refuse (← current).span "var-keyword argument cannot have default value"
        return (Parameter.mk name .namedRest none, { before with namedRest := true })
      else if ← accept "*" then
        if before.star then refuse start "* argument may appear only once"
        let after := { before with star := true, needsValue := false }
        if ← isSign "," then
          if (← ahead 1).isSign stop || (← ahead 1).isSign "**" then refuse start "named arguments must follow bare *"
          return (Parameter.mk "" .rest none, after)
        else if ← isSign stop then refuse start "named arguments must follow bare *"
        else
          let name ← expectName
          annotation fuel typed
          if ← isSign "=" then refuse (← current).span "var-positional argument cannot have default value"
          return (Parameter.mk name .rest none, after)
      else
        if typed && (← isSign "(") then
          match (bracketed (do expect "("; let e ← starExpressions fuel; expect ")"; return e) : Read Expr).run (← get) with
          | .ok (_, after) => refuse (start.through after.last) "Function parameters cannot be parenthesized"
          | .error _ => unexpected
        let name ← expectName
        annotation fuel typed
        if ← isSign "=" then
          let sign ← pass
          if (← isSign stop) || (← isSign ",") then refuse sign.span "expected default value expression"
          return (Parameter.mk name .usual (some (← expression fuel)), { before with needsValue := !before.star, count := before.count + 1 })
        else
          if before.needsValue then refuse (← since start) "non-default argument follows default argument"
          return (Parameter.mk name .usual none, { before with count := before.count + 1 }) : Read (Parameter × ParametersBefore))
    let span ← since start
    if ← accept "," then return (own, span) :: (← parameters fuel typed stop now)
    else return [(own, span)]

def annotation : (fuel : Nat) → (typed : Bool) → Read Unit
  | 0, _ => return
  | fuel + 1, typed => do
    if typed then
      if ← accept ":" then
        let _ ← expression fuel

def disjunction : (fuel : Nat) → Read Expr
  | 0 => unexpected
  | fuel + 1 => do
    let e ← conjunction fuel
    if ← acceptWord "or" then
      let b ← disjunction fuel
      return .or e b (joinSpan e b)
    else return e

def conjunction : (fuel : Nat) → Read Expr
  | 0 => unexpected
  | fuel + 1 => do
    let e ← inversion fuel
    if ← acceptWord "and" then
      let b ← conjunction fuel
      return .and e b (joinSpan e b)
    else return e

def inversion : (fuel : Nat) → Read Expr
  | 0 => unexpected
  | fuel + 1 => do
    let l ← current
    if ← acceptWord "not" then
      let e ← inversion fuel
      return .not e (l.span.through e.span)
    else
      let e ← binary fuel binaryLevels
      let rest ← comparisons fuel
      match rest.getLast? with
      | none => return e
      | some (_, b) => return .compare e rest (joinSpan e b)

/-- The comparisons behind an operand. -/
def comparisons : (fuel : Nat) → Read (List (CompareOp × Expr))
  | 0 => unexpected
  | fuel + 1 => do
    let op? : Option CompareOp ← (do
      match (← current).token with
      | .sign s =>
        match compareOps.lookup s with
        | some op =>
          let _ ← pass
          return some op
        | none => return none
      | .name "in" =>
        let _ ← pass
        return some .isIn
      | .name "is" =>
        let _ ← pass
        if ← acceptWord "not" then return some .isNot else return some .is
      | .name "not" =>
        if (← ahead 1).isWord "in" then
          let _ ← pass
          let _ ← pass
          return some .notIn
        else
          let _ ← pass
          unexpected
      | _ => return none)
    match op? with
    | none => return []
    | some op =>
      let e ← binary fuel binaryLevels
      return (op, e) :: (← comparisons fuel)

def binary : (fuel : Nat) → List (List (String × BinaryOp)) → Read Expr
  | 0, _ => unexpected
  | fuel + 1, levels => do
    match levels with
    | [] => factor fuel
    | ops :: tighter =>
      let e ← binary fuel tighter
      binaryRest fuel ops tighter e

/-- The operands of one level behind an operand. -/
def binaryRest : (fuel : Nat) → List (String × BinaryOp) → List (List (String × BinaryOp)) → Expr → Read Expr
  | 0, _, _, e => return e
  | fuel + 1, ops, tighter, e => do
    match (← current).token with
    | .sign s =>
      match ops.lookup s with
      | some op =>
        let _ ← pass
        let b ← binary fuel tighter
        binaryRest fuel ops tighter (.binary op e b (joinSpan e b))
      | none => return e
    | _ => return e

def factor : (fuel : Nat) → Read Expr
  | 0 => unexpected
  | fuel + 1 => do
    let l ← current
    let op? : Option UnaryOp := match l.token with
      | .sign "-" => some .minus
      | .sign "+" => some .plus
      | .sign "~" => some .invert
      | _ => none
    match op? with
    | some op =>
      let _ ← pass
      let e ← factor fuel
      return .unary op e (l.span.through e.span)
    | none =>
      let _ ← acceptWord "await"
      let start ← current
      let a ← atom fuel
      let e ← primary fuel start.span a
      if ← accept "**" then
        let b ← factor fuel
        return .binary .power e b (joinSpan e b)
      else return e

/-- What stands behind an atom: calls, places and names. -/
def primary : (fuel : Nat) → (start : Span) → Expr → Read Expr
  | 0, _, e => return e
  | fuel + 1, start, e => do
    match (← current).token with
    | .sign "." =>
      let _ ← pass
      let l ← current
      match l.token with
      | .name s =>
        if keywords.contains s then unexpected
        let _ ← pass
        primary fuel start (.attribute e s (← since e.span))
      | _ => unexpected
    | .sign "(" =>
      let _ ← pass
      let args ← bracketed (arguments fuel {})
      expect ")"
      primary fuel start (.call e args (← since e.span))
    | .sign "[" =>
      let _ ← pass
      let index ← bracketed (subscripts fuel)
      expect "]"
      primary fuel start (.subscript e index (← since e.span))
    | _ => return e

/-- The arguments of a call, up to the closing bracket, behind those that came before. -/
def arguments : (fuel : Nat) → ArgumentsBefore → Read (List Argument)
  | 0, _ => unexpected
  | fuel + 1, before => do
    if ← isSign ")" then return []
    let l ← current
    let (own, now) : Argument × ArgumentsBefore ← (do
      if ← accept "*" then
        if (← isSign ")") || (← isSign ",") then refuseHere "Invalid star expression"
        let e ← expression fuel
        match before.afterNamedRest with
        | some span => refuse (span.through e.span) "iterable argument unpacking follows keyword argument unpacking"
        | none => return (.spread e, before)
      else if ← accept "**" then
        let e ← expression fuel
        return (.spreadNamed e, { before with afterNamedRest := some ⟨e.span.endLine, e.span.endColumn, e.span.endLine, e.span.endColumn⟩ })
      else
        match l.token, ← ahead 1 with
        | .name s, .sign "=" =>
          if keywords.contains s then
            if ["True", "False", "None"].contains s then
              let _ ← pass
              refuse (l.span.through (← current).span) ("cannot assign to " ++ s)
            else unexpected
          else
            let _ ← pass
            let _ ← pass
            let e ← expression fuel
            if before.names.contains s then noteLate 1 (← since l.span) ("keyword argument repeated: " ++ s)
            return (.named s e, { before with names := s :: before.names })
        | _, _ =>
          let e ← (do
            match l.token, ← ahead 1 with
            | .name _, .sign ":=" => namedExpression fuel
            | _, _ => expression fuel : Read Expr)
          if (← isWord "for") || (← isWord "async") then
            let cs ← clauses fuel
            let span ← since e.span
            if before.count > 0 || ((← isSign ",") && !(← ahead 1).isSign ")") then refuse span "Generator expression must be parenthesized"
            return (.plain (.comprehension .generator e none cs span), before)
          else
            if ← isSign "=" then
              refuse (e.span.through (← current).span) "expression cannot contain assignment, perhaps you meant \"==\"?"
            return (.plain e, if before.names.isEmpty && before.afterNamedRest.isNone then before else { before with isMixed := true }))
    let now := { now with count := now.count + 1 }
    let rest ← (do if ← accept "," then arguments fuel now else return [])
    if now.isMixed && !before.isMixed then
      refuseHere ("positional argument follows keyword argument" ++ (if before.afterNamedRest.isSome then " unpacking" else ""))
    return own :: rest

/-- What stands between square brackets behind a value. -/
def subscripts : (fuel : Nat) → Read Expr
  | 0 => unexpected
  | fuel + 1 => do
    let first ← slice fuel
    if ← isSign "," then
      let rest ← sliceRest fuel
      return .tuple (first :: rest) (← since first.span)
    else return first

def sliceRest : (fuel : Nat) → Read (List Expr)
  | 0 => unexpected
  | fuel + 1 => do
    if ← accept "," then
      if ← isSign "]" then return []
      let e ← slice fuel
      return e :: (← sliceRest fuel)
    else return []

def slice : (fuel : Nat) → Read Expr
  | 0 => unexpected
  | fuel + 1 => do
    let l ← current
    let part : Read (Option Expr) := do
      if (← isSign ":") || (← isSign "]") || (← isSign ",") then return none else return some (← expression fuel)
    if ← isSign ":" then
      let _ ← pass
      let stop ← part
      let step ← (do if ← accept ":" then part else return none : Read (Option Expr))
      return .slice none stop step (← since l.span)
    else
      let e ← (do
        if ← accept "*" then return Expr.starred (← expression fuel) l.span
        else namedExpression fuel)
      if ← accept ":" then
        let stop ← part
        let step ← (do if ← accept ":" then part else return none : Read (Option Expr))
        return .slice (some e) stop step (← since l.span)
      else return e

/-- The loops and conditions of a comprehension. -/
def clauses : (fuel : Nat) → Read (List Clause)
  | 0 => unexpected
  | fuel + 1 => do
    let _ ← acceptWord "async"
    if ← acceptWord "for" then
      let target ← loopTarget fuel
      let source ← disjunction fuel
      return .each target source :: (← clauses fuel)
    else if ← acceptWord "if" then
      let e ← (do
        match (← current).token, ← ahead 1 with
        | .name _, .sign ":=" => namedExpression fuel
        | _, _ => disjunction fuel : Read Expr)
      return .when e :: (← clauses fuel)
    else return []

/-- What a loop gives values to, and the word behind it. -/
def loopTarget : (fuel : Nat) → Read Expr
  | 0 => unexpected
  | fuel + 1 => do
    let before ← get
    match (targetList fuel).run before with
    | .ok (target, after) =>
      set after
      if !(← isWord "in") then
        -- what is wrong within expressions is told first
        match (starExpressions fuel).run before with
        | .error p => throw p
        | .ok _ => unexpected
      checkTarget false nesting target
      expectWord "in"
      return target
    | .error p =>
      match (starExpressions fuel).run before with
      | .error q => throw q
      | .ok _ => throw p

/-- What a loop gives values to, with commas between them. -/
def targetList : (fuel : Nat) → Read Expr
  | 0 => unexpected
  | fuel + 1 => do
    let one : Read Expr := do
      let l ← current
      if ← accept "*" then
        let e ← binary fuel binaryLevels
        return .starred e (← since l.span)
      else binary fuel binaryLevels
    let first ← one
    if ← isSign "," then
      let rest ← targetRest fuel
      return .tuple (first :: rest) (← since first.span)
    else return first

def targetRest : (fuel : Nat) → Read (List Expr)
  | 0 => unexpected
  | fuel + 1 => do
    if ← accept "," then
      if (← isWord "in") || (← isSign "=") then return []
      let l ← current
      let e ← (do
        if ← accept "*" then
          let e ← binary fuel binaryLevels
          return Expr.starred e (← since l.span)
        else binary fuel binaryLevels)
      return e :: (← targetRest fuel)
    else return []

def atom : (fuel : Nat) → Read Expr
  | 0 => unexpected
  | fuel + 1 => do
    let l ← current
    match l.token with
    | .name s =>
      match s with
      | "None" => let _ ← pass; return .constant .none l.span
      | "True" => let _ ← pass; return .constant .true l.span
      | "False" => let _ ← pass; return .constant .false l.span
      | _ =>
        if keywords.contains s then unexpected
        else
          let _ ← pass
          return .name s l.span
    | .integer n => let _ ← pass; return .constant (.integer n) l.span
    | .float x => let _ ← pass; return .constant (.float x) l.span
    | .text _ | .pieces _ => texts fuel
    | .octets _ => octetTexts fuel
    | .sign "..." => let _ ← pass; return .constant .ellipsis l.span
    | .sign "(" =>
      let _ ← pass
      bracketed (inParentheses fuel l.span)
    | .sign "[" =>
      let _ ← pass
      bracketed (inBrackets fuel l.span)
    | .sign "\x7b" =>
      let _ ← pass
      bracketed (inBraces fuel l.span)
    | _ => unexpected

/-- Texts in a row are one text. -/
def texts : (fuel : Nat) → Read Expr
  | 0 => unexpected
  | fuel + 1 => do
    let start := (← current).span
    let parts ← textParts fuel
    match (← current).token with
    | .octets _ =>
      let _ ← octetTexts fuel
      refuseHere "cannot mix bytes and nonbytes literals"
    | _ => pure ()
    for p in parts do
      match p with
      | .trouble message => refuseHere message
      | _ => pure ()
    let s ← since start
    let plain : Option (List Glyphs) := parts.mapM fun
      | .text g => some g
      | _ => none
    match plain with
    | some gs => return .constant (.text gs.flatten) s
    | none => return .formatted parts s

def textParts : (fuel : Nat) → Read (List FormatPart)
  | 0 => return []
  | fuel + 1 => do
    match (← current).token with
    | .text g =>
      let _ ← pass
      return .text g :: (← textParts fuel)
    | .pieces ps =>
      let l ← pass
      let own ← formatParts fuel l.span ps
      -- a text into which nothing is put is still made anew
      let own := if own.isEmpty then [.text []] else own
      return own ++ (← textParts fuel)
    | _ => return []

def octetTexts : (fuel : Nat) → Read Expr
  | 0 => unexpected
  | fuel + 1 => do
    match (← current).token with
    | .octets o =>
      let l ← pass
      match (← current).token with
      | .octets _ =>
        match ← octetTexts fuel with
        | .constant (.octets more) s => return .constant (.octets (o ++ more)) (l.span.through s)
        | e => return e
      | .text _ | .pieces _ =>
        let _ ← textParts fuel
        refuseHere "cannot mix bytes and nonbytes literals"
      | _ => return .constant (.octets o) l.span
    | _ => unexpected

/-- Reads the expressions in the parts of a text. -/
def formatParts : (fuel : Nat) → Span → List Piece → Read (List FormatPart)
  | 0, _, _ => return []
  | _ + 1, _, [] => return []
  | fuel + 1, span, p :: rest => do
    match p with
    | .text g => return .text g :: (← formatParts fuel span rest)
    | .trouble message => return .trouble message :: (← formatParts fuel span rest)
    | .field source line column shown conversion layout =>
      let before ← get
      let inBrackets := '(' :: source ++ [')']
      -- what is wrong is shown in the expression, as if that stood in brackets
      let trouble {α : Type} : Problem → Read α := fun p =>
        let p : Problem := { p with message := "f-string: " ++ p.message, text := some (String.ofList inBrackets) }
        if p.span.line = line then
          throw { p with span := { p.span with column := p.span.column + 1 - column, endColumn := p.span.endColumn + 1 - column } }
        else throw p
      match lexemes line column false source with
      | .error p => trouble p
      | .ok words =>
        let ls := words.lexemes
        if words.trouble.isSome then trouble (words.trouble.getD { message := "invalid syntax", span })
        let read : Read Expr := do
          let e ← (do if (← isWord "yield") then yieldExpression fuel else starExpressions fuel)
          match (← current).token with
          | .newline | .finish => return e
          | _ => unexpected
        match read.run { before with rest := ls, depth := 1, trouble := none } with
        | .error p => trouble p
        | .ok (e, _) =>
          let layout ← formatParts fuel span layout
          let conversion := if shown.isSome && conversion.isNone && layout.isEmpty then some 'r' else conversion
          return .field e shown conversion layout :: (← formatParts fuel span rest)

/-- What stands between parentheses: a tuple, one expression, or a generator. -/
def inParentheses : (fuel : Nat) → Span → Read Expr
  | 0, _ => unexpected
  | fuel + 1, start => do
    if ← accept ")" then return .tuple [] (← since start)
    else if ← isWord "yield" then
      let e ← yieldExpression fuel
      expect ")"
      return e
    else
      let first ← starNamed fuel
      if (← isWord "for") || (← isWord "async") then
        refuseSpread first
        let cs ← clauses fuel
        expect ")"
        return .comprehension .generator first none cs (← since start)
      else if ← isSign "," then
        let rest ← itemsRest fuel ")"
        refuseTargets first rest
        expect ")"
        return .tuple (first :: rest) (← since start)
      else
        expect ")"
        match first with
        | .starred _ s => refuse s "cannot use starred expression here"
        | e => return e

def inBrackets : (fuel : Nat) → Span → Read Expr
  | 0, _ => unexpected
  | fuel + 1, start => do
    if ← accept "]" then return .list [] (← since start)
    else
      let first ← starNamed fuel
      if (← isWord "for") || (← isWord "async") then
        refuseSpread first
        let cs ← clauses fuel
        expect "]"
        return .comprehension .list first none cs (← since start)
      else
        let rest ← itemsRest fuel "]"
        refuseTargets first rest
        expect "]"
        return .list (first :: rest) (← since start)

def inBraces : (fuel : Nat) → Span → Read Expr
  | 0, _ => unexpected
  | fuel + 1, start => do
    if ← accept "\x7d" then return .dict [] (← since start)
    else if ← isSign "**" then
      let items ← dictItems fuel
      expect "\x7d"
      return .dict items (← since start)
    else
      let first ← starNamed fuel
      if ← isSign ":" then
        let value ← dictValue fuel
        if (← isWord "for") || (← isWord "async") then
          let cs ← clauses fuel
          expect "\x7d"
          return .comprehension .dict first (some value) cs (← since start)
        else
          let rest ← (do if ← accept "," then dictItems fuel else return [] : Read (List (Option Expr × Expr)))
          expect "\x7d"
          return .dict ((some first, value) :: rest) (← since start)
      else if (← isWord "for") || (← isWord "async") then
        refuseSpread first
        let cs ← clauses fuel
        expect "\x7d"
        return .comprehension .set first none cs (← since start)
      else
        let rest ← itemsRest fuel "\x7d"
        refuseTargets first rest
        expect "\x7d"
        return .set (first :: rest) (← since start)

/-- The value behind a key, with the sign before it. -/
def dictValue : (fuel : Nat) → Read Expr
  | 0 => unexpected
  | fuel + 1 => do
    let sign ← pass
    if (← isSign "\x7d") || (← isSign ",") then refuse sign.span "expression expected after dictionary key and ':'"
    else if ← isSign "*" then
      let star ← pass
      let e ← binary fuel binaryLevels
      refuse (star.span.through e.span) "cannot use a starred expression in a dictionary value"
    else expression fuel

def dictItems : (fuel : Nat) → Read (List (Option Expr × Expr))
  | 0 => unexpected
  | fuel + 1 => do
    if ← isSign "\x7d" then return []
    let own ← (do
      if ← isSign "**" then
        let sign ← pass
        let e ← binary fuel binaryLevels
        if ← isWord "for" then refuse sign.span "dict unpacking cannot be used in dict comprehension"
        return (none, e)
      else
        let before ← get
        let k ← (do
          match (expression fuel).run before with
          | .ok (k, after) =>
            set after
            return k
          | .error p =>
            -- a key and what follows it may look like two values without a comma
            match (disjunction fuel).run before with
            | .ok (k, after) =>
              set after
              return k
            | .error _ => throw p : Read Expr)
        if !(← isSign ":") then
          refuse ⟨k.span.endLine, k.span.endColumn - 1, k.span.endLine, k.span.endColumn⟩ "':' expected after dictionary key"
        return (some k, ← dictValue fuel) : Read (Option Expr × Expr))
    if ← accept "," then return own :: (← dictItems fuel) else return [own]

/-- An item of a list, which may be spread. -/
def starNamed : (fuel : Nat) → Read Expr
  | 0 => unexpected
  | fuel + 1 => do
    let l ← current
    if ← accept "*" then
      let e ← binary fuel binaryLevels
      return .starred e (← since l.span)
    else namedExpression fuel

def itemsRest : (fuel : Nat) → (stop : String) → Read (List Expr)
  | 0, _ => unexpected
  | fuel + 1, stop => do
    if ← accept "," then
      if ← isSign stop then return []
      let e ← starNamed fuel
      return e :: (← itemsRest fuel stop)
    else return []

/-- Expressions with commas between them: several make a tuple. -/
def starExpressions : (fuel : Nat) → Read Expr
  | 0 => unexpected
  | fuel + 1 => do
    let one : Read Expr := do
      let l ← current
      if ← accept "*" then
        let e ← binary fuel binaryLevels
        return .starred e (← since l.span)
      else expression fuel
    let first ← one
    if ← isSign "," then
      let rest ← starRest fuel
      return .tuple (first :: rest) (← since first.span)
    else return first

def starRest : (fuel : Nat) → Read (List Expr)
  | 0 => unexpected
  | fuel + 1 => do
    if ← accept "," then
      let l ← current
      if !(l.token.startsExpression || l.token.isSign "*") then return []
      let e ← (do
        if ← accept "*" then
          let e ← binary fuel binaryLevels
          return Expr.starred e (← since l.span)
        else expression fuel)
      return e :: (← starRest fuel)
    else return []

def yieldExpression : (fuel : Nat) → Read Expr
  | 0 => unexpected
  | fuel + 1 => do
    let l ← pass
    let e ← (do
      if ← acceptWord "from" then
        let e ← expression fuel
        return Expr.yieldFrom e (← since l.span)
      else
        let t := (← current).token
        if t.startsExpression || t.isSign "*" then
          let e ← starExpressions fuel
          return .yield (some e) (← since l.span)
        else return .yield none (← since l.span) : Read Expr)
    if !(← get).inFunction then noteLate 1 e.span "'yield' outside function"
    return e

end

/-! ### Simple statements -/

/-- Names with points between them. -/
def dottedName : (fuel : Nat) → Read (List String)
  | 0 => unexpected
  | fuel + 1 => do
    let s ← expectName
    if ← accept "." then return s :: (← dottedName fuel) else return [s]

def asName : Read (Option String) := do
  if ← acceptWord "as" then return some (← expectName) else return none

def imports : (fuel : Nat) → Read (List Import)
  | 0 => unexpected
  | fuel + 1 => do
    let start := (← current).span
    let path ← dottedName fuel
    let name ← asName
    let own : Import := { path, name, span := start }
    if ← accept "," then return own :: (← imports fuel) else return [own]

def importedNames : (fuel : Nat) → Read (List (String × Option String))
  | 0 => unexpected
  | fuel + 1 => do
    let s ← expectName
    let name ← asName
    if ← accept "," then
      if ← isSign ")" then return [(s, name)]
      else if (← current).token matches .newline then refuseHere "trailing comma not allowed without surrounding parentheses"
      else return (s, name) :: (← importedNames fuel)
    else return [(s, name)]

def namesHere : (fuel : Nat) → Read (List String)
  | 0 => unexpected
  | fuel + 1 => do
    let s ← expectName
    if ← accept "," then return s :: (← namesHere fuel) else return [s]

/-- Complains of an item that is spread where it is no part of several. -/
def loneStar (e : Expr) : Read Unit := do
  match e with
  | .starred _ s => noteLate 1 s "can't use starred expression here"
  | _ => return

/-- Complains of stars on the left of an assignment. -/
def checkStars (e : Expr) : Read Unit := do
  let isStarred (e : Expr) : Bool := e matches .starred ..
  match e with
  | .starred _ s => noteLate 1 s "starred assignment target must be in a list or tuple"
  | .tuple es s | .list es s => if (es.filter isStarred).length > 1 then noteLate 1 s "multiple starred expressions in assignment"
  | _ => return

/-- What is assigned, behind a sign for that: to more targets, and at last the value. -/
def assignments (fuel : Nat) : (count : Nat) → List Expr → Read Stmt
  | 0, _ => unexpected
  | count + 1, targets => do
    let e ← (do if ← isWord "yield" then yieldExpression fuel else starExpressions fuel)
    if ← isSign "=" then
      match e with
      | .yield .. | .yieldFrom .. => refuse e.span "assignment to yield expression not possible"
      | _ => checkTarget false nesting e
      let _ ← pass
      assignments fuel count (e :: targets)
    else
      for t in targets do checkStars t
      loneStar e
      return .assign targets.reverse e

def simpleStatement (fuel : Nat) : Read Stmt := do
  let l ← current
  let start := l.span
  let ends : Read Bool := do
    match (← current).token with
    | .newline | .finish | .sign ";" => return true
    | _ => return false
  match l.token with
  | .name "pass" => let _ ← pass; return .pass
  | .name "break" =>
    let _ ← pass
    if !(← get).inLoop then noteLate 1 start "'break' outside loop"
    return .leave
  | .name "continue" =>
    let _ ← pass
    if !(← get).inLoop then noteLate 1 start "'continue' not properly in loop"
    return .nextRound
  | .name "return" =>
    let _ ← pass
    let e ← (do if ← ends then return none else return some (← starExpressions fuel) : Read (Option Expr))
    if !(← get).inFunction then noteLate 1 (← since start) "'return' outside function"
    return .giveBack e
  | .name "raise" =>
    let _ ← pass
    if ← ends then return .raise none none start
    else
      let e ← expression fuel
      let cause ← (do if ← acceptWord "from" then return some (← expression fuel) else return none : Read (Option Expr))
      return .raise (some e) cause (← since start)
  | .name "global" => let _ ← pass; return .shared (← namesHere fuel)
  | .name "nonlocal" => let _ ← pass; return .outer (← namesHere fuel)
  | .name "del" =>
    let _ ← pass
    let e ← starExpressions fuel
    checkTarget true nesting e
    match e with
    | .tuple es _ => return .delete es
    | e => return .delete [e]
  | .name "assert" =>
    let _ ← pass
    let e ← expression fuel
    let message ← (do if ← accept "," then return some (← expression fuel) else return none : Read (Option Expr))
    return .claim e message e.span
  | .name "import" =>
    let _ ← pass
    let ms ← imports fuel
    return .load (ms.map fun m => { m with span := start.through (ms.getLast?.map Import.span |>.getD start) })
  | .name "from" =>
    let _ ← pass
    let dots ← (do
      if ← accept "." then return true else if ← accept "..." then return true else return false : Read Bool)
    let path ← (do if ← isWord "import" then return [] else dottedName fuel : Read (List String))
    expectWord "import"
    let path := if dots then "." :: path else path
    if ← accept "*" then
      if (← get).inFunction then noteLate 0 (← since start) "import * only allowed at module level"
      return .loadFrom path [("*", none)] (← since start)
    else if ← accept "(" then
      let names ← importedNames fuel
      expect ")"
      return .loadFrom path names (← since start)
    else
      if ← ends then unexpected
      let names ← importedNames fuel
      return .loadFrom path names (← since start)
  | .name "yield" =>
    let e ← yieldExpression fuel
    return .expr e
  | _ =>
    let e ← starExpressions fuel
    match (← current).token with
    | .sign "=" =>
      match (checkTarget false nesting e).run (← get) with
      | .ok _ => pure ()
      | .error p =>
        match e with
        | .tuple es _ => mistakenEquals fuel (es.getLast?.getD e)
        | e => mistakenEquals fuel e
        throw p
      let _ ← pass
      assignments fuel (fuel + 1) [e]
    | .sign ":" =>
      match e with
      | .name .. | .attribute .. | .subscript .. =>
        let _ ← pass
        let _ ← expression fuel
        let value ← (do
          if ← accept "=" then return some (← (do if ← isWord "yield" then yieldExpression fuel else starExpressions fuel))
          else return none : Read (Option Expr))
        return .annotated e value
      | .tuple es s =>
        let first := (es.head?.elim s Expr.span)
        refuse (if first.column = s.column then first else s) "only single target (not tuple) can be annotated"
      | .list .. => refuse e.span "only single target (not list) can be annotated"
      | _ => unexpected
    | .sign s =>
      match augmentedOps.lookup s with
      | some op =>
        match e with
        | .name .. | .attribute .. | .subscript .. => pure ()
        | e => refuse e.span ("'" ++ e.called ++ "' is an illegal expression for augmented assignment")
        let _ ← pass
        let value ← (do if ← isWord "yield" then yieldExpression fuel else starExpressions fuel)
        return .augmented e op value (← since start)
      | none => return .expr e
    | t =>
      match e with
      | .name "print" _ | .name "exec" _ =>
        if t.startsExpression then
          match (starExpressions fuel).run (← get) with
          | .ok (b, _) =>
            let which := match e with
              | .name s _ => s
              | _ => ""
            refuse (joinSpan e b) ("Missing parentheses in call to '" ++ which ++ "'. Did you mean " ++ which ++ "(...)?")
          | .error p => throw p
        else return .expr e
      | e =>
        loneStar e
        return .expr e

/-- The statements of one line. -/
def simpleLine (fuel : Nat) : (count : Nat) → Read (List Stmt)
  | 0 => unexpected
  | count + 1 => do
    let s ← simpleStatement fuel
    if ← accept ";" then
      match (← current).token with
      | .newline =>
        let _ ← pass
        return [s]
      | .finish => return [s]
      | _ => return s :: (← simpleLine fuel count)
    else
      match (← current).token with
      | .newline =>
        let _ ← pass
        return [s]
      | .finish => return [s]
      | _ => unexpected

/-! ### Shapes -/

mutual

/-- Shapes with commas between them. -/
def openShape : (fuel : Nat) → Read Shape
  | 0 => unexpected
  | fuel + 1 => do
    let first ← starShape fuel
    if ← isSign "," then
      let rest ← shapesRest fuel ":"
      return .sequence (first :: rest)
    else return first

def starShape : (fuel : Nat) → Read Shape
  | 0 => unexpected
  | fuel + 1 => do
    if ← accept "*" then
      let name ← expectName
      return .star (if name = "_" then none else some name)
    else shape fuel

def shapesRest : (fuel : Nat) → (stop : String) → Read (List Shape)
  | 0, _ => unexpected
  | fuel + 1, stop => do
    if ← accept "," then
      if (← isSign stop) || (← isWord "if") then return []
      let s ← starShape fuel
      return s :: (← shapesRest fuel stop)
    else return []

/-- Shapes one of which has to fit, with a name for the value. -/
def shape : (fuel : Nat) → Read Shape
  | 0 => unexpected
  | fuel + 1 => do
    let first ← closedShape fuel
    let s ← (do
      if ← isSign "|" then return Shape.either (first :: (← eitherRest fuel)) else return first)
    if ← acceptWord "as" then return .named s (← expectName) else return s

def eitherRest : (fuel : Nat) → Read (List Shape)
  | 0 => unexpected
  | fuel + 1 => do
    if ← accept "|" then
      let s ← closedShape fuel
      return s :: (← eitherRest fuel)
    else return []

def closedShape : (fuel : Nat) → Read Shape
  | 0 => unexpected
  | fuel + 1 => do
    let l ← current
    match l.token with
    | .sign "(" =>
      let _ ← pass
      if ← accept ")" then return .sequence []
      let first ← starShape fuel
      if ← isSign "," then
        let rest ← shapesRest fuel ")"
        expect ")"
        return .sequence (first :: rest)
      else
        expect ")"
        return first
    | .sign "[" =>
      let _ ← pass
      if ← accept "]" then return .sequence []
      let first ← starShape fuel
      let rest ← shapesRest fuel "]"
      expect "]"
      return .sequence (first :: rest)
    | .sign "\x7b" =>
      let _ ← pass
      let (items, rest) ← mappingItems fuel
      expect "\x7d"
      return .mapping items rest
    | .name s =>
      if ["None", "True", "False"].contains s then return .value (← atom fuel)
      else
        let name ← expectName
        match (← current).token with
        | .sign "." | .sign "(" =>
          let e ← dotted fuel (.name name l.span)
          if ← accept "(" then
            let (shapes, named) ← instanceItems fuel
            expect ")"
            return .instance_ e shapes named
          else return .value e
        | _ => return .capture (if name = "_" then none else some name)
    | _ => return .value (← binary fuel (binaryLevels.drop 4))

def dotted : (fuel : Nat) → Expr → Read Expr
  | 0, e => return e
  | fuel + 1, e => do
    if ← accept "." then
      let s ← expectName
      dotted fuel (.attribute e s (← since e.span))
    else return e

def mappingItems : (fuel : Nat) → Read (List (Expr × Shape) × Option String)
  | 0 => unexpected
  | fuel + 1 => do
    if ← isSign "\x7d" then return ([], none)
    else if ← accept "**" then
      let name ← expectName
      let _ ← accept ","
      return ([], some name)
    else
      let k ← binary fuel (binaryLevels.drop 4)
      expect ":"
      let s ← shape fuel
      if ← accept "," then
        let (items, rest) ← mappingItems fuel
        return ((k, s) :: items, rest)
      else return ([(k, s)], none)

def instanceItems : (fuel : Nat) → Read (List Shape × List (String × Shape))
  | 0 => unexpected
  | fuel + 1 => do
    if ← isSign ")" then return ([], [])
    let own ← (do
      match (← current).token, ← ahead 1 with
      | .name s, .sign "=" =>
        let _ ← pass
        let _ ← pass
        return Sum.inr (s, ← shape fuel)
      | _, _ => return Sum.inl (← shape fuel) : Read (Shape ⊕ (String × Shape)))
    let (shapes, named) ← (do if ← accept "," then instanceItems fuel else return ([], []))
    match own with
    | .inl s => return (s :: shapes, named)
    | .inr s => return (shapes, s :: named)

end

/-! ### Compound statements -/

/-- Passes the colon before a block.  Where the line does not end, some words allow nothing else. -/
def expectColon (allowsNothingElse : Bool := false) : Read Unit := do
  if !(← accept ":") then
    let l ← current
    if allowsNothingElse || l.token matches .newline then refuse l.span "expected ':'" else unexpected

/-- Reads the body of a function: with no loop around it. -/
def asFunction {α : Type} (read : Read α) : Read α := do
  let before ← get
  modify fun s => { s with inFunction := true, inLoop := false }
  let a ← read
  modify fun s => { s with inFunction := before.inFunction, inLoop := before.inLoop }
  return a

def asLoop {α : Type} (read : Read α) : Read α := do
  let before ← get
  modify fun s => { s with inLoop := true }
  let a ← read
  modify fun s => { s with inLoop := before.inLoop }
  return a

def withItem (fuel : Nat) : Read (Expr × Option Expr) := do
  let e ← expression fuel
  if ← acceptWord "as" then
    let t ← (do if ← isSign "(" then atom fuel else primary fuel (← current).span (← atom fuel))
    checkTarget false nesting t
    return (e, some t)
  else return (e, none)

def withItems (fuel : Nat) : (count : Nat) → Read (List (Expr × Option Expr))
  | 0 => unexpected
  | count + 1 => do
    let own ← withItem fuel
    if ← accept "," then
      if ← isSign ")" then return [own] else return own :: (← withItems fuel count)
    else return [own]

mutual

/-- A block: the rest of the line, or the lines that stand further in. -/
def block : (fuel : Nat) → (what : String) → (line : Nat) → Read (List Stmt)
  | 0, _, _ => unexpected
  | fuel + 1, what, line => do
    match (← current).token with
    | .newline =>
      let _ ← pass
      match (← current).token with
      | .indent =>
        let _ ← pass
        statements fuel true
      | _ => refuseHere ("expected an indented block after " ++ what ++ " on line " ++ line.repr) "IndentationError"
    | _ => simpleLine fuel (fuel + 1)

/-- Statements up to the end of a block, or of the script. -/
def statements : (fuel : Nat) → (inBlock : Bool) → Read (List Stmt)
  | 0, _ => unexpected
  | fuel + 1, inBlock => do
    match (← current).token with
    | .finish =>
      match (← get).trouble with
      | some p => throw p
      | none => return []
    | .dedent =>
      if inBlock then
        let _ ← pass
        return []
      else unexpected
    | .newline =>
      let _ ← pass
      statements fuel inBlock
    | _ =>
      let own ← statement fuel
      return own ++ (← statements fuel inBlock)

def statement : (fuel : Nat) → Read (List Stmt)
  | 0 => unexpected
  | fuel + 1 => do
    let l ← current
    let line := l.span.line
    match l.token with
    | .name "if" =>
      let _ ← pass
      return [← branch fuel "'if' statement" line]
    | .name "while" =>
      let _ ← pass
      let test ← namedExpression fuel
      expectColon
      let body ← asLoop (block fuel "'while' statement" line)
      return [.loop test body (← otherwise fuel)]
    | .name "for" => return [← forLoop fuel line]
    | .name "try" =>
      let _ ← pass
      expectColon true
      let body ← block fuel "'try' statement" line
      if !((← isWord "except") || (← isWord "finally")) then refuseHere "expected 'except' or 'finally' block"
      let hs ← handlers fuel
      let other ← otherwise fuel
      let end_ ← (do
        if ← isWord "finally" then
          let line := (← pass).span.line
          expectColon true
          return some (← block fuel "'finally' statement" line)
        else return none : Read (Option (List Stmt)))
      return [.attempt body hs other (end_.getD [])]
    | .name "with" =>
      let _ ← pass
      return [← withStatement fuel line]
    | .name "def" => return [← define fuel []]
    | .name "class" => return [← classStatement fuel []]
    | .name "async" =>
      let _ ← pass
      statement fuel
    | .sign "@" => return [← decorated fuel]
    | .name "match" =>
      let before ← get
      match (matchStatement fuel line).run before with
      | .ok (s, after) =>
        set after
        return [s]
      | .error p =>
        match (simpleLine fuel (fuel + 1)).run before with
        | .ok (ss, after) =>
          set after
          return ss
        | .error _ => throw p
    | .indent => unexpected
    | _ => simpleLine fuel (fuel + 1)

/-- What is done when a test fails, or a loop ends by itself. -/
def otherwise : (fuel : Nat) → Read (List Stmt)
  | 0 => unexpected
  | fuel + 1 => do
    if ← isWord "else" then
      let line := (← pass).span.line
      expectColon true
      block fuel "'else' statement" line
    else return []

def branch : (fuel : Nat) → (what : String) → (line : Nat) → Read Stmt
  | 0, _, _ => unexpected
  | fuel + 1, what, line => do
    let test ← namedExpression fuel
    expectColon
    let yes ← block fuel what line
    if ← isWord "elif" then
      let line := (← pass).span.line
      return .branch test yes [← branch fuel "'elif' statement" line]
    else return .branch test yes (← otherwise fuel)

def forLoop : (fuel : Nat) → (line : Nat) → Read Stmt
  | 0, _ => unexpected
  | fuel + 1, line => do
    let _ ← pass
    let target ← loopTarget fuel
    let source ← starExpressions fuel
    expectColon
    let body ← asLoop (block fuel "'for' statement" line)
    return .each target source body (← otherwise fuel)

def handlers : (fuel : Nat) → Read (List Handler)
  | 0 => unexpected
  | fuel + 1 => do
    if ← isWord "except" then
      let word := (← pass).span
      let line := word.line
      let _ ← accept "*"
      let kind ← (do
        if (← isSign ":") || (← current).token matches .newline then return none
        else
          let e ← expression fuel
          if ← isSign "," then
            let s ← starExpressions fuel |>.run { (← get) with rest := (← get).rest.tail } |> fun
              | .ok (b, _) => pure (joinSpan e b)
              | .error _ => pure e.span
            refuse s "multiple exception types must be parenthesized"
          return some e : Read (Option Expr))
      let name ← asName
      expectColon
      let body ← block fuel "'except' statement" line
      if kind.isNone && (← isWord "except") then noteLate 1 word "default 'except:' must be last"
      return .mk kind name body :: (← handlers fuel)
    else return []

def withStatement : (fuel : Nat) → (line : Nat) → Read Stmt
  | 0, _ => unexpected
  | fuel + 1, line => do
    let before ← get
    let inside : Read (List (Expr × Option Expr)) := do
      expect "("
      let items ← bracketed (withItems fuel (fuel + 1))
      expect ")"
      if !(← isSign ":") then unexpected
      return items
    let items ← (do
      match inside.run before with
      | .ok (items, after) =>
        set after
        return items
      | .error _ => withItems fuel (fuel + 1) : Read (List (Expr × Option Expr)))
    expectColon
    let body ← block fuel "'with' statement" line
    return .within items body

def define : (fuel : Nat) → (decorators : List Expr) → Read Stmt
  | 0, _ => unexpected
  | fuel + 1, decorators => do
    let start ← pass
    let name ← expectName
    if !(← isSign "(") then refuseHere "expected '('"
    expect "("
    let ps ← arranged (← bracketed (parameters fuel true ")" {}))
    expect ")"
    if ← accept "->" then
      let _ ← expression fuel
    expectColon true
    let body ← asFunction (block fuel "function definition" start.span.line)
    return .define name ps body decorators start.span

def classStatement : (fuel : Nat) → (decorators : List Expr) → Read Stmt
  | 0, _ => unexpected
  | fuel + 1, decorators => do
    let start ← pass
    let name ← expectName
    let args ← (do
      if ← accept "(" then
        let args ← bracketed (arguments fuel {})
        expect ")"
        return args
      else return [] : Read (List Argument))
    expectColon
    let before ← get
    modify fun s => { s with inFunction := false, inLoop := false }
    let body ← block fuel "class definition" start.span.line
    modify fun s => { s with inFunction := before.inFunction, inLoop := before.inLoop }
    return .class_ name args body decorators start.span

def decorated : (fuel : Nat) → Read Stmt
  | 0 => unexpected
  | fuel + 1 => do
    let decorators ← decorators fuel
    let _ ← acceptWord "async"
    if ← isWord "def" then define fuel decorators
    else if ← isWord "class" then classStatement fuel decorators
    else unexpected

def decorators : (fuel : Nat) → Read (List Expr)
  | 0 => unexpected
  | fuel + 1 => do
    if ← accept "@" then
      let e ← namedExpression fuel
      match (← current).token with
      | .newline =>
        let _ ← pass
        return e :: (← decorators fuel)
      | _ => unexpected
    else return []

def matchStatement : (fuel : Nat) → (line : Nat) → Read Stmt
  | 0, _ => unexpected
  | fuel + 1, line => do
    let _ ← pass
    let subject ← starExpressions fuel
    expectColon
    match (← current).token with
    | .newline =>
      let _ ← pass
      match (← current).token with
      | .indent =>
        let _ ← pass
        return .choose subject (← arms fuel)
      | _ => refuseHere ("expected an indented block after 'match' statement on line " ++ line.repr) "IndentationError"
    | _ => unexpected

def arms : (fuel : Nat) → Read (List Arm)
  | 0 => unexpected
  | fuel + 1 => do
    match (← current).token with
    | .dedent =>
      let _ ← pass
      return []
    | .name "case" =>
      let line := (← pass).span.line
      let s ← openShape fuel
      let guard ← (do if ← acceptWord "if" then return some (← namedExpression fuel) else return none : Read (Option Expr))
      expectColon
      let body ← block fuel "'case' statement" line
      return .mk s guard body :: (← arms fuel)
    | _ => unexpected

end

end Reader

open Reader

/-- What was read, unless something stands where it does not make sense; or what is wrong. -/
def finished {α : Type} (words : Words) (result : Except Problem (α × Parsing)) : Except Problem α :=
  match result with
  | .ok (a, s) =>
    match (s.late.filter (·.1 = 0)).head?.or s.late.head? with
    | some (_, p) => .error p
    | none => .ok a
  | .error p =>
    match words.openLine, words.trouble with
    -- a bracket that is never closed is the likely reason for what is wrong on later lines
    | some line, some q => .error (if p.span.endLine > line then q else p)
    | _, _ => .error p

/-- A whole script. -/
def readScript (source : List Char) : Except Problem (List Stmt) := do
  let fuel := 60 * source.length + 1000
  let words ← lexemes 1 0 true source
  finished words ((statements fuel false).run { rest := words.lexemes, trouble := words.trouble })

/-- A script that is one expression. -/
def readExpression (source : List Char) : Except Problem Expr := do
  let fuel := 60 * source.length + 1000
  let words ← lexemes 1 0 false (source.dropWhile fun c => c = ' ' || c = '\t')
  let read : Read Expr := do
    let e ← starExpressions fuel
    match (← current).token with
    | .newline | .finish => return e
    | _ => unexpected
  finished words (read.run { rest := words.lexemes, trouble := words.trouble })

end GrammarStudio.ObjectScript
