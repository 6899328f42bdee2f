import GrammarStudio.ObjectScript.Token

/-!
# Scripts as they are read

* `Expr` — expressions, each with its place where something can go wrong with it;
* `Clause`, `Argument`, `Parameter` — the parts of expressions that are none themselves;
* `Stmt` — statements;
* `Stmt.assigned` — the names that statements give values to.
-/

namespace GrammarStudio.ObjectScript

open Machine

inductive Constant where
  | none
  | true
  | false
  | ellipsis
  | integer (n : Nat)
  | float (x : Float)
  | text (g : Glyphs)
  | octets (o : Octets)
  deriving Inhabited

inductive UnaryOp where
  | plus
  | minus
  | invert
  deriving DecidableEq, Repr

inductive BinaryOp where
  | add
  | subtract
  | multiply
  | divide
  | floorDivide
  | remainder
  | power
  | shiftLeft
  | shiftRight
  | and
  | or
  | xor
  | matrix
  deriving DecidableEq, Repr

def BinaryOp.sign : BinaryOp → String
  | .add => "+"
  | .subtract => "-"
  | .multiply => "*"
  | .divide => "/"
  | .floorDivide => "//"
  | .remainder => "%"
  | .power => "** or pow()"
  | .shiftLeft => "<<"
  | .shiftRight => ">>"
  | .and => "&"
  | .or => "|"
  | .xor => "^"
  | .matrix => "@"

inductive CompareOp where
  | equal
  | unequal
  | less
  | lessEqual
  | greater
  | greaterEqual
  | is
  | isNot
  | isIn
  | notIn
  deriving DecidableEq, Repr

def CompareOp.sign : CompareOp → String
  | .equal => "=="
  | .unequal => "!="
  | .less => "<"
  | .lessEqual => "<="
  | .greater => ">"
  | .greaterEqual => ">="
  | .is => "is"
  | .isNot => "is not"
  | .isIn => "in"
  | .notIn => "not in"

/-- What a comprehension makes. -/
inductive Collecting where
  | list
  | set
  | dict
  | generator
  deriving DecidableEq, Repr

mutual

inductive Expr where
  | constant (c : Constant) (span : Span)
  | name (s : String) (span : Span)
  | formatted (parts : List FormatPart) (span : Span)
  | tuple (items : List Expr) (span : Span)
  | list (items : List Expr) (span : Span)
  | set (items : List Expr) (span : Span)
  /-- Values under keys; what has no key is a mapping whose items are put in. -/
  | dict (items : List (Option Expr × Expr)) (span : Span)
  | starred (e : Expr) (span : Span)
  | unary (op : UnaryOp) (e : Expr) (span : Span)
  | binary (op : BinaryOp) (a b : Expr) (span : Span)
  | compare (first : Expr) (rest : List (CompareOp × Expr)) (span : Span)
  | not (e : Expr) (span : Span)
  | and (a b : Expr) (span : Span)
  | or (a b : Expr) (span : Span)
  | conditional (test yes no : Expr) (span : Span)
  | lambda (parameters : List Parameter) (body : Expr) (span : Span)
  | call (function : Expr) (args : List Argument) (span : Span)
  | attribute (e : Expr) (name : String) (span : Span)
  | subscript (e index : Expr) (span : Span)
  | slice (start stop step : Option Expr) (span : Span)
  | comprehension (kind : Collecting) (element : Expr) (value : Option Expr) (clauses : List Clause) (span : Span)
  | assigned (name : String) (e : Expr) (span : Span)
  | yield (e : Option Expr) (span : Span)
  | yieldFrom (e : Expr) (span : Span)

inductive FormatPart where
  | text (g : Glyphs)
  /-- What is wrong with the text. -/
  | trouble (message : String)
  | field (e : Expr) (shown : Option Glyphs) (conversion : Option Char) (layout : List FormatPart)

/-- A loop or a condition inside a comprehension. -/
inductive Clause where
  | each (target : Expr) (source : Expr)
  | when (condition : Expr)

inductive Argument where
  | plain (e : Expr)
  | named (name : String) (e : Expr)
  | spread (e : Expr)
  | spreadNamed (e : Expr)

inductive ParameterKind where
  | usual
  | positionOnly
  | nameOnly
  | rest
  | namedRest

inductive Parameter where
  | mk (name : String) (kind : ParameterKind) (default : Option Expr)

end

instance : Inhabited Expr := ⟨.constant .none ⟨1, 0, 1, 0⟩⟩

def Expr.span : Expr → Span
  | .constant _ s | .name _ s | .formatted _ s | .tuple _ s | .list _ s | .set _ s | .dict _ s | .starred _ s | .unary _ _ s
  | .binary _ _ _ s | .compare _ _ s | .not _ s | .and _ _ s | .or _ _ s | .conditional _ _ _ s | .lambda _ _ s | .call _ _ s
  | .attribute _ _ s | .subscript _ _ s | .slice _ _ _ s | .comprehension _ _ _ _ s | .assigned _ _ s | .yield _ s
  | .yieldFrom _ s => s

def Parameter.name : Parameter → String
  | .mk n _ _ => n

structure Import where
  path : List String
  name : Option String
  span : Span

mutual

inductive Stmt where
  | expr (e : Expr)
  | assign (targets : List Expr) (value : Expr)
  | augmented (target : Expr) (op : BinaryOp) (value : Expr) (span : Span)
  | annotated (target : Expr) (value : Option Expr)
  | delete (targets : List Expr)
  | pass
  | leave
  | nextRound
  | giveBack (e : Option Expr)
  | raise (e cause : Option Expr) (span : Span)
  | shared (names : List String)
  | outer (names : List String)
  | load (modules : List Import)
  | loadFrom (path : List String) (names : List (String × Option String)) (span : Span)
  | claim (test : Expr) (message : Option Expr) (span : Span)
  | branch (test : Expr) (yes no : List Stmt)
  | loop (test : Expr) (body otherwise : List Stmt)
  | each (target source : Expr) (body otherwise : List Stmt)
  | attempt (body : List Stmt) (handlers : List Handler) (otherwise finally_ : List Stmt)
  | within (items : List (Expr × Option Expr)) (body : List Stmt)
  | define (name : String) (parameters : List Parameter) (body : List Stmt) (decorators : List Expr) (span : Span)
  | class_ (name : String) (args : List Argument) (body : List Stmt) (decorators : List Expr) (span : Span)
  | choose (subject : Expr) (arms : List Arm)

inductive Handler where
  | mk (kind : Option Expr) (name : Option String) (body : List Stmt)

/-- A shape that a value may have, with what is done when it has it. -/
inductive Arm where
  | mk (shape : Shape) (guard : Option Expr) (body : List Stmt)

inductive Shape where
  | value (e : Expr)
  | capture (name : Option String)
  | either (shapes : List Shape)
  | sequence (shapes : List Shape)
  | star (name : Option String)
  | named (shape : Shape) (name : String)
  | mapping (items : List (Expr × Shape)) (rest : Option String)
  | instance_ (kind : Expr) (shapes : List Shape) (named : List (String × Shape))

end

instance : Inhabited Stmt := ⟨.pass⟩

/-! ### The names that statements give values to -/

/-- The names in what is assigned to. -/
def Expr.targets : (fuel : Nat) → Expr → List String
  | 0, _ => []
  | fuel + 1, e =>
    match e with
    | .name s _ => [s]
    | .tuple es _ | .list es _ => es.flatMap (Expr.targets fuel)
    | .starred e _ => e.targets fuel
    | _ => []

mutual

/-- The names that an expression gives values to. -/
def Expr.named : (fuel : Nat) → Expr → List String
  | 0, _ => []
  | fuel + 1, e =>
    match e with
    | .constant .. | .name .. => []
    | .formatted parts _ => parts.flatMap (FormatPart.named fuel)
    | .tuple es _ | .list es _ | .set es _ => es.flatMap (Expr.named fuel)
    | .dict items _ => items.flatMap fun (k, v) => (k.toList ++ [v]).flatMap (Expr.named fuel)
    | .starred e _ | .unary _ e _ | .not e _ | .attribute e _ _ | .yieldFrom e _ => e.named fuel
    | .binary _ a b _ | .and a b _ | .or a b _ | .subscript a b _ => a.named fuel ++ b.named fuel
    | .compare a rest _ => a.named fuel ++ rest.flatMap fun (_, e) => e.named fuel
    | .conditional a b c _ => a.named fuel ++ b.named fuel ++ c.named fuel
    | .lambda .. => []
    | .call f args _ => f.named fuel ++ args.flatMap fun
      | .plain e | .named _ e | .spread e | .spreadNamed e => e.named fuel
    | .slice a b c _ => (a.toList ++ b.toList ++ c.toList).flatMap (Expr.named fuel)
    | .comprehension _ e v clauses _ => e.named fuel ++ v.toList.flatMap (Expr.named fuel) ++ clauses.flatMap fun
      | .each _ e | .when e => e.named fuel
    | .assigned name e _ => name :: e.named fuel
    | .yield e _ => e.toList.flatMap (Expr.named fuel)

def FormatPart.named : (fuel : Nat) → FormatPart → List String
  | 0, _ => []
  | fuel + 1, p =>
    match p with
    | .text _ | .trouble _ => []
    | .field e _ _ layout => e.named fuel ++ layout.flatMap (FormatPart.named fuel)

end

def Shape.names : (fuel : Nat) → Shape → List String
  | 0, _ => []
  | fuel + 1, s =>
    match s with
    | .value _ => []
    | .capture n | .star n => n.toList
    | .either ss | .sequence ss => ss.flatMap (Shape.names fuel)
    | .named s n => n :: s.names fuel
    | .mapping items rest => items.flatMap (fun i => i.2.names fuel) ++ rest.toList
    | .instance_ _ ss parts => ss.flatMap (Shape.names fuel) ++ parts.flatMap fun i => i.2.names fuel

/-- How deep a script nests at most. -/
def nesting : Nat := 1000

/-- The names that a statement gives values to, those in functions of its own left out. -/
def Stmt.assigned : (fuel : Nat) → Stmt → List String
  | 0, _ => []
  | fuel + 1, s =>
    let block (ss : List Stmt) : List String := ss.flatMap (Stmt.assigned fuel)
    let inside (e : Expr) : List String := e.named nesting
    let targets (e : Expr) : List String := e.targets nesting
    match s with
    | .expr e => inside e
    | .assign ts e => ts.flatMap targets ++ inside e
    | .augmented t _ e _ => targets t ++ inside e
    | .annotated t e => targets t ++ e.toList.flatMap inside
    | .delete ts => ts.flatMap targets
    | .pass | .leave | .nextRound | .shared _ | .outer _ => []
    | .giveBack e => e.toList.flatMap inside
    | .raise e c _ => (e.toList ++ c.toList).flatMap inside
    | .load modules => modules.map fun m => m.name.getD (m.path.headD "")
    | .loadFrom _ names _ => names.map fun n => n.2.getD n.1
    | .claim e m _ => inside e ++ m.toList.flatMap inside
    | .branch e yes no => inside e ++ block yes ++ block no
    | .loop e body otherwise => inside e ++ block body ++ block otherwise
    | .each t e body otherwise => targets t ++ inside e ++ block body ++ block otherwise
    | .attempt body handlers otherwise finally_ =>
      block body ++ (handlers.flatMap fun
        | .mk _ name body => name.toList ++ block body) ++ block otherwise ++ block finally_
    | .within items body => (items.flatMap fun (e, t) => inside e ++ t.toList.flatMap targets) ++ block body
    | .define name .. | .class_ name .. => [name]
    | .choose e arms => inside e ++ arms.flatMap fun
      | .mk shape guard body => shape.names nesting ++ guard.toList.flatMap inside ++ block body

mutual

/-- Does an expression give values to the one who runs through the function? -/
def Expr.yields : (fuel : Nat) → Expr → Bool
  | 0, _ => false
  | fuel + 1, e =>
    match e with
    | .yield .. | .yieldFrom .. => true
    | .constant .. | .name .. | .lambda .. | .comprehension .. => false
    | .formatted parts _ => parts.any (FormatPart.yields fuel)
    | .tuple es _ | .list es _ | .set es _ => es.any (Expr.yields fuel)
    | .dict items _ => items.any fun (k, v) => (k.toList ++ [v]).any (Expr.yields fuel)
    | .starred e _ | .unary _ e _ | .not e _ | .attribute e _ _ | .assigned _ e _ => e.yields fuel
    | .binary _ a b _ | .and a b _ | .or a b _ | .subscript a b _ => a.yields fuel || b.yields fuel
    | .compare a rest _ => a.yields fuel || rest.any fun (_, e) => e.yields fuel
    | .conditional a b c _ => a.yields fuel || b.yields fuel || c.yields fuel
    | .call f args _ => f.yields fuel || args.any fun
      | .plain e | .named _ e | .spread e | .spreadNamed e => e.yields fuel
    | .slice a b c _ => (a.toList ++ b.toList ++ c.toList).any (Expr.yields fuel)

def FormatPart.yields : (fuel : Nat) → FormatPart → Bool
  | 0, _ => false
  | fuel + 1, p =>
    match p with
    | .text _ | .trouble _ => false
    | .field e _ _ layout => e.yields fuel || layout.any (FormatPart.yields fuel)

end

/-- Does a statement give values to the one who runs through the function? -/
def Stmt.yields : (fuel : Nat) → Stmt → Bool
  | 0, _ => false
  | fuel + 1, s =>
    let block (ss : List Stmt) : Bool := ss.any (Stmt.yields fuel)
    let inside (e : Expr) : Bool := e.yields nesting
    match s with
    | .expr e => inside e
    | .assign ts e => ts.any inside || inside e
    | .augmented t _ e _ => inside t || inside e
    | .annotated _ e | .giveBack e => e.any inside
    | .delete ts => ts.any inside
    | .raise e c _ => e.any inside || c.any inside
    | .claim e m _ => inside e || m.any inside
    | .branch e yes no => inside e || block yes || block no
    | .loop e body otherwise => inside e || block body || block otherwise
    | .each _ e body otherwise => inside e || block body || block otherwise
    | .attempt body handlers otherwise finally_ =>
      block body || (handlers.any fun
        | .mk _ _ body => block body) || block otherwise || block finally_
    | .within items body => (items.any fun (e, _) => inside e) || block body
    | .choose e arms => inside e || arms.any fun
      | .mk _ _ body => block body
    | _ => false

/-- The names that statements say are those of the script, or of an enclosing function. -/
def Stmt.declared (isShared : Bool) : (fuel : Nat) → Stmt → List String
  | 0, _ => []
  | fuel + 1, s =>
    let block (ss : List Stmt) : List String := ss.flatMap (Stmt.declared isShared fuel)
    match s with
    | .shared names => if isShared then names else []
    | .outer names => if isShared then [] else names
    | .branch _ yes no => block yes ++ block no
    | .loop _ body otherwise | .each _ _ body otherwise => block body ++ block otherwise
    | .attempt body handlers otherwise finally_ =>
      block body ++ (handlers.flatMap fun
        | .mk _ _ body => block body) ++ block otherwise ++ block finally_
    | .within _ body => block body
    | .choose _ arms => arms.flatMap fun
      | .mk _ _ body => block body
    | _ => []

end GrammarStudio.ObjectScript
