import GrammarStudio.RecordScript.Token
import GrammarStudio.Regex.Posix

/-!
# Reading a script for records

* `Reading` — what is known while a script is read;
* `flavour` — how regular expressions are written in such scripts;
* `expr`, `statement`, `item` — the parts of a script;
* `Script.read` — a whole script, or why it is none.

The fuel bounds how deep a script nests and how much stands in a row; it has enough of it by its length.
-/

namespace GrammarStudio.RecordScript

open Machine Regex

/-- What a name has been used as. -/
inductive Use where
  | unknown
  | variable
  | table
  deriving DecidableEq, Repr

/-- That a function hands one of its arguments, or a variable, to a function. -/
structure Handing where
  giver : Option Nat
  argument : Nat
  taker : Nat
  position : Nat

structure Reading where
  rest : List Lexeme
  names : Array (String × Use)
  /-- The functions, with the line where one was last called and how many arguments it got. -/
  functions : Array (String × Option Function)
  calls : List (Nat × Nat × Nat) := []
  handings : List Handing := []
  /-- The function that is being read, with its arguments. -/
  inside : Option (Nat × List String) := none
  ownTables : List Nat := []
  loops : Nat := 0
  isRecordRule : Bool := true
  ranges : Nat := 0

/-- A reader of scripts, which may end with a message. -/
abbrev Read := StateT Reading (Except Octets)

/-- How regular expressions are written. -/
def flavour : Flavour :=
  { extended := true, spelled := true, classes := false, dangling := .fault, plainBraces := true, looseClosing := true
    fullBranches := true }

/-- Why a text is no regular expression. -/
def patternFault (o : Octets) (f : Regex.Fault) : Octets :=
  let why := match f with
    | .openGroup => "missing ')'"
    | .closedGroup => "missing '('"
    | .nothingToRepeat => "missing operand"
    | .openBracket | .badClass | .badPattern | .badRange | .badCollation => "bad class -- [], [^] or ["
    | _ => "bad escape"
  ascii "regular expression compile failed (" ++ ascii why ++ ascii ")\n" ++ o

/-! ### Words -/

def current : Read Lexeme := do return (← get).rest.headD default

def next : Read Lexeme := do
  let s ← get
  match s.rest with
  | [] => return default
  | l :: rest =>
    if !rest.isEmpty then set { s with rest }
    return l

def atLine (line : Nat) (message : Octets) : Octets := ascii "line " ++ Octets.ofNat line ++ ascii ": " ++ message

def refuse {α : Type} (line : Nat) (message : Octets) : Read α := throw (atLine line message)

/-- Something stands where it cannot. -/
def unexpected {α : Type} : Read α := do
  let l ← current
  match l.token with
  | .fault message => refuse l.line message
  | .stray shown => throw (Octets.ofNat l.line ++ ascii ": unexpected character " ++ shown)
  | t =>
    if l.parens > 0 then refuse l.line (ascii "missing ) near " ++ t.shown)
    else if l.braces > 0 && t matches .finish then refuse l.line (ascii "missing \x7d near " ++ t.shown)
    else refuse l.line (ascii "syntax error at or near " ++ t.shown)

def isNext (s : String) : Read Bool := do return (← current).token.isSign s

/-- Passes a sign if it is the next word. -/
def accept (s : String) : Read Bool := do
  if ← isNext s then
    let _ ← next
    return true
  else return false

def expect (s : String) : Read Unit := do
  if !(← accept s) then unexpected

def skipNewlines : (fuel : Nat) → Read Unit
  | 0 => return
  | fuel + 1 => do
    match (← current).token with
    | .newline =>
      let _ ← next
      skipNewlines fuel
    | _ => return

/-- Passes what can stand between rules and statements. -/
def skipSeparators : (fuel : Nat) → Read Unit
  | 0 => return
  | fuel + 1 => do
    let t := (← current).token
    if t.isSign ";" || t matches .newline then
      let _ ← next
      skipSeparators fuel
    else return

/-! ### Names -/

def useWord : Use → Octets
  | .table => ascii "array "
  | _ => ascii "variable "

/-- The place of a name that is used in some way. -/
def resolve (line : Nat) (name : String) (use : Use) : Read Place := do
  let s ← get
  let own := s.inside.bind fun (_, arguments) => arguments.findIdx? (· == name)
  match own with
  | some n =>
    if use = .table && !s.ownTables.contains n then set { s with ownTables := n :: s.ownTables }
    return .own n
  | none =>
    if s.functions.any (fun f => f.1 == name && f.2.isSome) then
      refuse line (ascii "illegal reference to function " ++ ascii name)
    match s.names.findIdx? (·.1 == name) with
    | none =>
      set { s with names := s.names.push (name, use) }
      return .shared s.names.size
    | some n =>
      let known := (s.names.getD n ("", .unknown)).2
      if use ≠ .unknown && known ≠ .unknown && use ≠ known then
        refuse line (ascii "illegal reference to " ++ useWord known ++ ascii name)
      if use ≠ .unknown && known = .unknown then set { s with names := s.names.setIfInBounds n (name, use) }
      return .shared n

/-- The number of a function, which need not be read yet. -/
def functionNumber (name : String) : Read Nat := do
  let s ← get
  match s.functions.findIdx? (·.1 == name) with
  | some n => return n
  | none =>
    set { s with functions := s.functions.push (name, none) }
    return s.functions.size

/-- The finder of a regular expression in the script. -/
def finderOf (line : Nat) (o : Octets) : Read Finder := do
  match Finder.ofText flavour o with
  | .ok f => return f
  | .error fault => refuse line (patternFault o fault)

/-- An expression where a regular expression is meant. -/
def asPattern (line : Nat) (e : Expr) : Read Expr := do
  match e with
  | .text o => return .sought (← finderOf line o)
  | e => return e

/-! ### Expressions -/

def assignments : List (String × Option Arith) :=
  [("=", none), ("+=", some .add), ("-=", some .subtract), ("*=", some .multiply), ("/=", some .divide),
    ("%=", some .remainder), ("^=", some .power)]

def relations : List (String × Relation) :=
  [("<", .less), ("<=", .atMost), ("==", .equal), ("!=", .unequal), (">", .greater), (">=", .atLeast)]

/-- Can an expression begin with the word, where one has just ended? -/
def continues (t : Token) : Bool :=
  match t with
  | .number .. | .text .. | .name _ | .called _ | .builtin .. => true
  | .sign s => ["$", "(", "!", "-", "+", "++", "--", "getline"].contains s
  | _ => false

/-- How many arguments the functions take. -/
def argumentCounts : Builtin → Nat × Nat
  | .length => (0, 1)
  | .substr => (2, 3)
  | .index | .matchText | .arcTangent => (2, 2)
  | .sprintf => (1, 255)
  | .split => (2, 3)
  | .sub | .gsub => (2, 3)
  | .random | .time => (0, 0)
  | .seed | .flush => (0, 1)
  | .timeText => (0, 3)
  | _ => (1, 1)

/-- Does the parenthesis at the front end a list that something follows which ends arguments? -/
def wrapsArguments (depth : Nat) : List Lexeme → Bool
  | [] => false
  | l :: rest =>
    if l.token.isSign "(" then wrapsArguments (depth + 1) rest
    else if l.token.isSign ")" then
      if depth ≤ 1 then
        match rest with
        | [] => true
        | after :: _ =>
          match after.token with
          | .newline | .finish => true
          | .sign s => [";", "\x7d", ">", ">>", "|"].contains s
          | _ => false
      else wrapsArguments (depth - 1) rest
    else wrapsArguments depth rest

mutual

/-- An expression.  Where it is an argument of `print` outside of parentheses, `plain` holds, and an angle bracket or a
bar ends it. -/
def expr : (fuel : Nat) → (plain : Bool) → Read Expr
  | 0, _ => unexpected
  | fuel + 1, plain => do
    let test ← alternatives fuel plain
    if ← accept "?" then
      skipNewlines fuel
      let yes ← expr fuel plain
      skipNewlines fuel
      expect ":"
      skipNewlines fuel
      let no ← expr fuel plain
      return .choose test yes no
    else return test

def alternatives : (fuel : Nat) → (plain : Bool) → Read Expr
  | 0, _ => unexpected
  | fuel + 1, plain => do
    let first ← conjunction fuel plain
    moreAlternatives fuel plain first

def moreAlternatives : (fuel : Nat) → (plain : Bool) → Expr → Read Expr
  | 0, _, e => return e
  | fuel + 1, plain, e => do
    if ← accept "||" then
      let second ← conjunction fuel plain
      moreAlternatives fuel plain (.either e second)
    else return e

def conjunction : (fuel : Nat) → (plain : Bool) → Read Expr
  | 0, _ => unexpected
  | fuel + 1, plain => do
    let first ← fitting fuel plain
    moreConjunction fuel plain first

def moreConjunction : (fuel : Nat) → (plain : Bool) → Expr → Read Expr
  | 0, _, e => return e
  | fuel + 1, plain, e => do
    if ← accept "&&" then
      let second ← fitting fuel plain
      moreConjunction fuel plain (.both e second)
    else return e

def fitting : (fuel : Nat) → (plain : Bool) → Read Expr
  | 0, _ => unexpected
  | fuel + 1, plain => do
    let first ← comparison fuel plain
    moreFitting fuel plain first

def moreFitting : (fuel : Nat) → (plain : Bool) → Expr → Read Expr
  | 0, _, e => return e
  | fuel + 1, plain, e => do
    let l ← current
    if l.token.isSign "~" || l.token.isSign "!~" then
      let _ ← next
      let second ← comparison fuel plain
      moreFitting fuel plain (.fits (l.token.isSign "!~") e (← asPattern l.line second))
    else return e

def comparison : (fuel : Nat) → (plain : Bool) → Read Expr
  | 0, _ => unexpected
  | fuel + 1, plain => do
    let first ← operand fuel plain
    moreComparison fuel plain first

def moreComparison : (fuel : Nat) → (plain : Bool) → Expr → Read Expr
  | 0, _, e => return e
  | fuel + 1, plain, e => do
    match (← current).token with
    | .sign s =>
      match relations.lookup s with
      | some r =>
        if plain && s == ">" then return e
        else
          let _ ← next
          let second ← operand fuel plain
          moreComparison fuel plain (.compare r e second)
      | none => return e
    | _ => return e

/-- What stands between the operators that come last: texts in a row, or an assignment. -/
def operand : (fuel : Nat) → (plain : Bool) → Read Expr
  | 0, _ => unexpected
  | fuel + 1, plain => do
    let e ← joined fuel plain
    match e, (← current).token with
    | .value t, .sign s =>
      match assignments.lookup s with
      | some op =>
        let _ ← next
        skipNewlines fuel
        return .assign t op (← expr fuel plain)
      | none => return e
    | e, _ => return e

def joined : (fuel : Nat) → (plain : Bool) → Read Expr
  | 0, _ => unexpected
  | fuel + 1, plain => do
    let first ← additive fuel plain
    moreJoined fuel plain first

def moreJoined : (fuel : Nat) → (plain : Bool) → Expr → Read Expr
  | 0, _, e => return e
  | fuel + 1, plain, e => do
    let l ← current
    if l.token.isSign "in" then
      let _ ← next
      let table ← tableName
      moreJoined fuel plain (.isIn [e] table)
    else if continues l.token then
      let second ← additive fuel plain
      moreJoined fuel plain (.join e second)
    else return e

def additive : (fuel : Nat) → (plain : Bool) → Read Expr
  | 0, _ => unexpected
  | fuel + 1, plain => do
    let first ← multiplicative fuel plain
    moreAdditive fuel plain first

def moreAdditive : (fuel : Nat) → (plain : Bool) → Expr → Read Expr
  | 0, _, e => return e
  | fuel + 1, plain, e => do
    if ← accept "+" then
      let second ← multiplicative fuel plain
      moreAdditive fuel plain (.reckon .add e second)
    else if ← accept "-" then
      let second ← multiplicative fuel plain
      moreAdditive fuel plain (.reckon .subtract e second)
    else return e

def multiplicative : (fuel : Nat) → (plain : Bool) → Read Expr
  | 0, _ => unexpected
  | fuel + 1, plain => do
    let first ← signed fuel plain
    moreMultiplicative fuel plain first

def moreMultiplicative : (fuel : Nat) → (plain : Bool) → Expr → Read Expr
  | 0, _, e => return e
  | fuel + 1, plain, e => do
    let op : Option Arith := match (← current).token with
      | .sign "*" => some .multiply
      | .sign "/" => some .divide
      | .sign "%" => some .remainder
      | _ => none
    match op with
    | some op =>
      let _ ← next
      let second ← signed fuel plain
      moreMultiplicative fuel plain (.reckon op e second)
    | none => return e

def signed : (fuel : Nat) → (plain : Bool) → Read Expr
  | 0, _ => unexpected
  | fuel + 1, plain => do
    if ← accept "!" then return .negation (← signed fuel plain)
    else if ← accept "-" then return .minus (← signed fuel plain)
    else if ← accept "+" then return .plus (← signed fuel plain)
    else
      let e ← power fuel plain
      morePipes fuel plain e

/-- Reading from commands. -/
def morePipes : (fuel : Nat) → (plain : Bool) → Expr → Read Expr
  | 0, _, e => return e
  | fuel + 1, plain, e => do
    let s ← get
    match s.rest with
    | bar :: word :: _ =>
      if bar.token.isSign "|" && word.token.isSign "getline" then
        let _ ← next
        let _ ← next
        let t ← target? fuel plain
        morePipes fuel plain (.getlineOf e t)
      else return e
    | _ => return e

def power : (fuel : Nat) → (plain : Bool) → Read Expr
  | 0, _ => unexpected
  | fuel + 1, plain => do
    let base ← stepped fuel plain
    if ← accept "^" then
      let l ← current
      let exponent ← if ["!", "-", "+"].any l.token.isSign then signed fuel plain else power fuel plain
      return .reckon .power base exponent
    else return base

def stepped : (fuel : Nat) → (plain : Bool) → Read Expr
  | 0, _ => unexpected
  | fuel + 1, plain => do
    let e ← primary fuel plain
    match e with
    | .value t =>
      if ← accept "++" then return .step t true false
      else if ← accept "--" then return .step t false false
      else return e
    | e => return e

/-- A variable, a field or an element, if there is one. -/
def target? : (fuel : Nat) → (plain : Bool) → Read (Option Target)
  | 0, _ => return none
  | fuel + 1, plain => do
    let l ← current
    match l.token with
    | .name _ =>
      match ← primary fuel plain with
      | .value t => return some t
      | _ => unexpected
    | t =>
      if t.isSign "$" then
        match ← primary fuel plain with
        | .value t => return some t
        | _ => unexpected
      else return none

def tableName : Read Place := do
  let l ← current
  match l.token with
  | .name s =>
    let _ ← next
    resolve l.line s .table
  | _ => unexpected

/-- What is behind a dollar sign. -/
def fieldNumber : (fuel : Nat) → (plain : Bool) → Read Expr
  | 0, _ => unexpected
  | fuel + 1, plain => do
    let l ← current
    if l.token.isSign "-" || l.token.isSign "+" || l.token.isSign "!" then signed fuel plain
    else primary fuel plain

def primary : (fuel : Nat) → (plain : Bool) → Read Expr
  | 0, _ => unexpected
  | fuel + 1, plain => do
    let l ← current
    let step (up : Bool) : Read Expr := do
      let _ ← next
      match ← primary fuel plain with
      | .value t => return .step t up true
      | _ => unexpected
    match l.token with
    | .number x _ =>
      let _ ← next
      return .number x
    | .text o _ =>
      let _ ← next
      return .text o
    | .pattern o =>
      let _ ← next
      return .sought (← finderOf l.line o)
    | .sign "$" =>
      let _ ← next
      return .value (.field (← fieldNumber fuel plain))
    | .sign "++" => step true
    | .sign "--" => step false
    | .sign "(" =>
      let _ ← next
      let e ← expr fuel false
      if ← accept ")" then
        -- what stands in parentheses is not assigned to by what follows, unless it could be
        return e
      else
        expect ","
        let more ← arguments fuel
        expect ")"
        expect "in"
        return .isIn (e :: more) (← tableName)
    | .sign "getline" =>
      let _ ← next
      let t ← target? fuel plain
      if ← accept "<" then return .getlineFrom (← power fuel plain) t else return .getline t
    | .name s =>
      let _ ← next
      if ← accept "[" then
        let table ← resolve l.line s .table
        let keys ← arguments fuel
        expect "]"
        return .value (.element table keys)
      else return .value (.variable (← resolve l.line s .variable))
    | .called s =>
      let _ ← next
      let r ← get
      -- a variable with something in parentheses behind it
      if r.names.any (·.1 == s) || r.inside.any (fun f => f.2.contains s) then
        return .value (.variable (← resolve l.line s .variable))
      let _ ← next
      let n ← functionNumber s
      let args ← if ← isNext ")" then pure [] else handed fuel n 0
      expect ")"
      modify fun r => { r with calls := (n, args.length, l.line) :: r.calls }
      return .call n args
    | .builtin b s =>
      let _ ← next
      let args ← builtinArguments fuel b
      let (least, most) := argumentCounts b
      if args.length < least || args.length > most then
        refuse l.line (ascii "wrong number of arguments in call to " ++ ascii s)
      return .builtin b args
    | _ => unexpected

/-- Expressions between commas. -/
def arguments : (fuel : Nat) → Read (List Expr)
  | 0 => unexpected
  | fuel + 1 => do
    let e ← expr fuel false
    if ← accept "," then return e :: (← arguments fuel) else return [e]

/-- The arguments of a function of the script.  A name by itself may be that of a table. -/
def handed : (fuel : Nat) → (taker position : Nat) → Read (List Expr)
  | 0, _, _ => unexpected
  | fuel + 1, taker, position => do
    let s ← get
    let e ← (match s.rest with
      | name :: after :: _ =>
        match name.token with
        | .name n =>
          if after.token.isSign "," || after.token.isSign ")" then do
            let _ ← next
            let place ← resolve name.line n .unknown
            let (giver, argument) := match place with
              | .own i => (s.inside.map Prod.fst, i)
              | .shared i => (none, i)
            modify fun r => { r with handings := ⟨giver, argument, taker, position⟩ :: r.handings }
            return .value (.variable place)
          else expr fuel false
        | _ => expr fuel false
      | _ => expr fuel false : Read Expr)
    if ← accept "," then return e :: (← handed fuel taker (position + 1)) else return [e]

def builtinArguments : (fuel : Nat) → Builtin → Read (List Expr)
  | 0, _ => unexpected
  | fuel + 1, b => do
    let opened ← accept "("
    if !opened then
      if b = .length then return [] else unexpected
    else if ← accept ")" then return []
    else
      let args ← (match b with
        | .length => do
          -- the length of a table, if a table it is
          let s ← get
          match s.rest with
          | name :: after :: _ =>
            match name.token with
            | .name n =>
              if after.token.isSign ")" then
                let isTable := s.names.any (fun u => u.1 == n && u.2 = .table) ||
                  (s.inside.any fun (_, own) => (own.findIdx? (· == n)).any s.ownTables.contains)
                let _ ← next
                return [.value (.variable (← resolve name.line n (if isTable then .table else .unknown)))]
              else arguments fuel
            | _ => arguments fuel
          | _ => arguments fuel
        | .split => do
          let whole ← expr fuel false
          expect ","
          let table ← tableName
          let into : Expr := .value (.variable table)
          if ← accept "," then
            let l ← current
            let by_ ← expr fuel false
            match by_ with
            | .text _ => return [whole, into, by_]
            | _ => return [whole, into, ← asPattern l.line by_]
          else return [whole, into]
        | .sub | .gsub => do
          let l ← current
          let pattern ← expr fuel false
          let pattern ← asPattern l.line pattern
          expect ","
          return pattern :: (← arguments fuel)
        | .matchText => do
          let whole ← expr fuel false
          expect ","
          let l ← current
          let pattern ← expr fuel false
          return [whole, ← asPattern l.line pattern]
        | _ => arguments fuel : Read (List Expr))
      expect ")"
      return args

end

/-! ### Statements -/

/-- Passes the end of a statement, which may also be the brace behind it. -/
def endStatement : Read Unit := do
  let t := (← current).token
  if t.isSign ";" || t matches .newline then
    let _ ← next
  else if t.isSign "\x7d" then return
  else unexpected

/-- Does a statement end here, before it has arguments? -/
def endsHere : Read Bool := do
  let t := (← current).token
  return t.isSign ";" || t matches .newline || t.isSign "\x7d"

/-- The arguments of `print`, and where its output goes. -/
def printed (fuel : Nat) : Read (List Expr × Option Outlet) := do
  let ends ← endsHere
  let t := (← current).token
  let wraps := wrapsArguments 0 (← get).rest
  let args ← (if ends || [">", ">>", "|"].any t.isSign then pure []
    else if t.isSign "(" && wraps then do
      let _ ← next
      let args ← arguments fuel
      expect ")"
      return args
    else plainArguments fuel : Read (List Expr))
  let outlet ← (do
    if ← accept ">" then return some (.file (← expr fuel false))
    else if ← accept ">>" then return some (.append (← expr fuel false))
    else if ← accept "|" then return some (.command (← expr fuel false))
    else return none : Read (Option Outlet))
  return (args, outlet)
where
  plainArguments : (fuel : Nat) → Read (List Expr)
    | 0 => unexpected
    | fuel + 1 => do
      let e ← expr fuel true
      if ← accept "," then return e :: (← plainArguments fuel) else return [e]

/-- Reads the body of a loop. -/
def inLoop {α : Type} (body : Read α) : Read α := do
  modify fun s => { s with loops := s.loops + 1 }
  let a ← body
  modify fun s => { s with loops := s.loops - 1 }
  return a

mutual

def statements : (fuel : Nat) → Read (List Statement)
  | 0 => unexpected
  | fuel + 1 => do
    skipSeparators fuel
    if ← accept "\x7d" then return []
    else
      let first ← statement fuel
      return first :: (← statements fuel)

/-- A statement without a body, up to its end. -/
def simple : (fuel : Nat) → Read Statement
  | 0 => unexpected
  | fuel + 1 => do
    let l ← current
    match l.token with
    | .sign "print" =>
      let _ ← next
      let (args, outlet) ← printed fuel
      return .print args outlet
    | .sign "printf" =>
      let _ ← next
      let (args, outlet) ← printed fuel
      if args.isEmpty then refuse l.line (ascii "no arguments in call to printf")
      return .printf args outlet
    | .sign "delete" =>
      let _ ← next
      let table ← tableName
      if ← accept "[" then
        let keys ← arguments fuel
        expect "]"
        return .delete table keys
      else return .clear table
    | _ => return .eval (← expr fuel false)

/-- The other branch of a condition, if there is one; what stands before it is passed only then. -/
def otherwise : (fuel : Nat) → Read Statement
  | 0 => unexpected
  | fuel + 1 => do
    let before ← get
    skipSeparators fuel
    if ← accept "else" then
      skipNewlines fuel
      statement fuel
    else
      modify fun s => { s with rest := before.rest }
      return .nothing

def statement : (fuel : Nat) → Read Statement
  | 0 => unexpected
  | fuel + 1 => do
    let l ← current
    let condition : Read Expr := do
      expect "("
      let e ← expr fuel false
      expect ")"
      return e
    match l.token with
    | .sign "\x7b" =>
      let _ ← next
      return .block (← statements fuel)
    | .sign ";" =>
      let _ ← next
      return .nothing
    | .sign "if" =>
      let _ ← next
      let test ← condition
      skipNewlines fuel
      let yes ← statement fuel
      return .branch test yes (← otherwise fuel)
    | .sign "while" =>
      let _ ← next
      let test ← condition
      if ← accept ";" then return .whileTrue test .nothing
      else
        skipNewlines fuel
        return .whileTrue test (← inLoop (statement fuel))
    | .sign "do" =>
      let _ ← next
      skipNewlines fuel
      let body ← inLoop (statement fuel)
      skipSeparators fuel
      expect "while"
      let test ← condition
      endStatement
      return .untilFalse body test
    | .sign "for" =>
      let _ ← next
      expect "("
      match (← get).rest with
      | a :: word :: b :: close :: _ =>
        match a.token, word.token, b.token, close.token with
        | .name key, .sign "in", .name table, .sign ")" =>
          for _ in [0, 1, 2, 3] do
            let _ ← next
          let t ← resolve a.line key .variable
          let table ← resolve b.line table .table
          skipNewlines fuel
          return .forKeys t table (← inLoop (statement fuel))
        | _, _, _, _ => countedLoop fuel
      | _ => countedLoop fuel
    | .sign "break" =>
      let _ ← next
      if (← get).loops = 0 then refuse l.line (ascii "break statement outside of loop")
      endStatement
      return .leaveLoop
    | .sign "continue" =>
      let _ ← next
      if (← get).loops = 0 then refuse l.line (ascii "continue statement outside of loop")
      endStatement
      return .nextRound
    | .sign "next" =>
      let _ ← next
      if !(← get).isRecordRule then refuse l.line (ascii "improper use of next")
      endStatement
      return .nextRecord
    | .sign "nextfile" =>
      let _ ← next
      if !(← get).isRecordRule then refuse l.line (ascii "improper use of nextfile")
      endStatement
      return .nextFile
    | .sign "exit" =>
      let _ ← next
      let status ← if ← endsHere then pure none else some <$> expr fuel false
      endStatement
      return .quit status
    | .sign "return" =>
      let _ ← next
      if (← get).inside.isNone then refuse l.line (ascii "return outside function body")
      let e ← if ← endsHere then pure none else some <$> expr fuel false
      endStatement
      return .giveBack e
    | _ =>
      let s ← simple fuel
      endStatement
      return s

/-- What is behind the opening parenthesis of a loop with three parts. -/
def countedLoop : (fuel : Nat) → Read Statement
  | 0 => unexpected
  | fuel + 1 => do
    let start ← if ← isNext ";" then pure .nothing else simple fuel
    expect ";"
    skipNewlines fuel
    let test ← if ← isNext ";" then pure none else some <$> expr fuel false
    expect ";"
    skipNewlines fuel
    let step ← if ← isNext ")" then pure .nothing else simple fuel
    expect ")"
    if ← accept ";" then return .counted start test step .nothing
    else
      skipNewlines fuel
      return .counted start test step (← inLoop (statement fuel))

end

/-! ### Rules and functions -/

/-- The names of arguments, up to the closing parenthesis. -/
def argumentNames : (fuel : Nat) → List String → Read (List String)
  | 0, _ => unexpected
  | fuel + 1, known => do
    let l ← current
    match l.token with
    | .name s =>
      let _ ← next
      if known.contains s then refuse l.line (ascii s ++ ascii " is duplicated in argument list")
      skipNewlines fuel
      if ← accept "," then
        skipNewlines fuel
        argumentNames fuel (known ++ [s])
      else
        expect ")"
        return known ++ [s]
    | _ =>
      if known.isEmpty then expect ")" else unexpected
      return known

/-- The braces and what is between them. -/
def body (fuel : Nat) (isRecordRule : Bool) : Read Statement := do
  expect "\x7b"
  modify fun s => { s with isRecordRule }
  return .block (← statements fuel)

/-- A rule, or a function. -/
def item (fuel : Nat) : Read (Option Rule) := do
  let l ← current
  match l.token with
  | .sign "function" =>
    let _ ← next
    let f ← next
    let name ← (match f.token with
      | .called s | .name s => pure s
      | _ => refuse f.line (ascii "syntax error at or near " ++ f.token.shown) : Read String)
    let n ← functionNumber name
    if ((← get).functions[n]?.bind Prod.snd).isSome then refuse f.line (ascii "redefinition of " ++ ascii name)
    if (← get).names.any (·.1 == name) then refuse f.line (ascii "illegal reference to variable " ++ ascii name)
    expect "("
    let arguments ← argumentNames fuel []
    let empty : Function := { arguments := arguments.length }
    modify fun s => { s with
      functions := s.functions.setIfInBounds n (name, some empty)
      inside := some (n, arguments), ownTables := [] }
    skipNewlines fuel
    let b ← body fuel false
    modify fun s => { s with
      functions := s.functions.setIfInBounds n (name, some { arguments := arguments.length, tables := s.ownTables, body := b })
      inside := none, ownTables := [] }
    return none
  | .sign "BEGIN" =>
    let _ ← next
    return some ⟨.start, some (← body fuel false)⟩
  | .sign "END" =>
    let _ ← next
    return some ⟨.finish, some (← body fuel false)⟩
  | .sign "\x7b" => return some ⟨.every, some (← body fuel true)⟩
  | _ =>
    let first ← expr fuel false
    let pattern ← (do
      if ← accept "," then
        skipNewlines fuel
        let last ← expr fuel false
        let n := (← get).ranges
        modify fun s => { s with ranges := n + 1 }
        return .range n first last
      else return .when first : Read Pattern)
    if ← isNext "\x7b" then return some ⟨pattern, some (← body fuel true)⟩
    else
      let t := (← current).token
      if t.isSign ";" || t matches .newline || t matches .finish then return some ⟨pattern, none⟩ else unexpected

def items : (fuel : Nat) → Read (List Rule)
  | 0 => return []
  | fuel + 1 => do
    skipSeparators fuel
    if (← current).token matches .finish then return []
    else
      match ← item fuel with
      | some rule => return rule :: (← items fuel)
      | none => items fuel

/-! ### The whole -/

/-- Which arguments of functions are tables, where functions hand them on. -/
def withHandings (handings : List Handing) : (rounds : Nat) → Array Function → Array Function
  | 0, fs => fs
  | rounds + 1, fs =>
    let more := handings.foldl (fun (fs : Array Function) h =>
      match h.giver with
      | none => fs
      | some g =>
        if (fs.getD h.taker default).tables.contains h.position && !(fs.getD g default).tables.contains h.argument then
          fs.modify g fun f => { f with tables := h.argument :: f.tables }
        else fs) fs
    withHandings handings rounds more

/-- The script that a text writes, or why it writes none. -/
def Script.read (text : Octets) : Except Octets Script := do
  let words := lexemes text
  let start : Reading :=
    { rest := words
      names := (knownNames.map fun n => (n, if n = "ENVIRON" || n = "ARGV" then Use.table else .variable)).toArray
      functions := #[] }
  let (rules, s) ← (items (4 * words.length + 40)).run start
  let line := (words.getLastD default).line
  for (name, f) in s.functions.toList do
    if f.isNone then throw (atLine line (ascii "function " ++ ascii name ++ ascii " never defined"))
  let functions := s.functions.map fun (_, f) => f.getD default
  for (n, count, line) in s.calls.reverse do
    if count > (functions.getD n default).arguments then
      throw (atLine line (ascii "too many arguments in call to " ++ ascii (s.functions.getD n ("", none)).1))
  return {
    names := s.names.map Prod.fst
    rules
    functions := withHandings s.handings (s.handings.length + 1) functions
    ranges := s.ranges }

end GrammarStudio.RecordScript
