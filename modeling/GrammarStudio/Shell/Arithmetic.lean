import GrammarStudio.Shell.Command

/-!
# Arithmetic of a script

Expressions over whole numbers of 64 bits, with the operators of C.  A name stands for the value of a variable and may
be assigned to.  What an operator such as `&&` makes irrelevant is read, but not carried out.

* `Arithmetic.Fault` — why an expression has no value, with `Fault.message`;
* `Arithmetic.evaluate` — the value of an expression, with the variables it sets.
-/

namespace GrammarStudio.Shell.Arithmetic

open Machine

/-- Why an expression has no value.  Most causes tell what is left of the expression. -/
inductive Fault where
  | expecting (what : String) (left : Octets)
  | divisionByZero (left : Octets)
  | illegalNumber (text : Octets)
  | tooGreat (text : Octets)
  | badBase (left : Octets)
  | notAssignable (left : Octets)
  | negativeExponent (left : Octets)
  | tooDeep
  deriving DecidableEq, Repr

/-- The wording of the plain shell, with the whole expression. -/
def Fault.message (expression : Octets) : Fault → Octets
  | .expecting what _ => ascii "arithmetic expression: expecting " ++ ascii what ++ ascii ": \"" ++ expression ++ ['"']
  | .divisionByZero _ => ascii "arithmetic expression: division by zero: \"" ++ expression ++ ['"']
  | .illegalNumber text | .tooGreat text => ascii "Illegal number: " ++ text
  | _ => ascii "arithmetic expression: expecting EOF: \"" ++ expression ++ ['"']

/-- The wording of the rich shell. -/
def Fault.richMessage (expression : Octets) : Fault → Octets
  | .expecting what left =>
    let problem := match what with
      | "primary" => "syntax error: operand expected"
      | "')'" => "missing \x60)'"
      | "':'" => "\x60:' expected for conditional expression"
      | _ => "syntax error in expression"
    expression ++ ascii ": " ++ ascii problem ++ token left
  | .divisionByZero left => expression ++ ascii ": division by 0" ++ token left
  | .illegalNumber text => text ++ ascii ": syntax error: operand expected" ++ token text
  | .tooGreat text => text ++ ascii ": value too great for base" ++ token text
  | .badBase left => left ++ ascii ": invalid arithmetic base" ++ token left
  | .notAssignable left => expression ++ ascii ": attempted assignment to non-variable" ++ token left
  | .negativeExponent left => expression ++ ascii ": exponent less than 0" ++ token left
  | .tooDeep => expression ++ ascii ": expression recursion level exceeded" ++ token expression
where
  token (left : Octets) : Octets := ascii " (error token is \"" ++ left ++ ascii "\")"

/-! ### Tokens -/

inductive Token where
  | number (n : Int)
  | name (o : Octets)
  | operator (symbol : String)
  | tooGreat (text : Octets)
  | bad
  deriving DecidableEq, Repr

/-- Tokens, each with the text from it on. -/
abbrev Tokens := List (Token × Octets)

def plainOperators : List String :=
  ["<<=", ">>=", "||", "&&", "==", "!=", "<=", ">=", "<<", ">>", "+=", "-=", "*=", "/=", "%=", "&=", "|=", "^=", "=", "<",
    ">", "+", "-", "*", "/", "%", "&", "|", "^", "!", "~", "?", ":", "(", ")"]

def richOperators : List String := ["++", "--", "**"] ++ plainOperators ++ [","]

/-- A number as C writes it — decimal, octal behind a zero, hexadecimal behind a mark — as far as it goes. -/
def number (s : Octets) : Int × Octets :=
  match s with
  | '0' :: x :: c :: rest =>
    if (x == 'x' || x == 'X') && Octets.isHex c then
      let digits := (c :: rest).takeWhile Octets.isHex
      (Octets.clamp64 (Octets.valueIn 16 digits), (c :: rest).drop digits.length)
    else octal s
  | '0' :: _ => octal s
  | _ =>
    let digits := s.takeWhile Char.isDigit
    (Octets.clamp64 (Octets.valueIn 10 digits), s.drop digits.length)
where
  octal (s : Octets) : Int × Octets :=
    let digits := s.takeWhile Octets.isOctal
    (Octets.clamp64 (Octets.valueIn 8 digits), s.drop digits.length)

/-- A number of the rich shell, which may name its base; all of its letters belong to it. -/
def richNumber (s : Octets) : Token × Octets :=
  let isDigit (c : Char) : Bool := c.isAlphanum || c == '#' || c == '@' || c == '_'
  let own := s.takeWhile isDigit
  let rest := s.drop own.length
  let inBase (base : Nat) (digits : Octets) : Token :=
    let value (c : Char) : Nat :=
      if c.isDigit then c.toNat - 48
      else if 'a' ≤ c && c ≤ 'z' then c.toNat - 87
      else if 'A' ≤ c && c ≤ 'Z' then (if base ≤ 36 then c.toNat - 55 else c.toNat - 29)
      else if c = '@' then 62 else if c = '_' then 63 else 99
    if digits.any fun c => value c ≥ base then .tooGreat own
    else .number (Octets.wrap64 (digits.foldl (fun n c => n * base + value c) 0 : Nat))
  let token := match own with
    | '0' :: 'x' :: digits | '0' :: 'X' :: digits => inBase 16 digits
    | _ =>
      let base := own.takeWhile (· ≠ '#')
      if own.contains '#' then
        match Octets.nat? base with
        | some b => if 2 ≤ b && b ≤ 64 then inBase b (own.drop (base.length + 1)) else .bad
        | none => .bad
      else match own with
        | '0' :: digits => inBase 8 digits
        | digits => inBase 10 digits
  (token, rest)

/-- The text up to the bracket that closes one. -/
def untilBracket : (depth : Nat) → Octets → Octets
  | _, [] => []
  | depth, '[' :: rest => '[' :: untilBracket (depth + 1) rest
  | 0, ']' :: _ => []
  | depth + 1, ']' :: rest => ']' :: untilBracket depth rest
  | depth, c :: rest => c :: untilBracket depth rest

def tokens (rich : Bool) : (fuel : Nat) → Octets → Tokens
  | 0, _ => []
  | _ + 1, [] => []
  | fuel + 1, c :: rest =>
    let s := c :: rest
    if Octets.isBlank c then tokens rich fuel rest
    else if c.isDigit then
      if rich then
        let (t, after) := richNumber s
        (t, s) :: tokens rich fuel after
      else
        let (n, after) := number s
        (.number n, s) :: tokens rich fuel after
    else if c.isAlpha || c == '_' then
      let isNameChar := fun c : Char => c.isAlphanum || c == '_'
      let name := s.takeWhile isNameChar
      let after := s.drop name.length
      match after with
      | '[' :: inner =>
        if rich then
          let index := untilBracket 0 inner
          (.name (name ++ '[' :: index ++ [']']), s) :: tokens rich fuel (inner.drop (index.length + 1))
        else (.name name, s) :: tokens rich fuel after
      | _ => (.name name, s) :: tokens rich fuel after
    else
      match (if rich then richOperators else plainOperators).find? fun o => o.toList.isPrefixOf s with
      | some o => (.operator o, s) :: tokens rich fuel (s.drop o.length)
      | none => (.bad, s) :: tokens rich fuel rest

/-! ### Values -/

def truth (b : Bool) : Int := if b then 1 else 0

/-- How tightly a binary operator binds; the tighter, the less. -/
def precedence? : String → Option Nat
  | "**" => some 0
  | "*" | "/" | "%" => some 1
  | "+" | "-" => some 2
  | "<<" | ">>" => some 3
  | "<" | "<=" | ">" | ">=" => some 4
  | "==" | "!=" => some 5
  | "&" => some 6
  | "^" => some 7
  | "|" => some 8
  | _ => none

/-- A power by repeated squaring, wrapped to 64 bits at every step. -/
def power (a : Int) : (fuel : Nat) → Nat → Int
  | 0, _ => 1
  | fuel + 1, n =>
    if n = 0 then 1
    else
      let half := power a fuel (n / 2)
      let square := Octets.wrap64 (half * half)
      if n % 2 = 1 then Octets.wrap64 (square * a) else square

def binary (symbol : String) (left : Octets) (a b : Int) : Except Fault Int :=
  match symbol with
  | "|" => .ok ((BitVec.ofInt 64 a ||| BitVec.ofInt 64 b).toInt)
  | "^" => .ok ((BitVec.ofInt 64 a ^^^ BitVec.ofInt 64 b).toInt)
  | "&" => .ok ((BitVec.ofInt 64 a &&& BitVec.ofInt 64 b).toInt)
  | "==" => .ok (truth (a = b))
  | "!=" => .ok (truth (a ≠ b))
  | "<" => .ok (truth (a < b))
  | "<=" => .ok (truth (a ≤ b))
  | ">" => .ok (truth (a > b))
  | ">=" => .ok (truth (a ≥ b))
  | "<<" => .ok (Octets.wrap64 (a * 2 ^ (b % 64).toNat))
  | ">>" => .ok (a / 2 ^ (b % 64).toNat)
  | "+" => .ok (Octets.wrap64 (a + b))
  | "-" => .ok (Octets.wrap64 (a - b))
  | "*" => .ok (Octets.wrap64 (a * b))
  | "**" => if b < 0 then .error (.negativeExponent left) else .ok (power a 70 b.toNat)
  | "/" => if b = 0 then .error (.divisionByZero left) else .ok (Octets.wrap64 (Int.tdiv a b))
  | "%" => if b = 0 then .error (.divisionByZero left) else .ok (Int.tmod a b)
  | _ => .error (.expecting "EOF" left)

/-- What an evaluation needs to know, and what it has done. -/
structure State where
  rich : Bool
  look : Octets → Option Octets
  /-- The variables set so far, the latest first. -/
  assigned : List (Octets × Int) := []
  tokens : Tokens
  /-- The text from the token before on. -/
  last : Octets

abbrev Eval := StateT State (Except Fault)

def peek : Eval (Option Token) := do return ((← get).tokens.head?).map Prod.fst

def advance : Eval Unit := modify fun s =>
  match s.tokens with
  | (_, text) :: rest => { s with tokens := rest, last := text }
  | [] => s

def isNext (symbol : String) : Eval Bool := do return (← peek) == some (.operator symbol)

def left : Eval Octets := do
  let s ← get
  return match s.tokens with
    | (_, text) :: _ => text
    | [] => s.last

def assignmentOperators : List String := ["=", "+=", "-=", "*=", "/=", "%=", "&=", "|=", "^=", "<<=", ">>="]

/-- How the value of a variable is read where it is an expression itself. -/
abbrev ReadValue := Octets → Eval Int

/-- The number a variable holds, in the plain shell. -/
def plainValue (text : Octets) : Except Fault Int :=
  let s := text.dropWhile Octets.isSpace
  let (negative, body) := match s with
    | '-' :: rest => (true, rest)
    | '+' :: rest => (false, rest)
    | rest => (false, rest)
  let (n, rest) := number body
  if (rest.dropWhile Octets.isSpace).isEmpty && (body.head?.any Char.isDigit || s.isEmpty) then
    .ok (if negative then -n else n)
  else .error (.illegalNumber text)

def value (read : ReadValue) (name : Octets) : Eval Int := do
  let s ← get
  match s.assigned.lookup name with
  | some n => return n
  | none =>
    match s.look name with
    | none => return 0
    | some o =>
      if s.rich then (if o.all Octets.isBlank then return 0 else read o)
      else plainValue o

def assign (name : Octets) (n : Int) : Eval Int := do
  modify fun s => { s with assigned := (name, n) :: s.assigned.filter (·.1 ≠ name) }
  return n

mutual

def comma (read : ReadValue) : (fuel : Nat) → (idle : Bool) → Eval Int
  | 0, _ => throw .tooDeep
  | fuel + 1, idle => do
    let n ← assignment read fuel idle
    if ← isNext "," then
      advance
      comma read fuel idle
    else return n

def assignment (read : ReadValue) : (fuel : Nat) → (idle : Bool) → Eval Int
  | 0, _ => throw .tooDeep
  | fuel + 1, idle => do
    match (← get).tokens with
    | (.name x, _) :: (.operator o, _) :: _ =>
      if assignmentOperators.contains o then
        advance
        advance
        let n ← assignment read fuel idle
        if idle then return n
        else if o = "=" then assign x n
        else
          let before ← value read x
          assign x (← (binary (o.dropEnd 1).toString (← left) before n : Except Fault Int))
      else conditional read fuel idle
    | _ =>
      let n ← conditional read fuel idle
      if (← get).rich then
        match ← peek with
        | some (.operator o) => if assignmentOperators.contains o then throw (.notAssignable (← left)) else return n
        | _ => return n
      else return n

def conditional (read : ReadValue) : (fuel : Nat) → (idle : Bool) → Eval Int
  | 0, _ => throw .tooDeep
  | fuel + 1, idle => do
    let n ← either read fuel idle
    if ← isNext "?" then
      advance
      let a ← assignment read fuel (idle || n = 0)
      if ← isNext ":" then
        advance
        let b ← conditional read fuel (idle || n ≠ 0)
        return if n ≠ 0 then a else b
      else throw (.expecting "':'" (← left))
    else return n

def either (read : ReadValue) : (fuel : Nat) → (idle : Bool) → Eval Int
  | 0, _ => throw .tooDeep
  | fuel + 1, idle => do
    let a ← both read fuel idle
    if ← isNext "||" then
      advance
      let b ← either read fuel (idle || a ≠ 0)
      return truth (a ≠ 0 || b ≠ 0)
    else return a

def both (read : ReadValue) : (fuel : Nat) → (idle : Bool) → Eval Int
  | 0, _ => throw .tooDeep
  | fuel + 1, idle => do
    let a ← unary read fuel idle
    let a ← binaryFrom read fuel idle 9 a
    if ← isNext "&&" then
      advance
      let b ← both read fuel (idle || a = 0)
      return truth (a ≠ 0 && b ≠ 0)
    else return a

/-- Goes on with operators that bind more tightly than a bound. -/
def binaryFrom (read : ReadValue) : (fuel : Nat) → (idle : Bool) → (bound : Nat) → Int → Eval Int
  | 0, _, _, _ => throw .tooDeep
  | fuel + 1, idle, bound, a => do
    match ← peek with
    | some (.operator o) =>
      match precedence? o with
      | some p =>
        if p ≥ bound then return a
        else
          advance
          let text ← left
          let b ← unary read fuel idle
          -- operators that bind more tightly take the right side first; a power does so too
          let b ← binaryFrom read fuel idle (if o = "**" then 1 else p) b
          let c ← if idle then pure b else (binary o text a b : Except Fault Int)
          binaryFrom read fuel idle bound c
      | none => return a
    | _ => return a

def unary (read : ReadValue) : (fuel : Nat) → (idle : Bool) → Eval Int
  | 0, _ => throw .tooDeep
  | fuel + 1, idle => do
    let rich := (← get).rich
    match ← peek with
    | some (.number n) =>
      advance
      return n
    | some (.name x) =>
      advance
      let n ← if idle then pure 0 else value read x
      if rich && (← isNext "++") then
        advance
        if !idle then let _ ← assign x (Octets.wrap64 (n + 1))
        return n
      else if rich && (← isNext "--") then
        advance
        if !idle then let _ ← assign x (Octets.wrap64 (n - 1))
        return n
      else return n
    | some (.operator "(") =>
      advance
      let n ← if rich then comma read fuel idle else assignment read fuel idle
      if ← isNext ")" then
        advance
        return n
      else throw (.expecting "')'" (← left))
    | some (.operator "+") =>
      advance
      unary read fuel idle
    | some (.operator "-") =>
      advance
      return Octets.wrap64 (-(← unary read fuel idle))
    | some (.operator "!") =>
      advance
      return truth ((← unary read fuel idle) = 0)
    | some (.operator "~") =>
      advance
      return -(← unary read fuel idle) - 1
    | some (.operator "++") | some (.operator "--") =>
      let up ← isNext "++"
      advance
      match ← peek with
      | some (.name x) =>
        advance
        let n ← if idle then pure 0 else value read x
        let n := Octets.wrap64 (if up then n + 1 else n - 1)
        if idle then return n else assign x n
      | _ =>
        -- two signs
        let n ← unary read fuel idle
        return n
    | some (.tooGreat text) => throw (.tooGreat text)
    | _ => throw (.expecting "primary" (← left))

end

/-- The value of an expression inside another evaluation.  The depth bounds how often a variable may stand for an
expression with variables. -/
def valueOf : (depth : Nat) → Octets → Eval Int
  | 0, _ => throw .tooDeep
  | depth + 1, text => do
    let before ← get
    let own := tokens before.rich (text.length + 1) text
    if own.isEmpty && before.rich then return 0
    else
      set { before with tokens := own, last := text }
      let n ← (if before.rich then comma else assignment) (valueOf depth) (24 * own.length + 64) false
      match (← get).tokens with
      | [] =>
        modify fun s => { s with tokens := before.tokens, last := before.last }
        return n
      | (.tooGreat o, _) :: _ => throw (.tooGreat o)
      | _ => throw (.expecting "EOF" (← left))

/-- The value of an expression, and the variables it sets, the latest first. -/
def evaluate (rich : Bool) (look : Octets → Option Octets) (expression : Octets) :
    Except Fault (Int × List (Octets × Int)) := do
  let (n, s) ← (valueOf 64 expression).run { rich, look, tokens := [], last := expression }
  .ok (n, s.assigned)

end GrammarStudio.Shell.Arithmetic
