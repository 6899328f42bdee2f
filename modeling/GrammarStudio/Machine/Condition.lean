import GrammarStudio.Machine.Stream

/-!
# Conditions

A condition is a list of words: tests of texts, numbers and files, joined by `-a`, `-o`, `!` and parentheses.  A word
that could be an operator is an ordinary one where the words around it say so.

* `Condition.fileTest` — the tests of a file;
* `Condition.evaluate` — the truth of a condition, where each word is looked at in turn;
* `Condition.evaluateCounted` — the same, where the number of words decides first.
-/

namespace GrammarStudio.Machine.Condition

open Files

/-- Why a condition has no truth. -/
inductive Fault where
  | unexpected (word : Octets)
  | argumentExpected (operator : Octets)
  | unclosed (found : Option Octets)
  | illegalNumber (word : Octets)
  | unaryExpected (word : Octets)
  | binaryExpected (word : Octets)
  | nothingBehind (word : Octets)
  | tooMany (word : Octets)
  deriving DecidableEq, Repr

/-! ### Operators -/

def unaryOperators : List String :=
  ["-r", "-w", "-x", "-e", "-f", "-d", "-c", "-b", "-p", "-u", "-g", "-k", "-s", "-t", "-z", "-n", "-h", "-O", "-G", "-L",
    "-S"]

def binaryOperators : List String :=
  ["=", "!=", "<", ">", "-eq", "-ne", "-ge", "-gt", "-le", "-lt", "-nt", "-ot", "-ef"]

def isUnary (o : Octets) : Bool := unaryOperators.contains (String.ofList o)

def isBinary (o : Octets) : Bool := binaryOperators.contains (String.ofList o)

/-- What the first of some words is. -/
inductive Role where
  | done
  | operand
  | unary
  | binary
  | negation
  | and
  | or
  | opening
  | closing
  deriving DecidableEq, Repr

/-- The role of the first word.  A unary operator needs something behind it that is no binary operator with a right
side; a parenthesis at the end opens nothing. -/
def role : List Octets → Role
  | [] => .done
  | o :: rest =>
    if isUnary o then
      match rest with
      | [] => .operand
      | [_] => .unary
      | next :: _ :: _ => if isBinary next then .operand else .unary
    else if isBinary o then .binary
    else if o = ['!'] then .negation
    else if o = ascii "-a" then .and
    else if o = ascii "-o" then .or
    else if o = ['('] then (if rest.isEmpty then .operand else .opening)
    else if o = [')'] then .closing
    else .operand

/-! ### Tests -/

/-- A test of a file, by the letter of its operator.  Every file can be read and written. -/
def fileTest (letter : Char) (path : Octets) : Work Bool := do
  match ← Work.ask (.inspect path (letter ≠ 'h' && letter ≠ 'L')) with
  | .error _ => return false
  | .ok info =>
    return match letter with
      | 'f' => info.kind = .file
      | 'd' => info.kind = .directory
      | 'h' | 'L' => info.kind = .link
      | 'p' => info.kind = .fifo
      | 'c' => info.kind = .device
      | 's' => info.size > 0
      | 'x' => info.kind = .directory || info.mode &&& 0o111 ≠ 0
      | 'u' => info.mode &&& 0o4000 ≠ 0
      | 'g' => info.mode &&& 0o2000 ≠ 0
      | 'k' => info.mode &&& 0o1000 ≠ 0
      | 'b' | 'S' | 'N' => false
      | _ => true

/-- Compares two files: newer, older, or the same. -/
def compareFiles (missingIsOld : Bool) (a : Octets) (operator : String) (b : Octets) : Work Bool := do
  let x := (← Work.ask (.inspect a true)).toOption
  let y := (← Work.ask (.inspect b true)).toOption
  return match operator, x, y with
    | "-ef", some x, some y => x.node = y.node
    | "-nt", some x, some y => x.modified > y.modified
    | "-nt", some _, none => missingIsOld
    | "-ot", some x, some y => x.modified < y.modified
    | "-ot", none, some _ => missingIsOld
    | _, _, _ => false

abbrev Test := ExceptT Fault Work

/-- A number as a test reads it: 64 bits, or without bounds. -/
def number (bounded : Bool) (o : Octets) : Test Int :=
  match Octets.number? o with
  | some n => if bounded && (n < -(2 ^ 63) || n ≥ 2 ^ 63) then throw (.illegalNumber o) else return n
  | none => throw (.illegalNumber o)

def unaryTest (operator : Octets) (o : Octets) : Test Bool :=
  match operator with
  | ['-', 'z'] => return o.isEmpty
  | ['-', 'n'] => return !o.isEmpty
  | ['-', 't'] => do
    let _ ← number true o
    return false
  | ['-', letter] => (fileTest letter o : Work Bool)
  | _ => return false

def binaryTest (bounded : Bool) (a operator b : Octets) : Test Bool :=
  let compare (test : Int → Int → Bool) : Test Bool := do return test (← number bounded a) (← number bounded b)
  match String.ofList operator with
  | "=" | "==" => return a = b
  | "!=" => return a ≠ b
  | "<" => return a < b
  | ">" => return b < a
  | "-eq" => compare (· = ·)
  | "-ne" => compare (· ≠ ·)
  | "-lt" => compare (· < ·)
  | "-le" => compare (· ≤ ·)
  | "-gt" => compare (· > ·)
  | "-ge" => compare (· ≥ ·)
  | other => (compareFiles (!bounded) a other b : Work Bool)

/-! ### One word after the other -/

/-- A truth, with the words left. -/
abbrev Result := Test (Bool × List Octets)

mutual

def either : (fuel : Nat) → Role → List Octets → Result
  | 0, _, words => return (false, words)
  | fuel + 1, r, words => do
    let (a, rest) ← both fuel r words
    match role rest with
    | .or =>
      let (b, rest) ← either fuel (role rest.tail) rest.tail
      return (a || b, rest)
    | _ => return (a, rest)

def both : (fuel : Nat) → Role → List Octets → Result
  | 0, _, words => return (false, words)
  | fuel + 1, r, words => do
    let (a, rest) ← single fuel r words
    match role rest with
    | .and =>
      let (b, rest) ← both fuel (role rest.tail) rest.tail
      return (a && b, rest)
    | _ => return (a, rest)

def single : (fuel : Nat) → Role → List Octets → Result
  | 0, _, words => return (false, words)
  | fuel + 1, r, words => do
    match r, words with
    | .negation, _ :: rest =>
      let (a, rest) ← single fuel (role rest) rest
      return (!a, rest)
    | .done, _ => return (false, [])
    | .opening, _ :: rest =>
      match role rest with
      | .closing => return (false, rest)
      | r =>
        let (a, rest) ← either fuel r rest
        match role rest with
        | .closing => return (a, rest.tail)
        | _ => throw (.unclosed rest.head?)
    | .unary, o :: a :: rest => return (← unaryTest o a, rest)
    | _, o :: rest =>
      match role rest, rest with
      | .binary, operator :: b :: rest => return (← binaryTest true o operator b, rest)
      | .binary, operator :: [] => throw (.argumentExpected operator)
      | _, _ => return (!o.isEmpty, rest)
    | _, [] => return (false, [])

end

/-- The truth of a condition.  With three words a binary operator in the middle wins; with three or four, parentheses
around all and a leading `!` come first. -/
def evaluate : List Octets → Test Bool
  | [] => return false
  | first :: words =>
    let all := first :: words
    let general (r : Role) (ws : List Octets) : Test Bool := do
      let (a, rest) ← either (3 * ws.length + 3) r ws
      if rest.isEmpty then return a
      else throw (.unexpected ((ws.take (ws.length - rest.length)).getLast?.getD []))
    if words.length = 2 && words.head?.any isBinary then general .operand all
    else if words.length = 2 || words.length = 3 then
      if first = ['('] && words.getLast? = some [')'] then general (role words.dropLast) words.dropLast
      else if first = ['!'] then do return !(← evaluate words)
      else general (role all) all
    else general (role all) all

/-! ### By the number of words -/

def countedUnary (o : Octets) : Bool := isUnary o || o = ascii "-N"

def countedBinary (o : Octets) : Bool := isBinary o || o = ascii "=="

mutual

def orWords : (fuel : Nat) → List Octets → Result
  | 0, words => return (false, words)
  | fuel + 1, words => do
    let (a, rest) ← andWords fuel words
    if rest.head? = some (ascii "-o") then
      let (b, rest) ← orWords fuel rest.tail
      return (a || b, rest)
    else return (a, rest)

def andWords : (fuel : Nat) → List Octets → Result
  | 0, words => return (false, words)
  | fuel + 1, words => do
    let (a, rest) ← termWords fuel words
    if rest.head? = some (ascii "-a") then
      let (b, rest) ← andWords fuel rest.tail
      return (a && b, rest)
    else return (a, rest)

def termWords : (fuel : Nat) → List Octets → Result
  | 0, words => return (false, words)
  | fuel + 1, words => do
    match words with
    | [] => throw (.nothingBehind [])
    | ['!'] :: rest =>
      if rest.isEmpty then throw (.nothingBehind ['!'])
      else
        let (a, rest) ← termWords fuel rest
        return (!a, rest)
    | ['('] :: rest =>
      let (a, rest) ← orWords fuel rest
      match rest with
      | [')'] :: rest => return (a, rest)
      | other => throw (.unclosed other.head?)
    | o :: operator :: b :: rest =>
      if countedBinary operator then return (← binaryTest false o operator b, rest)
      else if countedUnary o then return (← unaryTest o operator, b :: rest)
      else return (!o.isEmpty, operator :: b :: rest)
    | [o, a] => if countedUnary o then return (← unaryTest o a, []) else return (!o.isEmpty, [a])
    | [o] => return (!o.isEmpty, [])

end

/-- The truth of a condition with more words than the cases below have. -/
def evaluateMany (words : List Octets) : Test Bool := do
  let (a, rest) ← orWords (4 * words.length + 4) words
  match rest with
  | [] => return a
  | extra :: _ => throw (.tooMany extra)

def evaluateTwo (a b : Octets) : Test Bool := do
  if a = ['!'] then return b.isEmpty
  else if countedUnary a then unaryTest a b
  else if a.head? = some '-' && a.length = 2 then throw (.unaryExpected a)
  else throw (.nothingBehind b)

def evaluateThree (a b c : Octets) : Test Bool := do
  if countedBinary b then binaryTest false a b c
  else if a = ['!'] then return !(← evaluateTwo b c)
  else if a = ['('] && c = [')'] then return !b.isEmpty
  else if b = ascii "-a" then return !a.isEmpty && !c.isEmpty
  else if b = ascii "-o" then return !a.isEmpty || !c.isEmpty
  else throw (.binaryExpected b)

def evaluateCounted : List Octets → Test Bool
  | [] => return false
  | [a] => return !a.isEmpty
  | [a, b] => evaluateTwo a b
  | [a, b, c] => evaluateThree a b c
  | [a, b, c, d] => do
    if a = ['!'] then return !(← evaluateThree b c d)
    else if a = ['('] && d = [')'] then evaluateTwo b c
    else evaluateMany [a, b, c, d]
  | words => evaluateMany words

end GrammarStudio.Machine.Condition
