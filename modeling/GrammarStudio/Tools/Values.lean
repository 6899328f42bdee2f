import GrammarStudio.Format.Printf
import GrammarStudio.Machine.Condition
import GrammarStudio.Regex.Posix
import GrammarStudio.Regex.Search
import GrammarStudio.Tools.Input

/-!
# Tools that reckon and tell

* `seqTool`, `exprTool`, `factorTool` — numbers in a row, expressions, prime factors;
* `echoTool`, `printfTool`, `testTool` — arguments written, and conditions;
* `unameTool`, `idTool`, … — what there is to tell of the system.
-/

namespace GrammarStudio.Tools

open Machine Files

/-! ### Numbers in a row -/

/-- A number with so many places behind the point. -/
structure Decimal where
  scaled : Int
  places : Nat

/-- A number from its digits; an exponent moves the point. -/
def Decimal.read (o : Octets) : Option Decimal :=
  let o := Octets.trimLeft o
  let (negative, o) := match o with
    | '-' :: rest => (true, rest)
    | '+' :: rest => (false, rest)
    | o => (false, o)
  let signed (n : Nat) : Int := if negative then -(n : Int) else n
  match o with
  | '0' :: 'x' :: digits | '0' :: 'X' :: digits =>
    if !digits.isEmpty && digits.all Octets.isHex then some ⟨signed (Octets.valueIn 16 digits), 0⟩ else none
  | o =>
    let whole := o.takeWhile Char.isDigit
    let (part, rest) := match o.drop whole.length with
      | '.' :: rest => let p := rest.takeWhile Char.isDigit; (p, rest.drop p.length)
      | rest => ([], rest)
    if whole.isEmpty && part.isEmpty then none
    else
      let exponent? : Option Int := match rest with
        | [] => some 0
        | 'e' :: e | 'E' :: e => match e with
          | '+' :: d => (Octets.nat? d).map Int.ofNat
          | '-' :: d => (Octets.nat? d).map fun n => -(n : Int)
          | d => (Octets.nat? d).map Int.ofNat
        | _ => none
      exponent?.map fun e =>
        let n := Octets.valueIn 10 (whole ++ part)
        let places : Int := part.length - e
        if places < 0 then ⟨signed (n * 10 ^ (-places).toNat), 0⟩ else ⟨signed n, places.toNat⟩

def Decimal.at_ (d : Decimal) (places : Nat) : Int := d.scaled * 10 ^ (places - d.places)

/-- The text of a number that was multiplied to have no places. -/
def scaledText (places : Nat) (n : Int) : Octets :=
  let digits := Octets.padLeftWith '0' (places + 1) (Octets.ofNat n.natAbs)
  let body := if places = 0 then digits else digits.take (digits.length - places) ++ '.' :: digits.drop (digits.length - places)
  if n < 0 then '-' :: body else body

/-- The directive of a format for numbers, with what is before and behind it. -/
def numberFormat (f : Octets) : Tool (Octets × Format.Directive × Octets) := do
  let rec split : (fuel : Nat) → Octets → Octets → Octets × Option Octets
    | 0, before, _ => (before, none)
    | _ + 1, before, [] => (before, none)
    | fuel + 1, before, '%' :: '%' :: rest => split fuel (before ++ ['%']) rest
    | _ + 1, before, '%' :: rest => (before, some rest)
    | fuel + 1, before, c :: rest => split fuel (before ++ [c]) rest
  match split (f.length + 1) [] f with
  | (_, none) => giveUp (ascii "format " ++ quoted f ++ ascii " has no % directive")
  | (before, some rest) =>
    let (t, behind) := Format.Template.read rest
    match behind with
    | [] => giveUp (ascii "format " ++ quoted f ++ ascii " ends in %")
    | c :: more =>
      if !(ascii "efgaEFGA").contains c then giveUp (ascii "format " ++ quoted f ++ ascii " has unknown %" ++ [c] ++ ascii " directive")
      match split (more.length + 1) [] more with
      | (_, some _) => giveUp (ascii "format " ++ quoted f ++ ascii " has too many % directives")
      | (after, none) => return (before, t.directive none none c, after)

def seqTool (args : List Octets) : Tool Unit := do
  -- negative numbers are no options
  let isNumber (a : Octets) : Bool := match a with
    | '-' :: c :: _ => c.isDigit || c = '.'
    | _ => false
  let own := args.takeWhile fun a => !isNumber a
  let (given, before) ← optionsWith true ["f|format=", "s|separator=", "w|equal-width"] own
  let operands := before ++ args.drop own.length
  if operands.isEmpty then misused (ascii "missing operand")
  atMost 3 operands
  let number (o : Octets) : Tool Decimal := do
    match Decimal.read o with
    | some d => return d
    | none => misused (ascii "invalid floating point argument: " ++ quoted o)
  let (first, step, last) ← (match operands with
    | [l] => do return (⟨1, 0⟩, ⟨1, 0⟩, ← number l)
    | [f, l] => do let a ← number f; return (a, ⟨1, 0⟩, ← number l)
    | f :: s :: l :: _ => do
      let a ← number f
      let b ← number s
      if b.scaled = 0 then misused (ascii "invalid Zero increment value: " ++ quoted s)
      return (a, b, ← number l)
    | [] => pure (⟨1, 0⟩, ⟨1, 0⟩, ⟨0, 0⟩) : Tool (Decimal × Decimal × Decimal))
  let places := max first.places step.places
  let fine := max places last.places
  let separator := (given.value? "s").getD ['\n']
  let a := first.at_ fine
  let b := step.at_ fine
  let z := last.at_ fine
  let count : Int := if b > 0 then (if z < a then -1 else (z - a) / b) else if a < z then -1 else (a - z) / (-b)
  let format ← (match given.value? "f" with
    | some f => return some (← numberFormat f)
    | none => pure none : Tool (Option (Octets × Format.Directive × Octets)))
  if given.has "f" && given.has "w" then
    misused (ascii "format string may not be specified when printing equal width strings")
  let plain (n : Int) : Octets := scaledText places (n / (10 ^ (fine - places) : Nat))
  let end_ := a + b * count
  let width := if given.has "w" then max (plain a).length (max (plain end_).length (scaledText places ((z / (10 ^ (fine - places) : Nat)))).length) else 0
  let text (n : Int) : Octets := match format with
    | some (before, d, after) => before ++ d.floating (Number.nearest Number.extended (n < 0) n.natAbs (10 ^ fine)) ++ after
    | none =>
      let o := plain n
      match o with
      | '-' :: digits => if width > 0 then '-' :: Octets.padLeftWith '0' (width - 1) digits else o
      | o => Octets.padLeftWith '0' width o
  let rec go : (fuel : Nat) → Int → Tool Unit
    | 0, _ => return
    | fuel + 1, k => do
      if k ≤ count then
        say ((if k = 0 then [] else separator) ++ text (a + b * k))
        if (← get).lost.isNone then go fuel (k + 1)
  if count ≥ 0 then
    go endless 0
    say ['\n']

/-! ### Expressions -/

/-- Is a text a number? -/
def wholeNumber? (o : Octets) : Option Int :=
  match o with
  | '-' :: rest => (Octets.nat? rest).map fun n => -(n : Int)
  | o => (Octets.nat? o).map Int.ofNat

/-- Is a value nothing or zero? -/
def isNull (o : Octets) : Bool :=
  o.isEmpty || (match o with
    | '-' :: rest => !rest.isEmpty && rest.all (· = '0')
    | o => o.all (· = '0'))

/-- A value with the words left. -/
abbrev Reckoned := Tool (Octets × List Octets)

def needInteger (o : Octets) : Tool Int := do
  match wholeNumber? o with
  | some n => return n
  | none => giveUp (ascii "non-integer argument")

/-- What an expression of basic kind finds at the front of a text. -/
def exprMatch (text pattern : Octets) : Tool Octets := do
  match Regex.Finder.ofText { extended := false } pattern with
  | .error fault => giveUp (ascii fault.message)
  | .ok f =>
    match f.fit? true ⟨text.toArray, true, true⟩ 0 with
    | none => return if f.groups > 0 then [] else ['0']
    | some found =>
      if f.groups > 0 then
        match found.span? 1 with
        | some s => return (text.drop s.1).take (s.2 - s.1)
        | none => return []
      else
        match found.span? 0 with
        | some s => return Octets.ofNat (s.2 - s.1)
        | none => return ['0']

/-- The operators in levels, the loosest first. -/
def exprLevels : List (List String) :=
  [["|"], ["&"], ["<", "<=", "=", "==", "!=", ">=", ">"], ["+", "-"], ["*", "/", "%"], [":"]]

/-- The value of an operator on two values. -/
def exprApply (operator : String) (a b : Octets) : Tool Octets := do
  let truth (t : Bool) : Octets := if t then ['1'] else ['0']
  let order : Ordering := match wholeNumber? a, wholeNumber? b with
    | some x, some y => compare x y
    | _, _ => if a = b then .eq else if a < b then .lt else .gt
  match operator with
  | "|" => return if !isNull a then a else if !isNull b then b else ['0']
  | "&" => return if isNull a || isNull b then ['0'] else a
  | "<" => return truth (order == .lt)
  | "<=" => return truth (order != .gt)
  | "=" | "==" => return truth (order == .eq)
  | "!=" => return truth (order != .eq)
  | ">=" => return truth (order != .lt)
  | ">" => return truth (order == .gt)
  | ":" => exprMatch a b
  | _ =>
    let x ← needInteger a
    let y ← needInteger b
    match operator with
    | "+" => return Octets.ofInt (x + y)
    | "-" => return Octets.ofInt (x - y)
    | "*" => return Octets.ofInt (x * y)
    | _ =>
      if y = 0 then giveUp (ascii "division by zero")
      return Octets.ofInt (if operator = "/" then x.tdiv y else x.tmod y)

mutual

/-- An expression of some level.  Behind a word that needs more, `before` is that word. -/
def exprLevel : (fuel : Nat) → (level : Nat) → (before : Option Octets) → List Octets → Reckoned
  | 0, _, _, _ => giveUp (ascii "syntax error")
  | fuel + 1, level, before, words => do
    match exprLevels[level]? with
    | none => exprAtom fuel before words
    | some operators =>
      let (a, rest) ← exprLevel fuel (level + 1) before words
      exprRest fuel level operators a rest

/-- More operators of the same level. -/
def exprRest : (fuel : Nat) → Nat → List String → Octets → List Octets → Reckoned
  | 0, _, _, a, rest => return (a, rest)
  | fuel + 1, level, operators, a, rest => do
    match rest with
    | o :: more =>
      if operators.contains (String.ofList o) then
        let (b, rest) ← exprLevel fuel (level + 1) (some o) more
        exprRest fuel level operators (← exprApply (String.ofList o) a b) rest
      else return (a, rest)
    | [] => return (a, [])

def exprAtom : (fuel : Nat) → Option Octets → List Octets → Reckoned
  | 0, _, _ => giveUp (ascii "syntax error")
  | fuel + 1, before, words => do
    match words with
    | [] => giveUp (ascii "syntax error: missing argument after " ++ quoted (before.getD []))
    | word :: rest =>
      match String.ofList word with
      | "(" =>
        let (a, rest) ← exprLevel fuel 0 (some word) rest
        match rest with
        | [')'] :: rest => return (a, rest)
        | [] => giveUp (ascii "syntax error: expecting ')' after " ++ quoted (words.getLast?.getD []))
        | other :: _ => giveUp (ascii "syntax error: expecting ')' instead of " ++ quoted other)
      | ")" => giveUp (ascii "syntax error: unexpected ')'")
      | "+" =>
        match rest with
        | o :: rest => return (o, rest)
        | [] => giveUp (ascii "syntax error: missing argument after '+'")
      | "length" =>
        let (a, rest) ← exprAtom fuel (some word) rest
        return (Octets.ofNat a.length, rest)
      | "match" =>
        let (a, rest) ← exprAtom fuel (some word) rest
        let (b, rest) ← exprAtom fuel (some a) rest
        return (← exprMatch a b, rest)
      | "index" =>
        let (a, rest) ← exprAtom fuel (some word) rest
        let (b, rest) ← exprAtom fuel (some a) rest
        return (Octets.ofNat ((a.findIdx? b.contains).map (· + 1) |>.getD 0), rest)
      | "substr" =>
        let (a, rest) ← exprAtom fuel (some word) rest
        let (b, rest) ← exprAtom fuel (some a) rest
        let (c, rest) ← exprAtom fuel (some b) rest
        match wholeNumber? b, wholeNumber? c with
        | some p, some n => return (if p ≤ 0 || n ≤ 0 then [] else (a.drop (p.toNat - 1)).take n.toNat, rest)
        | _, _ => return ([], rest)
      | _ => return (word, rest)

end

def exprTool (args : List Octets) : Tool Unit := do
  let args := if args.head? = some ['-', '-'] then args.tail else args
  if args.isEmpty then misused (ascii "missing operand")
  let (value, rest) ← exprLevel (20 * args.length + 20) 0 none args
  match rest with
  | extra :: _ => giveUp (ascii "syntax error: unexpected argument " ++ quoted extra)
  | [] =>
    say (value ++ ['\n'])
    setStatus (if isNull value then 1 else 0)

/-! ### Prime factors -/

/-- The prime factors of a number, from a divisor on.  The fuel bounds the number of divisors tried. -/
def factors : (fuel : Nat) → (n d : Nat) → List Nat
  | 0, n, _ => [n]
  | fuel + 1, n, d =>
    if n < 2 then []
    else if d * d > n then [n]
    else if n % d = 0 then d :: factors fuel (n / d) d
    else factors fuel n (if d = 2 then 3 else d + 2)

def factorTool (args : List Octets) : Tool Unit := do
  let (_, operands) ← options ["h|exponents"] args
  let one (o : Octets) : Tool Unit := do
    let digits := Octets.trimLeft o
    let digits := if digits.head? = some '+' then digits.drop 1 else digits
    match Octets.nat? digits with
    | some n => say (Octets.ofNat n ++ ':' :: (factors 5000000 n 2).flatMap (fun f => ' ' :: Octets.ofNat f) ++ ['\n'])
    | none => failing (quoted o ++ ascii " is not a valid positive integer")
  if operands.isEmpty then
    match ← content 0 with
    | .ok o => for word in Octets.words o do one word
    | .error fault => giveUp (ascii "read error: " ++ reason fault)
  else for o in operands do one o

/-! ### Arguments written -/

def echoTool (args : List Octets) : Tool Unit := do
  let rec letters : List Char → List Octets → List Char × List Octets
    | seen, ('-' :: c :: more) :: rest =>
      if (c :: more).all fun c => c = 'n' || c = 'e' || c = 'E' then letters (seen ++ c :: more) rest
      else (seen, ('-' :: c :: more) :: rest)
    | seen, args => (seen, args)
  let (seen, args) := letters [] args
  let joined := [' '].intercalate args
  let escapes : Format.Escapes := { escapeMarks := ['e'], hexadecimal := true, zeroToo := true, zeroOnly := true }
  let (o, ended) := if (seen.filter (· ≠ 'n')).getLast? = some 'e' then escapes.unescape joined else (joined, false)
  say (if seen.contains 'n' || ended then o else o ++ ['\n'])

def printfStyle : Format.Style :=
  { formatEscapes := { escapeMarks := ['e'], hexadecimal := true, unicode := true, quotes := true }
    argumentEscapes := { escapeMarks := ['e'], hexadecimal := true, unicode := true, quotes := true, zeroToo := true }
    layout := Number.extended
    badNumber := fun
      | .none, o => quoted o ++ ascii ": expected a numeric value"
      | .partly, o => quoted o ++ ascii ": value not completely converted"
      | .outOfRange, o => quoted o ++ ascii ": Numerical result out of range"
    invalid := fun directive => directive ++ ascii ": invalid conversion specification"
    missing := fun source => source ++ ascii ": invalid conversion specification"
    quoted := some shellWord
    invalidStatus := 1
    rangeStatus := 1
    emptyIsBad := true
    excess := some fun extra => ascii "warning: ignoring excess arguments, starting with " ++ quoted extra
    lengthLetters := ascii "hlLjzt" }

def printfTool (args : List Octets) : Tool Unit := do
  let args := if args.head? = some ['-', '-'] then args.tail else args
  match args with
  | [] => misused (ascii "missing operand")
  | format :: args =>
    let w := Format.write printfStyle format args
    say w.output
    for message in w.complaints do complain message
    setStatus w.status

/-- The wording of a condition without truth. -/
def conditionProblem : Condition.Fault → Octets
  | .unexpected word => ascii "extra argument " ++ quoted word
  | .argumentExpected operator => ascii "missing argument after " ++ quoted operator
  | .unclosed (some o) => ascii "')' expected, found " ++ o
  | .unclosed none => ascii "')' expected"
  | .illegalNumber word => ascii "invalid integer " ++ quoted word
  | .unaryExpected word => quoted word ++ ascii ": unary operator expected"
  | .binaryExpected word => quoted word ++ ascii ": binary operator expected"
  | .nothingBehind word => ascii "missing argument after " ++ quoted word
  | .tooMany word => ascii "extra argument " ++ quoted word

def testTool (brackets : Bool) (args : List Octets) : Tool Unit := do
  if brackets && args.getLast? ≠ some [']'] then giveUp (ascii "missing ']'")
  let words := if brackets then args.dropLast else args
  match ← ((Condition.evaluateCounted words).run : Work (Except Condition.Fault Bool)) with
  | .ok truth => setStatus (if truth then 0 else 1)
  | .error fault =>
    complain (conditionProblem fault)
    setStatus 2

/-! ### The system -/

def unameTool (args : List Octets) : Tool Unit := do
  let (given, operands) ← options
    ["a|all", "s|kernel-name|sysname", "n|nodename", "r|kernel-release|release", "v|kernel-version", "m|machine", "p|processor",
      "i|hardware-platform", "o|operating-system"] args
  atMost 0 operands
  let on (letter : String) : Bool := given.has letter || (given.has "a" && letter ≠ "p" && letter ≠ "i")
  let parts := [("s", "Linux"), ("n", "localhost"), ("r", "6.1.0"), ("v", "#1 SMP"), ("m", "x86_64"), ("p", "unknown"),
    ("i", "unknown"), ("o", "GNU/Linux")]
  let shown := (parts.filter fun p => on p.1).map fun p => p.2.toList
  say ([' '].intercalate (if shown.isEmpty then [ascii "Linux"] else shown) ++ ['\n'])

def idTool (args : List Octets) : Tool Unit := do
  let (given, operands) ← options
    ["a", "Z|context", "g|group", "G|groups", "n|name", "r|real", "u|user", "z|zero"] args
  match operands.find? fun o => o ≠ ascii "root" && o ≠ ['0'] with
  | some o => giveUp (quoted o ++ ascii ": no such user")
  | none => pure ()
  let kinds := ["g", "G", "u"].filter given.has
  if kinds.length > 1 then giveUp (ascii "cannot print \"only\" of more than one choice")
  if kinds.isEmpty then
    if given.has "n" || given.has "r" then giveUp (ascii "cannot print only names or real IDs in default format")
    say (ascii "uid=0(root) gid=0(root) groups=0(root)\n")
  else say (ascii (if given.has "n" then "root\n" else "0\n"))

/-- A tool without operands that tells one thing. -/
def telling (text : String) (args : List Octets) : Tool Unit := do
  let (_, operands) ← options [] args
  atMost 0 operands
  say (ascii text ++ ['\n'])

def groupsTool (args : List Octets) : Tool Unit := do
  let (_, operands) ← options [] args
  if operands.isEmpty then say (ascii "root\n")
  for o in operands do
    if o = ascii "root" then say (ascii "root : root\n") else failing (quoted o ++ ascii ": no such user")

def ttyTool (args : List Octets) : Tool Unit := do
  let (given, _) ← options ["s|silent|quiet"] args
  if !given.has "s" then say (ascii "not a tty\n")
  setStatus 1

def lognameTool (args : List Octets) : Tool Unit := do
  let (_, operands) ← options [] args
  atMost 0 operands
  giveUp (ascii "no login name")

/-- A length of time with a unit, in millionths of a second. -/
def duration? (o : Octets) : Option Nat :=
  let (body, unit) : Octets × Nat := match o.reverse with
    | 's' :: rest => (rest.reverse, 1)
    | 'm' :: rest => (rest.reverse, 60)
    | 'h' :: rest => (rest.reverse, 3600)
    | 'd' :: rest => (rest.reverse, 86400)
    | _ => (o, 1)
  if body = ascii "inf" || body = ascii "infinity" then some (10 ^ 18)
  else
    match Decimal.read body with
    | some d => if d.scaled < 0 then none else some (d.scaled.toNat * unit * 1000000 / 10 ^ d.places)
    | none => none

def sleepTool (args : List Octets) : Tool Unit := do
  let (_, operands) ← options [] args
  needOperand operands
  let mut total := 0
  let mut bad := false
  for o in operands do
    match duration? o with
    | some n => total := total + n
    | none =>
      complain (ascii "invalid time interval " ++ quoted o)
      bad := true
  if bad then pointToHelp
  let now ← ask .now
  let _ ← ask (.sleep (now + total))

end GrammarStudio.Tools
