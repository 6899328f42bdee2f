import GrammarStudio.Format.Printf
import GrammarStudio.Machine.Condition
import GrammarStudio.Shell.Expansion

/-!
# Builtins that write and test

* `echo`, `printf` — the arguments in a line, or as a format says;
* `test` — the truth of a condition, as the status.
-/

namespace GrammarStudio.Shell

open Machine Format

/-! ### Echo -/

def plainEscapes : Escapes := { escapeMarks := ['e'], zeroToo := true }

def richEscapes : Escapes := { escapeMarks := ['e', 'E'], hexadecimal := true, unicode := true, zeroOnly := true }

def echo (args : List Octets) : Sh Unit := do
  let rich ← isRichShell
  let rec options (letters : List Char) : List Octets → List Char × List Octets
    | ('-' :: c :: more) :: rest =>
      if (c :: more).all fun c => c = 'n' || c = 'e' || c = 'E' then options (letters ++ c :: more) rest
      else (letters, ('-' :: c :: more) :: rest)
    | args => (letters, args)
  let (letters, args) : List Char × List Octets := if rich then options [] args
    else match args with
      | ['-', 'n'] :: rest => (['n'], rest)
      | _ => ([], args)
  let joined := [' '].intercalate args
  let escapes := !rich || (letters.filter fun c => c = 'e' || c = 'E').getLast? = some 'e'
  let (o, ended) := if escapes then (if rich then richEscapes else plainEscapes).unescape joined else (joined, false)
  setStatus 0
  say (if letters.contains 'n' || ended then o else o ++ ['\n'])

/-! ### Formats -/

def plainStyle : Style :=
  { formatEscapes := { escapeMarks := ['e'], stops := false }
    argumentEscapes := plainEscapes
    layout := Number.double
    badNumber := fun
      | .none, o => o ++ ascii ": expected numeric value"
      | .partly, o => o ++ ascii ": not completely converted"
      | .outOfRange, o => o ++ ascii ": Numerical result out of range"
    invalid := fun directive => directive ++ ascii ": invalid directive"
    missing := fun _ => ascii "missing format character"
    quoted := none
    invalidStatus := 2
    rangeStatus := 1
    emptyIsBad := false
    excess := none
    lengthLetters := [] }

/-- A word as a shell reads it, with backslashes. -/
def backslashed (o : Octets) : Octets :=
  if o.isEmpty then ascii "''"
  else if o.any fun c => c < ' ' || c ≥ '\x7f' then quotedText o
  else
    let special := ascii " \t!\"#$&'()*,;<>?[\\]^\x60\x7b|\x7d~"
    match o with
    | [] => []
    | c :: rest =>
      (if c = '#' || c = '~' then ['\\', c] else if special.contains c then ['\\', c] else [c]) ++
        rest.flatMap fun c => if special.contains c && c ≠ '#' && c ≠ '~' then ['\\', c] else [c]

def richStyle : Style :=
  { formatEscapes := { richEscapes with zeroOnly := false, quotes := true, stops := false }
    argumentEscapes := { richEscapes with zeroOnly := false, zeroToo := true, quotes := true }
    layout := Number.extended
    badNumber := fun
      | .outOfRange, o => ascii "warning: " ++ o ++ ascii ": Numerical result out of range"
      | _, o => o ++ ascii ": invalid number"
    invalid := fun directive => ascii "\x60" ++ directive.drop (directive.length - 1) ++ ascii "': invalid format character"
    missing := fun source => '\x60' :: source ++ ascii "': missing format character"
    quoted := some backslashed
    invalidStatus := 1
    emptyIsBad := false
    rangeStatus := 0
    excess := none
    lengthLetters := ascii "hlLjzt" }

def printf (args : List Octets) : Sh Unit := do
  let rich ← isRichShell
  let args ← (match args with
    | ['-', '-'] :: rest => pure rest
    | ['-'] :: _ => pure args
    | ('-' :: c :: _) :: _ =>
      if !rich then failWith (ascii "Illegal option -" ++ [c])
      else if c = 'v' then pure args
      else do
        complain ('-' :: c :: ascii ": invalid option")
        report (ascii "printf: usage: printf [-v var] format [arguments]\n")
        throw (.failed 2)
    | _ => pure args : Sh (List Octets))
  let writeTo (target : Option Octets) (format : Octets) (args : List Octets) : Sh Unit := do
    let w := write (if rich then richStyle else plainStyle) format args
    for message in w.complaints do
      complain message
    setStatus w.status
    match target with
    | some name => assignText name w.output
    | none => say w.output
  match args with
  | [] =>
    if rich then
      report (ascii "printf: usage: printf [-v var] format [arguments]\n")
      setStatus 2
    else failWith (ascii "usage: printf format [arg ...]")
  | ['-', 'v'] :: name :: format :: args => if rich then writeTo (some name) format args else writeTo none ['-', 'v'] (name :: format :: args)
  | format :: args => writeTo none format args

/-! ### Conditions -/

/-- The wording of a condition without truth. -/
def testProblem (rich : Bool) : Condition.Fault → Octets
  | .unexpected word => (if word.isEmpty then [] else word ++ ascii ": ") ++ ascii "unexpected operator"
  | .argumentExpected operator => operator ++ ascii ": argument expected"
  | .unclosed found =>
    if rich then (match found with
      | some o => ascii "\x60)' expected, found " ++ o
      | none => ascii "\x60)' expected")
    else ascii "closing paren expected"
  | .illegalNumber word => if rich then word ++ ascii ": integer expression expected" else ascii "Illegal number: " ++ word
  | .unaryExpected word => word ++ ascii ": unary operator expected"
  | .nothingBehind [] => ascii "argument expected"
  | .nothingBehind word => word ++ ascii ": unary operator expected"
  | .binaryExpected word => word ++ ascii ": binary operator expected"
  | .tooMany _ => ascii "too many arguments"

def test (brackets : Bool) (args : List Octets) : Sh Unit := do
  let rich ← isRichShell
  if brackets && args.getLast? ≠ some [']'] then
    complain (ascii (if rich then "missing \x60]'" else "missing ]"))
    setStatus 2
  else
    let words := if brackets then args.dropLast else args
    let truth ← ((if rich then Condition.evaluateCounted words else Condition.evaluate words).run : Work (Except Condition.Fault Bool))
    match truth with
    | .ok b => setStatus (if b then 0 else 1)
    | .error fault =>
      complain (testProblem rich (match fault, words with
        | .nothingBehind _, [a, _] => .unaryExpected a
        | fault, _ => fault))
      setStatus 2

end GrammarStudio.Shell
