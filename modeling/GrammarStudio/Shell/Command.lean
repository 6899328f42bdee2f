import GrammarStudio.Machine.Octets

/-!
# The commands of a script

* `Dialect` — the plain shell, and the one with more of everything;
* `Part`, `Word` — words before anything is put in for parameters;
* `Redirect` — where a command reads and writes;
* `Command` — simple and compound commands.
-/

namespace GrammarStudio.Shell

open Machine

/-- The two shells. -/
inductive Dialect where
  | plain
  | rich
  deriving DecidableEq, Repr

/-- What is done to a parameter before it is put in.  The flag of the first four says that an empty value counts as
none; that of the next two, that as much as possible goes. -/
inductive Change where
  | orElse (emptyToo : Bool)
  | orAssign (emptyToo : Bool)
  | ifSet (emptyToo : Bool)
  | orFail (emptyToo : Bool)
  | dropFront (longest : Bool)
  | dropBack (longest : Bool)
  /-- Another text for a pattern: for the first place or all of them, or at one end only. -/
  | replace (all : Bool) (front back : Bool)
  /-- From an offset on, and perhaps no longer than a length. -/
  | section (bounded : Bool)
  /-- Letters in the other case: all of them or the first. -/
  | recase (upper : Bool) (all : Bool)
  /-- Written in another way, which a letter names. -/
  | rendered (how : Char)
  /-- What stands behind the name makes no sense. -/
  | malformed
  deriving DecidableEq, Repr

inductive RedirectKind where
  | read
  | write
  /-- Even over a file that there is. -/
  | clobber
  | append
  | readWrite
  | duplicateInput
  | duplicateOutput
  /-- A text in the script itself. -/
  | here (index : Nat)
  /-- A word as a line. -/
  | hereWord
  /-- Both outputs to one file. -/
  | writeBoth
  | appendBoth
  deriving DecidableEq, Repr

/-- What is between two choices of a case. -/
inductive ArmEnd where
  | stop
  | fallThrough
  | tryNext
  deriving DecidableEq, Repr

mutual

/-- A part of a word.  What stands between quotes is neither split nor matched against file names. -/
inductive Part where
  | text (octets : Octets) (quoted : Bool)
  /-- Pairs of double quotes, which make a word where there would be none. -/
  | quotes (parts : List Part)
  | param (name : Octets) (indirect : Bool) (index : Option (List Part)) (change : Option Change)
    (operands : List (List Part)) (quoted : Bool)
  | length (name : Octets) (index : Option (List Part)) (quoted : Bool)
  /-- The names that begin in a certain way, or the places of a list. -/
  | names (name : Octets) (index : Option (List Part)) (quoted : Bool)
  /-- The output of a script. -/
  | output (script : Command) (quoted : Bool)
  /-- The value of an expression. -/
  | number (expression : List Part) (quoted : Bool)
  /-- A file that is what a script writes, or that a script reads. -/
  | process (writes : Bool) (script : Command)

/-- Where a command reads or writes. -/
inductive Redirect where
  | mk (descriptor : Nat) (kind : RedirectKind) (target : List Part)

/-- What a name is set to. -/
inductive Assignment where
  | mk (name : Octets) (index : Option (List Part)) (appends : Bool) (value : List Part) (items : Option (List (List Part)))

/-- A condition between double brackets. -/
inductive Condition where
  | unary (operator : String) (operand : List Part)
  | binary (operator : String) (left right : List Part)
  | word (operand : List Part)
  | not (c : Condition)
  | and (a b : Condition)
  | or (a b : Condition)

inductive Arm where
  | mk (patterns : List (List Part)) (body : Command) (ending : ArmEnd)

inductive Command where
  /-- Nothing at all. -/
  | nothing
  | simple (line : Nat) (assignments : List Assignment) (words : List (List Part)) (redirects : List Redirect)
  | pipeline (stages : List Command)
  | not (command : Command)
  | andThen (first second : Command)
  | orElse (first second : Command)
  | sequence (first second : Command)
  | background (line : Nat) (command : Command)
  | subshell (line : Nat) (body : Command) (redirects : List Redirect)
  | branch (condition yes no : Command)
  | loop (whileTrue : Bool) (condition body : Command)
  | each (line : Nat) (name : Octets) (words : Option (List (List Part))) (body : Command)
  /-- Three expressions: at the beginning, before each round and after it. -/
  | counted (line : Nat) (first test next : List Part) (body : Command)
  | choose (line : Nat) (subject : List Part) (arms : List Arm)
  | define (name : Octets) (line : Nat) (body : Command)
  | redirected (line : Nat) (body : Command) (redirects : List Redirect)
  | condition (line : Nat) (c : Condition)
  | arithmetic (line : Nat) (expression : List Part)
  | timed (command : Command)

end

abbrev Word := List Part

instance : Inhabited Part := ⟨.text [] false⟩
instance : Inhabited Command := ⟨.nothing⟩
instance : Inhabited Redirect := ⟨.mk 0 .read []⟩
instance : Inhabited Condition := ⟨.word []⟩

namespace Redirect

def descriptor : Redirect → Nat
  | .mk d _ _ => d

def kind : Redirect → RedirectKind
  | .mk _ k _ => k

def target : Redirect → Word
  | .mk _ _ t => t

end Redirect

end GrammarStudio.Shell
