import GrammarStudio.Machine.Stream
import GrammarStudio.Shell.Parse

/-!
# The state of a shell

* `Value`, `Variable` — what names stand for;
* `State` — all that a shell remembers;
* `Jump` — the ways to leave a command before its end;
* `Sh` — a computation of a shell on its machine.
-/

namespace GrammarStudio.Shell

open Machine Files

/-! ### Variables -/

/-- The value of a variable: a text, or texts under numbers or names, in their order. -/
inductive Value where
  | text (o : Octets)
  | list (items : List (Nat × Octets))
  | map (items : List (Octets × Octets))

structure Variable where
  name : Octets
  value : Option Value := none
  exported : Bool := false
  readonly : Bool := false
  /-- What is assigned is an expression. -/
  integer : Bool := false
  /-- Letters are made large, or small. -/
  recase : Option Bool := none

namespace Value

/-- The text of a variable that is asked for without a place. -/
def plain? : Value → Option Octets
  | .text o => some o
  | .list items => items.lookup 0
  | .map items => items.lookup ['0']

def all : Value → List Octets
  | .text o => [o]
  | .list items => items.map Prod.snd
  | .map items => items.map Prod.snd

def places : Value → List Octets
  | .text _ => [['0']]
  | .list items => items.map fun i => Octets.ofNat i.1
  | .map items => items.map Prod.fst

end Value

/-- Puts an item into a list that is in the order of its numbers. -/
def putItem (n : Nat) (o : Octets) : List (Nat × Octets) → List (Nat × Octets)
  | [] => [(n, o)]
  | (m, p) :: rest => if n < m then (n, o) :: (m, p) :: rest else if n = m then (n, o) :: rest else (m, p) :: putItem n o rest

/-! ### Options -/

/-- The options with their letters, in the order in which they are told.  Those without a letter have a digit. -/
def optionTable : List (Char × String) :=
  [('e', "errexit"), ('f', "noglob"), ('I', "ignoreeof"), ('i', "interactive"), ('m', "monitor"), ('n', "noexec"),
    ('s', "stdin"), ('x', "xtrace"), ('v', "verbose"), ('V', "vi"), ('E', "emacs"), ('C', "noclobber"), ('a', "allexport"),
    ('b', "notify"), ('u', "nounset"), ('p', "privileged"), ('1', "nolog"), ('2', "debug")]

/-- The options of the rich shell, written in the same way. -/
def richOptionTable : List (Char × String) :=
  [('a', "allexport"), ('B', "braceexpand"), ('E', "errtrace"), ('T', "functrace"), ('h', "hashall"), ('H', "histexpand"),
    ('e', "errexit"), ('k', "keyword"), ('m', "monitor"), ('C', "noclobber"), ('n', "noexec"), ('f', "noglob"), ('b', "notify"),
    ('u', "nounset"), ('t', "onecmd"), ('P', "physical"), ('p', "privileged"), ('v', "verbose"), ('x', "xtrace"),
    ('1', "pipefail"), ('2', "posix"), ('3', "emacs"), ('4', "vi"), ('5', "history"), ('6', "ignoreeof"),
    ('7', "interactive-comments"), ('8', "nolog")]

/-! ### State -/

structure State where
  dialect : Dialect
  /-- What the shell is called in its complaints, and `$0`. -/
  name : Octets
  /-- What the shell is called before a script that is its argument has been read. -/
  called : Octets
  args : List Octets := []
  /-- The variables, in the order in which they were made. -/
  named : List Variable := []
  functions : List (Octets × Command) := []
  aliases : List (Octets × Octets) := []
  /-- The letters of the options that are on. -/
  options : List Char := []
  /-- The letters and names of what else can be switched in the rich shell. -/
  switches : List String := []
  status : Nat := 0
  /-- The outcomes of the stages of the last pipeline. -/
  stages : List Nat := [0]
  lastBackground : Option Nat := none
  /-- The programs in the background, the latest first. -/
  jobs : List Nat := []
  /-- How programs of the background ended that have not been asked for. -/
  outcomes : List (Nat × Ending) := []
  line : Nat := 1
  texts : Array Word := #[]
  /-- The variables that each function hides, innermost first. -/
  hidden : List (List (Octets × Option Variable)) := []
  loops : Nat := 0
  calls : List Octets := []
  /-- What is run at signals; zero is the end. -/
  traps : List (Nat × Octets) := []
  /-- A failure is looked at, and so does not end the script. -/
  isTested : Bool := false
  isTrapping : Bool := false
  /-- The number of the first shell. -/
  number : Nat := 0
  parent : Nat := 0
  /-- The number of this program. -/
  own : Nat := 0
  /-- The directory, as it was reached. -/
  here : Octets := ['/']
  /-- The builtin that complains. -/
  command : Option Octets := none
  isSubshell : Bool := false
  /-- The script is an argument. -/
  isGiven : Bool := false
  /-- The place in a word with several option letters. -/
  letter : Nat := 0
  /-- Where the commands come from, as complaints of the rich shell call it. -/
  origin : Octets
  /-- Where the functions come from. -/
  origins : List (Octets × Octets) := []
  /-- What the text that is read is, unless it is a file. -/
  reading : Option String := none
  /-- The text that is read is all of what a substitution stands for. -/
  isCaptured : Bool := false
  /-- The script that is read, for complaints about it. -/
  source : Octets := []
  /-- Descriptors that are open for the sake of the next command. -/
  kept : List Nat := []
  /-- The names of programs that have been looked for, with how often they were run. -/
  tracked : List (Octets × Nat) := []
  /-- What the last command substitution ended with. -/
  substituted : Option Nat := none

/-- A way to leave a command before its end. -/
inductive Jump where
  /-- The shell ends. -/
  | leave (status : Nat)
  /-- Something cannot be done.  That ends the shell too, but for most builtins. -/
  | failed (status : Nat)
  /-- The rich shell gives up the line. -/
  | discarded (status : Nat)
  | breaking (rounds : Nat)
  | continuing (rounds : Nat)
  | returning
  deriving DecidableEq, Repr

abbrev Sh := ExceptT Jump (StateT State Work)

def ask (call : Call) : Sh call.Answer := (Work.ask call : Work call.Answer)

def isRichShell : Sh Bool := do return (← get).dialect = .rich

/-! ### Options and parameters -/

namespace State

def isOn (s : State) (letter : Char) : Bool := s.options.contains letter

def find? (s : State) (name : Octets) : Option Variable := s.named.find? (·.name = name)

def value? (s : State) (name : Octets) : Option Value := (s.find? name).bind Variable.value

def lookUp (s : State) (name : Octets) : Option Octets :=
  if s.dialect = .rich && name = ascii "LINENO" then some (Octets.ofNat s.line)
  else if s.dialect = .rich && name = ascii "FUNCNAME" then s.calls.head?
  else if s.dialect = .rich && name = ascii "BASHPID" then some (Octets.ofNat s.own)
  else (s.value? name).bind Value.plain?

/-- What fields are separated by. -/
def separators (s : State) : Octets := (s.lookUp (ascii "IFS")).getD (ascii " \t\n")

/-- The letters of the options that are on, in the order of the shell's table. -/
def letters (s : State) : Octets :=
  match s.dialect with
  | .plain => ((optionTable.map Prod.fst).filter fun c => s.isOn c && !c.isDigit).reverse
  | .rich => (ascii "abefhkmnptuvxBCEHPT").filter s.isOn ++ (if s.isGiven then ['c'] else []) ++ (if s.isOn 's' then ['s'] else [])

/-- A variable changed, or made. -/
def alter (s : State) (name : Octets) (f : Variable → Variable) : State :=
  if s.named.any (·.name = name) then
    { s with named := s.named.map fun v => if v.name = name then f v else v }
  else { s with named := s.named ++ [f { name }] }

/-- Sets a variable, whatever it was. -/
def put (s : State) (name value : Octets) : State := s.alter name fun v => { v with value := some (.text value) }

/-- What is on the search path of programs. -/
def searchPath (s : State) : Octets := (s.lookUp (ascii "PATH")).getD []

/-- The values a program gets. -/
def environment (s : State) : List (Octets × Octets) :=
  let shown := s.named.filterMap fun v =>
    if v.exported then (match v.value with
      | some (.text o) => some (v.name, o)
      | _ => none)
    else none
  match s.dialect with
  | .rich => shown
  | .plain =>
    -- the order of a table with so many rows
    let row (name : Octets) : Nat :=
      match name with
      | [] => 0
      | c :: _ => (name.foldl (fun h d => h + d.toNat) (c.toNat * 16)) % 39
    (List.range 39).flatMap fun n => shown.filter fun v => row v.1 = n

end State

/-! ### Complaints -/

/-- What stands before a complaint. -/
def complaintHead : Sh Octets := do
  let s ← get
  let command := match s.command with
    | some c => c ++ ascii ": "
    | none => []
  return match s.dialect with
    | .plain => s.name ++ ascii ": " ++ Octets.ofNat s.line ++ ascii ": " ++ command
    | .rich => s.origin ++ ascii ": line " ++ Octets.ofNat s.line ++ ascii ": " ++ command

def report (o : Octets) : Sh Unit := (Work.put 2 o : Work Unit)

def complain (message : Octets) : Sh Unit := do report ((← complaintHead) ++ message ++ ['\n'])

/-- Complains, and gives up. -/
def failWith {α : Type} (message : Octets) : Sh α := do
  complain message
  if ← isRichShell then throw (.discarded 1) else throw (.failed 2)

def setStatus (n : Nat) : Sh Unit := modify fun s => { s with status := n }

/-- Writes to the standard output.  What cannot be written makes a builtin fail. -/
def say (o : Octets) : Sh Unit := do
  match ← (Work.write 1 o : Work (Except Fault Unit)) with
  | .ok () => return
  | .error fault =>
    let s ← get
    match s.dialect with
    | .plain => complain (s.command.getD [] ++ ascii ": I/O error")
    | .rich => complain (ascii "write error: " ++ reason fault)
    throw (.failed 1)

/-! ### Assigning -/

def isReadonly (name : Octets) : Sh Bool := do return ((← get).find? name).any Variable.readonly

/-- Refuses to change what is not to be changed. -/
def checkReadonly (name : Octets) : Sh Unit := do
  if ← isReadonly name then
    if ← isRichShell then failWith (name ++ ascii ": readonly variable")
    else failWith (name ++ ascii ": is read only")

/-- Sets a variable to a text. -/
def assignText (name value : Octets) : Sh Unit := do
  checkReadonly name
  if name = ascii "PATH" then modify fun s => { s with tracked := [] }
  modify fun s => s.alter name fun v =>
    let value := match v.recase with
      | some true => Octets.upper value
      | some false => Octets.lower value
      | none => value
    { v with
      exported := v.exported || s.isOn 'a'
      value := some (match v.value with
        | some (.list items) => .list (putItem 0 value items)
        | some (.map items) => .map (items.filter (·.1 ≠ ['0']) ++ [(['0'], value)])
        | _ => .text value) }

def assignValue (name : Octets) (value : Value) : Sh Unit := do
  checkReadonly name
  modify fun s => s.alter name fun v => { v with value := some value }

def unassign (name : Octets) : Sh Unit := do
  checkReadonly name
  modify fun s => { s with named := s.named.filter (·.name ≠ name) }

/-! ### Parameters -/

/-- Joins the arguments with the first separator. -/
def joinedArgs (s : State) : Octets :=
  let between := match s.lookUp (ascii "IFS") with
    | some o => o.take 1
    | none => [' ']
  between.intercalate s.args

/-- The text of a parameter, if it is set. -/
def State.param? (s : State) (name : Octets) : Option Octets :=
  match name with
  | ['#'] => some (Octets.ofNat s.args.length)
  | ['?'] => some (Octets.ofNat s.status)
  | ['-'] => some s.letters
  | ['$'] => some (Octets.ofNat s.number)
  | ['!'] => s.lastBackground.map Octets.ofNat
  | ['@'] => if s.args.isEmpty then none else some ([' '].intercalate s.args)
  | ['*'] => if s.args.isEmpty then none else some (joinedArgs s)
  | _ =>
    match Octets.nat? name with
    | some 0 => some s.name
    | some n => s.args[n - 1]?
    | none => s.lookUp name

end GrammarStudio.Shell
