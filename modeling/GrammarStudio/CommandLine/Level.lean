import GrammarStudio.CommandLine.Options

/-!
# One level of a command line

The command line up to a subcommand is one level and the rest is another.  A level is read argument by argument.  What
an option or a path takes is only looked at when the next one comes, or the end; so of two mistakes the first one met
counts, and an option that lacks its value is found where the next thing begins.

* `Given` — what a level holds so far;
* `Level`, `Level.step` — reading one argument;
* `Level.close` — the end: nothing waits any more, nothing excludes anything else, nothing is missing.
-/

namespace GrammarStudio.CommandLine

/-- An option with its value, or a path.  The value of an option without one is empty. -/
inductive Given where
  | option (o : Opt) (value : String)
  | path (path : String)
  deriving DecidableEq, Repr

/-- What has been met and not looked at yet. -/
inductive Waiting where
  | option (o : Opt) (value : Option String)
  | path (path : String)
  deriving DecidableEq, Repr

/-- A level, as far as it has been read. -/
structure Level where
  given : List Given := []
  waiting : Option Waiting := none
  /-- How many paths were met. -/
  paths : Nat := 0
  /-- Two hyphens have ended the options. -/
  optionsEnded : Bool := false
  deriving DecidableEq, Repr

namespace Level

/-! ### What a level holds -/

/-- The values an option was given, in their order. -/
def values (l : Level) (o : Opt) : List String :=
  l.given.filterMap fun
    | .option o' value => if o' = o then some value else none
    | .path _ => none

def has (l : Level) (o : Opt) : Bool := !(l.values o).isEmpty

def pathsGiven (l : Level) : List String :=
  l.given.filterMap fun
    | .option _ _ => none
    | .path p => some p

/-! ### Taking -/

/-- Takes something into the level: an option not twice, and only with a value that is one. -/
def take (l : Level) (g : Given) : Except UsageError Level :=
  match g with
  | .option o value =>
    if l.has o && !o.repeatable then .error .conflict
    else if !o.accepts value then .error .invalidValue
    else .ok { l with given := l.given ++ [g] }
  | .path p => if p = "" then .error .invalidValue else .ok { l with given := l.given ++ [g] }

/-- Looks at what waits. -/
def settle (l : Level) : Except UsageError Level :=
  match l.waiting with
  | none => .ok l
  | some (.option _ none) => .error .invalidValue
  | some (.option o (some value)) => { l with waiting := none }.take (.option o value)
  | some (.path p) => { l with waiting := none }.take (.path p)

/-- An option without a value is met. -/
def flag (l : Level) (o : Opt) : Except UsageError Level := do
  let l ← l.settle
  match o with
  | .help => .error .helpWanted
  | .version => .error .versionWanted
  | o => l.take (.option o "")

/-! ### Arguments -/

/-- An option by its long name, perhaps with a value behind an equals sign. -/
def long (scope : Scope) (l : Level) (name : String) (value : Option String) : Except UsageError Level :=
  match Opt.ofLongName? scope name, value with
  | none, _ => .error .unknownArgument
  | some o, some value =>
    if o.takesValue then do (← l.settle).take (.option o value) else .error .tooManyValues
  | some o, none =>
    if o.takesValue then do .ok { ← l.settle with waiting := some (.option o none) } else l.flag o

/-- Options by their letters, one after the other. -/
def letters (scope : Scope) (l : Level) : List Char → Except UsageError Level
  | [] => .ok l
  | c :: rest =>
    match Opt.ofLetter? scope c with
    | none => .error .unknownArgument
    | some o => do letters scope (← l.flag o) rest

/-- How many paths a scope takes. -/
def pathLimit : Scope → Nat
  | .check => 2
  | .whole | .gui => 0

/-- An argument that is neither an option nor a value. -/
def positional (scope : Scope) (l : Level) (arg : String) : Except UsageError Level :=
  if l.paths < pathLimit scope then do
    .ok { ← l.settle with waiting := some (.path arg), paths := l.paths + 1 }
  else if scope = .whole && !(l.optionsEnded && (arg == "help" || (Scope.ofName? arg).isSome)) then
    .error .unknownSubcommand
  else .error .unknownArgument

/-- The option that waits for its value. -/
def wanting (l : Level) : Option Opt :=
  match l.waiting with
  | some (.option o none) => some o
  | _ => none

/-- How an argument looks. -/
inductive Shape where
  /-- Two hyphens alone. -/
  | ending
  | long (name : String) (value : Option String)
  | letters (letters : List Char)
  /-- Anything else, a lone hyphen too. -/
  | word
  deriving DecidableEq, Repr

def Shape.of (arg : String) : Shape :=
  match arg.toList with
  | ['-', '-'] => .ending
  | '-' :: '-' :: rest =>
    let name := String.ofList (rest.takeWhile (· ≠ '='))
    match rest.dropWhile (· ≠ '=') with
    | [] => .long name none
    | _ :: value => .long name (some (String.ofList value))
  | '-' :: c :: rest => .letters (c :: rest)
  | _ => .word

/-- Reads one argument. -/
def step (scope : Scope) (l : Level) (arg : String) : Except UsageError Level :=
  if l.optionsEnded then l.positional scope arg
  else
    match l.wanting, Shape.of arg with
    | some o, shape =>
      if o.takesAnything then .ok { l with waiting := some (.option o (some arg)) }
      else
        match shape with
        | .ending => .ok { l with optionsEnded := true }
        | .long name value => l.long scope name value
        | .letters cs => l.letters scope cs
        | .word => .ok { l with waiting := some (.option o (some arg)) }
    | none, .ending => .ok { l with optionsEnded := true }
    | none, .long name value => l.long scope name value
    | none, .letters cs => l.letters scope cs
    | none, .word => l.positional scope arg

/-! ### The end of a level -/

/-- The pairs of which only one may be given. -/
def conflicting (l : Level) : Bool :=
  (l.has .ephemeral && l.has .storage) || (l.has .verbose && l.has .quiet) ||
    (l.has .source && 2 ≤ l.pathsGiven.length)

/-- Ends a level. -/
def close (scope : Scope) (l : Level) : Except UsageError Level := do
  let l ← l.settle
  if l.conflicting then .error .conflict
  else if scope = .check && l.pathsGiven.isEmpty then .error .missingArgument
  else .ok l

/-- Reads a level that has no subcommands, to its end. -/
def readAll (scope : Scope) (l : Level) : List String → Except UsageError Level
  | [] => l.close scope
  | arg :: rest => do readAll scope (← l.step scope arg) rest

end Level

end GrammarStudio.CommandLine
