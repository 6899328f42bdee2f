import GrammarStudio.CommandLine.Level

/-!
# Reading a command line

A command line is a level of its own up to the subcommand, and a second level behind it.  The second level is read
first to its end, then the first one.  An option known to both counts where it was given; given on both sides, what
stands behind the subcommand counts.

* `parse` — what a command line asks for, the name of the program apart.
-/

namespace GrammarStudio.CommandLine

open Log

/-- The levels of a command line. -/
structure Levels where
  outer : Level
  inner : Option (Scope × Level)
  deriving DecidableEq, Repr

/-- Help on a subcommand that there is, or on all of it. -/
def helpOn : List String → UsageError
  | [] => .helpWanted
  | [name] => if name = "help" || (Scope.ofName? name).isSome then .helpWanted else .unknownSubcommand
  | _ => .unknownSubcommand

/-- Can a subcommand stand here?  Not as the value of an option, and not behind two hyphens. -/
def Level.admitsSubcommand (l : Level) : Bool := !l.optionsEnded && l.wanting.isNone

/-- Reads the outer level up to a subcommand, and that one. -/
def readLevels (l : Level) : List String → Except UsageError Levels
  | [] => do .ok ⟨← l.close .whole, none⟩
  | arg :: rest =>
    if l.admitsSubcommand && arg == "help" then .error (helpOn rest)
    else
      match (if l.admitsSubcommand then Scope.ofName? arg else none) with
      | some scope => do
        let inner ← Level.readAll scope {} rest
        .ok ⟨← l.close .whole, some (scope, inner)⟩
      | none => do readLevels (← l.step .whole arg) rest

namespace Levels

/-- The levels, the one that counts first. -/
def byWeight (l : Levels) : List Level :=
  match l.inner with
  | some (_, inner) => [inner, l.outer]
  | none => [l.outer]

/-- The values of an option, from the first level that has any. -/
def values (l : Levels) (o : Opt) : List String :=
  ((l.byWeight.map fun level => level.values o).find? fun vs => !vs.isEmpty).getD []

def value? (l : Levels) (o : Opt) : Option String := (l.values o).head?

def has (l : Levels) (o : Opt) : Bool := !(l.values o).isEmpty

/-- How often a flag was given.  Nobody counts past 255. -/
def count (l : Levels) (o : Opt) : Nat := min 255 (l.values o).length

/-- What is to be checked. -/
def checkOptions (inner : Level) : Check.Options :=
  { grammar := (inner.pathsGiven[0]?).getD ""
    code := inner.pathsGiven[1]?
    source := (inner.values .source).head?
    optimization := Optimization.ofName (((inner.values .optimize).head?).getD "")
    packrat := inner.has .packrat
    ast := inner.has .ast
    profile := inner.has .profile
    format := if (inner.values .format).head? = some "html" then .html else .text }

/-- The subcommand. -/
def task (l : Levels) : Option Task :=
  l.inner.map fun (scope, inner) =>
    match scope with
    | .check => .check (checkOptions inner)
    | .gui | .whole => .gui

/-- What the levels say together. -/
def invocation (l : Levels) : Invocation :=
  { task := l.task
    config := l.value? .config
    engine := l.value? .engine
    engineArgs := l.values .engineArg
    storage := l.value? .storage
    ephemeral := l.has .ephemeral
    logLevel := (l.value? .logLevel).bind Log.Level.ofName?
    verbosity := ⟨l.count .verbose, l.count .quiet⟩ }

end Levels

/-- What a command line asks for. -/
def parse (args : List String) : Except UsageError Invocation := (readLevels {} args).map Levels.invocation

end GrammarStudio.CommandLine
