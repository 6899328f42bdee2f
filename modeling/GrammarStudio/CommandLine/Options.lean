import GrammarStudio.Check.Report
import GrammarStudio.Log.Record

/-!
# The options of the command line

* `Task` — the window or a check;
* `Verbosity` — how often more and how often less was asked for;
* `Invocation` — all that a command line says;
* `UsageError` — the ways a command line is none;
* `Scope` — the command line as a whole, and the part behind each subcommand;
* `Opt` — the options, with the scopes that know them, their names and what they take;
* `conflicting` — the pairs that exclude each other.
-/

namespace GrammarStudio.CommandLine

open Log

/-! ### What a command line asks for -/

inductive Task where
  | gui
  | check (options : Check.Options)
  deriving DecidableEq, Repr

/-- How often records were asked to be louder, and how often quieter. -/
structure Verbosity where
  louder : Nat := 0
  quieter : Nat := 0
  deriving DecidableEq, Repr

namespace Verbosity

/-- Without a word on it, records of level info and above are written. -/
def usual : Threshold := some .info

def threshold (v : Verbosity) : Threshold := usual.offset ((v.louder : Int) - v.quieter)

/-- Was anything asked for? -/
def isPresent (v : Verbosity) : Bool := v.louder != 0 || v.quieter != 0

example : (⟨0, 0⟩ : Verbosity).threshold = some .info := by decide
example : (⟨7, 0⟩ : Verbosity).threshold = some .trace := by decide
example : (⟨0, 3⟩ : Verbosity).threshold = none := by decide

end Verbosity

/-- All that a command line says. -/
structure Invocation where
  task : Option Task := none
  config : Option String := none
  engine : Option String := none
  engineArgs : List String := []
  storage : Option String := none
  ephemeral : Bool := false
  logLevel : Option Level := none
  verbosity : Verbosity := {}
  deriving DecidableEq, Repr

/-- Why a command line asks for nothing that can be done.  A request for help is one such. -/
inductive UsageError where
  | helpWanted
  | versionWanted
  | unknownArgument
  | unknownSubcommand
  | missingArgument
  | invalidValue
  | tooManyValues
  | conflict
  deriving DecidableEq, Repr

/-- What is told of a command line that asks for nothing that can be done. -/
def UsageError.reason : UsageError → String
  | .helpWanted => "usage: peg-playground [OPTIONS] [gui | check GRAMMAR [CODE]]"
  | .versionWanted => "peg-playground 0.1.0"
  | .unknownArgument => "an argument is not known"
  | .unknownSubcommand => "a subcommand is not known"
  | .missingArgument => "an argument is missing"
  | .invalidValue => "a value is not one that can be given"
  | .tooManyValues => "a value is given to what takes none"
  | .conflict => "two arguments exclude each other"

/-- Is it a request, and no mistake? -/
def UsageError.isRequest : UsageError → Bool
  | .helpWanted | .versionWanted => true
  | _ => false

/-! ### Options -/

/-- A part of the command line with options of its own. -/
inductive Scope where
  | whole
  | gui
  | check
  deriving DecidableEq, Repr

/-- The subcommand of a name. -/
def Scope.ofName? (name : String) : Option Scope :=
  if name = "gui" then some .gui else if name = "check" then some .check else none

inductive Opt where
  | config
  | engine
  | engineArg
  | storage
  | ephemeral
  | verbose
  | quiet
  | logLevel
  | source
  | optimize
  | packrat
  | ast
  | profile
  | format
  | help
  | version
  deriving DecidableEq, Repr

namespace Opt

def all : List Opt :=
  [.config, .engine, .engineArg, .storage, .ephemeral, .verbose, .quiet, .logLevel, .source, .optimize, .packrat, .ast,
    .profile, .format, .help, .version]

/-- The name behind two hyphens. -/
def longName : Opt → String
  | .config => "config"
  | .engine => "engine"
  | .engineArg => "engine-arg"
  | .storage => "storage"
  | .ephemeral => "ephemeral"
  | .verbose => "verbose"
  | .quiet => "quiet"
  | .logLevel => "log-level"
  | .source => "source"
  | .optimize => "opt"
  | .packrat => "packrat"
  | .ast => "ast"
  | .profile => "profile"
  | .format => "format"
  | .help => "help"
  | .version => "version"

/-- The letter behind one hyphen, for those that have one. -/
def letter? : Opt → Option Char
  | .verbose => some 'v'
  | .quiet => some 'q'
  | .help => some 'h'
  | .version => some 'V'
  | _ => none

/-- Is the option known in the scope?  Those of the whole command line may also stand behind a subcommand, except for
the version. -/
def knownIn (o : Opt) (scope : Scope) : Bool :=
  match o with
  | .version => scope == .whole
  | .source | .optimize | .packrat | .ast | .profile | .format => scope == .check
  | _ => true

/-- Does a value belong to the option? -/
def takesValue : Opt → Bool
  | .config | .engine | .engineArg | .storage | .logLevel | .source | .optimize | .format => true
  | _ => false

/-- May the option be given again at its place? -/
def repeatable : Opt → Bool
  | .engineArg | .verbose | .quiet => true
  | _ => false

/-- Is whatever stands behind the option its value, hyphens and all? -/
def takesAnything : Opt → Bool
  | .engineArg => true
  | _ => false

/-- Is this a value for the option?  A path is not empty, and a choice is one of its names. -/
def accepts (o : Opt) (value : String) : Bool :=
  match o with
  | .config | .storage => value ≠ ""
  | .logLevel => (Level.ofName? value).isSome
  | .optimize => value == "all" || value == "none"
  | .format => value == "text" || value == "html"
  | _ => true

def ofLongName? (scope : Scope) (name : String) : Option Opt :=
  all.find? fun o => o.knownIn scope && o.longName == name

def ofLetter? (scope : Scope) (letter : Char) : Option Opt :=
  all.find? fun o => o.knownIn scope && o.letter? == some letter

end Opt

end GrammarStudio.CommandLine
