import GrammarStudio.Files.Tree
import GrammarStudio.Text.Blank
import GrammarStudio.Toml.Document

/-!
# The configuration file

A file can name the engine, its arguments and the file of the settings store.  A file that is missing says nothing.
What it does say has to have the right shape; what it says beyond that is passed over.

* `Config` — what a file says;
* `Config.ofEntries?` — the configuration of a document;
* `Config.load` — the configuration in a file, with the two ways this fails;
* `Config.resolve` — the engine to run, where the command line has its say first.
-/

namespace GrammarStudio

open Toml
open Files (Tree Fault)

/-- What a configuration file says. -/
structure Config where
  command : Option String := none
  args : List String := []
  storage : Option String := none
  deriving DecidableEq, Repr

namespace Config

/-! ### Shapes -/

def text? : Node → Option String
  | .text value => some value
  | _ => none

/-- A text that may be absent. -/
def optionalText? : Option Node → Option (Option String)
  | none => some none
  | some node => (text? node).map some

/-- A list of texts; an absent one is empty. -/
def texts? : Option Node → Option (List String)
  | none => some []
  | some (.array items) => items.mapM text?
  | some _ => none

/-- The nodes of a table under the given keys.  A table can also be written as the array of its values, in the order of
the keys; what is missing at the end is absent, and what is too much does not count.  A moment is a table without any
of the keys. -/
def fields? (keys : List String) : Option Node → Option (List (Option Node))
  | none => some (keys.map fun _ => none)
  | some (.table _ entries) => some (keys.map fun key => entries.lookup key)
  | some (.array items) => some ((List.range keys.length).map (items[·]?))
  | some (.tables latest earlier) =>
    let items := (earlier.reverse ++ [latest]).map (Node.table .header)
    some ((List.range keys.length).map (items[·]?))
  | some .moment => some (keys.map fun _ => none)
  | some _ => none

/-- The configuration of a document. -/
def ofEntries? (entries : Entries) : Option Config := do
  let engine ← fields? ["command", "args"] (entries.lookup "engine")
  let storage ← fields? ["path"] (entries.lookup "storage")
  some
    { command := ← optionalText? (engine[0]?).join
      args := ← texts? (engine[1]?).join
      storage := ← optionalText? (storage[0]?).join }

/-! ### Files -/

/-- Why there is no configuration to be had. -/
inductive LoadError where
  | read (path : String) (cause : Fault)
  /-- The text is no configuration, with what is told of it. -/
  | malformed (path : String) (account : String)
  deriving DecidableEq, Repr

def LoadError.message : LoadError → String
  | .read path cause => "failed to read config '" ++ path ++ "': " ++ cause.message
  | .malformed path account => "invalid config '" ++ path ++ "': " ++ account

/-- What a file holds; nothing if there is no such file. -/
def load [Wording] (tree : Tree) (path : String) : Except LoadError (Option Config) :=
  match tree.readText path with
  | .error .notFound => .ok none
  | .error cause => .error (.read path cause)
  | .ok text =>
    match (Toml.parse? text).bind ofEntries? with
    | some config => .ok (some config)
    | none => .error (.malformed path (Wording.config text))

/-! ### The engine -/

/-- Told when nothing names an engine. -/
def noEngineMessage : String :=
  "no engine configured: set `command` under `[engine]` in the config file or pass --engine"

/-- A program with its arguments. -/
structure CommandLine where
  program : String
  args : List String
  deriving DecidableEq, Repr

/-- The engine to run, if one is named.  A command that is given replaces the configured one, even by a blank, which
names none; arguments that are given replace all the configured ones. -/
def resolve (config : Config) (command : Option String) (args : List String) : Option CommandLine :=
  match command.or config.command with
  | none => none
  | some program =>
    if Text.allBlank program then none else some ⟨program, if args.isEmpty then config.args else args⟩

end Config

end GrammarStudio
