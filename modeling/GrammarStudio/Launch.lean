import GrammarStudio.Check.Run
import GrammarStudio.CommandLine.Parse
import GrammarStudio.Config.Basic
import GrammarStudio.Engine.Program
import GrammarStudio.Log.Filter
import GrammarStudio.Session.Transition
import GrammarStudio.Store.File

/-!
# From the command line to the end

A launch reads the configuration, finds the engine, and then checks files or opens the window.  What happens on the way
is recorded, and the records that pass the filter are written to the standard output, before the report.

* `Surroundings` — what a launch finds around it;
* `Launched` — what it leaves;
* `Launch.Caller` — how a launch puts requests to programs;
* `Launch.check`, `Launch.openWindow` — the two things it can be for;
* `Launch.work`, `Launch.deliver` — what a launch does, and what is written of it;
* `Launch.run`, `Launch.ofArguments` — a launch, for what the command line asks.
-/

namespace GrammarStudio

open CommandLine Engine Files Log

/-- What a launch finds around it. -/
structure Surroundings where
  tree : Tree
  /-- The person's own directory. -/
  home : String
  /-- What the environment says about records. -/
  logSetting : Option String := none

/-- What a launch leaves. -/
structure Launched where
  status : Nat
  output : String := ""
  errors : String := ""
  deriving DecidableEq, Repr

namespace Launch

/-! ### Where things are -/

def configPath (s : Surroundings) (i : Invocation) : String :=
  i.config.getD (s.home ++ "/.config/peg-playground/config.toml")

/-- The file of the settings store: the command line says so first, then the configuration. -/
def storePath (s : Surroundings) (i : Invocation) (c : Config) : String :=
  (i.storage.or c.storage).getD (s.home ++ "/.local/share/peg-playground/settings.json")

/-- The records that are written.  What the command line says leaves the environment without a say. -/
def filter (s : Surroundings) (i : Invocation) : Filter :=
  match i.logLevel with
  | some level => Filter.upTo (some level)
  | none =>
    if i.verbosity.isPresent then Filter.upTo i.verbosity.threshold
    else Filter.parse i.verbosity.threshold (s.logSetting.getD "")

/-- What is said of the environment's setting where it is no filter. -/
def filterComplaints (s : Surroundings) (i : Invocation) : String :=
  if i.logLevel.isSome || i.verbosity.isPresent then "" else Filter.complaints (s.logSetting.getD "")

/-! ### Configuration -/

/-- The configuration, with what is recorded of reading it. -/
def config [Wording] (s : Surroundings) (i : Invocation) : Config × List Record :=
  let path := configPath s i
  match Config.load s.tree path with
  | .ok (some c) => (c, [])
  | .ok none => ({}, [⟨.debug, "no config file, using defaults", [("path", .text path)], "config"⟩])
  | .error e => ({}, [⟨.warn, "falling back to default configuration", [("err", .text e.message)], ""⟩])

/-- The engine's program, if there is one. -/
def program? (i : Invocation) (c : Config) : Option Program :=
  (c.resolve i.engine i.engineArgs).map fun e => ⟨e.program, e.args⟩

/-- Puts requests to programs. -/
abbrev Caller := Program → Request → Except Failure Ended

/-- The programs are those of the tree, and they find the person's own directory. -/
def caller (s : Surroundings) : Caller := fun p => p.call s.tree [("HOME", s.home)]

/-! ### A check -/

/-- What is recorded of one answer to a request. -/
def answerRecords (e : Ended) : List Record :=
  match e.answer with
  | .error _ => []
  | .ok answer =>
    let failing : List Record := if e.ending.isSuccess then [] else
      [⟨.debug, "engine exited non-zero but produced a report", [("status", .text e.ending.text)], "engine"⟩]
    let completed : List Record :=
      match Analysis.readAnswer (.ok answer) with
      | .error _ => []
      | .ok report =>
        [⟨.info, "analysis completed",
          [("cycle", .number 1), ("grammar_valid", .flag report.grammarValid),
            ("source_valid", .flag report.sourceValid),
            ("grammar_errors", .number report.grammarErrors.length),
            ("code_errors", .number ((report.source.map (·.errors.length)).getD 0))], "analysis"⟩]
    failing ++ completed

/-- What is recorded of the request that a check sent, if it sent one. -/
def analysisRecords (p : Program) (call : Request → Except Failure Ended) : List Request → List Record
  | [] => [⟨.debug, "grammar is empty, skipping analysis", [], "analysis"⟩]
  | r :: _ =>
    ⟨.debug, "invoking engine",
      [("program", .text p.name), ("optimize", .flag r.optimize), ("packrat", .flag r.packrat)], "engine"⟩ ::
    match call r with
    | .error _ => []
    | .ok e => answerRecords e

/-- A check of files. -/
def check [Wording] (call : Caller) (s : Surroundings) (p : Program) (o : Check.Options) : Launched × List Record :=
  match o.run (fun r => do (← call p r).answer) s.tree with
  | .error e =>
    ({ status := 1, errors := "Error: " ++ e.context ++ "\n\nCaused by:\n    " ++ e.cause.message ++ "\n" }, [])
  | .ok f =>
    ({ status := f.verdict.status, output := f.output, errors := f.errors }, analysisRecords p (call p) f.sent)

/-! ### The window -/

/-- The store of a session, with what is recorded of opening it. -/
def store [Wording] (s : Surroundings) (i : Invocation) (c : Config) : AnyStore × List Record :=
  if i.ephemeral then (.memory {}, [⟨.info, "ephemeral session, settings are not persisted", [], ""⟩])
  else
    let path := storePath s i c
    let m := Mounted.open s.tree path
    let spoiled : List Record := (FileStore.complaint? s.tree path).toList.map fun account =>
      ⟨.warn, "ignoring corrupt settings store", [("path", .text path), ("err", .text account)], "states::storage"⟩
    (.file m, spoiled ++
      [⟨.debug, "opened settings store", [("path", .text path), ("keys", .number m.store.entries.length)],
          "states::storage"⟩,
        ⟨.info, "using settings store", [("path", .text path)], ""⟩])

/-- The session that the window is to show. -/
def session [Wording] (s : Surroundings) (i : Invocation) (c : Config) : Session AnyStore Float :=
  Session.start (store s i c).1

/-- What is recorded of the start of a session. -/
def startRecord {σ τ : Type} (session : Session σ τ) : Record :=
  ⟨.info, "playground started",
    [("optimize", .word session.settings.optimization.name), ("packrat", .flag session.settings.packrat),
      ("auto_refresh", .flag session.settings.autoRefresh), ("grammar_len", .number session.grammarText.utf8ByteSize),
      ("code_len", .number session.codeText.utf8ByteSize)], "controller"⟩

/-- Opens the window.  There is no screen to open it on. -/
def openWindow [Wording] (s : Surroundings) (i : Invocation) (c : Config) : Launched × List Record :=
  ({ status := 1, errors := "Error: failed to start the window: there is no screen\n" },
    (store s i c).2 ++ [startRecord (session s i c)])

/-! ### All of it -/

/-- What a launch does, with what is recorded on the way. -/
def work [Wording] (call : Caller) (s : Surroundings) (i : Invocation) : Launched × List Record :=
  let (c, configRecords) := config s i
  match program? i c with
  | none => ({ status := 1, errors := "Error: " ++ Config.noEngineMessage ++ "\n" }, configRecords)
  | some p =>
    let (launched, records) := match i.task with
      | some (.check o) => check call s p o
      | some .gui | none => openWindow s i c
    (launched, configRecords ++ ⟨.debug, "engine configured", [("program", .text p.name)], ""⟩ :: records)

/-- The records that pass are written before anything else. -/
def deliver (s : Surroundings) (i : Invocation) (done : Launched × List Record) : Launched :=
  { done.1 with
    output := (filter s i).written done.2 ++ done.1.output
    errors := filterComplaints s i ++ done.1.errors }

/-- A launch, for what the command line asks. -/
def run [Wording] (s : Surroundings) (i : Invocation) : Launched := deliver s i (work (caller s) s i)

/-- The end of a launch whose command line asks for nothing that can be done. -/
def refuse (e : UsageError) : Launched :=
  if e.isRequest then { status := 0, output := e.reason ++ "\n" }
  else { status := 2, errors := "error: " ++ e.reason ++ "\n" }

/-- A launch, for the arguments of a command line. -/
def ofArgumentsBy [Wording] (call : Caller) (s : Surroundings) (args : List String) : Launched :=
  match CommandLine.parse args with
  | .ok i => deliver s i (work call s i)
  | .error e => refuse e

/-- A launch, for the arguments of a command line, with the programs of the tree. -/
def ofArguments [Wording] (s : Surroundings) (args : List String) : Launched := ofArgumentsBy (caller s) s args

end Launch

end GrammarStudio
