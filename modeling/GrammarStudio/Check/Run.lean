import GrammarStudio.Check.Report
import GrammarStudio.Files.Tree

/-!
# A check

A check reads a grammar and perhaps a text from files, has them analysed once, and prints a report.  Its verdict is an
exit status: everything is valid, something is not, or the engine was of no use.

* `Check.ReadError` — a file that cannot be read, with what is told of it;
* `Check.Finished` — what a check leaves behind;
* `Options.run` — a check.
-/

namespace GrammarStudio.Check

open Analysis Diagnostics Editor Files

/-- A document's file could not be read. -/
structure ReadError where
  document : Document
  path : String
  cause : Fault
  deriving DecidableEq, Repr

/-- What could not be done; the cause is told apart. -/
def ReadError.context (e : ReadError) : String :=
  match e.document with
  | .grammar => "can't open the grammar file '" ++ e.path ++ "'"
  | .code => "can't open the code file '" ++ e.path ++ "'"

/-- The verdict of a check. -/
inductive Verdict where
  | accepted
  | rejected
  | unusable
  deriving DecidableEq, Repr

def Verdict.status : Verdict → Nat
  | .accepted => 0
  | .rejected => 1
  | .unusable => 2

/-- What a check leaves behind. -/
structure Finished where
  verdict : Verdict
  output : String := ""
  errors : String := ""
  /-- The requests sent to the engine. -/
  sent : List Request := []
  deriving DecidableEq, Repr

namespace Options

/-- The text of a document's file. -/
def readDocument (tree : Tree) (d : Document) (path : String) : Except ReadError String :=
  match tree.readText path with
  | .ok text => .ok text
  | .error cause => .error ⟨d, path, cause⟩

/-- The text to parse; none is the empty one. -/
def codeText (o : Options) (tree : Tree) : Except ReadError String :=
  match o.source, o.code with
  | some text, _ => .ok text
  | none, some path => readDocument tree .code path
  | none, none => .ok ""

/-- The request of a check. -/
def request (o : Options) (tree : Tree) : Except ReadError Request := do
  let grammar ← readDocument tree .grammar o.grammar
  let code ← o.codeText tree
  .ok ⟨grammar, code, o.optimization.enabled, o.packrat⟩

/-- The verdict on an outcome, by the badges of its view.  Where there was nothing to analyse, nothing is valid. -/
def verdict (o : Options) (outcome : Outcome) (view : View) : Verdict :=
  match outcome with
  | .failed _ => .unusable
  | .skipped => .rejected
  | .completed _ =>
    if view.badge .grammar = .valid ∧ (o.hasCode = false ∨ view.badge .code = .valid) then .accepted else .rejected

/-- What is left of an analysis that came to an outcome, or to an error, which is told in place of a report. -/
def finish [Wording] (o : Options) (result : Except AnalysisError Outcome) : Finished :=
  match result with
  | .error e => { verdict := .unusable, errors := "error: " ++ e.message ++ "\n" }
  | .ok outcome =>
    let view := View.ofOutcome outcome
    { verdict := o.verdict outcome view, output := o.report view }

/-- A check. -/
def run [Wording] (o : Options) (engine : Engine) (tree : Tree) : Except ReadError Finished := do
  let request ← o.request tree
  let cycle := analyze engine request
  .ok { o.finish cycle.result with sent := cycle.calls }

end Options

end GrammarStudio.Check
