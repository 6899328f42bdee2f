import GrammarStudio.Analysis.Decode
import GrammarStudio.Engine.Request

/-!
# One analysis

A request goes to the engine and its answer is read; an empty grammar is not worth a call.

* `AnalysisError` — the engine failed, or its answer did;
* `Outcome` — what the last analysis came to;
* `Cycle` — the calls of one analysis, with what came of them;
* `analyze` — one analysis.
-/

namespace GrammarStudio.Analysis

/-- Why an analysis comes to nothing. -/
inductive AnalysisError where
  | engine (failure : Engine.Failure)
  /-- The text that was answered, and what is wrong with it. -/
  | answer (text : String) (error : DecodeError)
  deriving DecidableEq, Repr

def AnalysisError.message [Wording] : AnalysisError → String
  | .engine failure => failure.message
  | .answer text error => error.message (Wording.answer text)

/-- What the last analysis came to. -/
inductive Outcome where
  /-- There was none, or there was nothing to analyse. -/
  | skipped
  | completed (report : Report)
  /-- The engine or its answer was unusable, for the reason told. -/
  | failed (message : String)
  deriving DecidableEq, Repr

/-- Reads what an engine answered. -/
def readAnswer (answer : Except Engine.Failure String) : Except AnalysisError Report :=
  match answer with
  | .error failure => .error (.engine failure)
  | .ok text =>
    match decode text with
    | .error error => .error (.answer text error)
    | .ok report => .ok report

/-- One analysis: the requests put to the engine, the latest first, and what came of them. -/
structure Cycle where
  calls : List Request := []
  result : Except AnalysisError Outcome

/-- One analysis: the engine is called unless the grammar is empty. -/
def analyze (engine : Engine) (request : Request) : Cycle :=
  if request.isEmpty then { result := .ok .skipped }
  else { calls := [request], result := (readAnswer (engine request)).map .completed }

theorem calls_analyze (engine : Engine) (r : Request) :
    (analyze engine r).calls = if r.isEmpty then [] else [r] := by
  unfold analyze
  split <;> rfl

/-- Without a grammar there is nothing to analyse. -/
theorem analyze_of_isEmpty (engine : Engine) {r : Request} (h : r.isEmpty = true) :
    analyze engine r = { result := .ok .skipped } := if_pos h

/-- Only the answers to the calls matter. -/
theorem analyze_congr {engine other : Engine} {r : Request}
    (h : ∀ call ∈ (analyze engine r).calls, engine call = other call) :
    analyze engine r = analyze other r := by
  cases hr : r.isEmpty with
  | true => rw [analyze_of_isEmpty engine hr, analyze_of_isEmpty other hr]
  | false =>
    have hcall : engine r = other r := h r (by simp [calls_analyze, hr])
    rw [analyze, analyze, hcall]

/-- An error is an outcome too. -/
def Outcome.ofResult [Wording] : Except AnalysisError Outcome → Outcome
  | .ok outcome => outcome
  | .error e => .failed e.message

/-- The outcome of an analysis. -/
def Cycle.outcome [Wording] (c : Cycle) : Outcome := .ofResult c.result

end GrammarStudio.Analysis
