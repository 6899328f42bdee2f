/-!
# The report of an analysis

A report says what is wrong with the grammar and, if the grammar can be used, what became of the text parsed with it.
Lines and columns count from one.

* `Location`, `Entry` — one thing that is wrong, and where;
* `SourceReport`, `Report` — the two halves of a report.
-/

namespace GrammarStudio.Analysis

/-- A line and column, counted from one. -/
structure Location where
  line : Nat
  col : Nat
  deriving DecidableEq, Repr

/-- A place in sight of a person, as `line:col`. -/
def Location.label (l : Location) : String := l.line.repr ++ ":" ++ l.col.repr

/-- One error.  An error in the text may name the place of the grammar rule that raised it. -/
structure Entry where
  location : Location
  message : String
  origin : Option Location
  deriving DecidableEq, Repr

/-- What became of the text. -/
structure SourceReport where
  valid : Bool
  errors : List Entry
  ast : String
  astOptimized : String
  profile : String
  deriving DecidableEq, Repr

/-- What is wrong with the grammar; and what became of the text, which only a usable grammar can say. -/
structure Report where
  grammarErrors : List Entry
  source : Option SourceReport
  deriving DecidableEq, Repr

namespace Report

def grammarValid (r : Report) : Bool := r.source.isSome

/-- Was the text accepted?  Not without a usable grammar. -/
def sourceValid (r : Report) : Bool := r.source.any SourceReport.valid

/-- The errors found in the text. -/
def codeErrors (r : Report) : List Entry :=
  match r.source with
  | some s => s.errors
  | none => []

end Report

end GrammarStudio.Analysis
