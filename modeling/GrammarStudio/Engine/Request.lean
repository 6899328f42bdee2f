import GrammarStudio.Files.Fault

/-!
# What an engine is asked, and how it can fail

An engine reads a grammar and a text and answers with a report, as text.  To the rest of the library it is a function
of the request; that a program with staged files stands behind it matters nowhere else.

* `Request` — the question;
* `Engine.Failure` — the four ways to get no answer, with `Engine.Failure.message`;
* `Engine` — a function from requests to answers.
-/

namespace GrammarStudio

/-- Everything one analysis needs. -/
structure Request where
  grammar : String
  code : String
  optimize : Bool
  packrat : Bool
  deriving DecidableEq, Repr

/-- There is nothing to analyse. -/
def Request.isEmpty (r : Request) : Bool := r.grammar.isEmpty

/-- How an engine fails to answer. -/
inductive Engine.Failure where
  /-- The texts could not be written where the program would read them. -/
  | staging (cause : Files.Fault)
  /-- The program could not be started. -/
  | starting (command : String) (cause : Files.Fault)
  /-- The program ended badly and said nothing on its standard output. -/
  | ended (status : String) (stderr : String)
  /-- The answer is not UTF-8. -/
  | notText
  deriving DecidableEq, Repr

def Engine.Failure.message : Engine.Failure → String
  | .staging cause => "failed to stage engine input: " ++ cause.message
  | .starting command cause => "failed to run engine '" ++ command ++ "': " ++ cause.message
  | .ended status stderr => "engine exited with " ++ status ++ ": " ++ stderr
  | .notText => "engine output is not valid UTF-8"

/-- An engine, as a function of the request. -/
abbrev Engine := Request → Except Engine.Failure String

end GrammarStudio
