import GrammarStudio.Analysis.Outcome
import GrammarStudio.Diagnostics.View
import GrammarStudio.Session.Debounce
import GrammarStudio.Settings.Persistence

/-!
# The state of a session

A session holds both documents, the settings, the latest outcome with its view, and the text areas they are shown in.
Two things can make it wait: the window after an edit, and the one tick for which a request waits before it goes to the
engine, so that the host can show that it is busy.

* `Phase` — where the current analysis is;
* `Session` — the state, with `Session.busy`, `Session.request` and `Session.wait`.
-/

namespace GrammarStudio

open Analysis Diagnostics Editor

/-- Where the current analysis is. -/
inductive Phase where
  | idle
  /-- A request waits for the next tick. -/
  | pending (request : Request)
  /-- The engine works. -/
  | running
  deriving DecidableEq, Repr

/-- What is put off until a burst of edits is over. -/
inductive Deferred where
  /-- Save documents and settings, and analyse if that goes by itself. -/
  | commit
  deriving DecidableEq, Repr

/-- The state of a session over a store `σ` and times `τ`. -/
structure Session (σ τ : Type) where
  grammarText : String
  codeText : String
  settings : Settings
  /-- The panels on the screen. -/
  shown : Panels
  outcome : Outcome := .skipped
  view : View := {}
  phase : Phase := .idle
  commit : Debounce τ Deferred
  engineReady : Bool := false
  desk : Desk
  store : σ
  /-- The requests sent to the engine, the latest first. -/
  sent : List Request := []

namespace Session

variable {σ τ : Type}

/-- The session's text of a document; the text area can be ahead of it. -/
def text (s : Session σ τ) : Document → String
  | .grammar => s.grammarText
  | .code => s.codeText

def withText (s : Session σ τ) (d : Document) (text : String) : Session σ τ :=
  match d with
  | .grammar => { s with grammarText := text }
  | .code => { s with codeText := text }

/-- Is an analysis under way? -/
def busy (s : Session σ τ) : Bool := s.phase ≠ .idle

/-- Does a commit wait for the end of a burst? -/
def commitPending (s : Session σ τ) : Bool := s.commit.isPending

/-- An analysis can be asked for only while it does not go by itself. -/
def parseEnabled (s : Session σ τ) : Bool := !s.settings.autoRefresh

/-- The request of documents and settings as they are. -/
def request (s : Session σ τ) : Request :=
  ⟨s.grammarText, s.codeText, s.settings.optimization.enabled, s.settings.packrat⟩

/-- How long the host may leave the session alone; `none` when nothing waits. -/
def wait [Clock τ] (s : Session σ τ) (now : τ) : Option τ :=
  if s.busy then some Clock.zero else s.commit.remaining now

end Session

end GrammarStudio
