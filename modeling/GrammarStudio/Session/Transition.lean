import GrammarStudio.Editor.Desk
import GrammarStudio.Session.Basic

/-!
# The steps of a session

Every event of the host is one function on sessions, and only `tick` calls the engine.

* `Session.start` — the session of what a store holds;
* `Session.edited`, `Session.requestParse`, `Session.setOptimization`, … — the events;
* `Session.tick` — sends a request that waits, then commits if the burst of edits is over;
* `Session.flush` — saves what is not saved, at the end;
* `Event`, `Session.step`, `Session.run` — the events as data, and what a list of them comes to.
-/

namespace GrammarStudio

open Analysis Diagnostics Editor

namespace Session

variable {σ τ : Type}

/-! ### Starting -/

/-- The text areas that get another size when a panel comes or goes: the code and the panels shown. -/
def resized (shown : Panels) : List Slot := Slot.code :: shown.shown.map Slot.panel

/-- Asks the text areas that changed their size to measure themselves. -/
def relayout (shown : Panels) (desk : Desk) : Desk :=
  (resized shown).foldl (fun desk slot => desk.update slot Buffer.requestLayout) desk

/-- A document in its text area, with the cursor at its start. -/
def fill (b : Buffer) (text : String) : Buffer := (b.setText text).moveTo ⟨0, 0⟩

/-- The session of what a store holds. -/
def start [Store σ] [Clock τ] (store : σ) : Session σ τ :=
  let settings := Persistence.load store
  let grammar := Persistence.loadText store .grammar
  let code := Persistence.loadText store .code
  let desk : Desk := {}
  let desk := desk.update .grammar (fill · grammar)
  let desk := desk.update .code (fill · code)
  { grammarText := grammar
    codeText := code
    settings
    shown := settings.panels
    commit := ⟨Clock.editWindow, none⟩
    desk := relayout settings.panels desk
    store }

/-! ### Analysis -/

/-- Shows an outcome.  Each panel is emptied and then filled. -/
def applyOutcome (s : Session σ τ) (outcome : Outcome) : Session σ τ :=
  let view := View.ofOutcome outcome
  let display (desk : Desk) (panel : Panel) : Desk :=
    desk.update (.panel panel) fun b => (b.setText "").insert (view.panelText panel)
  { s with desk := Panel.all.foldl display s.desk, view, outcome }

/-- Starts an analysis.  An empty grammar clears everything at once; any other request waits for the next tick, in
place of one that waited already. -/
def begin (s : Session σ τ) : Session σ τ :=
  if s.request.isEmpty then s.applyOutcome .skipped
  else
    match s.phase with
    | .running => s
    | .idle | .pending _ => { s with phase := .pending s.request }

/-- Sends the request that waits, and shows what came of it. -/
def dispatch [Wording] (engine : Engine) (s : Session σ τ) : Session σ τ :=
  match s.phase with
  | .pending request =>
    let s := { s with phase := .running }
    let cycle := analyze engine request
    { s with phase := .idle, sent := cycle.calls ++ s.sent }.applyOutcome cycle.outcome
  | .idle | .running => { s with phase := .idle }

/-! ### Events -/

section Events

variable [Store σ] [Clock τ]

/-- Saves documents and settings. -/
def persist (s : Session σ τ) : Session σ τ :=
  let store := Persistence.saveText s.store .grammar s.grammarText
  let store := Persistence.saveText store .code s.codeText
  { s with store := Persistence.save store s.settings }

/-- Starts an analysis if that goes by itself. -/
def refresh (s : Session σ τ) : Session σ τ := if s.settings.autoRefresh then s.begin else s

/-- Puts a commit off until the burst of edits is over. -/
def scheduleCommit (s : Session σ τ) (now : τ) : Session σ τ :=
  { s with commit := s.commit.schedule .commit now }

/-- The engine can be called from now on.  Only the first such signal counts. -/
def ready (s : Session σ τ) : Session σ τ :=
  if s.engineReady then s else { s with engineReady := true }.refresh

/-- The text area of a document reports an edit. -/
def edited (s : Session σ τ) (d : Document) (now : τ) : Session σ τ :=
  (s.withText d (s.desk.get (.document d)).text).scheduleCommit now

/-- An analysis is asked for. -/
def requestParse (s : Session σ τ) : Session σ τ := if s.parseEnabled then s.begin else s

/-- New settings: saved at once, and committed with the documents later. -/
def changeSettings (s : Session σ τ) (settings : Settings) (now : τ) : Session σ τ :=
  { s with settings, store := Persistence.save s.store settings }.scheduleCommit now

def setOptimization (s : Session σ τ) (o : Optimization) (now : τ) : Session σ τ :=
  s.changeSettings { s.settings with optimization := o } now

def setPackrat (s : Session σ τ) (on : Bool) (now : τ) : Session σ τ :=
  s.changeSettings { s.settings with packrat := on } now

def setAutoRefresh (s : Session σ τ) (on : Bool) (now : τ) : Session σ τ :=
  s.changeSettings { s.settings with autoRefresh := on } now

/-- Shows or hides a panel, which is saved at once. -/
def setPanelShown (s : Session σ τ) (panel : Panel) (on : Bool) : Session σ τ :=
  let shown := s.shown.set panel on
  { s with
    shown
    store := Persistence.savePanel s.store panel on
    desk := relayout shown s.desk
    settings := { s.settings with panels := shown } }

/-- A row of an error list is clicked. -/
def errorClicked (s : Session σ τ) (list : Document) (index : Nat) : Session σ τ :=
  { s with desk := (s.view.commands list index).foldl (fun desk c => c.apply desk) s.desk }

/-- Time goes on.  A request that waits is sent first, so that one queued by this very tick waits for the next. -/
def tick [Wording] (engine : Engine) (s : Session σ τ) (now : τ) : Session σ τ :=
  let s := s.dispatch engine
  match s.commit.poll now with
  | (some .commit, commit) => ({ s with commit }.persist).refresh
  | (none, commit) => { s with commit }

/-- Saves an edit that still waits; nothing is analysed. -/
def flush (s : Session σ τ) : Session σ τ :=
  match s.commit.flush with
  | (some .commit, commit) => { s with commit }.persist
  | (none, commit) => { s with commit }

/-- Ticks until nothing waits, each time after the wait that is asked for, in at most `rounds` waits.  Gives the number
of waits. -/
def settle [Wording] (engine : Engine) (after : τ → τ → τ) (s : Session σ τ) (now : τ) : Nat → Nat × Session σ τ
  | 0 => (0, s.tick engine now)
  | rounds + 1 =>
    let s := s.tick engine now
    match s.wait now with
    | none => (0, s)
    | some wait =>
      let (n, s) := s.settle engine after (after now wait) rounds
      (n + 1, s)

end Events

end Session

/-! ### Histories -/

/-- What a host does to a session. -/
inductive Event (τ : Type) where
  | ready
  | edited (document : Document) (now : τ)
  | requestParse
  | setOptimization (o : Optimization) (now : τ)
  | setPackrat (on : Bool) (now : τ)
  | setAutoRefresh (on : Bool) (now : τ)
  | setPanelShown (panel : Panel) (on : Bool)
  | errorClicked (list : Document) (index : Nat)
  | tick (now : τ)
  | flush
  /-- Something happens in a text area. -/
  | change (slot : Slot) (change : Change)
  deriving Repr

namespace Session

variable {σ τ : Type} [Store σ] [Clock τ]

/-- The session after an event. -/
def step [Wording] (engine : Engine) (s : Session σ τ) : Event τ → Session σ τ
  | .ready => s.ready
  | .edited document now => s.edited document now
  | .requestParse => s.requestParse
  | .setOptimization o now => s.setOptimization o now
  | .setPackrat on now => s.setPackrat on now
  | .setAutoRefresh on now => s.setAutoRefresh on now
  | .setPanelShown panel on => s.setPanelShown panel on
  | .errorClicked list index => s.errorClicked list index
  | .tick now => s.tick engine now
  | .flush => s.flush
  | .change slot change => { s with desk := s.desk.update slot change.apply }

/-- The session after a list of events. -/
def run [Wording] (engine : Engine) (s : Session σ τ) (events : List (Event τ)) : Session σ τ :=
  events.foldl (step engine) s

end Session

end GrammarStudio
