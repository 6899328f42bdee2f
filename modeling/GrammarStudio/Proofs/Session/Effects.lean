import GrammarStudio.Session.Transition

/-!
# What each function of a session touches

The invariants of a session are proved step by step, and most steps touch few of its fields.  This file says once what
each function does and leaves alone, so that no later proof opens one of them.  A host that looks at a session between
two events finds that nothing is under way, or that a request waits which has a grammar in it; the engine is never found
at work.

* `applyOutcome_desk_document` — an outcome is shown in the panels; the two documents keep their buffers;
* `begin_empty`, `begin_waits` — the two ways an analysis starts;
* `dispatch_idle`, `dispatch_pending` — a request that waits is sent and answered at once;
* `tick_quiet`, `tick_due` — a tick sends what waits, and then commits if the burst of edits is over;
* `run_preserves` — what every event keeps, a history keeps;
* `Turn`, `play` — an event with its engine, and the session after a list of them, with `play_preserves`;
* `Phase.Resting` — the phases a host can find;
* `Session.step_resting`, `Session.play_resting` — every event, and so every history, leaves one of them.
-/

namespace GrammarStudio

open Analysis Diagnostics Editor

/-! ### The desk -/

/-- A change of a panel leaves the documents alone. -/
@[simp] theorem Editor.Desk.get_document_update_panel (desk : Desk) (p : Panel) (d : Document)
    (f : Buffer → Buffer) : (desk.update (.panel p) f).get (.document d) = desk.get (.document d) :=
  desk.get_update_of_ne f (by simp)

namespace Session

variable {σ τ : Type}

/-! ### Showing an outcome -/

section Outcome

variable (s : Session σ τ) (outcome : Outcome)

@[simp] theorem applyOutcome_grammarText : (s.applyOutcome outcome).grammarText = s.grammarText := rfl
@[simp] theorem applyOutcome_codeText : (s.applyOutcome outcome).codeText = s.codeText := rfl
@[simp] theorem applyOutcome_settings : (s.applyOutcome outcome).settings = s.settings := rfl
@[simp] theorem applyOutcome_shown : (s.applyOutcome outcome).shown = s.shown := rfl
@[simp] theorem applyOutcome_phase : (s.applyOutcome outcome).phase = s.phase := rfl
@[simp] theorem applyOutcome_commit : (s.applyOutcome outcome).commit = s.commit := rfl
@[simp] theorem applyOutcome_engineReady : (s.applyOutcome outcome).engineReady = s.engineReady := rfl
@[simp] theorem applyOutcome_store : (s.applyOutcome outcome).store = s.store := rfl
@[simp] theorem applyOutcome_sent : (s.applyOutcome outcome).sent = s.sent := rfl
@[simp] theorem applyOutcome_outcome : (s.applyOutcome outcome).outcome = outcome := rfl
@[simp] theorem applyOutcome_view : (s.applyOutcome outcome).view = View.ofOutcome outcome := rfl
@[simp] theorem applyOutcome_request : (s.applyOutcome outcome).request = s.request := rfl

/-- An outcome is shown in the panels; the documents keep their buffers. -/
@[simp] theorem applyOutcome_desk_document (d : Document) :
    (s.applyOutcome outcome).desk.get (.document d) = s.desk.get (.document d) := by
  simp [applyOutcome, Panel.all]

end Outcome

/-! ### Starting an analysis -/

section Begin

variable (s : Session σ τ)

/-- An empty grammar clears everything at once, and a request that waits goes on waiting. -/
theorem begin_empty {s : Session σ τ} (h : s.request.isEmpty = true) : s.begin = s.applyOutcome .skipped := by
  rw [begin, if_pos h]

/-- Any other request waits for the next tick, in place of one that waited. -/
theorem begin_waits {s : Session σ τ} (h : s.request.isEmpty = false) (running : s.phase ≠ .running) :
    s.begin = { s with phase := .pending s.request } := by
  rw [begin, if_neg (by simp [h])]
  split
  · rename_i hp
    exact absurd hp running
  · rfl
  · rfl

/-- A start touches the phase, or the outcome and where it is shown, and nothing else. -/
theorem begin_frame : s.begin =
    { s with phase := s.begin.phase, outcome := s.begin.outcome, view := s.begin.view, desk := s.begin.desk } := by
  unfold begin
  split
  · rfl
  · split <;> rfl

@[simp] theorem begin_grammarText : s.begin.grammarText = s.grammarText := by rw [begin_frame]
@[simp] theorem begin_codeText : s.begin.codeText = s.codeText := by rw [begin_frame]
@[simp] theorem begin_settings : s.begin.settings = s.settings := by rw [begin_frame]
@[simp] theorem begin_shown : s.begin.shown = s.shown := by rw [begin_frame]
@[simp] theorem begin_commit : s.begin.commit = s.commit := by rw [begin_frame]
@[simp] theorem begin_engineReady : s.begin.engineReady = s.engineReady := by rw [begin_frame]
@[simp] theorem begin_store : s.begin.store = s.store := by rw [begin_frame]
@[simp] theorem begin_sent : s.begin.sent = s.sent := by rw [begin_frame]
@[simp] theorem begin_request : s.begin.request = s.request := by rw [begin_frame]; rfl

@[simp] theorem begin_desk_document (d : Document) :
    s.begin.desk.get (.document d) = s.desk.get (.document d) := by
  unfold begin
  split
  · exact applyOutcome_desk_document s _ d
  · split <;> rfl

end Begin

/-- A start touches neither the commit nor the store. -/
@[simp] theorem refresh_commit (s : Session σ τ) : s.refresh.commit = s.commit := by
  unfold refresh
  split
  · exact begin_commit s
  · rfl

@[simp] theorem refresh_store (s : Session σ τ) : s.refresh.store = s.store := by
  unfold refresh
  split
  · exact begin_store s
  · rfl

/-! ### Sending a request -/

section Dispatch

variable [Wording] (engine : Engine) (s : Session σ τ)

theorem dispatch_idle {s : Session σ τ} (h : s.phase = .idle) : s.dispatch engine = s := by
  rw [dispatch, h]
  show { s with phase := .idle } = s
  rw [← h]

/-- A request that waits is sent, and its outcome is shown. -/
theorem dispatch_pending {s : Session σ τ} {r : Request} (h : s.phase = .pending r) (hr : r.isEmpty = false) :
    s.dispatch engine = { s with phase := .idle, sent := r :: s.sent }.applyOutcome (analyze engine r).outcome := by
  have hcalls : (analyze engine r).calls = [r] := by simp [calls_analyze, hr]
  rw [dispatch, h]
  dsimp only
  rw [hcalls]
  rfl

/-- Nothing waits after a dispatch. -/
@[simp] theorem dispatch_phase : (s.dispatch engine).phase = .idle := by
  unfold dispatch
  split <;> simp

/-- A dispatch touches the phase, the outcome with where it is shown, and the requests sent. -/
theorem dispatch_frame : s.dispatch engine =
    { s with
      phase := (s.dispatch engine).phase
      outcome := (s.dispatch engine).outcome
      view := (s.dispatch engine).view
      desk := (s.dispatch engine).desk
      sent := (s.dispatch engine).sent } := by
  unfold dispatch
  split <;> rfl

@[simp] theorem dispatch_grammarText : (s.dispatch engine).grammarText = s.grammarText := by rw [dispatch_frame]
@[simp] theorem dispatch_codeText : (s.dispatch engine).codeText = s.codeText := by rw [dispatch_frame]
@[simp] theorem dispatch_settings : (s.dispatch engine).settings = s.settings := by rw [dispatch_frame]
@[simp] theorem dispatch_shown : (s.dispatch engine).shown = s.shown := by rw [dispatch_frame]
@[simp] theorem dispatch_commit : (s.dispatch engine).commit = s.commit := by rw [dispatch_frame]
@[simp] theorem dispatch_engineReady : (s.dispatch engine).engineReady = s.engineReady := by rw [dispatch_frame]
@[simp] theorem dispatch_store : (s.dispatch engine).store = s.store := by rw [dispatch_frame]
@[simp] theorem dispatch_request : (s.dispatch engine).request = s.request := by rw [dispatch_frame]; rfl

@[simp] theorem dispatch_desk_document (d : Document) :
    (s.dispatch engine).desk.get (.document d) = s.desk.get (.document d) := by
  unfold dispatch
  split
  · exact applyOutcome_desk_document _ _ d
  · rfl
  · rfl

end Dispatch

/-! ### Ticks -/

@[simp] theorem scheduleCommit_commitPending [Clock τ] (s : Session σ τ) (now : τ) :
    (s.scheduleCommit now).commitPending = true := rfl

section Tick

variable [Store σ] [Clock τ]

/-- A tick with no commit due sends what waits, and that is all. -/
theorem tick_quiet [Wording] (engine : Engine) {s : Session σ τ} {now : τ} (h : (s.commit.poll now).1 = none) :
    s.tick engine now = s.dispatch engine := by
  have hpoll : s.commit.poll now = (none, s.commit) := Prod.ext h (Debounce.poll_none h)
  rw [tick, dispatch_commit, hpoll]
  show { s.dispatch engine with commit := s.commit } = s.dispatch engine
  rw [← dispatch_commit engine s]

/-- The session of a tick whose commit is due, when it has sent what waited and saved what there is. -/
def saved [Wording] (engine : Engine) (s : Session σ τ) (now : τ) : Session σ τ :=
  { s.dispatch engine with commit := (s.commit.poll now).2 }.persist

variable [Wording] (engine : Engine) (s : Session σ τ) (now : τ)

@[simp] theorem saved_grammarText : (s.saved engine now).grammarText = s.grammarText := dispatch_grammarText engine s
@[simp] theorem saved_codeText : (s.saved engine now).codeText = s.codeText := dispatch_codeText engine s
@[simp] theorem saved_settings : (s.saved engine now).settings = s.settings := dispatch_settings engine s
@[simp] theorem saved_shown : (s.saved engine now).shown = s.shown := dispatch_shown engine s
@[simp] theorem saved_request : (s.saved engine now).request = s.request := dispatch_request engine s
@[simp] theorem saved_commit : (s.saved engine now).commit = (s.commit.poll now).2 := rfl
@[simp] theorem saved_phase : (s.saved engine now).phase = .idle := dispatch_phase engine s
@[simp] theorem saved_sent : (s.saved engine now).sent = (s.dispatch engine).sent := rfl
@[simp] theorem saved_outcome : (s.saved engine now).outcome = (s.dispatch engine).outcome := rfl
@[simp] theorem saved_view : (s.saved engine now).view = (s.dispatch engine).view := rfl
@[simp] theorem saved_desk : (s.saved engine now).desk = (s.dispatch engine).desk := rfl

variable {s now}

/-- A tick with a commit due sends and saves first; then it starts an analysis if that goes by itself. -/
theorem tick_due (h : (s.commit.poll now).1.isSome) : s.tick engine now = (s.saved engine now).refresh := by
  obtain ⟨action, ha⟩ := Option.isSome_iff_exists.mp h
  have hpoll : s.commit.poll now = (some .commit, (s.commit.poll now).2) := Prod.ext ha rfl
  rw [tick, dispatch_commit, hpoll]
  rfl

end Tick

/-! ### Histories -/

section Histories

variable [Wording] [Store σ] [Clock τ] (engine : Engine)

@[simp] theorem run_nil (s : Session σ τ) : s.run engine [] = s := rfl

@[simp] theorem run_cons (s : Session σ τ) (e : Event τ) (events : List (Event τ)) :
    s.run engine (e :: events) = (s.step engine e).run engine events := rfl

theorem run_append (s : Session σ τ) (first second : List (Event τ)) :
    s.run engine (first ++ second) = (s.run engine first).run engine second := by
  rw [run, List.foldl_append]
  rfl

/-- What every event of a history keeps, the whole history keeps. -/
theorem run_preserves {P : Session σ τ → Prop} {events : List (Event τ)}
    (keeps : ∀ s, ∀ e ∈ events, P s → P (s.step engine e)) {s : Session σ τ} (h : P s) :
    P (s.run engine events) := by
  induction events generalizing s with
  | nil => exact h
  | cons e rest ih =>
    rw [run_cons]
    exact ih (fun s e he => keeps s e (List.mem_cons_of_mem _ he)) (keeps s e List.mem_cons_self h)

end Histories

end Session

/-! ### Histories in which the engine changes -/

/-- An event, with the engine that it finds: an engine may answer the same request differently each time. -/
structure Turn (τ : Type) where
  engine : Engine
  event : Event τ

namespace Session

variable {σ τ : Type} [Wording] [Store σ] [Clock τ]

/-- The session after some turns. -/
def play (s : Session σ τ) (turns : List (Turn τ)) : Session σ τ :=
  turns.foldl (fun s t => s.step t.engine t.event) s

@[simp] theorem play_nil (s : Session σ τ) : s.play [] = s := rfl

@[simp] theorem play_cons (s : Session σ τ) (t : Turn τ) (rest : List (Turn τ)) :
    s.play (t :: rest) = (s.step t.engine t.event).play rest := rfl

theorem play_append (s : Session σ τ) (first second : List (Turn τ)) :
    s.play (first ++ second) = (s.play first).play second := by
  rw [play, List.foldl_append]
  rfl

/-- A history with one engine is a history. -/
theorem run_eq_play (engine : Engine) (s : Session σ τ) (events : List (Event τ)) :
    s.run engine events = s.play (events.map (Turn.mk engine)) := by
  rw [play, List.foldl_map]
  rfl

/-- What every turn keeps, all of them keep. -/
theorem play_preserves {P : Session σ τ → Prop} {turns : List (Turn τ)}
    (keeps : ∀ s, ∀ t ∈ turns, P s → P (s.step t.engine t.event)) {s : Session σ τ} (h : P s) : P (s.play turns) := by
  induction turns generalizing s with
  | nil => exact h
  | cons t rest ih =>
    rw [play_cons]
    exact ih (fun s t ht => keeps s t (List.mem_cons_of_mem _ ht)) (keeps s t List.mem_cons_self h)

end Session

/-! ### The phases between events -/

/-- The phases between events: nothing is under way, or a request with a grammar in it waits. -/
def Phase.Resting : Phase → Prop
  | .idle => True
  | .pending request => request.isEmpty = false
  | .running => False

theorem Phase.Resting.ne_running {p : Phase} (h : p.Resting) : p ≠ .running := by
  rintro rfl
  exact h

namespace Session

variable {σ τ : Type}

theorem begin_resting {s : Session σ τ} (h : s.phase.Resting) : s.begin.phase.Resting := by
  cases hr : s.request.isEmpty with
  | true =>
    rw [begin_empty hr]
    exact h
  | false =>
    rw [begin_waits hr h.ne_running]
    exact hr

theorem refresh_resting {s : Session σ τ} (h : s.phase.Resting) : s.refresh.phase.Resting := by
  unfold refresh
  split
  · exact begin_resting h
  · exact h

theorem dispatch_resting [Wording] (engine : Engine) (s : Session σ τ) : (s.dispatch engine).phase.Resting := by
  rw [dispatch_phase]
  trivial

variable [Store σ] [Clock τ]

theorem tick_resting [Wording] (engine : Engine) (s : Session σ τ) (now : τ) : (s.tick engine now).phase.Resting := by
  cases h : (s.commit.poll now).1 with
  | none =>
    rw [tick_quiet engine h]
    exact dispatch_resting engine s
  | some action =>
    rw [tick_due engine (by rw [h]; rfl)]
    exact refresh_resting (s := s.saved engine now) (dispatch_resting engine s)

omit [Clock τ] in
theorem flush_phase (s : Session σ τ) : s.flush.phase = s.phase := by
  unfold flush
  split <;> rfl

/-- **Every event leaves a phase between events.** -/
theorem step_resting [Wording] (engine : Engine) {s : Session σ τ} (e : Event τ) (h : s.phase.Resting) :
    (s.step engine e).phase.Resting := by
  cases e with
  | ready =>
    show s.ready.phase.Resting
    unfold ready
    split
    · exact h
    · exact refresh_resting h
  | requestParse =>
    show s.requestParse.phase.Resting
    unfold requestParse
    split
    · exact begin_resting h
    · exact h
  | tick now => exact tick_resting engine s now
  | flush =>
    show s.flush.phase.Resting
    rw [flush_phase]
    exact h
  | edited d now =>
    show (s.withText d _).phase.Resting
    cases d <;> exact h
  | setOptimization | setPackrat | setAutoRefresh | setPanelShown | errorClicked | change => exact h

theorem play_resting [Wording] {s : Session σ τ} (h : s.phase.Resting) (turns : List (Turn τ)) :
    (s.play turns).phase.Resting :=
  play_preserves (P := fun s => s.phase.Resting) (fun _ t _ => step_resting t.engine t.event) h

end Session

end GrammarStudio
