import GrammarStudio.Proofs.Session.Mirror
import GrammarStudio.Proofs.Session.Waking

/-!
# A burst of edits

Edits that come in quick succession, with ticks among them that all come before the window after the latest edit has
passed, cost nothing while they last.  When the window has passed, the next tick saves the documents as the last edits
left them, and starts an analysis of them if analyses go by themselves; the tick after that makes the one call.

* `Edit`, `Edit.events` — an edit, with the ticks up to the next one;
* `Edit.textAfter` — the text of a document after some edits;
* `Session.window_play` — every session has the window that it started with;
* `Session.Still`, `Session.still_prefix` — during a burst nothing is sent, saved or started;
* `Session.run_edits` — what a burst makes of a session: its texts, and one commit that waits;
* `Session.progress_late` — the ticks after the window;
* `Session.burst_costs_one_cycle` — all of it.
-/

namespace GrammarStudio

open Analysis Editor

/-- An edit of a burst: a document gets a text at a time, and some ticks follow before the next edit. -/
structure Edit (τ : Type) where
  document : Document
  text : String
  time : τ
  ticks : List τ := []
  deriving Repr

namespace Edit

variable {τ : Type}

/-- What the host does: it changes the text area, reports the edit, and ticks. -/
def events (e : Edit τ) : List (Event τ) :=
  .change (.document e.document) (.setText e.text) :: .edited e.document e.time :: e.ticks.map .tick

/-- The text of a document after some edits: the text of its latest edit, or the one that it had before. -/
def textAfter (edits : List (Edit τ)) (d : Document) (before : String) : String :=
  edits.foldl (fun text e => if d = e.document then e.text else text) before

end Edit

namespace Session

variable {σ τ : Type}

/-! ### The window -/

section Window

variable [Store σ]

/-- A flush does with the commit what a flush of the debounce does. -/
theorem flush_commit (s : Session σ τ) : s.flush.commit = s.commit.flush.2 := by
  unfold flush
  split
  · rename_i h
    rw [h]
    rfl
  · rename_i h
    rw [h]

variable [Clock τ]

/-- No event changes the window. -/
theorem window_step [Wording] (engine : Engine) (s : Session σ τ) (e : Event τ) :
    (s.step engine e).commit.window = s.commit.window := by
  cases e with
  | ready =>
    show s.ready.commit.window = _
    unfold ready
    split
    · rfl
    · rw [refresh_commit]
  | requestParse =>
    show s.requestParse.commit.window = _
    unfold requestParse
    split
    · rw [begin_commit]
    · rfl
  | tick now =>
    show (s.tick engine now).commit.window = _
    rw [tick_commit, Debounce.window_poll]
  | flush =>
    show s.flush.commit.window = _
    rw [flush_commit]
    rfl
  | edited d now => cases d <;> rfl
  | setOptimization | setPackrat | setAutoRefresh | setPanelShown | errorClicked | change => rfl

/-- **Every session has the window that it started with.** -/
theorem window_play [Wording] (store : σ) (turns : List (Turn τ)) :
    ((start store : Session σ τ).play turns).commit.window = Clock.editWindow :=
  play_preserves (P := fun s : Session σ τ => s.commit.window = Clock.editWindow)
    (fun s t _ h => (window_step t.engine s t.event).trans h) rfl

end Window

/-! ### During a burst -/

/-- **A session that holds still** while texts change: since it was `s` nothing was sent, saved or started, and no
setting was changed. -/
structure Still (s t : Session σ τ) : Prop where
  progress : t.progress = s.progress
  store : t.store = s.store
  settings : t.settings = s.settings
  window : t.commit.window = s.commit.window

theorem Still.refl (s : Session σ τ) : s.Still s := ⟨rfl, rfl, rfl, rfl⟩

theorem Still.trans {s t u : Session σ τ} (h : s.Still t) (h' : t.Still u) : s.Still u :=
  ⟨h'.progress.trans h.progress, h'.store.trans h.store, h'.settings.trans h.settings, h'.window.trans h.window⟩

theorem Still.idle {s t : Session σ τ} (h : s.Still t) (idle : s.phase = .idle) : t.phase = .idle :=
  (congrArg Progress.phase h.progress).trans idle

variable [Clock τ]

/-- The session with an edit, as it is before the ticks that follow. -/
def typed (s : Session σ τ) (e : Edit τ) : Session σ τ :=
  { s with desk := s.desk.update (.document e.document) fun b => b.setText e.text }.edited e.document e.time

theorem still_typed (s : Session σ τ) (e : Edit τ) : s.Still (s.typed e) := by
  unfold typed edited
  cases e.document <;> exact ⟨rfl, rfl, rfl, rfl⟩

theorem commit_typed (s : Session σ τ) (e : Edit τ) : (s.typed e).commit = s.commit.schedule .commit e.time := by
  unfold typed edited
  cases e.document <;> rfl

theorem text_typed (s : Session σ τ) (e : Edit τ) (d : Document) :
    (s.typed e).text d = if d = e.document then e.text else s.text d := by
  unfold typed edited
  cases e.document <;> cases d <;> rfl

theorem still_edits (edits : List (Edit τ)) (s : Session σ τ) : s.Still (edits.foldl typed s) := by
  induction edits generalizing s with
  | nil => exact .refl s
  | cons e rest ih => exact (still_typed s e).trans (ih (s.typed e))

/-- Each document has the text of its latest edit. -/
theorem text_edits (edits : List (Edit τ)) (s : Session σ τ) (d : Document) :
    (edits.foldl typed s).text d = Edit.textAfter edits d (s.text d) := by
  induction edits generalizing s with
  | nil => rfl
  | cons e rest ih =>
    rw [List.foldl_cons, ih, text_typed]
    rfl

variable [Store σ]

/-- A tick that finds nothing to do does nothing. -/
theorem tick_of_idle [Wording] (engine : Engine) {s : Session σ τ} {now : τ} (idle : s.phase = .idle)
    (early : (s.commit.poll now).1 = none) : s.tick engine now = s := by
  rw [tick_quiet engine early, dispatch_idle engine idle]

/-- Nor do several such ticks. -/
theorem run_of_idle [Wording] (engine : Engine) {s : Session σ τ} (idle : s.phase = .idle) {events : List (Event τ)}
    (early : ∀ e ∈ events, ∃ now, e = .tick now ∧ (s.commit.poll now).1 = none) : s.run engine events = s := by
  induction events with
  | nil => rfl
  | cons e rest ih =>
    obtain ⟨now, rfl, hnow⟩ := early e List.mem_cons_self
    have hstep : s.step engine (.tick now) = s := tick_of_idle engine idle hnow
    rw [run_cons, hstep]
    exact ih fun e he => early e (List.mem_cons_of_mem _ he)

section Exact

variable [AddCommGroup τ] [LinearOrder τ] [Clock.Exact τ]

omit [Store σ] in
/-- A tick before the window has passed finds no commit due. -/
theorem poll_typed_early {s : Session σ τ} {e : Edit τ} {now : τ} (h : now < e.time + s.commit.window) :
    ((s.typed e).commit.poll now).1 = none := by
  rw [commit_typed, Debounce.poll_schedule, if_neg (not_le.mpr h)]

omit [Store σ] in
/-- A tick when the window has passed does. -/
theorem poll_typed_late {s : Session σ τ} {e : Edit τ} {now : τ} (h : e.time + s.commit.window ≤ now) :
    ((s.typed e).commit.poll now).1 = some .commit := by
  rw [commit_typed, Debounce.poll_schedule, if_pos h]

variable [Wording] (engine : Engine)

/-- The ticks before the window has passed do nothing. -/
theorem run_quick {s : Session σ τ} (idle : s.phase = .idle) {e : Edit τ} {events : List (Event τ)}
    (quick : ∀ event ∈ events, ∃ t, event = .tick t ∧ t < e.time + s.commit.window) :
    (s.typed e).run engine events = s.typed e := by
  refine run_of_idle engine ((still_typed s e).idle idle) fun event hevent => ?_
  obtain ⟨t, rfl, ht⟩ := quick event hevent
  exact ⟨t, rfl, poll_typed_early ht⟩

/-- Of an edit with its ticks, the edit is all that shows. -/
theorem run_edit {s : Session σ τ} (idle : s.phase = .idle) {e : Edit τ}
    (quick : ∀ t ∈ e.ticks, t < e.time + s.commit.window) : s.run engine e.events = s.typed e := by
  refine run_quick engine idle fun event hevent => ?_
  obtain ⟨t, ht, rfl⟩ := List.mem_map.mp hevent
  exact ⟨t, rfl, quick t ht⟩

/-- **What a burst makes of a session.** -/
theorem run_edits {s : Session σ τ} (idle : s.phase = .idle) {edits : List (Edit τ)}
    (quick : ∀ e ∈ edits, ∀ t ∈ e.ticks, t < e.time + s.commit.window) :
    s.run engine (edits.flatMap Edit.events) = edits.foldl typed s := by
  induction edits generalizing s with
  | nil => rfl
  | cons e rest ih =>
    have hstill := still_typed s e
    rw [List.flatMap_cons, run_append, run_edit engine idle (quick e List.mem_cons_self), List.foldl_cons]
    refine ih (hstill.idle idle) ?_
    rw [hstill.window]
    exact fun e' he' => quick e' (List.mem_cons_of_mem _ he')

/-- In the middle of an edit with its ticks, the session holds still. -/
theorem still_part {s : Session σ τ} (idle : s.phase = .idle) {e : Edit τ}
    (quick : ∀ t ∈ e.ticks, t < e.time + s.commit.window) {part : List (Event τ)} (h : part <+: e.events) :
    s.Still (s.run engine part) := by
  rw [Edit.events, List.prefix_cons_iff] at h
  obtain rfl | ⟨part, rfl, h⟩ := h
  · exact .refl s
  rw [List.prefix_cons_iff] at h
  obtain rfl | ⟨part, rfl, h⟩ := h
  · exact ⟨rfl, rfl, rfl, rfl⟩
  · have hrun : (s.typed e).run engine part = s.typed e := by
      refine run_quick engine idle fun event hevent => ?_
      obtain ⟨t, ht, rfl⟩ := List.mem_map.mp (h.subset hevent)
      exact ⟨t, rfl, quick t ht⟩
    show s.Still ((s.typed e).run engine part)
    rw [hrun]
    exact still_typed s e

/-- **During a burst the session holds still**, wherever the burst is broken off. -/
theorem still_prefix {s : Session σ τ} (idle : s.phase = .idle) {edits : List (Edit τ)}
    (quick : ∀ e ∈ edits, ∀ t ∈ e.ticks, t < e.time + s.commit.window) {part : List (Event τ)}
    (h : part <+: edits.flatMap Edit.events) : s.Still (s.run engine part) := by
  induction edits generalizing s part with
  | nil =>
    rw [List.flatMap_nil, List.prefix_nil] at h
    rw [h]
    exact .refl s
  | cons e rest ih =>
    have hfirst := quick e List.mem_cons_self
    rw [List.flatMap_cons] at h
    obtain hpart | ⟨part, rfl⟩ := List.prefix_or_prefix_of_prefix h (List.prefix_append _ _)
    · exact still_part engine idle hfirst hpart
    · have hstill := still_typed s e
      rw [run_append, run_edit engine idle hfirst]
      refine hstill.trans (ih (hstill.idle idle) ?_ ?_)
      · rw [hstill.window]
        exact fun e' he' => quick e' (List.mem_cons_of_mem _ he')
      · exact (List.prefix_append_right_inj _).mp h

end Exact

/-! ### When the window has passed -/

/-- Without a commit that waits, ticks start nothing. -/
theorem starts_ticks [Wording] (engine : Engine) {s : Session σ τ} (saved : s.commitPending = false) (ticks : List τ) :
    s.starts ((ticks.map .tick).map (Turn.mk engine)) = [] := by
  induction ticks generalizing s with
  | nil => rfl
  | cons t rest ih =>
    have hpoll : (s.commit.poll t).1 = none := by rw [Debounce.poll_of_not_pending saved]
    have hstill : (s.step engine (.tick t)).commitPending = false := by
      show (s.tick engine t).commitPending = false
      rw [commitPending_tick, saved, Bool.false_and]
    rw [List.map_cons, List.map_cons, starts, startOf?_tick_quiet hpoll, ih hstill]
    rfl

/-- **The ticks after the window**, while analyses go by themselves.  The first makes the commit, and with it a start;
the second sends the request of that start, if it has a grammar; the others find nothing to do. -/
theorem progress_late [Wording] (engine : Engine) {s : Session σ τ} (idle : s.phase = .idle)
    (auto : s.settings.autoRefresh = true) {first : τ} (due : (s.commit.poll first).1.isSome = true) (second : τ)
    (more : List τ) :
    (s.run engine ((first :: second :: more).map .tick)).progress =
      if s.request.isEmpty then { s.progress with outcome := .skipped }
      else ⟨.idle, s.request :: s.sent, (analyze engine s.request).outcome⟩ := by
  have hresting : s.phase.Resting := idle ▸ trivial
  have hmet : s.met engine (.tick first) = s := by
    rw [met, if_pos (show Event.isTick (.tick first) = true from rfl)]
    exact dispatch_idle engine idle
  have hstart : s.startOf? (.tick first) = some s.request := if_pos (by simp [isStart, due, auto])
  have hfirst : (s.tick engine first).progress = s.progress.start s.request := by
    have hstep := progress_step engine (.tick first) hresting
    rwa [hstart, hmet] at hstep
  have hsaved : (s.tick engine first).commitPending = false := by
    rw [commitPending_tick]
    simp [Option.isNone_eq_false_iff.mpr due]
  have hrest := progress_play_of_no_start (tick_resting engine s first) (starts_ticks engine hsaved (second :: more))
  have hplay : (s.run engine ((first :: second :: more).map .tick)).progress =
      ((s.tick engine first).dispatch engine).progress := by
    rw [List.map_cons, run_cons, run_eq_play]
    exact hrest
  exact hplay.trans (progress_dispatch_of_start engine idle hfirst)

section Exact

variable [AddCommGroup τ] [LinearOrder τ] [Clock.Exact τ] [Store.Lawful σ]

/-- **A burst of edits costs one cycle.**  In any state in which nothing is under way and analyses go by themselves,
edits come whose ticks all come before the window after the latest edit has passed, however many and however far apart
they are.  Wherever they are broken off, nothing was sent and nothing was saved.  Of the ticks that come when the window
after the last edit has passed, the first saves both documents as the edits left them, and the second makes one call,
for these documents and the settings; if the grammar is empty there is no call, and the outcome is cleared. -/
theorem burst_costs_one_cycle [Wording] (store : σ) (turns : List (Turn τ)) (engine : Engine)
    (idle : ((start store : Session σ τ).play turns).phase = .idle)
    (auto : ((start store : Session σ τ).play turns).settings.autoRefresh = true)
    {edits : List (Edit τ)} {last : Edit τ} (hlast : edits.getLast? = some last)
    (quick : ∀ e ∈ edits, ∀ t ∈ e.ticks, t < e.time + Clock.editWindow)
    {first second : τ} {more : List τ} (late : ∀ t ∈ first :: second :: more, last.time + Clock.editWindow ≤ t) :
    let s : Session σ τ := (start store).play turns
    let burst := edits.flatMap Edit.events
    let t := s.run engine burst
    let final : Document → String := fun d => Edit.textAfter edits d (s.text d)
    let request : Request :=
      ⟨final .grammar, final .code, s.settings.optimization.enabled, s.settings.packrat⟩
    let after := t.run engine ((first :: second :: more).map .tick)
    (∀ part, part <+: burst → (s.run engine part).sent = s.sent ∧ (s.run engine part).store = s.store) ∧
      (request.isEmpty = false → after.sent = request :: s.sent ∧
        after.outcome = (analyze engine request).outcome) ∧
      (request.isEmpty = true → after.sent = s.sent ∧ after.outcome = .skipped) ∧
      (Store.Reliable s.store → ∀ d, Persistence.loadText (t.tick engine first).store d = final d) := by
  intro s burst t final request after
  have hwindow : s.commit.window = Clock.editWindow := window_play store turns
  rw [← hwindow] at quick late
  have ht : t = edits.foldl typed s := run_edits engine idle quick
  have hstill : s.Still t := by
    rw [ht]
    exact still_edits edits s
  have htext : ∀ d, t.text d = final d := by
    rw [ht]
    exact text_edits edits s
  have hrequest : t.request = request := by
    rw [Session.request, hstill.settings]
    exact congrArg₂ (fun g c => Request.mk g c _ _) (htext .grammar) (htext .code)
  have hdue : (t.commit.poll first).1.isSome = true := by
    obtain ⟨front, rfl⟩ := List.getLast?_eq_some_iff.mp hlast
    rw [ht, List.foldl_append]
    show ((typed (front.foldl typed s) last).commit.poll first).1.isSome = true
    rw [poll_typed_late (by rw [(still_edits front s).window]; exact late first List.mem_cons_self)]
    rfl
  have hafter := progress_late engine (hstill.idle idle) (by rw [hstill.settings]; exact auto) hdue second more
  have hsent : t.sent = s.sent := congrArg Progress.sent hstill.progress
  rw [hrequest, hsent] at hafter
  refine ⟨fun part hpart => ?_, fun hfull => ?_, fun hempty => ?_, fun reliable d => ?_⟩
  · have hpart := still_prefix engine idle quick hpart
    exact ⟨congrArg Progress.sent hpart.progress, hpart.store⟩
  · rw [hfull] at hafter
    exact ⟨congrArg Progress.sent hafter, congrArg Progress.outcome hafter⟩
  · rw [hempty] at hafter
    exact ⟨(congrArg Progress.sent hafter).trans hsent, congrArg Progress.outcome hafter⟩
  · have hsaved : (t.tick engine first).store = t.persist.store := by
      rw [tick_due engine hdue, refresh_store, saved, dispatch_idle engine (hstill.idle idle)]
      rfl
    rw [hsaved]
    exact (loadText_persist (by rwa [hstill.store]) d).trans (htext d)

end Exact

/-- Edits of both documents, the second half a second after the first: one call, for the two texts. -/
theorem burst_costs_one_cycle_twoDocuments :
    let engine : Engine := fun r => .error (.ended r.grammar r.code)
    let store : Store.Memory := ⟨[("autoRefresh", "true"), ("grammarText", "start <- 'a'")]⟩
    let turns : List (Turn ℚ) := [.ready, .tick 0].map (Turn.mk engine)
    let s : Session Store.Memory ℚ := (start store).play turns
    let edits : List (Edit ℚ) := [⟨.grammar, "start <- 'b'", 1, [1, 3 / 2]⟩, ⟨.code, "b", 3 / 2, [2]⟩]
    let t := s.run engine (edits.flatMap Edit.events)
    let request : Request := ⟨"start <- 'b'", "b", s.settings.optimization.enabled, s.settings.packrat⟩
    (s.phase = .idle ∧ s.settings.autoRefresh = true) ∧
      (t.run engine ([9 / 4, 3].map .tick)).sent = request :: s.sent ∧
      Persistence.loadText (t.tick engine (9 / 4)).store .code = "b" := by
  intro engine store turns s edits t request
  have idle : s.phase = .idle := by decide +kernel
  have auto : s.settings.autoRefresh = true := by decide +kernel
  have quick : ∀ e ∈ edits, ∀ now ∈ e.ticks, now < e.time + Clock.editWindow := by decide +kernel
  have late : ∀ now ∈ [(9 : ℚ) / 4, 3], (3 : ℚ) / 2 + Clock.editWindow ≤ now := by decide +kernel
  have hlast : edits.getLast? = some ⟨.code, "b", 3 / 2, [2]⟩ := rfl
  obtain ⟨-, hfull, -, hsaved⟩ := burst_costs_one_cycle store turns engine idle auto hlast quick late
  exact ⟨⟨idle, auto⟩, (hfull rfl).1, hsaved (Store.Memory.reliable _) .code⟩

end Session

end GrammarStudio
