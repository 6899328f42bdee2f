import GrammarStudio.Proofs.Session.Display
import GrammarStudio.Window.Basic

/-!
# What an update does to its session

Drawing moves cursors, takes requests and passes on strokes and clicks.  All of that reaches the session as events, and
the engine is asked by the tick at the beginning of an update alone.  So what holds of every history of a session holds
of its window, frame after frame.

* `Event.isQuiet` — the events that drawing comes to: no ticks, and nothing written into a panel;
* `Session.Leads` — a session comes out of another by such events;
* `Window.session_takeStroke_cases`, `Window.session_clickGutter_cases` — what drawing can do to a text area;
* `Window.leads_drawArea`, `Window.leads_update` — drawing, and an update after its tick, lead on;
* `Frame`, `Window.play` — the updates of a run, each with its engine;
* `Window.session_play` — the session of a window is that of a history;
* `Window.Settled` — what holds between two updates;
* `Window.update_congr`, `Window.Settled.sent_draw` — what an update asks of the engine.
-/

namespace GrammarStudio

open Diagnostics Editor Window

/-- Is the event one that drawing can come to?  These are no ticks, and they write into no panel. -/
def Event.isQuiet {τ : Type} (e : Event τ) : Bool := !e.isTick && e.keepsPanels

namespace Event

variable {τ : Type} {e : Event τ}

theorem isQuiet_iff : e.isQuiet = true ↔ e.isTick = false ∧ e.keepsPanels = true := by
  simp [isQuiet]

/-- A change of a text area is quiet unless it writes into a panel. -/
theorem isQuiet_change {slot : Slot} {c : Change} (h : c.keepsText = true ∨ ∃ d, slot = .document d) :
    (Event.change slot c : Event τ).isQuiet = true := by
  refine isQuiet_iff.mpr ⟨rfl, ?_⟩
  cases slot with
  | document d => rfl
  | panel p =>
    rcases h with h | ⟨d, hd⟩
    · exact h
    · cases hd

end Event

namespace Session

variable {σ τ : Type}

section Leads

variable [Store σ] [Clock τ]

/-- The second session comes out of the first by quiet events. -/
def Leads [Wording] (engine : Engine) (s t : Session σ τ) : Prop :=
  ∃ events : List (Event τ), (∀ e ∈ events, e.isQuiet = true) ∧ t = s.run engine events

variable [Wording] {engine : Engine} {s t u : Session σ τ}

theorem Leads.refl (engine : Engine) (s : Session σ τ) : Leads engine s s := ⟨[], by simp, rfl⟩

theorem Leads.trans (first : Leads engine s t) (second : Leads engine t u) : Leads engine s u := by
  obtain ⟨before, hbefore, rfl⟩ := first
  obtain ⟨after, hafter, rfl⟩ := second
  refine ⟨before ++ after, fun e he => ?_, (run_append engine s before after).symm⟩
  rcases List.mem_append.mp he with he | he
  · exact hbefore e he
  · exact hafter e he

/-- The events themselves lead on. -/
theorem leads_run (engine : Engine) (s : Session σ τ) {events : List (Event τ)}
    (quiet : ∀ e ∈ events, e.isQuiet = true) : Leads engine s (s.run engine events) := ⟨events, quiet, rfl⟩

theorem leads_step (engine : Engine) (s : Session σ τ) {e : Event τ} (quiet : e.isQuiet = true) :
    Leads engine s (s.step engine e) :=
  ⟨[e], by simpa using quiet, rfl⟩

theorem Leads.panelsFixed (h : Leads engine s t) (fixed : s.PanelsFixed) : t.PanelsFixed := by
  obtain ⟨events, -, rfl⟩ := h
  exact run_preserves engine (P := PanelsFixed) (fun _ e _ hs => hs.step engine e) fixed

theorem Leads.resting (h : Leads engine s t) (rest : s.phase.Resting) : t.phase.Resting := by
  obtain ⟨events, -, rfl⟩ := h
  exact run_preserves engine (P := fun s => s.phase.Resting) (fun _ e _ => step_resting engine e) rest

/-- Quiet events need no answer of the engine. -/
theorem run_congr {other : Engine} {events : List (Event τ)} (quiet : ∀ e ∈ events, e.isQuiet = true) :
    s.run engine events = s.run other events := by
  induction events generalizing s with
  | nil => rfl
  | cons e rest ih =>
    have hstep : s.step engine e = s.step other e := by
      refine step_congr e fun r hr => ?_
      rw [calls, (Event.isQuiet_iff.mp (quiet e List.mem_cons_self)).1] at hr
      cases hr
    rw [run_cons, run_cons, hstep]
    exact ih fun e he => quiet e (List.mem_cons_of_mem _ he)

/-- Quiet events put nothing to the engine. -/
theorem Leads.sent (h : Leads engine s t) (rest : s.phase.Resting) : t.sent = s.sent := by
  obtain ⟨events, quiet, rfl⟩ := h
  have hrun : (s.run engine events).phase.Resting ∧ (s.run engine events).sent = s.sent := by
    refine run_preserves engine (P := fun t => t.phase.Resting ∧ t.sent = s.sent) ?_ ⟨rest, rfl⟩
    rintro t e he ⟨hrest, hsent⟩
    refine ⟨step_resting engine e hrest, ?_⟩
    rw [sent_step_eq engine e hrest, calls, (Event.isQuiet_iff.mp (quiet e he)).1]
    exact hsent
  exact hrun.2

end Leads

end Session

namespace Editor.Desk

/-- A change that is given as its result is the change that has it. -/
theorem update_const (desk : Desk) (slot : Slot) (f : Buffer → Buffer) :
    desk.update slot (fun _ => f (desk.get slot)) = desk.update slot f := by
  rcases slot with (_ | _) | (_ | _ | _) <;> rfl

/-- Two changes of one text area are one change. -/
theorem update_update (desk : Desk) (slot : Slot) (f g : Buffer → Buffer) :
    (desk.update slot f).update slot g = desk.update slot fun b => g (f b) := by
  rcases slot with (_ | _) | (_ | _ | _) <;> rfl

end Editor.Desk

namespace Window

/-! ### What drawing can do -/

section Areas

variable {σ τ : Type} (w : Window σ τ) (slot : Slot)

/-- What was asked of a text area is taken from its buffer. -/
theorem session_takeRequests :
    (w.takeRequests slot).2.session = (w.updateBuffer slot Change.takeRequests.apply).session := by
  have hbuffer : (w.updateBuffer slot fun _ => (w.session.desk.get slot).takeRequests.2).session
      = (w.updateBuffer slot Change.takeRequests.apply).session :=
    congrArg (fun desk => { w.session with desk }) (w.session.desk.update_const slot Change.takeRequests.apply)
  rw [← hbuffer]
  unfold takeRequests
  dsimp only
  split <;> rfl

/-- A stroke changes nothing, or it is written into a text area that can be written into, which reports its cursor. -/
theorem session_takeStroke_cases (stroke : Option Stroke) :
    (w.takeStroke slot stroke).1.session = w.session ∨
      ((w.session.desk.get slot).readOnly = false ∧ ∃ text index, (w.takeStroke slot stroke).1.session
        = (w.updateBuffer slot fun b => (b.typed text).syncCursor index).session) := by
  unfold takeStroke handleStroke
  dsimp only
  split
  · split
    case isTrue => exact .inl rfl
    case isFalse hwrites => exact .inr ⟨by simpa using hwrites, _, _, rfl⟩
  · exact .inl rfl

/-- A click changes nothing, or it is one in the gutter of the text area, which is asked to go where that leads. -/
theorem session_clickGutter_cases (hit : Option Target) :
    (w.clickGutter slot hit).session = w.session ∨
      ∃ row onDot, hit = some (.line slot row onDot) ∧ (w.clickGutter slot hit).session =
        (w.updateBuffer slot fun b => (b.moveTo (landing (markers w.session slot)
          (clickedRow (w.session.desk.get slot).text.toList row) onDot)).requestFocus).session := by
  unfold clickGutter
  split
  case h_1 hitSlot row onDot =>
    split
    case isTrue heq => exact .inr ⟨row, onDot, by rw [heq], rfl⟩
    case isFalse => exact .inl rfl
  case h_2 => exact .inl rfl

/-- To draw a text area it takes what was asked of it, then a stroke, and then a click in its gutter. -/
theorem session_drawArea (stroke : Option Stroke) (hit : Option Target) : (w.drawArea stroke hit slot).1.session =
    ((((w.takeRequests slot).2.takeStroke slot stroke).1.drawGutter slot).clickGutter slot hit).session := by
  unfold drawArea
  dsimp only
  split <;> rfl

end Areas

variable {σ τ : Type} [Store σ] [Clock τ]

/-! ### Drawing -/

section Drawing

variable [Wording] (engine : Engine) (w : Window σ τ) (slot : Slot)

/-- A change of a text area that writes into no panel leads on. -/
theorem leads_updateBuffer {c : Change} (h : c.keepsText = true ∨ ∃ d, slot = .document d) :
    Session.Leads engine w.session (w.updateBuffer slot c.apply).session :=
  Session.leads_step engine w.session (Event.isQuiet_change h)

/-- Two changes of one text area lead on if both do. -/
theorem leads_updateBuffer_twice {c d : Change} (hc : c.keepsText = true ∨ ∃ d, slot = .document d)
    (hd : d.keepsText = true ∨ ∃ d, slot = .document d) :
    Session.Leads engine w.session (w.updateBuffer slot fun b => d.apply (c.apply b)).session := by
  have hboth : (w.updateBuffer slot fun b => d.apply (c.apply b)).session
      = ((w.updateBuffer slot c.apply).updateBuffer slot d.apply).session :=
    congrArg (fun desk => { w.session with desk }) (w.session.desk.update_update slot c.apply d.apply).symm
  rw [hboth]
  exact (leads_updateBuffer engine w slot hc).trans (leads_updateBuffer engine _ slot hd)

/-- To take what was asked of a text area leads on. -/
theorem leads_takeRequests : Session.Leads engine w.session (w.takeRequests slot).2.session := by
  rw [session_takeRequests]
  exact leads_updateBuffer engine w slot (.inl rfl)

/-- Strokes are written into a text area that can be written into, and so not into a panel. -/
theorem leads_takeStroke (fixed : w.session.PanelsFixed) (stroke : Option Stroke) :
    Session.Leads engine w.session (w.takeStroke slot stroke).1.session := by
  obtain hsame | ⟨hwrites, text, index, hstruck⟩ := session_takeStroke_cases w slot stroke
  · rw [hsame]
    exact Session.Leads.refl engine w.session
  · have hdocument : ∃ d, slot = .document d := by
      cases slot with
      | document d => exact ⟨d, rfl⟩
      | panel p => exact absurd (fixed p) (by simp [hwrites])
    rw [hstruck]
    exact leads_updateBuffer_twice engine w slot (c := .typed _) (d := .syncCursor _) (.inr hdocument) (.inl rfl)

/-- A click in a gutter moves the cursor and asks for the focus; it writes nothing. -/
theorem leads_clickGutter (hit : Option Target) :
    Session.Leads engine w.session (w.clickGutter slot hit).session := by
  obtain hsame | ⟨row, onDot, -, hclicked⟩ := session_clickGutter_cases w slot hit
  · rw [hsame]
    exact Session.Leads.refl engine w.session
  · rw [hclicked]
    exact leads_updateBuffer_twice engine w slot (c := .moveTo _) (d := .requestFocus) (.inl rfl) (.inl rfl)

/-- **To draw a text area leads on.** -/
theorem leads_drawArea (fixed : w.session.PanelsFixed) (stroke : Option Stroke) (hit : Option Target) :
    Session.Leads engine w.session (w.drawArea stroke hit slot).1.session := by
  have htaken := leads_takeRequests engine w slot
  have hstruck := leads_takeStroke engine (w.takeRequests slot).2 slot (htaken.panelsFixed fixed) stroke
  have hclicked :=
    leads_clickGutter engine (((w.takeRequests slot).2.takeStroke slot stroke).1.drawGutter slot) slot hit
  rw [session_drawArea]
  exact (htaken.trans hstruck).trans hclicked

/-- To draw text areas in turn leads on. -/
theorem leads_drawAreas (fixed : w.session.PanelsFixed) (stroke : Option Stroke) (hit : Option Target)
    (slots : List Slot) : Session.Leads engine w.session (w.drawAreas stroke hit slots).1.session := by
  induction slots generalizing w with
  | nil => exact Session.Leads.refl engine w.session
  | cons slot rest ih =>
    have hdrawn := leads_drawArea engine w slot fixed stroke hit
    exact hdrawn.trans (ih _ (hdrawn.panelsFixed fixed))

end Drawing

/-! ### Updates -/

omit [Store σ] [Clock τ] in
/-- What a click does to a session is quiet. -/
theorem isQuiet_of_eventsOf {s : Session σ τ} {now : τ} {t : Target} {e : Event τ} (h : e ∈ eventsOf s now t) :
    e.isQuiet = true := by
  cases t with
  | packrat | autoRefresh | panel =>
    rw [List.mem_singleton.mp h]
    rfl
  | optimization | parse | errorRow =>
    simp only [eventsOf] at h
    split at h
    all_goals
      first
        | cases h
          done
        | rw [List.mem_singleton.mp h]
          rfl
  | optimizationBox | line | nothing => cases h

omit [Store σ] [Clock τ] in
/-- The events at the end of an update, reports of edits and what a click does, are quiet. -/
theorem isQuiet_of_reported {s : Session σ τ} {now : τ} {edited : List Document} {hit : Option Target} :
    ∀ e ∈ edited.map (Event.edited · now) ++ (hit.map (eventsOf s now)).getD [], e.isQuiet = true := by
  intro e he
  rcases List.mem_append.mp he with he | he
  · obtain ⟨d, -, rfl⟩ := List.mem_map.mp he
    rfl
  · cases hit with
    | none => cases he
    | some t => exact isQuiet_of_eventsOf he

variable [Wording] (engine : Engine) (w : Window σ τ) (now : τ) (input : Input)

/-- Time goes on by a tick, and the first time with a signal. -/
theorem leads_advance : Session.Leads engine (w.session.tick engine now) (w.advance engine now).session := by
  have hadvanced : (w.advance engine now).session
      = if w.signalled then w.session.tick engine now else (w.session.tick engine now).step engine .ready := rfl
  rw [hadvanced]
  split
  · exact Session.Leads.refl engine _
  · exact Session.leads_step engine _ rfl

/-- The window with its text areas drawn, and the documents that were edited. -/
def drawn : Window σ τ × List Document :=
  let w := w.advance engine now
  (w.meet input).drawAreas input.stroke? (w.hit input) (drawnSlots w.session)

/-- What an update does to its session in the end. -/
theorem update_session : (w.update engine now input).session =
    (drawn engine w now input).1.session.run engine
      ((drawn engine w now input).2.map (Event.edited · now) ++
        (((w.advance engine now).hit input).map (eventsOf (w.advance engine now).session now)).getD []) := rfl

/-- **An update is a tick, and then what drawing comes to.** -/
theorem leads_update (fixed : w.session.PanelsFixed) :
    Session.Leads engine (w.session.tick engine now) (w.update engine now input).session := by
  have hadvanced := leads_advance engine w now
  have hfixed := hadvanced.panelsFixed (fixed.step engine (.tick now))
  have hdrawn := leads_drawAreas engine ((w.advance engine now).meet input) hfixed input.stroke?
    ((w.advance engine now).hit input) (drawnSlots (w.advance engine now).session)
  rw [update_session]
  exact (hadvanced.trans hdrawn).trans (Session.leads_run engine _ isQuiet_of_reported)

/-- An update covers the window while its session is busy. -/
theorem covered_update : (w.update engine now input).covered = (w.update engine now input).session.busy := rfl

/-- **The engine is asked by the tick of an update alone.**  Two engines that answer alike what waits draw alike. -/
theorem update_congr {other : Engine} (h : ∀ r ∈ w.session.calls (.tick now), engine r = other r) :
    w.update engine now input = w.update other now input := by
  have hadvance : w.advance engine now = w.advance other now := by
    have htick : w.session.tick engine now = w.session.tick other now := Session.step_congr (.tick now) h
    rw [advance, advance, htick]
  have hrun : ∀ (s t : Session σ τ) (edited : List Document) (hit : Option Target),
      s.run engine (edited.map (Event.edited · now) ++ (hit.map (eventsOf t now)).getD [])
        = s.run other (edited.map (Event.edited · now) ++ (hit.map (eventsOf t now)).getD []) :=
    fun s t edited hit => Session.run_congr isQuiet_of_reported
  simp only [update, hadvance, hrun]

/-! ### Runs of updates -/

end Window

/-- An update of a run: the engine that it finds, its time, and what reaches it. -/
structure Frame (τ : Type) where
  engine : Engine
  now : τ
  input : Window.Input

namespace Window

variable {σ τ : Type} [Store σ] [Clock τ]

/-- The window after an update. -/
def draw [Wording] (w : Window σ τ) (f : Frame τ) : Window σ τ := w.update f.engine f.now f.input

/-- The window after some updates. -/
def play [Wording] (w : Window σ τ) (frames : List (Frame τ)) : Window σ τ := frames.foldl draw w

@[simp] theorem play_nil [Wording] (w : Window σ τ) : w.play [] = w := rfl

@[simp] theorem play_cons [Wording] (w : Window σ τ) (f : Frame τ) (rest : List (Frame τ)) :
    w.play (f :: rest) = (w.draw f).play rest := rfl

/-- The session of an update comes of a history that writes into no panel. -/
theorem session_draw [Wording] {w : Window σ τ} (fixed : w.session.PanelsFixed) (f : Frame τ) :
    ∃ turns : List (Turn τ), (∀ t ∈ turns, t.event.keepsPanels = true) ∧
      (w.draw f).session = w.session.play turns := by
  obtain ⟨events, quiet, hsession⟩ := leads_update f.engine w f.now f.input fixed
  refine ⟨(.tick f.now :: events).map (Turn.mk f.engine), fun t ht => ?_, ?_⟩
  · obtain ⟨e, he, rfl⟩ := List.mem_map.mp ht
    rcases List.mem_cons.mp he with rfl | he
    · rfl
    · exact (Event.isQuiet_iff.mp (quiet e he)).2
  · rw [← Session.run_eq_play]
    exact hsession

/-- **The session of a window is that of a history**, one that writes into no panel. -/
theorem session_play [Wording] {w : Window σ τ} (fixed : w.session.PanelsFixed) (frames : List (Frame τ)) :
    ∃ turns : List (Turn τ), (∀ t ∈ turns, t.event.keepsPanels = true) ∧
      (w.play frames).session = w.session.play turns := by
  induction frames generalizing w with
  | nil => exact ⟨[], by simp, rfl⟩
  | cons f rest ih =>
    obtain ⟨first, hfirst, hdrawn⟩ := session_draw fixed f
    have hfixed : (w.draw f).session.PanelsFixed := by
      rw [hdrawn]
      exact fixed.play first
    obtain ⟨second, hsecond, hplayed⟩ := ih hfixed
    refine ⟨first ++ second, fun t ht => ?_, ?_⟩
    · rcases List.mem_append.mp ht with ht | ht
      · exact hfirst t ht
      · exact hsecond t ht
    · rw [play_cons, hplayed, hdrawn, Session.play_append]

/-- **What holds between two updates.**  Nobody can write into the panels, the engine is not at work, and the window is
covered exactly while its session is busy. -/
structure Settled (w : Window σ τ) : Prop where
  panels : w.session.PanelsFixed
  phase : w.session.phase.Resting
  covered : w.covered = w.session.busy

theorem settled_start (store : σ) : (start store : Window σ τ).Settled :=
  ⟨Session.panelsFixed_start store, trivial, rfl⟩

namespace Settled

variable {w : Window σ τ}

/-- Every update leaves the window settled. -/
theorem draw [Wording] (h : w.Settled) (f : Frame τ) : (w.draw f).Settled := by
  have hleads := leads_update f.engine w f.now f.input h.panels
  exact ⟨hleads.panelsFixed (h.panels.step f.engine (.tick f.now)),
    hleads.resting (Session.step_resting f.engine (.tick f.now) h.phase), covered_update f.engine w f.now f.input⟩

theorem play [Wording] (h : w.Settled) (frames : List (Frame τ)) : (w.play frames).Settled := by
  induction frames generalizing w with
  | nil => exact h
  | cons f rest ih => exact ih (h.draw f)

/-- **An update puts to the engine what its tick does.** -/
theorem sent_draw [Wording] (h : w.Settled) (f : Frame τ) :
    (w.draw f).session.sent = w.session.calls (.tick f.now) ++ w.session.sent := by
  have hleads := leads_update f.engine w f.now f.input h.panels
  rw [← Session.sent_step_eq f.engine (.tick f.now) h.phase]
  exact hleads.sent (Session.step_resting f.engine (.tick f.now) h.phase)

omit [Store σ] [Clock τ] in
/-- A call finds the window covered. -/
theorem covered_of_calls (h : w.Settled) {e : Event τ} (hcalls : w.session.calls e ≠ []) : w.covered = true := by
  rw [h.covered]
  exact (Session.isTick_and_busy_of_calls hcalls).2

end Settled

end Window

end GrammarStudio
