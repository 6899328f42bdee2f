import GrammarStudio.Proofs.Window.Frames

/-!
# What every run keeps to

The two promises of a session to the person before it, over all of its histories and over all runs of its window.  The
engine is asked only by a tick, once, for a request that has a grammar, and only after an update that has covered the
window.  And what is shown is what the latest outcome makes of it, in the view and in the panels alike, where the latest
outcome is that of the latest call, or that of an analysis of nothing if one was started since.

* `Session.startOf?_isSome_iff` — the three ways an analysis starts;
* `Window.engine_calls` — when the engine is called;
* `Session.ShowsLatest`, `Window.shows_latest` — what is shown of the latest outcome.
-/

namespace GrammarStudio

open Analysis Diagnostics Editor

theorem Event.isTick_iff {τ : Type} {e : Event τ} : e.isTick = true ↔ ∃ now, e = .tick now := by
  cases e <;> simp [Event.isTick]

namespace Session

variable {σ τ : Type}

/-- **What starts an analysis.**  The first signal that the engine can be called and a commit that is due do, while
analyses go by themselves, and a request to parse does while they do not.  Nothing else does. -/
theorem startOf?_isSome_iff [Clock τ] (s : Session σ τ) (e : Event τ) :
    (s.startOf? e).isSome = true ↔
      (e = .ready ∧ s.engineReady = false ∧ s.settings.autoRefresh = true) ∨
      (e = .requestParse ∧ s.settings.autoRefresh = false) ∨
      ∃ now, e = .tick now ∧ (s.commit.poll now).1.isSome = true ∧ s.settings.autoRefresh = true := by
  cases e <;> simp [startOf?, isStart, parseEnabled]

/-- To save what waits puts nothing to the engine. -/
theorem flush_sent [Store σ] (s : Session σ τ) : s.flush.sent = s.sent := by
  unfold flush
  split <;> rfl

/-- What a session shows is made of its latest outcome alone. -/
structure ShowsLatest (s : Session σ τ) : Prop where
  view : s.view = View.ofOutcome s.outcome
  panels : ∀ p, (s.desk.get (.panel p)).text = s.view.panelText p
  /-- Beside a grammar that is not valid nothing is shown of the code. -/
  code : s.view.grammarBadge ≠ .valid →
    s.view.codeBadge = .unset ∧ s.view.codeErrors = [] ∧ ∀ p, (s.desk.get (.panel p)).text = ""
  banner : s.view.banner.isSome = true ↔ ∃ message, s.outcome = .failed message
  /-- Beside the banner there are neither verdicts nor errors. -/
  failed : s.view.banner.isSome = true → ∀ d, s.view.badge d = .unset ∧ s.view.items d = []

/-- The display invariant is all there is to it: the rest holds of every view. -/
theorem Displays.showsLatest {s : Session σ τ} (h : s.Displays) : s.ShowsLatest where
  view := h.view
  panels := h.panels
  code := by
    intro hvalid
    rw [h.view] at hvalid ⊢
    obtain ⟨hbadge, herrors, htexts⟩ := View.of_not_valid hvalid
    refine ⟨hbadge, herrors, fun p => ?_⟩
    rw [h.panels, h.view, htexts]
  banner := by
    rw [h.view]
    exact View.banner_iff s.outcome
  failed := by
    intro hbanner d
    rw [h.view] at hbanner ⊢
    exact View.cleared_of_banner hbanner d

end Session

namespace Window

variable {σ τ : Type} [Store σ] [Clock τ]

/-- **When the engine is called.**  After any history, with any answers: no analysis is found at work, what waits has a
grammar, and the engine was never asked about an empty one, nor more often than analyses were started.  An event calls
the engine at most once: a tick does, for the request that waited, and no other answer matters to it; the outcome of the
session is that of the call.  What it starts itself waits afterwards.  In a run of updates a call comes from the tick at
the beginning of an update, when the update before it has covered the window, and nothing that is drawn or done, nor the
closing, asks the engine. -/
theorem engine_calls [Wording] (store : σ) :
    (∀ turns : List (Turn τ),
      let s : Session σ τ := (Session.start store).play turns
      (s.phase = .idle ∨ ∃ r, s.phase = .pending r ∧ r.isEmpty = false) ∧
        (∀ r ∈ s.sent, r.isEmpty = false) ∧
        s.sent.length ≤ ((Session.start store : Session σ τ).starts turns).length ∧
        ∀ (engine : Engine) (e : Event τ),
          (s.step engine e).sent = s.calls e ++ s.sent ∧
            (s.calls e ≠ [] → (∃ now, e = .tick now) ∧ s.busy = true) ∧
            (∀ other : Engine, (∀ r ∈ s.calls e, engine r = other r) → s.step engine e = s.step other e) ∧
            s.LatestOutcome engine e (s.step engine e) ∧
            (∀ r, s.startOf? e = some r → r.isEmpty = false → (s.step engine e).phase = .pending r) ∧
            ((s.startOf? e).isSome = true ↔
              (e = .ready ∧ s.engineReady = false ∧ s.settings.autoRefresh = true) ∨
              (e = .requestParse ∧ s.settings.autoRefresh = false) ∨
              ∃ now, e = .tick now ∧ (s.commit.poll now).1.isSome = true ∧ s.settings.autoRefresh = true)) ∧
      ∀ (frames : List (Frame τ)) (f : Frame τ),
        let w : Window σ τ := (start store).play frames
        (w.draw f).session.sent = w.session.calls (.tick f.now) ++ w.session.sent ∧
          (w.session.calls (.tick f.now) ≠ [] → w.covered = true) ∧
          (∀ other : Engine, (∀ r ∈ w.session.calls (.tick f.now), f.engine r = other r) →
            w.draw f = w.draw { f with engine := other }) ∧
          w.close.session.sent = w.session.sent := by
  refine ⟨fun turns => ?_, fun frames f => ?_⟩
  · intro s
    have hstart : (Session.start store : Session σ τ).phase.Resting := trivial
    have hrest : s.phase.Resting := Session.play_resting hstart turns
    refine ⟨Phase.resting_iff.mp hrest, Session.isEmpty_of_sent hstart (by simp [Session.start]) turns,
      Session.length_sent_play store turns, fun engine e => ?_⟩
    refine ⟨Session.sent_step_eq engine e hrest, fun hcalls => ?_, fun other h => Session.step_congr e h,
      Session.latestOutcome_step engine e hrest, fun r hr hfull => ?_, Session.startOf?_isSome_iff s e⟩
    · obtain ⟨htick, hbusy⟩ := Session.isTick_and_busy_of_calls hcalls
      exact ⟨Event.isTick_iff.mp htick, hbusy⟩
    · rw [Session.phase_step engine e hrest, hr]
      simp [hfull]
  · intro w
    have hsettled : w.Settled := (settled_start store).play frames
    exact ⟨hsettled.sent_draw f, hsettled.covered_of_calls, fun other h => update_congr f.engine w f.now f.input h,
      Session.flush_sent w.session⟩

/-- **What is shown is what the latest outcome makes of it**, after every history in which the host writes into no
panel, and so after every run of a window, whose session is that of such a history.  The latest outcome is that of the
request that the latest tick has sent, or none if an analysis of an empty grammar was started since. -/
theorem shows_latest [Wording] (store : σ) {turns : List (Turn τ)} (keeps : ∀ t ∈ turns, t.event.keepsPanels = true) :
    let s : Session σ τ := (Session.start store).play turns
    (s.ShowsLatest ∧ ∀ (engine : Engine) (e : Event τ), s.LatestOutcome engine e (s.step engine e)) ∧
      ∀ frames : List (Frame τ),
        let w : Window σ τ := (start store).play frames
        w.session.ShowsLatest ∧ ∃ drawn : List (Turn τ), (∀ t ∈ drawn, t.event.keepsPanels = true) ∧
          w.session = (Session.start store).play drawn := by
  intro s
  have hrest : s.phase.Resting := Session.play_resting (s := Session.start store) trivial turns
  refine ⟨⟨(Session.displays_play (Session.displays_start store) keeps).showsLatest, fun engine e =>
    Session.latestOutcome_step engine e hrest⟩, fun frames => ?_⟩
  have hfixed : (start store : Window σ τ).session.PanelsFixed := Session.panelsFixed_start store
  obtain ⟨drawn, hdrawn, hsession⟩ := session_play hfixed frames
  refine ⟨?_, drawn, hdrawn, hsession⟩
  rw [hsession]
  exact (Session.displays_play (Session.displays_start store) hdrawn).showsLatest

/-- An engine that fails twice.  In between the cursor of an empty panel is moved and the panel focused, as by a click in
its gutter. -/
theorem shows_latest_of_failures :
    let engine : Engine := fun r => .error (.ended r.grammar r.code)
    let store : Store.Memory := ⟨[("grammarText", "start <- 'a'")]⟩
    let events : List (Event Float) :=
      [.requestParse, .tick 0, .change (.panel .ast) (.moveTo ⟨1, 0⟩), .change (.panel .ast) .requestFocus,
        .requestParse]
    let turns : List (Turn Float) := events.map (Turn.mk engine)
    let s : Session Store.Memory Float := (Session.start store).play turns
    let t := s.step engine (.tick 1)
    (∀ turn ∈ turns ++ [⟨engine, .tick 1⟩], turn.event.keepsPanels = true) ∧ t.view.banner.isSome = true ∧
      t.ShowsLatest ∧ t.outcome = (analyze engine ⟨"start <- 'a'", "", true, false⟩).outcome := by
  intro engine store events turns s t
  have keeps : ∀ turn ∈ turns, turn.event.keepsPanels = true := by
    simp [turns, events, Event.keepsPanels, Change.keepsText]
  have keeps' : ∀ turn ∈ turns ++ [⟨engine, .tick 1⟩], turn.event.keepsPanels = true := by
    simpa [or_imp, forall_and] using ⟨keeps, rfl⟩
  have hplay : (Session.start store).play (turns ++ [⟨engine, .tick 1⟩]) = t := Session.play_append _ _ _
  have hshows := (shows_latest store keeps').1.1
  rw [hplay] at hshows
  have hquiet : s.startOf? (.tick 1) = none := by decide
  have hcalls : s.calls (.tick 1) = [⟨"start <- 'a'", "", true, false⟩] := by decide
  refine ⟨keeps', by decide, hshows, ((shows_latest store keeps).1.2 engine (.tick 1)).answered (fun r hr => ?_) _ ?_⟩
  · cases hquiet.symm.trans hr
  · rw [hcalls]
    exact List.mem_singleton_self _

end Window

end GrammarStudio
