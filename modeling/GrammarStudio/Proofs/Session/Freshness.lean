import GrammarStudio.Proofs.Session.Effects

/-!
# What is shown at rest is up to date

While analyses go by themselves, a session that is at rest shows what an analysis of the documents and settings as they
are would come to.  At rest means that the engine can be called, nothing is under way and no commit waits.

The invariant speaks of all other states too.  With no commit waiting, a queued request is the one of the documents as
they are; every event that changes them schedules a commit, and every commit starts anew.  So a request that is out of
date can only wait beside a commit, or while analyses do not go by themselves, and then a commit is still to come
before the session is at rest.

* `Session.Current` — the invariant;
* `Session.current_begin` — a start establishes it, also from a state in which nothing was fresh;
* `Session.current_step` — every event but the final flush keeps it;
* `Session.shown_at_rest` — the diagnostics on the screen are never stale at rest.
-/

namespace GrammarStudio

open Analysis Diagnostics Editor

namespace Session

variable {σ τ : Type}

/-- What an analysis of the documents and settings as they are comes to. -/
def freshOutcome [Wording] (engine : Engine) (s : Session σ τ) : Outcome := (analyze engine s.request).outcome

/-- Analyses go by themselves and no commit waits: the only states in which something must be up to date. -/
def Settled (s : Session σ τ) : Prop := s.settings.autoRefresh = true ∧ s.commitPending = false

/-- **The freshness invariant.**  The view is that of the outcome.  In a settled state a request that waits is the
request of the documents as they are, and if none waits and the engine can be called, the outcome is fresh. -/
structure Current [Wording] (engine : Engine) (s : Session σ τ) : Prop where
  view : s.view = View.ofOutcome s.outcome
  resting : s.phase.Resting
  queued : s.Settled → ∀ r, s.phase = .pending r → r = s.request
  fresh : s.Settled → s.engineReady = true → s.phase = .idle → s.outcome = s.freshOutcome engine

section Invariant

variable [Wording] {engine : Engine} {s : Session σ τ}

/-- An empty grammar has nothing to analyse. -/
theorem freshOutcome_of_empty (h : s.request.isEmpty = true) : s.freshOutcome engine = .skipped := by
  rw [freshOutcome, analyze, if_pos h]
  rfl

/-- Nothing is asked of a state that is not settled. -/
theorem Current.of_not_settled (view : s.view = View.ofOutcome s.outcome) (resting : s.phase.Resting)
    (h : ¬ s.Settled) : s.Current engine :=
  ⟨view, resting, fun hs => absurd hs h, fun hs => absurd hs h⟩

/-- **A start makes a session current.**  An empty grammar cannot meet a request that waits here: in a settled state
that request would be its own, and a request that waits has a grammar. -/
theorem current_begin (view : s.view = View.ofOutcome s.outcome) (resting : s.phase.Resting)
    (queued : s.Settled → ∀ r, s.phase = .pending r → r = s.request) : s.begin.Current engine := by
  cases hr : s.request.isEmpty with
  | true =>
    rw [begin_empty hr]
    refine ⟨rfl, resting, fun hs r hp => queued hs r hp, fun _ _ _ => ?_⟩
    exact (freshOutcome_of_empty (s := s.applyOutcome .skipped) hr).symm
  | false =>
    rw [begin_waits hr resting.ne_running]
    refine ⟨view, hr, fun _ r hp => ?_, fun _ _ hp => by cases hp⟩
    cases hp
    rfl

/-- A dispatch answers the request that waits, which is up to date in a settled state. -/
theorem Current.dispatch (h : s.Current engine) : (s.dispatch engine).Current engine := by
  cases hp : s.phase with
  | idle =>
    rw [dispatch_idle engine hp]
    exact h
  | running => exact absurd hp h.resting.ne_running
  | pending r =>
    have hr : (Phase.pending r).Resting := hp ▸ h.resting
    rw [dispatch_pending engine hp hr]
    refine ⟨rfl, trivial, fun _ _ hq => (by cases hq), fun hs _ _ => ?_⟩
    have hcur : r = s.request := h.queued hs r hp
    rw [applyOutcome_outcome, hcur]
    rfl

variable [Store σ] [Clock τ]

/-- A tick keeps the session current.  A commit finds nothing waiting, because the tick has sent it first. -/
theorem Current.tick (h : s.Current engine) (now : τ) : (s.tick engine now).Current engine := by
  cases hc : (s.commit.poll now).1 with
  | none =>
    rw [tick_quiet engine hc]
    exact h.dispatch
  | some action =>
    have hd : (s.dispatch engine).Current engine := h.dispatch
    rw [tick_due engine (by rw [hc]; rfl)]
    unfold refresh
    split
    · refine current_begin hd.view hd.resting fun _ r hp => ?_
      exact absurd (hp.symm.trans (saved_phase engine s now)) (by simp)
    · rename_i hauto
      exact .of_not_settled hd.view hd.resting fun hs => hauto hs.1

/-- **Every event but the flush keeps a session current.** -/
theorem current_step (h : s.Current engine) (e : Event τ) (notFlush : e ≠ .flush) :
    (s.step engine e).Current engine := by
  cases e with
  | ready =>
    show s.ready.Current engine
    unfold ready
    split
    · exact h
    · unfold refresh
      split
      · exact current_begin h.view h.resting h.queued
      · rename_i hauto
        exact .of_not_settled h.view h.resting fun hs => hauto hs.1
  | requestParse =>
    show s.requestParse.Current engine
    unfold requestParse
    split
    · exact current_begin h.view h.resting h.queued
    · exact h
  | tick now => exact h.tick now
  | flush => exact absurd rfl notFlush
  | edited d now =>
    -- a commit waits from now on
    refine .of_not_settled ?_ (step_resting engine (.edited d now) h.resting) fun hs => Bool.noConfusion hs.2
    cases d <;> exact h.view
  | setOptimization o now => exact .of_not_settled h.view h.resting fun hs => Bool.noConfusion hs.2
  | setPackrat on now => exact .of_not_settled h.view h.resting fun hs => Bool.noConfusion hs.2
  | setAutoRefresh on now => exact .of_not_settled h.view h.resting fun hs => Bool.noConfusion hs.2
  | setPanelShown panel on => exact ⟨h.view, h.resting, h.queued, h.fresh⟩
  | errorClicked list index => exact ⟨h.view, h.resting, h.queued, h.fresh⟩
  | change slot change => exact ⟨h.view, h.resting, h.queued, h.fresh⟩

end Invariant

variable [Store σ] [Clock τ]

/-- A session that starts is current: the engine cannot be called yet. -/
theorem current_start [Wording] (engine : Engine) (store : σ) : (start store : Session σ τ).Current engine :=
  ⟨rfl, trivial, fun _ _ hp => (by cases hp), fun _ hready => (by cases hready)⟩

/-- **What is shown at rest is up to date.**  After any history without a flush, if analyses go by themselves, the
engine can be called, nothing is under way and no commit waits, then the outcome is that of an analysis of the
documents and settings as they are, and the view on the screen is the view of that outcome. -/
theorem shown_at_rest [Wording] (engine : Engine) (store : σ) (events : List (Event τ)) (noFlush : .flush ∉ events)
    (auto : (run engine (start store : Session σ τ) events).settings.autoRefresh = true)
    (ready : (run engine (start store : Session σ τ) events).engineReady = true)
    (idle : (run engine (start store : Session σ τ) events).phase = .idle)
    (saved : (run engine (start store : Session σ τ) events).commitPending = false) :
    let s : Session σ τ := run engine (start store) events
    let request : Request := ⟨s.grammarText, s.codeText, s.settings.optimization.enabled, s.settings.packrat⟩
    s.outcome = (analyze engine request).outcome ∧ s.view = View.ofOutcome (analyze engine request).outcome := by
  intro s request
  have hcur : s.Current engine :=
    run_preserves engine (P := fun s => s.Current engine)
      (fun _ e he h => current_step h e fun hf => noFlush (hf ▸ he)) (current_start engine store)
  have hfresh : s.outcome = (analyze engine request).outcome := hcur.fresh ⟨auto, saved⟩ ready idle
  exact ⟨hfresh, by rw [← hfresh]; exact hcur.view⟩

/-- The engine is called for the stored grammar, and again for the edit that is committed at 1.75. -/
theorem shown_at_rest_after_edit :
    let engine : Engine := fun r => .error (.ended r.grammar r.code)
    let store : Store.Memory := ⟨[("autoRefresh", "true"), ("grammarText", "start <- 'a'")]⟩
    let events : List (Event Float) :=
      [.ready, .tick 0, .change .code (.setText "b"), .edited .code 1, .tick 1.5, .tick 2, .tick 2.25]
    let s : Session Store.Memory Float := run engine (start store) events
    let request : Request := ⟨"start <- 'a'", "b", true, false⟩
    (s.settings.autoRefresh = true ∧ s.engineReady = true ∧ s.phase = .idle ∧ s.commitPending = false) ∧
      ⟨s.grammarText, s.codeText, s.settings.optimization.enabled, s.settings.packrat⟩ = request ∧
      s.outcome = (analyze engine request).outcome ∧ s.view = View.ofOutcome (analyze engine request).outcome := by
  intro engine store events s request
  have hrest : s.settings.autoRefresh = true ∧ s.engineReady = true ∧ s.phase = .idle ∧ s.commitPending = false := by
    decide +revert
  have hrequest : ⟨s.grammarText, s.codeText, s.settings.optimization.enabled, s.settings.packrat⟩ = request := by
    decide +revert
  obtain ⟨auto, ready, idle, saved⟩ := hrest
  have hshown := shown_at_rest engine store events (by simp [events]) auto ready idle saved
  refine ⟨⟨auto, ready, idle, saved⟩, hrequest, ?_⟩
  rw [← hrequest]
  exact hshown

end Session

end GrammarStudio
