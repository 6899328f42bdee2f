import GrammarStudio.Proofs.Session.Starts

/-!
# When the engine is called

What is proved here holds whatever the answers are.  A call is made by a tick that finds a request waiting, for that
request, and by nothing else, and it brings the outcome that the session has afterwards.  Each call has used up a start
of its own.

* `Session.calls` — the requests that an event puts to the engine;
* `Session.sent_step_eq`, `Session.step_congr` — these are sent, and no other answer of the engine matters;
* `Session.phase_step`, `Session.LatestOutcome` — what waits after an event, and what its outcome is;
* `Session.spent_play`, `Session.length_sent_play` — the calls made, and the one that waits, are no more than the starts
  with a grammar.
-/

namespace GrammarStudio

open Analysis

/-- The request that waits, if one does. -/
def Phase.waiting? : Phase → Option Request
  | .pending request => some request
  | .idle | .running => none

/-- What a host can find between two events, in full. -/
theorem Phase.resting_iff {p : Phase} :
    p.Resting ↔ p = .idle ∨ ∃ r, p = .pending r ∧ r.isEmpty = false := by
  cases p <;> simp [Phase.Resting]

namespace Session

variable {σ τ : Type}

/-- The requests that an event puts to the engine: a tick sends what waits. -/
def calls (s : Session σ τ) (e : Event τ) : List Request := if e.isTick then s.phase.waiting?.toList else []

/-- The calls that a session has made, and the one that waits to be made. -/
def spent (s : Session σ τ) : Nat := s.sent.length + s.phase.waiting?.toList.length

/-! ### One event -/

/-- A call finds the session busy, and comes from a tick. -/
theorem isTick_and_busy_of_calls {s : Session σ τ} {e : Event τ} (h : s.calls e ≠ []) :
    e.isTick = true ∧ s.busy = true := by
  unfold calls at h
  split at h
  case isFalse => exact absurd rfl h
  case isTrue htick =>
    refine ⟨htick, ?_⟩
    cases hp : s.phase with
    | pending r => simp [busy, hp]
    | idle | running =>
      rw [hp] at h
      exact absurd rfl h

/-- What waits is a request with a grammar, and so is what is called for. -/
theorem isEmpty_of_calls {s : Session σ τ} (h : s.phase.Resting) {e : Event τ} {r : Request} (hr : r ∈ s.calls e) :
    r.isEmpty = false := by
  unfold calls at hr
  split at hr
  case isFalse => cases hr
  case isTrue =>
    cases hp : s.phase with
    | idle | running =>
      rw [hp] at hr
      cases hr
    | pending waiting =>
      rw [hp] at h hr
      rw [List.mem_singleton.mp hr]
      exact h

/-- A dispatch needs the engine's answer to the request that waits, and no other. -/
theorem dispatch_congr [Wording] {engine other : Engine} {s : Session σ τ}
    (h : ∀ r, s.phase.waiting? = some r → engine r = other r) : s.dispatch engine = s.dispatch other := by
  unfold dispatch
  cases hp : s.phase with
  | idle | running => rfl
  | pending r =>
    have hr : engine r = other r := h r (by rw [hp]; rfl)
    have hanalyze : analyze engine r = analyze other r := by
      refine analyze_congr fun call hcall => ?_
      rw [calls_analyze] at hcall
      split at hcall
      · cases hcall
      · rwa [List.mem_singleton.mp hcall]
    simp only [hanalyze]

variable [Store σ] [Clock τ]

/-- **An event sends what it calls for.** -/
theorem sent_step_eq [Wording] (engine : Engine) {s : Session σ τ} (e : Event τ) (h : s.phase.Resting) :
    (s.step engine e).sent = s.calls e ++ s.sent := by
  rw [sent_step engine e h, met, calls]
  split
  case isFalse => rfl
  case isTrue =>
    cases hp : s.phase with
    | idle =>
      rw [dispatch_idle engine hp]
      rfl
    | running => exact absurd hp h.ne_running
    | pending r =>
      rw [hp] at h
      rw [dispatch_pending engine hp h]
      rfl

/-- **No other answer of the engine matters** than those to the calls of the event. -/
theorem step_congr [Wording] {engine other : Engine} {s : Session σ τ} (e : Event τ)
    (h : ∀ r ∈ s.calls e, engine r = other r) : s.step engine e = s.step other e := by
  cases e with
  | tick now =>
    have hdispatch : s.dispatch engine = s.dispatch other := by
      refine dispatch_congr fun r hr => h r ?_
      show r ∈ s.phase.waiting?.toList
      rw [hr]
      exact List.mem_singleton_self r
    show s.tick engine now = s.tick other now
    rw [tick, hdispatch]
    rfl
  | ready | edited | requestParse | setOptimization | setPackrat | setAutoRefresh | setPanelShown | errorClicked
  | flush | change => rfl

omit [Store σ] [Clock τ] in
/-- What is left of the queue when a start comes: a tick has sent what waited. -/
theorem met_phase [Wording] (engine : Engine) (s : Session σ τ) (e : Event τ) :
    (s.met engine e).phase = if e.isTick then .idle else s.phase := by
  unfold met
  split
  · exact dispatch_phase engine s
  · rfl

/-- **What waits after an event.**  A start with a grammar waits, in place of what waited; otherwise what waited goes
on waiting, unless a tick has sent it. -/
theorem phase_step [Wording] (engine : Engine) {s : Session σ τ} (e : Event τ) (h : s.phase.Resting) :
    (s.step engine e).phase =
      match s.startOf? e with
      | some r => if r.isEmpty then (if e.isTick then .idle else s.phase) else .pending r
      | none => if e.isTick then .idle else s.phase := by
  have hphase : (s.step engine e).phase = (s.step engine e).progress.phase := rfl
  rw [hphase, progress_step engine e h]
  cases s.startOf? e with
  | none => exact met_phase engine s e
  | some r =>
    dsimp only
    rw [Progress.start]
    split
    · exact met_phase engine s e
    · rfl

/-- **The outcome is that of the latest cycle.**  An event that starts an analysis of an empty grammar clears it; else
one that calls the engine brings the outcome of the call, and any other leaves it as it was. -/
structure LatestOutcome [Wording] (engine : Engine) (s : Session σ τ) (e : Event τ) (t : Session σ τ) : Prop where
  cleared : ∀ r, s.startOf? e = some r → r.isEmpty = true → t.outcome = .skipped
  answered : (∀ r, s.startOf? e = some r → r.isEmpty = false) →
    ∀ r ∈ s.calls e, t.outcome = (analyze engine r).outcome
  kept : (∀ r, s.startOf? e = some r → r.isEmpty = false) → s.calls e = [] → t.outcome = s.outcome

omit [Store σ] [Clock τ] in
/-- The outcome that a start meets: a tick has brought that of the request that waited. -/
theorem met_outcome [Wording] (engine : Engine) {s : Session σ τ} (e : Event τ) (h : s.phase.Resting) :
    (∀ r ∈ s.calls e, (s.met engine e).outcome = (analyze engine r).outcome) ∧
      (s.calls e = [] → (s.met engine e).outcome = s.outcome) := by
  unfold calls met
  split
  case isFalse => exact ⟨fun r hr => (by cases hr), fun _ => rfl⟩
  case isTrue =>
    cases hp : s.phase with
    | idle =>
      rw [dispatch_idle engine hp]
      exact ⟨fun r hr => (by cases hr), fun _ => rfl⟩
    | running => exact absurd hp h.ne_running
    | pending waiting =>
      rw [hp] at h
      rw [dispatch_pending engine hp h]
      refine ⟨fun r hr => ?_, fun hnone => (by cases hnone)⟩
      rw [List.mem_singleton.mp hr]
      rfl

theorem latestOutcome_step [Wording] (engine : Engine) {s : Session σ τ} (e : Event τ) (h : s.phase.Resting) :
    s.LatestOutcome engine e (s.step engine e) := by
  have houtcome : (s.step engine e).outcome = (s.step engine e).progress.outcome := rfl
  rw [progress_step engine e h] at houtcome
  -- a start with a grammar leaves the outcome it meets, as does an event that starts nothing
  have hmet (hfull : ∀ r, s.startOf? e = some r → r.isEmpty = false) :
      (s.step engine e).outcome = (s.met engine e).outcome := by
    cases hs : s.startOf? e with
    | none =>
      rw [hs] at houtcome
      exact houtcome
    | some r =>
      rw [hs] at houtcome
      simpa [Progress.start, hfull r hs, progress] using houtcome
  obtain ⟨hanswered, hkept⟩ := met_outcome engine e h
  refine ⟨fun r hs hr => ?_, fun hfull r hr => ?_, fun hfull hnone => ?_⟩
  · rw [hs] at houtcome
    simpa [Progress.start, hr] using houtcome
  · rw [hmet hfull, hanswered r hr]
  · rw [hmet hfull, hkept hnone]

/-- A call is used up by the event that makes it, and only a start with a grammar brings a new one. -/
theorem spent_step [Wording] (engine : Engine) {s : Session σ τ} (e : Event τ) (h : s.phase.Resting) :
    (s.step engine e).spent ≤ s.spent + ((s.startOf? e).toList.filter fun r => !r.isEmpty).length := by
  have hmet : (s.calls e).length + (if e.isTick then Phase.idle else s.phase).waiting?.toList.length
      = s.phase.waiting?.toList.length := by
    unfold calls
    split <;> simp [Phase.waiting?]
  rw [spent, spent, sent_step_eq engine e h, List.length_append, phase_step engine e h]
  cases s.startOf? e with
  | none =>
    dsimp only
    omega
  | some r =>
    cases hr : r.isEmpty with
    | true =>
      simp only [hr, if_true]
      omega
    | false =>
      have hone : ((some r).toList.filter fun r => !r.isEmpty).length = 1 := by simp [hr]
      have hwaits : (Phase.pending r).waiting?.toList.length = 1 := rfl
      simp only [hr, Bool.false_eq_true, if_false]
      omega

/-! ### Histories -/

/-- The engine is never asked about an empty grammar. -/
theorem isEmpty_of_sent [Wording] {s : Session σ τ} (h : s.phase.Resting) (hsent : ∀ r ∈ s.sent, r.isEmpty = false)
    (turns : List (Turn τ)) : ∀ r ∈ (s.play turns).sent, r.isEmpty = false := by
  refine (play_preserves (P := fun s => s.phase.Resting ∧ ∀ r ∈ s.sent, r.isEmpty = false) ?_ ⟨h, hsent⟩).2
  rintro s t - ⟨hrest, hsent⟩
  refine ⟨step_resting t.engine t.event hrest, fun r hr => ?_⟩
  rw [sent_step_eq t.engine t.event hrest, List.mem_append] at hr
  rcases hr with hr | hr
  · exact isEmpty_of_calls hrest hr
  · exact hsent r hr

/-- **Each call has used up a start with a grammar**, and so has the request that waits. -/
theorem spent_play [Wording] {s : Session σ τ} (h : s.phase.Resting) (turns : List (Turn τ)) :
    (s.play turns).spent ≤ s.spent + ((s.starts turns).filter fun r => !r.isEmpty).length := by
  induction turns generalizing s with
  | nil => exact Nat.le_add_right _ _
  | cons t rest ih =>
    have hstep := spent_step t.engine t.event h
    have hrest := ih (step_resting t.engine t.event h)
    rw [play_cons, starts, List.filter_append, List.length_append]
    omega

/-- No more calls are made than analyses are started. -/
theorem length_sent_play [Wording] (store : σ) (turns : List (Turn τ)) :
    ((start store : Session σ τ).play turns).sent.length ≤ ((start store : Session σ τ).starts turns).length := by
  have hspent := spent_play (s := (start store : Session σ τ)) trivial turns
  have hnone : (start store : Session σ τ).spent = 0 := rfl
  have hfilled := List.length_filter_le (fun r : Request => !r.isEmpty) ((start store : Session σ τ).starts turns)
  have hsent : ((start store : Session σ τ).play turns).sent.length ≤ ((start store : Session σ τ).play turns).spent :=
    Nat.le_add_right _ _
  omega

end Session

end GrammarStudio
