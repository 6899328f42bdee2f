import GrammarStudio.Proofs.Session.Calls
import GrammarStudio.Proofs.Session.ExactTime

/-!
# Waking up again

A tick tells the host how long it may leave the session alone.  A host that takes this at its word loses nothing: it is
sent to sleep for good only when nothing is left to do, and when it comes back after the time it was told, or later, the
next tick has something to do.  What is left to do gets less with each such tick, so the host soon sleeps.

* `Session.toDo` — what is left to do, as the number of ticks that it takes at most;
* `Session.due_of_wait` — a host that comes back when it was told finds something due;
* `Session.toDo_tick_le`, `Session.toDo_tick_lt` — what one tick makes of it;
* `Session.ticked`, `Session.rests_within` — a host that sleeps as it is told, tick after tick;
* `Session.settle_rests` — the same of `Session.settle`, whose rounds are never used up;
* `Session.wakes_until_rest` — all of it, for every history.
-/

namespace GrammarStudio

open Analysis

namespace Session

variable {σ τ : Type}

/-! ### What is left to do -/

/-- **What is left to do**, as the number of ticks that it takes at most.  A request that waits takes one.  A commit
that waits takes two, for it can start an analysis. -/
def toDo (s : Session σ τ) : ℕ := (if s.busy then 1 else 0) + if s.commitPending then 2 else 0

theorem busy_eq_false_iff {s : Session σ τ} : s.busy = false ↔ s.phase = .idle := by
  simp [busy]

theorem toDo_eq_zero_iff {s : Session σ τ} : s.toDo = 0 ↔ s.phase = .idle ∧ s.commitPending = false := by
  rw [← busy_eq_false_iff, toDo]
  cases s.busy <;> cases s.commitPending <;> simp

variable [Clock τ]

/-- Is there something to do for a tick at a time? -/
def Due (s : Session σ τ) (later : τ) : Prop := s.busy = true ∨ (s.commit.poll later).1.isSome = true

/-- A host is told to wait for nothing exactly when nothing is left to do. -/
theorem wait_eq_none_iff {s : Session σ τ} {now : τ} : s.wait now = none ↔ s.toDo = 0 := by
  unfold wait toDo
  cases hb : s.busy with
  | true => simp
  | false => cases hw : s.commit.waiting <;> simp [Debounce.remaining, commitPending, Debounce.isPending, hw]

/-- A commit that is due has waited. -/
theorem commitPending_of_due {s : Session σ τ} {now : τ} (h : (s.commit.poll now).1.isSome = true) :
    s.commitPending = true := by
  obtain ⟨w, hw, -⟩ := Debounce.poll_isSome_iff.mp h
  simp [commitPending, Debounce.isPending, hw]

section Exact

variable [AddCommGroup τ] [LinearOrder τ] [IsOrderedAddMonoid τ] [Clock.Exact τ]

/-- **A host that comes back when it was told, or later, finds something due.** -/
theorem due_of_wait {s : Session σ τ} {now w : τ} (h : s.wait now = some w) :
    0 ≤ w ∧ ∀ later, now + w ≤ later → s.Due later := by
  unfold wait at h
  split at h
  case isTrue hbusy =>
    obtain rfl := Option.some.inj h
    exact ⟨Clock.Exact.zero_eq.ge, fun later _ => .inl hbusy⟩
  case isFalse =>
    obtain ⟨hnonneg, hdue⟩ := Debounce.due_of_remaining h
    exact ⟨hnonneg, fun later hlater => .inr (hdue later hlater)⟩

end Exact

/-! ### One tick -/

variable [Store σ]

/-- A tick does with the commit what a poll does. -/
theorem tick_commit [Wording] (engine : Engine) (s : Session σ τ) (now : τ) :
    (s.tick engine now).commit = (s.commit.poll now).2 := by
  cases h : (s.commit.poll now).1 with
  | none =>
    rw [tick_quiet engine h, dispatch_commit, Debounce.poll_none h]
  | some action =>
    rw [tick_due engine (by rw [h]; rfl), refresh_commit, saved_commit]

/-- After a tick a commit waits only if it did before and was not due. -/
theorem commitPending_tick [Wording] (engine : Engine) (s : Session σ τ) (now : τ) :
    (s.tick engine now).commitPending = (s.commitPending && (s.commit.poll now).1.isNone) := by
  rw [commitPending, tick_commit]
  exact Debounce.isPending_poll s.commit now

/-- After a tick the session is busy only if a commit was due. -/
theorem not_busy_tick [Wording] (engine : Engine) {s : Session σ τ} {now : τ} (h : (s.commit.poll now).1 = none) :
    (s.tick engine now).busy = false := by
  rw [busy_eq_false_iff, tick_quiet engine h, dispatch_phase]

/-- **What a tick leaves to do.**  A commit that was due leaves at most the analysis that it starts; otherwise a commit
that waits goes on waiting, and nothing else is left. -/
theorem toDo_tick [Wording] (engine : Engine) (s : Session σ τ) (now : τ) :
    (s.tick engine now).toDo ≤
      if (s.commit.poll now).1.isSome then 1 else if s.commitPending then 2 else 0 := by
  rw [toDo, commitPending_tick]
  cases h : (s.commit.poll now).1 with
  | none => simp [not_busy_tick engine h]
  | some action => cases (s.tick engine now).busy <;> simp

/-- Two more ticks are enough after any tick. -/
theorem toDo_tick_le [Wording] (engine : Engine) (s : Session σ τ) (now : τ) : (s.tick engine now).toDo ≤ 2 := by
  refine (toDo_tick engine s now).trans ?_
  split
  · decide
  · split <;> decide

/-- A tick leaves nothing to do that was not there to do. -/
theorem toDo_tick_le_self [Wording] (engine : Engine) (s : Session σ τ) (now : τ) :
    (s.tick engine now).toDo ≤ s.toDo := by
  refine (toDo_tick engine s now).trans ?_
  rw [toDo]
  split
  case isTrue hdue =>
    rw [commitPending_of_due hdue]
    simp only [if_true]
    omega
  case isFalse => exact Nat.le_add_left _ _

/-- **A tick that finds something due leaves less to do.** -/
theorem toDo_tick_lt [Wording] (engine : Engine) {s : Session σ τ} {later : τ} (h : s.Due later) :
    (s.tick engine later).toDo < s.toDo := by
  refine (toDo_tick engine s later).trans_lt ?_
  rw [toDo]
  cases hp : (s.commit.poll later).1.isSome with
  | true =>
    rw [commitPending_of_due hp]
    simp only [if_true]
    omega
  | false =>
    obtain hbusy | hdue := h
    · simp [hbusy]
    · exact absurd (hp.symm.trans hdue) (by simp)

/-- The calls that were made, and those that can still follow from what waits. -/
def prospect (s : Session σ τ) : ℕ := s.spent + if s.commitPending then 1 else 0

/-- A tick makes a call of what can follow, and no call follows from it that could not follow before. -/
theorem prospect_tick [Wording] (engine : Engine) {s : Session σ τ} (h : s.phase.Resting) (now : τ) :
    (s.tick engine now).prospect ≤ s.prospect := by
  have hspent : (s.tick engine now).spent ≤ _ := spent_step engine (.tick now) h
  have hcommit := commitPending_tick engine s now
  rw [prospect, prospect, hcommit]
  cases hp : (s.commit.poll now).1 with
  | none =>
    rw [startOf?_tick_quiet hp] at hspent
    simpa using hspent
  | some action =>
    have hone : ((s.startOf? (.tick now)).toList.filter fun r => !r.isEmpty).length ≤ 1 :=
      (List.length_filter_le _ _).trans Option.length_toList_le
    rw [commitPending_of_due (by rw [hp]; rfl)]
    simp only [Option.isNone_some, Bool.and_false, Bool.false_eq_true, if_false, if_true]
    omega

/-! ### Tick after tick -/

/-- The session after the first of a sequence of ticks, so many of them. -/
def ticked [Wording] (s : Session σ τ) (engines : ℕ → Engine) (times : ℕ → τ) : ℕ → Session σ τ
  | 0 => s
  | n + 1 => (s.ticked engines times n).tick (engines n) (times n)

theorem ticked_resting [Wording] {s : Session σ τ} (h : s.phase.Resting) (engines : ℕ → Engine) (times : ℕ → τ)
    (n : ℕ) :
    (s.ticked engines times n).phase.Resting := by
  cases n with
  | zero => exact h
  | succ n => exact tick_resting (engines n) _ (times n)

theorem prospect_ticked [Wording] {s : Session σ τ} (h : s.phase.Resting) (engines : ℕ → Engine) (times : ℕ → τ)
    (n : ℕ) :
    (s.ticked engines times n).prospect ≤ s.prospect := by
  induction n with
  | zero => exact le_rfl
  | succ n ih => exact (prospect_tick (engines n) (ticked_resting h engines times n) (times n)).trans ih

/-- However many ticks there are, they make no more than two calls. -/
theorem length_sent_ticked [Wording] {s : Session σ τ} (h : s.phase.Resting) (engines : ℕ → Engine) (times : ℕ → τ)
    (n : ℕ) :
    (s.ticked engines times n).sent.length ≤ s.sent.length + 2 := by
  have hprospect := prospect_ticked h engines times n
  have hbefore : s.prospect ≤ s.sent.length + 2 := by
    have hwaiting : s.phase.waiting?.toList.length ≤ 1 := Option.length_toList_le
    rw [prospect, spent]
    split <;> omega
  have hafter : (s.ticked engines times n).sent.length ≤ (s.ticked engines times n).prospect :=
    (Nat.le_add_right _ _).trans (Nat.le_add_right _ _)
  exact hafter.trans (hprospect.trans hbefore)

/-- A session at rest stays at rest when it is ticked. -/
theorem wait_ticked_of_rest [Wording] {s : Session σ τ} {engines : ℕ → Engine} {times : ℕ → τ} {n m : ℕ}
    (h : (s.ticked engines times (n + 1)).wait (times n) = none) (hm : n ≤ m) :
    (s.ticked engines times (m + 1)).wait (times m) = none := by
  induction m, hm using Nat.le_induction with
  | base => exact h
  | succ m _ ih =>
    rw [wait_eq_none_iff] at ih ⊢
    exact Nat.le_zero.mp (ih ▸ toDo_tick_le_self (engines (m + 1)) _ (times (m + 1)))

section Exact

variable [AddCommGroup τ] [LinearOrder τ] [IsOrderedAddMonoid τ] [Clock.Exact τ]

/-- A host that sleeps as it is told: after a tick that told it to wait, it comes back then or later. -/
def Patient [Wording] (s : Session σ τ) (engines : ℕ → Engine) (times : ℕ → τ) : Prop :=
  ∀ n w, (s.ticked engines times (n + 1)).wait (times n) = some w → times n + w ≤ times (n + 1)

/-- After each tick of a patient host less is left to do, unless it was sent to sleep before. -/
theorem toDo_ticked [Wording] {s : Session σ τ} {engines : ℕ → Engine} {times : ℕ → τ}
    (h : s.Patient engines times) (n : ℕ) :
    (∃ m < n, (s.ticked engines times (m + 1)).wait (times m) = none) ∨
      (s.ticked engines times (n + 1)).toDo + n ≤ 2 := by
  induction n with
  | zero => exact .inr (toDo_tick_le (engines 0) _ (times 0))
  | succ n ih =>
    obtain ⟨m, hm, hnone⟩ | hless := ih
    · exact .inl ⟨m, hm.trans n.lt_succ_self, hnone⟩
    cases hwait : (s.ticked engines times (n + 1)).wait (times n) with
    | none => exact .inl ⟨n, n.lt_succ_self, hwait⟩
    | some w =>
      have hdue := (due_of_wait hwait).2 (times (n + 1)) (h n w hwait)
      have hlt := toDo_tick_lt (engines (n + 1)) hdue
      refine .inr ?_
      rw [ticked]
      omega

/-- **A patient host is sent to sleep within three ticks**, and no later tick wakes it. -/
theorem rests_within [Wording] {s : Session σ τ} {engines : ℕ → Engine} {times : ℕ → τ} (h : s.Patient engines times) :
    ∃ n < 3, ∀ m, n ≤ m → (s.ticked engines times (m + 1)).wait (times m) = none := by
  obtain ⟨n, hn, hnone⟩ | hless := toDo_ticked h 2
  · exact ⟨n, hn.trans (Nat.lt_succ_self 2), fun m hm => wait_ticked_of_rest hnone hm⟩
  · have hnone : (s.ticked engines times (2 + 1)).wait (times 2) = none := wait_eq_none_iff.mpr (by omega)
    exact ⟨2, Nat.lt_succ_self 2, fun m hm => wait_ticked_of_rest hnone hm⟩

/-- The loop of a patient host needs no more rounds than there is left to do after its first tick, and then rests. -/
theorem settle_rests [Wording] (engine : Engine) {after : τ → τ → τ} (patient : ∀ now w, now + w ≤ after now w)
    {s : Session σ τ} {now : τ} {rounds : ℕ} (enough : (s.tick engine now).toDo ≤ rounds) :
    (s.settle engine after now rounds).1 ≤ (s.tick engine now).toDo ∧
      (s.settle engine after now rounds).2.toDo = 0 := by
  induction rounds generalizing s now with
  | zero => exact ⟨Nat.zero_le _, Nat.le_zero.mp enough⟩
  | succ rounds ih =>
    rw [settle]
    dsimp only
    cases hwait : (s.tick engine now).wait now with
    | none => exact ⟨Nat.zero_le _, wait_eq_none_iff.mp hwait⟩
    | some w =>
      have hlt := toDo_tick_lt engine ((due_of_wait hwait).2 (after now w) (patient now w))
      obtain ⟨hrounds, hrest⟩ := @ih (s.tick engine now) (after now w) (by omega)
      exact ⟨by dsimp only; omega, hrest⟩

/-- **No wake-up is lost, and the loop of a host ends.**  After any history and any tick: the host is sent to sleep
exactly if no analysis is under way and no commit waits.  Otherwise it is told to wait for a time that is not negative,
and whatever tick comes then or later sends the request that waits, or makes the commit that waits.  A host that ticks
again and again and waits as it is told is sent to sleep within three ticks, and for good; no more than two calls are
made.  So the loop that settles a session takes no more than two rounds. -/
theorem wakes_until_rest [Wording] (store : σ) (turns : List (Turn τ)) (engine : Engine) (now : τ) :
    let s : Session σ τ := (start store).play turns
    let t := s.tick engine now
    (t.wait now = none ↔ t.phase = .idle ∧ t.commitPending = false) ∧
      (∀ w, t.wait now = some w → 0 ≤ w ∧ ∀ (other : Engine) (later : τ), now + w ≤ later →
        (∃ r, t.phase = .pending r ∧ (t.tick other later).sent = r :: t.sent) ∨
          (t.commitPending = true ∧ (t.tick other later).commitPending = false ∧
            t.tick other later = (t.saved other later).refresh)) ∧
      (∀ engines times, s.Patient engines times →
        ∃ n < 3, ∀ m, n ≤ m → (s.ticked engines times (m + 1)).wait (times m) = none ∧
          (s.ticked engines times (m + 1)).sent.length ≤ s.sent.length + 2) ∧
      ∀ after : τ → τ → τ, (∀ now w, now + w ≤ after now w) → ∀ rounds, 2 ≤ rounds →
        let settled := s.settle engine after now rounds
        settled.1 ≤ 2 ∧ settled.2.phase = .idle ∧ settled.2.commitPending = false := by
  intro s t
  have hs : s.phase.Resting := play_resting (s := start store) trivial turns
  have ht : t.phase.Resting := tick_resting engine s now
  refine ⟨wait_eq_none_iff.trans toDo_eq_zero_iff, fun w hw => ⟨(due_of_wait hw).1, fun other later hlater => ?_⟩,
    fun engines times patient => ?_, fun after patient rounds enough => ?_⟩
  · cases hp : t.phase with
    | running => exact absurd hp ht.ne_running
    | pending r =>
      refine .inl ⟨r, rfl, ?_⟩
      have hsent := sent_step_eq other (.tick later) ht
      rwa [calls, hp] at hsent
    | idle =>
      obtain hbusy | hdue := (due_of_wait hw).2 later hlater
      · exact absurd ((busy_eq_false_iff.mpr hp).symm.trans hbusy) (by simp)
      · refine .inr ⟨commitPending_of_due hdue, ?_, tick_due other hdue⟩
        rw [commitPending_tick]
        simp [Option.isNone_eq_false_iff.mpr hdue]
  · obtain ⟨n, hn, hrest⟩ := rests_within patient
    exact ⟨n, hn, fun m hm => ⟨hrest m hm, length_sent_ticked hs engines times (m + 1)⟩⟩
  · have htwo := toDo_tick_le engine s now
    obtain ⟨hrounds, hrest⟩ := settle_rests engine patient (htwo.trans enough)
    exact ⟨hrounds.trans htwo, toDo_eq_zero_iff.mp hrest⟩

end Exact

/-- A request waits and a commit too, which is made at 1.75 and starts a second analysis: three ticks and two calls. -/
theorem wakes_until_rest_thrice :
    let engine : Engine := fun r => .error (.ended r.grammar r.code)
    let store : Store.Memory := ⟨[("autoRefresh", "true"), ("grammarText", "start <- 'a'")]⟩
    let events : List (Event ℚ) := [.ready, .change .code (.setText "b"), .edited .code 1]
    let s : Session Store.Memory ℚ := (start store).play (events.map (Turn.mk engine))
    let times : ℕ → ℚ := fun n => if n = 0 then 1 else 7 / 4
    s.Patient (fun _ => engine) times ∧
      (∃ n < 3, ∀ m, n ≤ m → (s.ticked (fun _ => engine) times (m + 1)).wait (times m) = none ∧
        (s.ticked (fun _ => engine) times (m + 1)).sent.length ≤ s.sent.length + 2) ∧
      (s.ticked (fun _ => engine) times 2).wait (times 1) = some 0 ∧
      (s.ticked (fun _ => engine) times 3).sent.length = 2 := by
  intro engine store events s times
  have hfirst : (s.ticked (fun _ => engine) times 1).wait (times 0) = some (3 / 4) := by decide +kernel
  have hsecond : (s.ticked (fun _ => engine) times 2).wait (times 1) = some 0 := by decide +kernel
  have hthird : (s.ticked (fun _ => engine) times 3).wait (times 2) = none := by decide +kernel
  have patient : s.Patient (fun _ => engine) times := by
    intro n w hw
    match n with
    | 0 =>
      obtain rfl := Option.some.inj (hfirst.symm.trans hw)
      decide +kernel
    | 1 =>
      obtain rfl := Option.some.inj (hsecond.symm.trans hw)
      decide +kernel
    | n + 2 =>
      rw [wait_ticked_of_rest hthird (Nat.le_add_left 2 n)] at hw
      cases hw
  obtain ⟨-, -, hrests, -⟩ := wakes_until_rest store (events.map (Turn.mk engine)) engine (1 : ℚ)
  exact ⟨patient, hrests _ times patient, hsecond, by decide +kernel⟩

end Session

end GrammarStudio
