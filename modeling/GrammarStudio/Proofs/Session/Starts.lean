import GrammarStudio.Proofs.Session.Effects

/-!
# Which start a request comes from

An analysis is started by a request to parse, by the first signal that the engine can be called, and by a commit, the
last two only while analyses go by themselves.  A start with a grammar queues its request, in place of one that waits;
the next tick sends it.  A start with an empty grammar clears what is shown at once but does not look at the queue.

* `Session.isStart`, `Session.startOf?`, `Session.starts` — the starts of an event and of a history, with their
  requests;
* `Session.met` — the session that a start meets: a tick has sent what waited before it commits;
* `Session.Progress` — the phase, the requests sent and the outcome, which is all that a start or a tick advances;
* `Session.progress_step`, `Session.progress_play_of_no_start` — what an event and a history without a start make of it;
* `Session.newest_start_wins` — a call carries the newest start that has a grammar.  It is the newest start of all
  unless an empty one came while a request waited, and exactly then the cleared outcome does not stay.
-/

namespace GrammarStudio

open Analysis Diagnostics Editor

/-- Is the event a tick? -/
def Event.isTick {τ : Type} : Event τ → Bool
  | .tick _ => true
  | _ => false

def Turn.isTick {τ : Type} (t : Turn τ) : Bool := t.event.isTick

namespace Session

variable {σ τ : Type}

/-! ### Starts -/

/-- Does an event start an analysis? -/
def isStart [Clock τ] (s : Session σ τ) : Event τ → Bool
  | .ready => !s.engineReady && s.settings.autoRefresh
  | .requestParse => s.parseEnabled
  | .tick now => (s.commit.poll now).1.isSome && s.settings.autoRefresh
  | _ => false

/-- The request of the analysis that an event starts, if it starts one: documents and settings as the event finds
them. -/
def startOf? [Clock τ] (s : Session σ τ) (e : Event τ) : Option Request :=
  if s.isStart e then some ⟨s.grammarText, s.codeText, s.settings.optimization.enabled, s.settings.packrat⟩ else none

theorem startOf?_of_start [Clock τ] {s : Session σ τ} {e : Event τ} (h : s.isStart e = true) :
    s.startOf? e = some s.request := if_pos h

theorem startOf?_of_not_start [Clock τ] {s : Session σ τ} {e : Event τ} (h : s.isStart e = false) :
    s.startOf? e = none := if_neg (by simp [h])

/-- A tick with no commit due starts nothing. -/
theorem startOf?_tick_quiet [Clock τ] {s : Session σ τ} {now : τ} (h : (s.commit.poll now).1 = none) :
    s.startOf? (.tick now) = none := startOf?_of_not_start (by simp [isStart, h])

/-- An analysis that an event starts is one of the documents in the session. -/
theorem request_of_startOf? [Clock τ] {s : Session σ τ} {e : Event τ} {r : Request} (h : s.startOf? e = some r) :
    r = s.request := by
  unfold startOf? at h
  split at h
  · exact (Option.some.inj h).symm
  · cases h

/-- The requests of all analyses that some turns start, in order. -/
def starts [Wording] [Store σ] [Clock τ] (s : Session σ τ) : List (Turn τ) → List Request
  | [] => []
  | t :: rest => (s.startOf? t.event).toList ++ starts (s.step t.engine t.event) rest

/-- The newest start that has a grammar. -/
def newestFilled (starts : List Request) : Option Request := (starts.filter fun r => !r.isEmpty).getLast?

/-- The session that the start of an event meets: a tick has already sent what waited. -/
def met [Wording] (engine : Engine) (s : Session σ τ) (e : Event τ) : Session σ τ :=
  if e.isTick then s.dispatch engine else s

/-- What starts and ticks advance. -/
structure Progress where
  phase : Phase
  sent : List Request
  outcome : Outcome
  deriving DecidableEq

/-- How far a session has come. -/
def progress (s : Session σ τ) : Progress := ⟨s.phase, s.sent, s.outcome⟩

/-- What a start makes of the progress it meets. -/
def Progress.start (p : Progress) (r : Request) : Progress :=
  if r.isEmpty then { p with outcome := .skipped } else { p with phase := .pending r }

/-! ### What one event advances -/

/-- A start advances the session it meets by its request. -/
theorem progress_begin {s : Session σ τ} (h : s.phase.Resting) : s.begin.progress = s.progress.start s.request := by
  cases hr : s.request.isEmpty with
  | true =>
    rw [begin_empty hr, Progress.start, if_pos hr]
    rfl
  | false =>
    rw [begin_waits hr h.ne_running, Progress.start, if_neg (by simp [hr])]
    rfl

/-- A dispatch depends on the progress alone. -/
theorem progress_dispatch_congr [Wording] (engine : Engine) {s t : Session σ τ} (h : s.progress = t.progress) :
    (s.dispatch engine).progress = (t.dispatch engine).progress := by
  simp only [progress, Progress.mk.injEq] at h
  obtain ⟨hphase, hsent, houtcome⟩ := h
  unfold dispatch
  rw [hphase]
  cases t.phase with
  | pending r => simp [progress, hsent]
  | idle | running => simp [progress, hsent, houtcome]

/-- What a dispatch makes of a start that meets an idle session: an empty grammar has cleared the outcome, and any other
request is sent and answered. -/
theorem progress_dispatch_of_start [Wording] (engine : Engine) {s : Session σ τ} {p : Progress} {r : Request}
    (idle : p.phase = .idle) (h : s.progress = p.start r) :
    (s.dispatch engine).progress =
      if r.isEmpty then { p with outcome := .skipped }
      else ⟨.idle, r :: p.sent, (analyze engine r).outcome⟩ := by
  cases hr : r.isEmpty with
  | true =>
    rw [Progress.start, if_pos hr] at h
    have hphase : s.phase = .idle := (congrArg Progress.phase h).trans idle
    rw [dispatch_idle engine hphase, h]
    rfl
  | false =>
    rw [Progress.start, if_neg (by simp [hr])] at h
    have hphase : s.phase = .pending r := congrArg Progress.phase h
    have hsent : s.sent = p.sent := congrArg Progress.sent h
    rw [dispatch_pending engine hphase hr]
    simp [progress, hsent]

variable [Store σ] [Clock τ]

/-- **What an event advances.**  An event that starts an analysis advances the session it meets by the request of that
start, and any other event leaves the progress it meets. -/
theorem progress_step [Wording] (engine : Engine) {s : Session σ τ} (e : Event τ) (h : s.phase.Resting) :
    (s.step engine e).progress =
      match s.startOf? e with
      | none => (s.met engine e).progress
      | some r => (s.met engine e).progress.start r := by
  cases e with
  | ready =>
    show s.ready.progress = match s.startOf? .ready with
      | none => s.progress
      | some r => s.progress.start r
    by_cases hready : s.engineReady = true
    · rw [startOf?_of_not_start (by simp [isStart, hready]), ready, if_pos hready]
    · rw [ready, if_neg hready, refresh]
      by_cases hauto : s.settings.autoRefresh = true
      · rw [startOf?_of_start (by simp [isStart, hready, hauto]), if_pos hauto]
        exact progress_begin (s := { s with engineReady := true }) h
      · rw [startOf?_of_not_start (by simp [isStart, hauto]), if_neg hauto]
        rfl
  | requestParse =>
    show s.requestParse.progress = match s.startOf? .requestParse with
      | none => s.progress
      | some r => s.progress.start r
    rw [requestParse]
    by_cases henabled : s.parseEnabled = true
    · rw [startOf?_of_start (e := .requestParse) henabled, if_pos henabled]
      exact progress_begin h
    · rw [startOf?_of_not_start (by simpa [isStart] using henabled), if_neg henabled]
  | tick now =>
    show (s.tick engine now).progress = match s.startOf? (.tick now) with
      | none => (s.dispatch engine).progress
      | some r => (s.dispatch engine).progress.start r
    cases hc : (s.commit.poll now).1 with
    | none => rw [startOf?_tick_quiet hc, tick_quiet engine hc]
    | some action =>
      have hmet : (s.saved engine now).progress = (s.dispatch engine).progress := rfl
      rw [tick_due engine (by rw [hc]; rfl), refresh, saved_settings]
      by_cases hauto : s.settings.autoRefresh = true
      · rw [startOf?_of_start (by simp [isStart, hc, hauto]), if_pos hauto,
          progress_begin (s := s.saved engine now) (dispatch_resting engine s), hmet, saved_request]
      · rw [startOf?_of_not_start (by simp [isStart, hauto]), if_neg hauto]
        exact hmet
  | edited d now =>
    show (s.withText d _).progress = s.progress
    cases d <;> rfl
  | flush =>
    show s.flush.progress = s.progress
    unfold flush
    split <;> rfl
  | setOptimization | setPackrat | setAutoRefresh | setPanelShown | errorClicked | change => rfl

/-- The requests sent are those of the session met: a start sends nothing. -/
theorem sent_step [Wording] (engine : Engine) {s : Session σ τ} (e : Event τ) (h : s.phase.Resting) :
    (s.step engine e).sent = (s.met engine e).sent := by
  have hp : (s.step engine e).sent = (s.step engine e).progress.sent := rfl
  rw [hp, progress_step engine e h]
  split
  · rfl
  · unfold Progress.start
    split <;> rfl

/-- **Only a tick calls the engine, once, with the request that waited.** -/
theorem sent_step_cases [Wording] (engine : Engine) {s : Session σ τ} (e : Event τ) (h : s.phase.Resting) :
    (s.step engine e).sent = s.sent ∨
      ∃ r, e.isTick = true ∧ s.phase = .pending r ∧ (s.step engine e).sent = r :: s.sent := by
  rw [sent_step engine e h, met]
  split
  · rename_i htick
    cases hp : s.phase with
    | idle =>
      rw [dispatch_idle engine hp]
      exact .inl rfl
    | running => exact absurd hp h.ne_running
    | pending r =>
      rw [hp] at h
      rw [dispatch_pending engine hp h]
      exact .inr ⟨r, htick, rfl, rfl⟩
  · exact .inl rfl

/-! ### Histories -/

/-- **A history without a start.**  Its first tick sends what waits; nothing else in it advances the session. -/
theorem progress_play_of_no_start [Wording] {s : Session σ τ} {turns : List (Turn τ)} (h : s.phase.Resting)
    (noStart : s.starts turns = []) :
    (s.play turns).progress =
      match turns.find? Turn.isTick with
      | some first => (s.dispatch first.engine).progress
      | none => s.progress := by
  induction turns generalizing s with
  | nil => rfl
  | cons t rest ih =>
    rw [starts, List.append_eq_nil_iff, Option.toList_eq_nil_iff] at noStart
    have hstep : (s.step t.engine t.event).progress = (s.met t.engine t.event).progress := by
      rw [progress_step t.engine t.event h, noStart.1]
    have hrest := ih (step_resting t.engine t.event h) noStart.2
    rw [play_cons, hrest]
    cases ht : t.isTick with
    | true =>
      have hmet : s.met t.engine t.event = s.dispatch t.engine := if_pos ht
      rw [List.find?_cons_of_pos ht]
      rw [hmet] at hstep
      cases rest.find? Turn.isTick with
      | none => exact hstep
      | some next =>
        -- the tick in front has left nothing for the next one to send
        dsimp only
        rw [progress_dispatch_congr next.engine hstep, dispatch_idle next.engine (dispatch_phase t.engine s)]
    | false =>
      have hmet : s.met t.engine t.event = s := if_neg (by simpa [Turn.isTick] using ht)
      rw [List.find?_cons_of_neg (by simp [ht])]
      rw [hmet] at hstep
      cases rest.find? Turn.isTick with
      | none => exact hstep
      | some first => exact progress_dispatch_congr first.engine hstep

/-- A request that waits after a history is its newest start with a grammar, where `past` are the starts before it. -/
theorem newestFilled_of_pending [Wording] {s : Session σ τ} {past : List Request} {turns : List (Turn τ)}
    (h : s.phase.Resting) (known : ∀ r, s.phase = .pending r → newestFilled past = some r) :
    ∀ r, (s.play turns).phase = .pending r → newestFilled (past ++ s.starts turns) = some r := by
  induction turns generalizing s past with
  | nil => simpa [starts] using known
  | cons t rest ih =>
    rw [play_cons, starts, ← List.append_assoc]
    refine ih (step_resting t.engine t.event h) fun r hr => ?_
    have hphase : (s.step t.engine t.event).progress.phase = .pending r := hr
    rw [progress_step t.engine t.event h] at hphase
    have hmet : (s.met t.engine t.event).phase = .pending r → newestFilled past = some r := by
      unfold met
      split
      · intro hd
        exact absurd ((dispatch_phase t.engine s).symm.trans hd) (by simp)
      · exact known r
    cases hs : s.startOf? t.event with
    | none =>
      rw [hs] at hphase
      simpa using hmet hphase
    | some r' =>
      rw [hs] at hphase
      cases he : r'.isEmpty with
      | true =>
        -- an empty start leaves the queue, and it is no start with a grammar
        simp only [Progress.start, he, if_true] at hphase
        simpa [newestFilled, List.filter_append, he] using hmet hphase
      | false =>
        simp only [Progress.start, he, Bool.false_eq_true, if_false, Phase.pending.injEq] at hphase
        subst hphase
        simp [newestFilled, List.filter_append, he]

omit [Store σ] [Clock τ] in
/-- The newest start with a grammar is the newest start of all exactly when that one has a grammar. -/
theorem getLast?_eq_iff_of_newestFilled {past : List Request} {r : Request} (h : newestFilled past = some r) :
    past.getLast? = some r ↔ ∀ newest, past.getLast? = some newest → newest.isEmpty = false := by
  rcases List.eq_nil_or_concat past with rfl | ⟨front, last, rfl⟩
  · simp [newestFilled] at h
  · have hr : r.isEmpty = false := by
      have hmem := List.mem_of_getLast? h
      simpa using (List.mem_filter.mp hmem).2
    simp only [List.concat_eq_append, List.getLast?_append, List.getLast?_singleton, Option.some_or,
      Option.some.injEq, forall_eq']
    refine ⟨fun heq => heq ▸ hr, fun hlast => ?_⟩
    simpa [newestFilled, List.concat_eq_append, List.filter_append, hlast] using h

/-- **A start with a grammar supersedes what waited.**  The next tick sends its request and no other. -/
theorem sent_tick_of_start [Wording] (engine other : Engine) {s : Session σ τ} {e : Event τ} {r : Request}
    (h : s.phase.Resting) (hs : s.startOf? e = some r) (hr : r.isEmpty = false) (now : τ) :
    ((s.step engine e).tick other now).sent = r :: (s.step engine e).sent := by
  have hphase : (s.step engine e).progress.phase = .pending r := by
    rw [progress_step engine e h, hs]
    simp [Progress.start, hr]
  have htick := sent_step other (.tick now) (step_resting engine e h)
  rw [met, if_pos (show Event.isTick (.tick now) = true from rfl), dispatch_pending other hphase hr] at htick
  exact htick

section EmptyStart

variable [Wording] (engine : Engine) {s : Session σ τ} {e : Event τ} {r : Request} {later : List (Turn τ)}
  (h : s.phase.Resting) (hs : s.startOf? e = some r) (hr : r.isEmpty = true)

include h hs hr

/-- An empty start clears the outcome of the session it meets, and leaves the queue. -/
theorem progress_step_of_empty_start :
    (s.step engine e).progress = { (s.met engine e).progress with outcome := .skipped } := by
  rw [progress_step engine e h, hs]
  simp only [Progress.start, hr, if_true]

variable (noStart : (s.step engine e).starts later = [])

include noStart

/-- With nothing queued, or without a tick, the cleared outcome stays and no call is made. -/
theorem cleared_of_empty_start (quiet : s.phase = .idle ∨ e.isTick = true ∨ later.find? Turn.isTick = none) :
    ((s.step engine e).play later).sent = (s.step engine e).sent ∧
      ((s.step engine e).play later).outcome = .skipped := by
  have hstep := progress_step_of_empty_start engine h hs hr
  have hplay : ((s.step engine e).play later).progress = (s.step engine e).progress := by
    rw [progress_play_of_no_start (step_resting engine e h) noStart]
    cases hfirst : later.find? Turn.isTick with
    | none => rfl
    | some first =>
      have hidle : (s.met engine e).phase = .idle := by
        unfold met
        split
        · exact dispatch_phase engine s
        · rename_i ht
          rcases quiet with hp | hq | hq
          · exact hp
          · exact absurd hq ht
          · cases hfirst.symm.trans hq
      dsimp only
      rw [dispatch_idle first.engine ((congrArg Progress.phase hstep).trans hidle)]
  exact ⟨congrArg Progress.sent hplay, (congrArg Progress.outcome hplay).trans (congrArg Progress.outcome hstep)⟩

/-- A request that was queued is sent by the next tick, and its outcome takes the place of the cleared one. -/
theorem sent_of_empty_start {waiting : Request} (hp : s.phase = .pending waiting) (notTick : e.isTick = false)
    {first : Turn τ} (hfirst : later.find? Turn.isTick = some first) :
    ((s.step engine e).play later).sent = waiting :: (s.step engine e).sent ∧
      ((s.step engine e).play later).outcome = (analyze first.engine waiting).outcome := by
  have hstep := progress_step_of_empty_start engine h hs hr
  have hphase : (s.step engine e).phase = .pending waiting := by
    rw [show (s.step engine e).phase = (s.met engine e).phase from congrArg Progress.phase hstep, met, notTick]
    exact hp
  have hfull : (Phase.pending waiting).Resting := hp ▸ h
  have hplay := progress_play_of_no_start (step_resting engine e h) noStart
  rw [hfirst] at hplay
  dsimp only at hplay
  rw [dispatch_pending first.engine hphase hfull] at hplay
  exact ⟨congrArg Progress.sent hplay, congrArg Progress.outcome hplay⟩

end EmptyStart

/-- **The newest start with a grammar wins.**  After any history, with any answers, a start is for the documents and
settings as it finds them.  An event calls the engine at most once, and a call carries the newest start that has a
grammar, which is the newest start of all exactly when that one has a grammar.  A start with a grammar supersedes what
waited.  A start without one clears the outcome, and until the next start no call is made and the outcome stays cleared,
exactly if no request waited or no tick comes; otherwise the request that waited is sent by the first tick, and what the
engine answers then is shown. -/
theorem newest_start_wins [Wording] (store : σ) (turns : List (Turn τ)) (engine : Engine) (e : Event τ) :
    let s : Session σ τ := (start store).play turns
    let past : List Request := (start store : Session σ τ).starts turns
    (∀ r, s.startOf? e = some r →
        r = ⟨s.grammarText, s.codeText, s.settings.optimization.enabled, s.settings.packrat⟩) ∧
      ((s.step engine e).sent = s.sent ∨
        ∃ r, (s.step engine e).sent = r :: s.sent ∧ newestFilled past = some r ∧
          (past.getLast? = some r ↔ ∀ newest, past.getLast? = some newest → newest.isEmpty = false)) ∧
      (∀ r other now, s.startOf? e = some r → r.isEmpty = false →
        ((s.step engine e).tick other now).sent = r :: (s.step engine e).sent) ∧
      ∀ r later, s.startOf? e = some r → r.isEmpty = true → (s.step engine e).starts later = [] →
        let t := (s.step engine e).play later
        (t.sent = (s.step engine e).sent ∧ t.outcome = .skipped ↔
            s.phase = .idle ∨ e.isTick = true ∨ later.find? Turn.isTick = none) ∧
          ∀ waiting first, s.phase = .pending waiting → e.isTick = false → later.find? Turn.isTick = some first →
            t.sent = waiting :: (s.step engine e).sent ∧ t.outcome = (analyze first.engine waiting).outcome := by
  intro s past
  have h : s.phase.Resting := play_resting (s := start store) trivial turns
  have hpast : ∀ r, s.phase = .pending r → newestFilled past = some r := by
    have hidle : ∀ r, (start store : Session σ τ).phase = .pending r → newestFilled [] = some r :=
      fun r hp => by cases hp
    exact newestFilled_of_pending (s := start store) trivial hidle
  refine ⟨fun r hs => request_of_startOf? hs, ?_, fun r other now hs hr => sent_tick_of_start engine other h hs hr now,
    ?_⟩
  · rcases sent_step_cases engine e h with hsame | ⟨r, _, hp, hsent⟩
    · exact .inl hsame
    · exact .inr ⟨r, hsent, hpast r hp, getLast?_eq_iff_of_newestFilled (hpast r hp)⟩
  · intro r later hs hr noStart t
    refine ⟨⟨fun hc => ?_, cleared_of_empty_start engine h hs hr noStart⟩,
      fun waiting first hp ht hfirst => sent_of_empty_start engine h hs hr noStart hp ht hfirst⟩
    cases hp : s.phase with
    | idle => exact .inl rfl
    | running => exact absurd hp h.ne_running
    | pending waiting =>
      by_cases ht : e.isTick = true
      · exact .inr (.inl ht)
      · cases hfirst : later.find? Turn.isTick with
        | none => exact .inr (.inr rfl)
        | some first =>
          have hsent := sent_of_empty_start engine h hs hr noStart hp (by simpa using ht) hfirst
          exact absurd (hsent.1.symm.trans hc.1) (List.cons_ne_self _ _)

/-- A request to parse waits when the grammar is emptied and asked for again: the newest start has an empty grammar,
and yet the tick sends the older request and shows what came of it. -/
theorem superseded_request_sent :
    let engine : Engine := fun r => .error (.ended r.grammar r.code)
    let first : Session Store.Memory Float := start ⟨[("grammarText", "start <- 'a'")]⟩
    let events : List (Event Float) :=
      [.requestParse, .change .grammar (.setText ""), .edited .grammar 0, .requestParse]
    let turns : List (Turn Float) := events.map (Turn.mk engine)
    let s := first.play turns
    (first.starts turns).getLast? = some ⟨"", "", true, false⟩ ∧ s.outcome = .skipped ∧
      (s.tick engine 0).sent = ⟨"start <- 'a'", "", true, false⟩ :: s.sent ∧
      (s.tick engine 0).outcome ≠ .skipped := by
  decide

end Session

end GrammarStudio
