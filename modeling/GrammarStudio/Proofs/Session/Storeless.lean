import GrammarStudio.Proofs.Session.Effects

/-!
# What becomes of a write is never seen

A session reads its store once, when it starts.  From then on it only writes, and it looks neither at what a write comes
to nor at what the store holds afterwards.  So a session can be followed without its store: every function of a session
does to the rest of it what it does to a session over no store at all.  Two sessions over stores that hold the same when
they start look the same ever after, whichever of their writes fail.

* `Store.Void` — no store, for a session that is followed without one;
* `Session.apart` — a session without its store;
* `Session.apart_start`, `Session.apart_step` — a start needs what a store holds, and an event needs nothing of it;
* `Session.watch` — all that can be seen of a history, with an engine that may remember its calls;
* `Store.Fickle` — a store that refuses some writes, by their number;
* `Session.watch_fickle` — which writes are refused cannot be seen.
-/

namespace GrammarStudio

open Analysis Editor

/-! ### Stores -/

namespace Store

/-- No store: nothing is held, and what is written is gone. -/
structure Void where

instance : Store Void where
  get _ _ := none
  set v _ _ := (v, .ok ())

/-- A store that refuses some of the writes it is asked for, and lets the others pass to the store inside. -/
structure Fickle (σ : Type) where
  inner : σ
  /-- The error of the write of a number, if that is refused. -/
  refusal? : Nat → Option WriteError
  /-- The number of writes asked for so far. -/
  asked : Nat := 0

instance {σ : Type} [Store σ] : Store (Fickle σ) where
  get f key := get f.inner key
  set f key value :=
    match f.refusal? f.asked with
    | some refusal => ({ f with asked := f.asked + 1 }, .error refusal)
    | none =>
      let (inner, result) := set f.inner key value
      ({ f with inner, asked := f.asked + 1 }, result)

end Store

namespace Session

variable {σ ρ τ : Type}

/-- A session without its store. -/
def apart (s : Session σ τ) : Session Store.Void τ := { s with store := ⟨⟩ }

/-! ### One function at a time

Each of them hands the store on or writes to it, and does the rest without it. -/

theorem apart_begin (s : Session σ τ) : s.begin.apart = s.apart.begin := by
  have hrequest : s.apart.request = s.request := rfl
  have hphase : s.apart.phase = s.phase := rfl
  rw [begin, begin, hrequest, hphase]
  split
  · rfl
  · split <;> rfl

theorem apart_dispatch [Wording] (engine : Engine) (s : Session σ τ) :
    (s.dispatch engine).apart = s.apart.dispatch engine := by
  have hphase : s.apart.phase = s.phase := rfl
  rw [dispatch, dispatch, hphase]
  split <;> rfl

theorem apart_refresh (s : Session σ τ) : s.refresh.apart = s.apart.refresh := by
  have hsettings : s.apart.settings = s.settings := rfl
  rw [refresh, refresh, hsettings]
  split
  · exact apart_begin s
  · rfl

theorem apart_ready (s : Session σ τ) : s.ready.apart = s.apart.ready := by
  have hready : s.apart.engineReady = s.engineReady := rfl
  rw [ready, ready, hready]
  split
  · rfl
  · exact apart_refresh { s with engineReady := true }

theorem apart_requestParse (s : Session σ τ) : s.requestParse.apart = s.apart.requestParse := by
  have henabled : s.apart.parseEnabled = s.parseEnabled := rfl
  rw [requestParse, requestParse, henabled]
  split
  · exact apart_begin s
  · rfl

theorem apart_edited [Clock τ] (s : Session σ τ) (d : Document) (now : τ) :
    (s.edited d now).apart = s.apart.edited d now := by
  cases d <;> rfl

variable [Store σ]

theorem apart_persist (s : Session σ τ) : s.persist.apart = s.apart.persist := rfl

theorem apart_flush (s : Session σ τ) : s.flush.apart = s.apart.flush := by
  have hcommit : s.apart.commit = s.commit := rfl
  rw [flush, flush, hcommit]
  split
  · exact apart_persist _
  · rfl

theorem apart_setPanelShown (s : Session σ τ) (panel : Panel) (on : Bool) :
    (s.setPanelShown panel on).apart = s.apart.setPanelShown panel on := rfl

variable [Clock τ]

theorem apart_changeSettings (s : Session σ τ) (settings : Settings) (now : τ) :
    (s.changeSettings settings now).apart = s.apart.changeSettings settings now := rfl

theorem apart_tick [Wording] (engine : Engine) (s : Session σ τ) (now : τ) :
    (s.tick engine now).apart = s.apart.tick engine now := by
  cases hpoll : (s.commit.poll now).1 with
  | none =>
    rw [tick_quiet engine hpoll, tick_quiet (s := s.apart) engine hpoll]
    exact apart_dispatch engine s
  | some action =>
    have hdue : (s.commit.poll now).1.isSome = true := by rw [hpoll]; rfl
    have hsaved : (s.saved engine now).apart = s.apart.saved engine now := by
      rw [saved, saved, ← apart_dispatch]
      exact apart_persist _
    rw [tick_due engine hdue, tick_due (s := s.apart) engine hdue, apart_refresh, hsaved]

/-- **An event needs nothing of a store.**  It does to the rest of a session what it does without the store. -/
theorem apart_step [Wording] (engine : Engine) (s : Session σ τ) (e : Event τ) :
    (s.step engine e).apart = s.apart.step engine e := by
  cases e with
  | ready => exact apart_ready s
  | edited d now => exact apart_edited s d now
  | requestParse => exact apart_requestParse s
  | setOptimization o now => exact apart_changeSettings s { s.settings with optimization := o } now
  | setPackrat on now => exact apart_changeSettings s { s.settings with packrat := on } now
  | setAutoRefresh on now => exact apart_changeSettings s { s.settings with autoRefresh := on } now
  | setPanelShown panel on => exact apart_setPanelShown s panel on
  | errorClicked list index => rfl
  | tick now => exact apart_tick engine s now
  | flush => exact apart_flush s
  | change slot change => rfl

/-- **A start needs what a store holds**, and not which store it is. -/
theorem apart_start [Store ρ] {store : σ} {other : ρ} (same : Store.get store = Store.get other) :
    (start store : Session σ τ).apart = (start other : Session ρ τ).apart := by
  have hload : Persistence.load store = Persistence.load other := by
    simp only [Persistence.load, Persistence.loadPanels, Persistence.loadFlag, same]
  have htext : Persistence.loadText store = Persistence.loadText other := by
    funext d
    rw [Persistence.loadText, Persistence.loadText, same]
  simp only [start, apart, hload, htext]

/-! ### Histories -/

/-- What the host is told of an event: after a tick, how long it may leave the session alone. -/
def answer (s : Session σ τ) : Event τ → Option (Option τ)
  | .tick now => some (s.wait now)
  | _ => none

/-- All that can be seen of a history: after each event the whole session but for its store, and what the host is told.
The engine is asked with the calls that it has had already, so it may remember them. -/
def watch [Wording] (engine : List Request → Engine) (s : Session σ τ) :
    List (Event τ) → List (Session Store.Void τ × Option (Option τ))
  | [] => []
  | e :: rest =>
    let next := s.step (engine s.sent) e
    (next.apart, next.answer e) :: next.watch engine rest

/-- Nothing that can be seen comes from the store. -/
theorem watch_apart [Wording] (engine : List Request → Engine) (s : Session σ τ) (events : List (Event τ)) :
    s.apart.watch engine events = s.watch engine events := by
  induction events generalizing s with
  | nil => rfl
  | cons e rest ih =>
    have hnext : s.apart.step (engine s.apart.sent) e = (s.step (engine s.sent) e).apart :=
      (apart_step (engine s.sent) s e).symm
    have hanswer : (s.step (engine s.sent) e).apart.answer e = (s.step (engine s.sent) e).answer e := by
      cases e <;> rfl
    rw [watch, watch, hnext]
    rw [hanswer, ih]
    rfl

/-- Sessions that are alike but for their stores stay so, and answer alike. -/
theorem watch_congr [Wording] [Store ρ] (engine : List Request → Engine) {s : Session σ τ} {t : Session ρ τ}
    (same : s.apart = t.apart) (events : List (Event τ)) : s.watch engine events = t.watch engine events := by
  rw [← watch_apart engine s, same, watch_apart]

/-- **Which writes are refused cannot be seen.**  Two sessions start from the same store, and the one is refused other
writes than the other.  They start alike, and after every event of any history they are alike in all but the store:
texts, settings, panels, outcome, view, phase, commit, text areas and the calls made.  Every tick tells both hosts the
same. -/
theorem watch_fickle [Wording] (engine : List Request → Engine) (inner : σ)
    (first? second? : Nat → Option Store.WriteError)
    (events : List (Event τ)) :
    let first : Session (Store.Fickle σ) τ := start { inner, refusal? := first? }
    let second : Session (Store.Fickle σ) τ := start { inner, refusal? := second? }
    first.apart = second.apart ∧ first.watch engine events = second.watch engine events := by
  intro first second
  have hstart : first.apart = second.apart := apart_start rfl
  exact ⟨hstart, watch_congr engine hstart events⟩

end Session

end GrammarStudio
