/-!
# Coalescing bursts

An action that is asked for again and again in quick succession is done once, when a window of quiet has passed.  Time
is whatever the caller's clock says; nothing here asks for the time by itself.

* `Clock` — what is needed of times, with seconds as `Float` for the usual instance;
* `Debounce` — a window, and the action that waits with the time it is due;
* `Debounce.schedule` — asks for an action, in place of the one that waits;
* `Debounce.poll`, `Debounce.flush` — takes the waiting action, when it is due or at once;
* `Debounce.remaining` — how long the waiting action has still to wait.
-/

namespace GrammarStudio

/-- Times, as far as a debounce needs them. -/
class Clock (τ : Type) where
  zero : τ
  /-- The window after an edit. -/
  editWindow : τ
  /-- A time, so much later. -/
  later : τ → τ → τ
  /-- Has `due` come at `now`? -/
  reached : (due now : τ) → Bool
  /-- How long it is from `now` to `due`; nothing if `due` has passed. -/
  wait : (due now : τ) → τ

/-- Seconds.  A time that is no number is never reached and needs no wait. -/
instance : Clock Float where
  zero := 0
  editWindow := 0.75
  later now window := now + window
  reached due now := due ≤ now
  wait due now := if due - now > 0 then due - now else 0

/-- An action that waits. -/
structure Waiting (τ α : Type) where
  action : α
  due : τ
  deriving DecidableEq, Repr

/-- At most one waiting action, and the window it has to wait. -/
structure Debounce (τ α : Type) where
  window : τ
  waiting : Option (Waiting τ α) := none
  deriving DecidableEq, Repr

namespace Debounce

variable {τ α : Type} [Clock τ]

/-- Asks for an action.  The window starts anew, and an action that waited is forgotten. -/
def schedule (d : Debounce τ α) (action : α) (now : τ) : Debounce τ α :=
  { d with waiting := some ⟨action, Clock.later now d.window⟩ }

/-- Takes the action if it is due. -/
def poll (d : Debounce τ α) (now : τ) : Option α × Debounce τ α :=
  match d.waiting with
  | some w => if Clock.reached w.due now then (some w.action, { d with waiting := none }) else (none, d)
  | none => (none, d)

omit [Clock τ] in
/-- Takes the action, due or not. -/
def flush (d : Debounce τ α) : Option α × Debounce τ α :=
  (d.waiting.map Waiting.action, { d with waiting := none })

omit [Clock τ] in
/-- Does an action wait? -/
def isPending (d : Debounce τ α) : Bool := d.waiting.isSome

/-- How long the action has still to wait. -/
def remaining (d : Debounce τ α) (now : τ) : Option τ := d.waiting.map fun w => Clock.wait w.due now

@[simp] theorem isPending_schedule (d : Debounce τ α) (action : α) (now : τ) :
    (d.schedule action now).isPending = true := rfl

omit [Clock τ] in
@[simp] theorem isPending_flush (d : Debounce τ α) : d.flush.2.isPending = false := rfl

/-- A poll that takes nothing changes nothing. -/
theorem poll_none {d : Debounce τ α} {now : τ} (h : (d.poll now).1 = none) : (d.poll now).2 = d := by
  unfold poll at h ⊢
  split
  · split
    · simp_all
    · rfl
  · rfl

end Debounce

end GrammarStudio
