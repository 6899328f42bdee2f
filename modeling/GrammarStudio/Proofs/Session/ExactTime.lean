import GrammarStudio.Session.Debounce
import Mathlib.Algebra.Order.Group.Defs
import Mathlib.Algebra.Order.Ring.Rat

/-!
# Exact times

A sum of two seconds as a machine knows them is rounded.  What is promised about waiting is promised of times that are
exact numbers: the window is added to a time without a loss, a time is reached when it is not later than the present,
and a wait that is added to the present gives the time that was waited for.

* `Clock.Exact` — the clocks of exact times, and the clock of the rational numbers among them;
* `Debounce.poll_schedule` — an action that was asked for is taken exactly when its window has passed;
* `Debounce.due_of_remaining` — who waits as long as is left finds the action due.
-/

namespace GrammarStudio

/-- **A clock of exact times.**  Its times are numbers, of which only sum and order matter. -/
class Clock.Exact (τ : Type) [Clock τ] [AddCommGroup τ] [LinearOrder τ] : Prop where
  zero_eq : (Clock.zero : τ) = 0
  later_eq (now window : τ) : Clock.later now window = now + window
  reached_iff (due now : τ) : Clock.reached due now = true ↔ due ≤ now
  wait_eq (due now : τ) : Clock.wait due now = max (due - now) 0

/-- Seconds as rational numbers.  The window after an edit is three quarters of a second. -/
instance : Clock ℚ where
  zero := 0
  editWindow := 3 / 4
  later now window := now + window
  reached due now := decide (due ≤ now)
  wait due now := max (due - now) 0

instance : Clock.Exact ℚ where
  zero_eq := rfl
  later_eq _ _ := rfl
  reached_iff _ _ := decide_eq_true_iff
  wait_eq _ _ := rfl

namespace Debounce

variable {τ α : Type} [Clock τ]

/-! ### Polls -/

/-- A poll takes what waits, if its time is reached. -/
theorem poll_isSome_iff {d : Debounce τ α} {now : τ} :
    (d.poll now).1.isSome = true ↔ ∃ w, d.waiting = some w ∧ Clock.reached w.due now = true := by
  unfold poll
  cases d.waiting with
  | none => simp
  | some w =>
    dsimp only
    split <;> simp_all

/-- With nothing that waits, a poll takes nothing. -/
theorem poll_of_not_pending {d : Debounce τ α} (h : d.isPending = false) (now : τ) : d.poll now = (none, d) := by
  have hwaiting : d.waiting = none := by simpa [isPending] using h
  rw [poll, hwaiting]

/-- After a poll something waits only if it did before and was not taken. -/
theorem isPending_poll (d : Debounce τ α) (now : τ) :
    (d.poll now).2.isPending = (d.isPending && (d.poll now).1.isNone) := by
  unfold poll isPending
  cases hw : d.waiting with
  | none => simp [hw]
  | some w =>
    dsimp only
    split <;> simp [hw]

/-- A poll leaves the window as it is. -/
theorem window_poll (d : Debounce τ α) (now : τ) : (d.poll now).2.window = d.window := by
  unfold poll
  split
  · split <;> rfl
  · rfl

/-! ### Polls at exact times -/

variable [AddCommGroup τ] [LinearOrder τ] [Clock.Exact τ]

/-- **An action that was asked for is taken exactly when its window has passed.** -/
theorem poll_schedule (d : Debounce τ α) (action : α) (asked now : τ) :
    ((d.schedule action asked).poll now).1 = if asked + d.window ≤ now then some action else none := by
  simp only [schedule, poll, Clock.Exact.later_eq, Clock.Exact.reached_iff]
  split <;> rfl

variable [IsOrderedAddMonoid τ]

/-- **Who waits as long as is left finds the action due.**  What is left is never negative. -/
theorem due_of_remaining {d : Debounce τ α} {now wait : τ} (h : d.remaining now = some wait) :
    0 ≤ wait ∧ ∀ later, now + wait ≤ later → (d.poll later).1.isSome = true := by
  obtain ⟨w, hw, rfl⟩ := Option.map_eq_some_iff.mp h
  rw [Clock.Exact.wait_eq]
  refine ⟨le_max_right _ _, fun later hlater => poll_isSome_iff.mpr ⟨w, hw, ?_⟩⟩
  rw [Clock.Exact.reached_iff]
  calc w.due = now + (w.due - now) := (add_sub_cancel now w.due).symm
    _ ≤ now + max (w.due - now) 0 := by gcongr; exact le_max_left _ _
    _ ≤ later := hlater

end Debounce

end GrammarStudio
