import GrammarStudio.Proofs.Session.ExactTime
import Mathlib.Data.List.Induction

/-!
# What a debounce returns

A debounce is called again and again: it is asked for an action, it is polled at some time, or it is flushed.  The times
need not increase, and of the clock nothing is known.  What a call returns can be read off the calls before it.  It is
the action that was asked for last, unless a call since then has returned one, and a poll returns it only when it is
due.

* `Debounce.Call`, `Debounce.call` — the three calls, and what one of them returns and leaves;
* `Debounce.after`, `Debounce.answer`, `Debounce.returned` — a list of calls from the beginning;
* `Debounce.Outstanding` — an action that was asked for last, and that no call has returned since;
* `Debounce.call_cases` — the three things that a call can do;
* `Debounce.waiting_after_iff` — what waits after some calls is what is outstanding;
* `Debounce.returns_latest_once` — all of it, for every list of calls.
-/

namespace GrammarStudio

namespace Debounce

/-- A call of a debounce. -/
inductive Call (τ α : Type) where
  | schedule (action : α) (now : τ)
  | poll (now : τ)
  | flush
  deriving Repr

namespace Call

variable {τ α : Type}

/-- The action that a call asks for. -/
def action? : Call τ α → Option α
  | .schedule action _ => some action
  | .poll _ | .flush => none

/-- Does a call take an action that is due at a time? -/
def takes [Clock τ] (due : τ) : Call τ α → Bool
  | .schedule _ _ => false
  | .poll now => Clock.reached due now
  | .flush => true

end Call

variable {τ α : Type}

/-- The actions that are asked for, in order. -/
def scheduled (calls : List (Call τ α)) : List α := calls.filterMap Call.action?

variable [Clock τ]

/-- What a call returns, and what it leaves. -/
def call (d : Debounce τ α) : Call τ α → Option α × Debounce τ α
  | .schedule action now => (none, d.schedule action now)
  | .poll now => d.poll now
  | .flush => d.flush

/-- A debounce after some calls. -/
def run (d : Debounce τ α) (calls : List (Call τ α)) : Debounce τ α := calls.foldl (fun d c => (d.call c).2) d

/-- What some calls return, in order. -/
def returns (d : Debounce τ α) : List (Call τ α) → List α
  | [] => []
  | c :: rest => (d.call c).1.toList ++ returns (d.call c).2 rest

/-- A new debounce after some calls. -/
def after (window : τ) (calls : List (Call τ α)) : Debounce τ α := run { window } calls

/-- What a call returns that follows some others. -/
def answer (window : τ) (before : List (Call τ α)) (c : Call τ α) : Option α := ((after window before).call c).1

/-- What all calls of a list return, in order. -/
def returned (window : τ) (calls : List (Call τ α)) : List α := returns { window } calls

/-- **An action is outstanding.**  It was asked for after the calls in front and before the ones at the back, among
which none asks for another action, and none has returned one. -/
structure Outstanding (window : τ) (front : List (Call τ α)) (action : α) (asked : τ) (back : List (Call τ α)) :
    Prop where
  latest : ∀ c ∈ back, c.action? = none
  unanswered : ∀ part c, part ++ [c] <+: back → answer window (front ++ .schedule action asked :: part) c = none

/-! ### One call -/

/-- **The three things that a call can do.**  It asks for an action, which waits from then on; it takes the action that
waits; or it takes nothing and changes nothing. -/
theorem call_cases (d : Debounce τ α) (c : Call τ α) :
    (∃ action now, c = .schedule action now ∧ d.call c = (none, ⟨d.window, some ⟨action, Clock.later now d.window⟩⟩)) ∨
      (∃ w, d.waiting = some w ∧ c.action? = none ∧ c.takes w.due = true ∧
        d.call c = (some w.action, { window := d.window })) ∨
      c.action? = none ∧ (∀ w, d.waiting = some w → c.takes w.due = false) ∧ d.call c = (none, d) := by
  obtain ⟨window, waiting⟩ := d
  cases c with
  | schedule action now => exact .inl ⟨action, now, rfl, rfl⟩
  | flush =>
    cases waiting with
    | none => exact .inr (.inr ⟨rfl, by simp, rfl⟩)
    | some w => exact .inr (.inl ⟨w, rfl, rfl, rfl, rfl⟩)
  | poll now =>
    cases waiting with
    | none => exact .inr (.inr ⟨rfl, by simp, rfl⟩)
    | some w =>
      cases hdue : Clock.reached w.due now with
      | true => exact .inr (.inl ⟨w, rfl, rfl, hdue, by simp [call, poll, hdue]⟩)
      | false =>
        refine .inr (.inr ⟨rfl, fun w' h => ?_, by simp [call, poll, hdue]⟩)
        cases h
        exact hdue

/-- No call changes the window. -/
theorem window_call (d : Debounce τ α) (c : Call τ α) : (d.call c).2.window = d.window := by
  rcases call_cases d c with ⟨_, _, -, h⟩ | ⟨_, -, -, -, h⟩ | ⟨-, -, h⟩ <;> rw [h]

/-- A call returns an action exactly if that action waits and the call takes it. -/
theorem call_eq_some_iff {d : Debounce τ α} {c : Call τ α} {a : α} :
    (d.call c).1 = some a ↔ ∃ w, d.waiting = some w ∧ w.action = a ∧ c.takes w.due = true := by
  rcases call_cases d c with ⟨action, now, rfl, h⟩ | ⟨w, hw, -, htakes, h⟩ | ⟨-, hidle, h⟩
  · simp [h, Call.takes]
  · simp [h, hw, htakes]
  · rw [h]
    constructor
    · intro hsome
      cases hsome
    · rintro ⟨w, hw, -, htakes⟩
      rw [hidle w hw] at htakes
      cases htakes

/-- A call that returns an action leaves a debounce like a new one. -/
theorem call_of_some {d : Debounce τ α} {c : Call τ α} {a : α} (h : (d.call c).1 = some a) :
    (d.call c).2 = { window := d.window } := by
  rcases call_cases d c with ⟨_, _, -, hcall⟩ | ⟨_, -, -, -, hcall⟩ | ⟨-, -, hcall⟩
  · rw [hcall] at h
    cases h
  · rw [hcall]
  · rw [hcall] at h
    cases h

/-! ### Lists of calls -/

theorem run_append (d : Debounce τ α) (before later : List (Call τ α)) :
    d.run (before ++ later) = (d.run before).run later := List.foldl_append

theorem run_concat (d : Debounce τ α) (before : List (Call τ α)) (c : Call τ α) :
    d.run (before ++ [c]) = ((d.run before).call c).2 := run_append d before [c]

theorem returns_append (d : Debounce τ α) (before later : List (Call τ α)) :
    d.returns (before ++ later) = d.returns before ++ (d.run before).returns later := by
  induction before generalizing d with
  | nil => rfl
  | cons c rest ih =>
    rw [List.cons_append, returns, returns, ih, List.append_assoc]
    rfl

/-- No list of calls changes the window. -/
theorem window_run (d : Debounce τ α) (calls : List (Call τ α)) : (d.run calls).window = d.window := by
  induction calls generalizing d with
  | nil => rfl
  | cons c rest ih => exact (ih (d.call c).2).trans (window_call d c)

theorem window_after (window : τ) (calls : List (Call τ α)) : (after window calls).window = window :=
  window_run _ calls

theorem returned_concat (window : τ) (before : List (Call τ α)) (c : Call τ α) :
    returned window (before ++ [c]) = returned window before ++ (answer window before c).toList := by
  rw [returned, returns_append, returns, returns, List.append_nil]
  rfl

/-- After a call that returned an action, a debounce is like a new one. -/
theorem after_of_some {window : τ} {before : List (Call τ α)} {c : Call τ α} {a : α}
    (h : answer window before c = some a) : after window (before ++ [c]) = { window } := by
  rw [after, run_concat, ← after, call_of_some h, window_after]

/-- A debounce that is asked for an action forgets all but the window. -/
theorem call_schedule_after (window : τ) (before : List (Call τ α)) (action : α) (asked : τ) :
    (after window before).call (.schedule action asked) = call { window } (.schedule action asked) := by
  rw [call, call, Debounce.schedule, Debounce.schedule, window_after]

/-- **No more is returned than is asked for**, in this order.  An action that waits at the beginning counts as asked
for. -/
theorem returns_sublist (d : Debounce τ α) (calls : List (Call τ α)) :
    (d.returns calls).Sublist ((d.waiting.map Waiting.action).toList ++ scheduled calls) := by
  induction calls generalizing d with
  | nil => exact List.nil_sublist _
  | cons c rest ih =>
    have hrest := ih (d.call c).2
    rw [returns]
    rcases call_cases d c with ⟨action, now, rfl, h⟩ | ⟨w, hw, hnone, -, h⟩ | ⟨hnone, -, h⟩
    · rw [h] at hrest ⊢
      exact hrest.trans (List.sublist_append_right _ _)
    · rw [h] at hrest ⊢
      rw [hw, scheduled, List.filterMap_cons_none hnone]
      exact hrest.cons_cons w.action
    · rw [h] at hrest ⊢
      rw [scheduled, List.filterMap_cons_none hnone]
      exact hrest

/-! ### What is outstanding -/

section Outstanding

variable {window : τ} {front back : List (Call τ α)} {action : α} {asked : τ}

theorem Outstanding.nil : Outstanding window front action asked [] :=
  ⟨List.forall_mem_nil _, fun part c h => absurd (List.prefix_nil.mp h) (List.concat_ne_nil c part)⟩

/-- An action stays outstanding over a call that asks for no other and returns none, and over no other call. -/
theorem outstanding_concat {c : Call τ α} :
    Outstanding window front action asked (back ++ [c]) ↔
      Outstanding window front action asked back ∧ c.action? = none ∧
        answer window (front ++ .schedule action asked :: back) c = none := by
  constructor
  · rintro ⟨latest, unanswered⟩
    refine ⟨⟨fun c' h => latest c' (List.mem_append_left _ h), fun part c' h => ?_⟩, latest c (by simp), ?_⟩
    · exact unanswered part c' (h.trans (List.prefix_append _ _))
    · exact unanswered back c List.prefix_rfl
  · rintro ⟨⟨latest, unanswered⟩, hnone, hanswer⟩
    refine ⟨fun c' h => ?_, fun part c' h => ?_⟩
    · obtain h | h := List.mem_append.mp h
      · exact latest c' h
      · rw [List.mem_singleton.mp h]
        exact hnone
    · rw [List.prefix_concat_iff] at h
      obtain h | h := h
      · obtain ⟨rfl, rfl⟩ := List.append_singleton_inj.mp h
        exact hanswer
      · exact unanswered part c' h

/-- What is outstanding waits.  The induction is on the calls since it was asked for, the last of them first. -/
theorem Outstanding.waiting (h : Outstanding window front action asked back) :
    (after window (front ++ .schedule action asked :: back)).waiting = some ⟨action, Clock.later asked window⟩ := by
  induction back using List.reverseRecOn with
  | nil =>
    rw [after, run_concat, ← after, call_schedule_after]
    rfl
  | append_singleton back c ih =>
    obtain ⟨hback, hnone, hanswer⟩ := outstanding_concat.mp h
    rw [← List.cons_append, ← List.append_assoc, after, run_concat, ← after]
    rcases call_cases (after window (front ++ .schedule action asked :: back)) c with
      ⟨_, _, rfl, -⟩ | ⟨w, -, -, -, hcall⟩ | ⟨-, -, hcall⟩
    · cases hnone
    · rw [answer, hcall] at hanswer
      cases hanswer
    · rw [hcall]
      exact ih hback

/-- Nothing was returned since it was asked for. -/
theorem Outstanding.returned_eq (h : Outstanding window front action asked back) :
    returned window (front ++ .schedule action asked :: back) = returned window front := by
  induction back using List.reverseRecOn with
  | nil => exact (returned_concat window front _).trans (List.append_nil _)
  | append_singleton back c ih =>
    obtain ⟨hback, -, hanswer⟩ := outstanding_concat.mp h
    rw [← List.cons_append, ← List.append_assoc, returned_concat, hanswer, ih hback]
    exact List.append_nil _

/-- **What waits after some calls is what is outstanding**, and it is due a window after it was asked for. -/
theorem waiting_after_iff {calls : List (Call τ α)} {w : Waiting τ α} :
    (after window calls).waiting = some w ↔
      ∃ front asked back, calls = front ++ .schedule w.action asked :: back ∧
        Outstanding window front w.action asked back ∧ w.due = Clock.later asked window := by
  constructor
  · intro hw
    induction calls using List.reverseRecOn with
    | nil => cases hw
    | append_singleton calls c ih =>
      rw [after, run_concat, ← after] at hw
      rcases call_cases (after window calls) c with ⟨action, now, rfl, hcall⟩ | ⟨_, -, -, -, hcall⟩ | ⟨hnone, -, hcall⟩
      · rw [hcall, window_after] at hw
        cases hw
        exact ⟨calls, now, [], rfl, .nil, rfl⟩
      · rw [hcall] at hw
        cases hw
      · rw [hcall] at hw
        obtain ⟨front, asked, back, rfl, hout, hdue⟩ := ih hw
        refine ⟨front, asked, back ++ [c], by simp, outstanding_concat.mpr ⟨hout, hnone, ?_⟩, hdue⟩
        exact congrArg Prod.fst hcall
  · rintro ⟨front, asked, back, rfl, hout, hdue⟩
    rw [hout.waiting, ← hdue]

end Outstanding

/-! ### All calls -/

/-- **What a debounce returns.**  Whatever calls came before, a call returns an action exactly if this is outstanding
and the call takes it: a poll that finds it due, a window after it was asked for, or a flush.  After a call that returned
an action, what is returned is what a new debounce returns, so this action does not come again.  Where an outstanding
action gives way to another, what is returned is as if it had never been asked for.  And all the actions that are
returned are some of those that are asked for, in this order and each at most as often. -/
theorem returns_latest_once (window : τ) :
    (∀ (before : List (Call τ α)) (c : Call τ α) (a : α), answer window before c = some a ↔
        ∃ front asked back, before = front ++ .schedule a asked :: back ∧ Outstanding window front a asked back ∧
          c.takes (Clock.later asked window) = true) ∧
      (∀ (before : List (Call τ α)) (c : Call τ α) (a : α) (later : List (Call τ α)),
        answer window before c = some a →
          returned window (before ++ c :: later) = returned window before ++ a :: returned window later) ∧
      (∀ (front : List (Call τ α)) (a : α) (asked : τ) (back : List (Call τ α)) (a' : α) (asked' : τ)
        (later : List (Call τ α)), Outstanding window front a asked back →
          returned window (front ++ .schedule a asked :: back ++ .schedule a' asked' :: later) =
            returned window front ++ returned window (.schedule a' asked' :: later)) ∧
      ∀ calls : List (Call τ α), (returned window calls).Sublist (scheduled calls) ∧
        (returned window calls).length ≤ (scheduled calls).length := by
  refine ⟨fun before c a => ?_, fun before c a later h => ?_, fun front a asked back a' asked' later h => ?_,
    fun calls => ?_⟩
  · rw [answer, call_eq_some_iff]
    constructor
    · rintro ⟨w, hw, rfl, htakes⟩
      obtain ⟨front, asked, back, hbefore, hout, hdue⟩ := waiting_after_iff.mp hw
      rw [hdue] at htakes
      exact ⟨front, asked, back, hbefore, hout, htakes⟩
    · rintro ⟨front, asked, back, rfl, hout, htakes⟩
      exact ⟨_, hout.waiting, rfl, htakes⟩
  · have hnew : ((run { window } before).call c).2 = { window } := by
      have hafter := after_of_some h
      rwa [after, run_concat] at hafter
    have hreturned : ((run { window } before).call c).1 = some a := h
    rw [returned, returns_append, returns, hreturned, hnew]
    rfl
  · rw [returned, returns_append, ← returned, h.returned_eq, ← after, returns, call_schedule_after]
    rfl
  · have hsublist := returns_sublist { window } calls
    exact ⟨hsublist, hsublist.length_le⟩

/-- The action that was asked for last counts, also if an earlier time came with it. -/
example : returned (3 / 4 : ℚ) [.schedule "a" 1, .schedule "b" 0, .poll (1 / 2), .poll (3 / 4), .poll 2, .flush] =
    ["b"] := by
  decide +kernel

end Debounce

end GrammarStudio
