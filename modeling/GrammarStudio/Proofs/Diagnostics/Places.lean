import GrammarStudio.Diagnostics.View
import GrammarStudio.Proofs.Analysis.Checks

/-!
# The places of errors

Locations count from one and positions from zero.  An error that is shown comes from a report that has been read, and
there each line and column is at least one, so nothing is lost when one is taken off.

* `Outcome.errors`, `View.items_ofOutcome` — the errors of an outcome, and the rows that are shown of them;
* `Outcome.InRange`, `Outcome.inRange_analyze` — what an analysis comes to has places that count from one and fit;
* `target_add_one` — one more than the place of a click is the location of the error;
* `desk_of_commands` — what the commands of a click make of a desk;
* `get_clicked_self`, `get_clicked_grammar`, `get_clicked_code`, `get_clicked_panel` — and of each of its buffers.
-/

namespace GrammarStudio

open Analysis Diagnostics Editor

/-! ### Errors -/

namespace Analysis.Outcome

/-- The errors of a document, as the analyzer has reported them. -/
def errors : Outcome → Document → List Entry
  | .completed r, .grammar => r.grammarErrors
  | .completed r, .code => r.codeErrors
  | .skipped, _ | .failed _, _ => []

/-- The lines and columns of an outcome count from one and fit. -/
def InRange : Outcome → Prop
  | .completed r => r.InRange
  | .skipped | .failed _ => True

/-- **What an analysis comes to has places that count from one and fit.** -/
theorem inRange_analyze [Wording] (engine : Engine) (r : Request) : (analyze engine r).outcome.InRange := by
  unfold analyze
  split
  · trivial
  · cases hanswer : engine r with
    | error failure => trivial
    | ok text =>
      show (ofResult ((readAnswer (.ok text)).map .completed)).InRange
      rw [readAnswer]
      cases hdecode : decode text with
      | error e => trivial
      | ok report => exact inRange_of_decode hdecode

theorem InRange.entry {o : Outcome} (h : o.InRange) {d : Document} {e : Entry} (he : e ∈ o.errors d) : e.InRange := by
  cases o with
  | skipped | failed message => cases he
  | completed r =>
    cases d with
    | grammar => exact h e (List.mem_append_left _ he)
    | code => exact h e (List.mem_append_right _ he)

end Analysis.Outcome

namespace Diagnostics

/-- **A row is shown for each error**, and for nothing else. -/
theorem View.items_ofOutcome (o : Outcome) (d : Document) :
    (View.ofOutcome o).items d = (o.errors d).map ErrorItem.ofEntry := by
  cases o with
  | skipped | failed message => cases d <;> rfl
  | completed r =>
    show (View.ofReport r).items d = _
    cases hs : r.source with
    | none => cases d <;> simp [View.ofReport, View.items, Outcome.errors, Report.codeErrors, hs]
    | some s => cases d <;> simp [View.ofReport, View.items, Outcome.errors, Report.codeErrors, hs]

theorem originTarget_ofEntry (e : Entry) : (ErrorItem.ofEntry e).originTarget = e.origin.map target := rfl

/-- One more than the position of a location is the location. -/
theorem target_add_one {l : Location} (h : l.InRange) :
    (target l).row + 1 = l.line ∧ (target l).col + 1 = l.col :=
  ⟨Nat.sub_add_cancel h.1.1, Nat.sub_add_cancel h.2.1⟩

end Diagnostics

/-! ### Clicks -/

namespace Editor.Buffer

/-- A buffer whose cursor is sent to a position, which is brought to the middle. -/
def revealed (b : Buffer) (target : Position) : Buffer := (b.moveTo target).scrollTo target.row true

end Editor.Buffer

namespace Diagnostics

theorem foldl_reveal (desk : Desk) (d : Document) (target : Position) :
    (reveal d target).foldl (fun desk c => c.apply desk) desk = desk.update (.document d) (·.revealed target) := by
  cases d <;> rfl

theorem foldl_jump (desk : Desk) (d : Document) (target : Position) :
    (jump d target).foldl (fun desk c => c.apply desk) desk =
      desk.update (.document d) fun b => (b.revealed target).requestFocus := by
  cases d <;> rfl

/-- What a click on a row makes of the desk.  The document of the list gets the focus too; the other one is touched
only if the error stands in the code and names a rule. -/
def clicked (desk : Desk) (list : Document) (item : ErrorItem) : Desk :=
  let desk := desk.update (.document list) fun b => (b.revealed item.target).requestFocus
  match list, item.originTarget with
  | .code, some origin => desk.update .grammar (·.revealed origin)
  | _, _ => desk

/-- **The commands of a click** make that of a desk, and nothing where there is no such row. -/
theorem desk_of_commands (view : View) (list : Document) (index : Nat) (desk : Desk) :
    (view.commands list index).foldl (fun desk c => c.apply desk) desk =
      match (view.items list)[index]? with
      | none => desk
      | some item => clicked desk list item := by
  unfold View.commands
  cases (view.items list)[index]? with
  | none => rfl
  | some item =>
    cases list with
    | grammar => exact foldl_jump desk .grammar item.target
    | code =>
      dsimp only [clicked]
      cases item.originTarget with
      | none => exact foldl_jump desk .code item.target
      | some origin =>
        dsimp only
        rw [List.foldl_append, foldl_jump, foldl_reveal]

section Clicked

variable (desk : Desk) (item : ErrorItem)

/-- The document of the list shows the place of the error, and has the focus. -/
theorem get_clicked_self (list : Document) : (clicked desk list item).get (.document list) =
    ((desk.get (.document list)).revealed item.target).requestFocus := by
  cases list with
  | grammar => rfl
  | code =>
    dsimp only [clicked]
    cases item.originTarget with
    | none => exact desk.get_update_self _ _
    | some origin => exact (Desk.get_update_of_ne _ _ (by simp)).trans (desk.get_update_self _ _)

/-- Beside an error in the code the grammar shows the rule that raised it, if the error names one. -/
theorem get_clicked_grammar : (clicked desk .code item).get .grammar =
    match item.originTarget with
    | none => desk.get .grammar
    | some origin => (desk.get .grammar).revealed origin := by
  dsimp only [clicked]
  cases item.originTarget <;> rfl

/-- Beside an error in the grammar the code is left alone. -/
theorem get_clicked_code : (clicked desk .grammar item).get .code = desk.get .code := rfl

theorem get_clicked_panel (list : Document) (p : Panel) :
    (clicked desk list item).get (.panel p) = desk.get (.panel p) := by
  cases list with
  | grammar => exact desk.get_update_of_ne _ (by simp)
  | code =>
    dsimp only [clicked]
    cases item.originTarget with
    | none => exact desk.get_update_of_ne _ (by simp)
    | some origin => exact (Desk.get_update_of_ne _ _ (by simp)).trans (desk.get_update_of_ne _ (by simp))

/-- A click changes no text. -/
theorem text_clicked (list : Document) (slot : Slot) :
    ((clicked desk list item).get slot).text = (desk.get slot).text := by
  rcases slot with d | p
  · by_cases hd : d = list
    · rw [hd, get_clicked_self]
      rfl
    · cases list <;> cases d
      · exact absurd rfl hd
      · rw [get_clicked_code]
      · rw [get_clicked_grammar]
        cases item.originTarget <;> rfl
      · exact absurd rfl hd
  · rw [get_clicked_panel]

end Clicked

/-- Commands to other text areas leave one alone. -/
theorem get_foldl_commands {slot : Slot} {commands : List Command} (h : ∀ c ∈ commands, c.slot ≠ slot) (desk : Desk) :
    (commands.foldl (fun desk c => c.apply desk) desk).get slot = desk.get slot := by
  induction commands generalizing desk with
  | nil => rfl
  | cons c rest ih =>
    have hc : slot ≠ c.slot := fun heq => h c List.mem_cons_self heq.symm
    rw [List.foldl_cons, ih (fun c hc => h c (List.mem_cons_of_mem _ hc))]
    exact desk.get_update_of_ne c.action.apply hc

end Diagnostics

end GrammarStudio
