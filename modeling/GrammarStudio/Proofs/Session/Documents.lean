import GrammarStudio.Proofs.Session.Effects

/-!
# The texts of the documents

A session has a text for each document, and so has the text area it is edited in.  Only the host changes the area's
text, and only a report of an edit changes the session's.  So the two agree as long as the host reports what it does.

* `Event.passesDocuments`, `Session.desk_document_step` — most events do not touch the documents' text areas at all;
* `Event.keepsDocuments` — all events but those in which the host changes a document;
* `Session.desk_text_step` — such an event leaves the text areas' documents alone;
* `Session.text_step` — the session's text changes by a report alone;
* `Reported`, `Session.inStep_run` — when every change is reported at once, the two texts agree.
-/

namespace GrammarStudio

open Diagnostics Editor

/-! ### The desk -/

namespace Editor.Desk

/-- A change that keeps some part of a buffer keeps it all over the desk. -/
theorem part_update {α : Type} (part : Buffer → α) (desk : Desk) (slot other : Slot) {f : Buffer → Buffer}
    (h : ∀ b, part (f b) = part b) : part ((desk.update slot f).get other) = part (desk.get other) := by
  by_cases heq : other = slot
  · subst heq
    rw [get_update_self, h]
  · rw [get_update_of_ne desk f heq]

/-- What every step of a fold keeps of the buffers, the fold keeps. -/
theorem part_foldl {α β : Type} (part : Buffer → α) {f : Desk → β → Desk} (other : Slot)
    (h : ∀ desk b, part ((f desk b).get other) = part (desk.get other)) (l : List β) (desk : Desk) :
    part ((l.foldl f desk).get other) = part (desk.get other) := by
  induction l generalizing desk with
  | nil => rfl
  | cons b rest ih => rw [List.foldl_cons, ih, h]

end Editor.Desk

/-- A command moves, scrolls or focuses; it writes nothing. -/
theorem Diagnostics.Action.text_apply (a : Action) (b : Buffer) : (a.apply b).text = b.text := by
  cases a <;> rfl

/-- Does the event pass the text areas of the documents by?  The host changes them, a click moves in them, and they are
measured again when a panel comes or goes. -/
def Event.passesDocuments {τ : Type} : Event τ → Bool
  | .change _ _ | .errorClicked _ _ | .setPanelShown _ _ => false
  | _ => true

/-- Does the event leave the texts of the documents alone? -/
def Event.keepsDocuments {τ : Type} : Event τ → Bool
  | .change (.document _) c => c.keepsText
  | _ => true

/-- **Histories in which every change of a document is reported at once.** -/
inductive Reported {τ : Type} : List (Event τ) → Prop
  | nil : Reported []
  | edit (d : Document) (c : Change) (now : τ) {rest : List (Event τ)} :
      Reported rest → Reported (.change (.document d) c :: .edited d now :: rest)
  | other {e : Event τ} {rest : List (Event τ)} : e.keepsDocuments = true → Reported rest → Reported (e :: rest)

namespace Session

variable {σ τ : Type}

/-- To measure the text areas again keeps whatever a request to do so keeps. -/
theorem part_relayout {α : Type} (part : Buffer → α) (h : ∀ b, part b.requestLayout = part b) (shown : Panels)
    (desk : Desk) (other : Slot) : part ((relayout shown desk).get other) = part (desk.get other) :=
  Desk.part_foldl part other (fun desk slot => desk.part_update part slot other h) _ desk

@[simp] theorem text_withText (s : Session σ τ) (d other : Document) (text : String) :
    (s.withText d text).text other = if other = d then text else s.text other := by
  cases d <;> cases other <;> rfl

/-- Session and text areas have the same documents. -/
def InStep (s : Session σ τ) : Prop := ∀ d, (s.desk.get (.document d)).text = s.text d

theorem refresh_desk_document (s : Session σ τ) (d : Document) :
    s.refresh.desk.get (.document d) = s.desk.get (.document d) := by
  unfold refresh
  split
  · exact begin_desk_document s d
  · rfl

theorem refresh_text (s : Session σ τ) (d : Document) : s.refresh.text d = s.text d := by
  unfold refresh
  split
  · cases d
    · exact begin_grammarText s
    · exact begin_codeText s
  · rfl

variable [Store σ] [Clock τ]

/-- A session that starts shows in its text areas the documents that it has found. -/
theorem inStep_start (store : σ) : (start store : Session σ τ).InStep := by
  intro d
  refine (part_relayout Buffer.text (fun _ => rfl) _ _ _).trans ?_
  cases d <;> rfl

/-- **Most events do not touch the text areas of the documents at all.** -/
theorem desk_document_step [Wording] (engine : Engine) (s : Session σ τ) {e : Event τ}
    (passes : e.passesDocuments = true)
    (d : Document) : (s.step engine e).desk.get (.document d) = s.desk.get (.document d) := by
  cases e with
  | ready =>
    show s.ready.desk.get (.document d) = _
    unfold ready
    split
    · rfl
    · rw [refresh_desk_document]
  | requestParse =>
    show s.requestParse.desk.get (.document d) = _
    unfold requestParse
    split
    · rw [begin_desk_document]
    · rfl
  | tick now =>
    show (s.tick engine now).desk.get (.document d) = _
    cases h : (s.commit.poll now).1 with
    | none => rw [tick_quiet engine h, dispatch_desk_document]
    | some action =>
      rw [tick_due engine (by rw [h]; rfl), refresh_desk_document, saved_desk, dispatch_desk_document]
  | flush =>
    show s.flush.desk.get (.document d) = _
    unfold flush
    split <;> rfl
  | edited other now =>
    show (s.withText other _).desk.get (.document d) = _
    cases other <;> rfl
  | setOptimization | setPackrat | setAutoRefresh => rfl
  | setPanelShown | errorClicked | change => cases passes

/-- **No event of the session itself changes a document in its text area.** -/
theorem desk_text_step [Wording] (engine : Engine) (s : Session σ τ) {e : Event τ} (keeps : e.keepsDocuments = true)
    (d : Document) : ((s.step engine e).desk.get (.document d)).text = (s.desk.get (.document d)).text := by
  cases e with
  | setPanelShown panel on => exact part_relayout Buffer.text (fun _ => rfl) _ _ _
  | errorClicked list index =>
    exact Desk.part_foldl Buffer.text (f := fun desk (c : Command) => c.apply desk) _
      (fun desk c => desk.part_update Buffer.text c.slot _ (Action.text_apply c.action)) _ _
  | change slot c =>
    cases slot with
    | document other => exact Desk.part_update Buffer.text _ _ _ fun b => Change.text_apply keeps b
    | panel p =>
      exact congrArg Buffer.text (Desk.get_document_update_panel s.desk p d c.apply)
  | ready | edited | requestParse | setOptimization | setPackrat | setAutoRefresh | tick | flush =>
    exact congrArg Buffer.text (desk_document_step engine s rfl d)

/-- **A report of an edit takes the text from its area, and no other event changes the session's texts.** -/
theorem text_step [Wording] (engine : Engine) (s : Session σ τ) (e : Event τ) (d : Document) :
    (s.step engine e).text d =
      match e with
      | .edited other _ => if d = other then (s.desk.get (.document other)).text else s.text d
      | _ => s.text d := by
  cases e with
  | ready =>
    show s.ready.text d = s.text d
    unfold ready
    split
    · rfl
    · rw [refresh_text]
      rfl
  | requestParse =>
    show s.requestParse.text d = s.text d
    unfold requestParse
    split
    · cases d
      · exact begin_grammarText s
      · exact begin_codeText s
    · rfl
  | tick now =>
    show (s.tick engine now).text d = s.text d
    cases h : (s.commit.poll now).1 with
    | none =>
      rw [tick_quiet engine h]
      cases d
      · exact dispatch_grammarText engine s
      · exact dispatch_codeText engine s
    | some action =>
      rw [tick_due engine (by rw [h]; rfl), refresh_text]
      cases d
      · exact saved_grammarText engine s now
      · exact saved_codeText engine s now
  | flush =>
    show s.flush.text d = s.text d
    unfold flush
    split <;> rfl
  | edited other now =>
    exact text_withText s other d _
  | setOptimization | setPackrat | setAutoRefresh | setPanelShown | errorClicked | change => rfl

/-- An event that leaves the documents alone keeps session and text areas in step; a report brings them in step. -/
theorem InStep.step [Wording] (engine : Engine) {s : Session σ τ} (h : s.InStep) {e : Event τ}
    (keeps : e.keepsDocuments = true) : (s.step engine e).InStep := by
  intro d
  rw [desk_text_step engine s keeps, text_step]
  split
  · split
    · rename_i heq
      rw [heq]
    · exact h d
  · exact h d

/-- A change of a document that is reported at once keeps session and text areas in step. -/
theorem InStep.edit [Wording] (engine : Engine) {s : Session σ τ} (h : s.InStep) (d : Document) (c : Change) (now : τ) :
    ((s.step engine (.change (.document d) c)).step engine (.edited d now)).InStep := by
  intro other
  rw [desk_text_step engine _ rfl, text_step]
  dsimp only
  split
  · rename_i heq
    rw [heq]
  · rename_i hne
    rw [text_step, ← h other]
    exact congrArg Buffer.text (Desk.get_update_of_ne s.desk c.apply (by simpa using hne))

/-- **When every change is reported at once, the session's documents are those of its text areas.** -/
theorem inStep_run [Wording] (engine : Engine) {s : Session σ τ} (h : s.InStep) {events : List (Event τ)}
    (reported : Reported events) : (s.run engine events).InStep := by
  induction reported generalizing s with
  | nil => exact h
  | edit d c now _ ih => exact ih (h.edit engine d c now)
  | other keeps _ ih => exact ih (h.step engine keeps)

end Session

end GrammarStudio
