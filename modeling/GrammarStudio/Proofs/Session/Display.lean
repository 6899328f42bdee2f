import GrammarStudio.Proofs.Session.Calls
import GrammarStudio.Proofs.Session.Documents

/-!
# What is shown is the latest outcome

A session keeps what is shown twice: in its view, and in the text areas of the three panels, which are emptied and then
filled whenever an outcome is shown.  The host may move cursors, scroll, focus and measure all text areas in between, and
write into those of the documents, but it does not write into a panel.

* `View.of_not_valid`, `View.banner_iff` — what a view shows beside a grammar that is not valid, and of a failure;
* `Event.keepsPanels` — all events but those in which the host writes into a panel;
* `Session.Displays` — the invariant: the view is that of the outcome, and the panels show the view;
* `Session.displays_step`, `Session.displays_play` — every such event keeps it, and so does every list of them;
* `Session.readOnly_step` — no event makes a panel one that can be written into.
-/

namespace GrammarStudio

open Analysis Diagnostics Editor

/-! ### Views -/

namespace Diagnostics.View

/-- A report that says nothing of the text has the view of its grammar's errors. -/
theorem ofReport_of_none {r : Report} (h : r.source = none) :
    ofReport r = { grammarBadge := .invalid, grammarErrors := r.grammarErrors.map ErrorItem.ofEntry } := by
  simp [ofReport, h, Report.grammarValid, Badge.ofBool]

/-- A report on the text comes with a valid grammar. -/
theorem grammarBadge_of_some {r : Report} {s : SourceReport} (h : r.source = some s) :
    (ofReport r).grammarBadge = .valid := by
  simp [ofReport, h, Report.grammarValid, Badge.ofBool]

/-- **Nothing is shown of the text beside a grammar that is not valid.** -/
theorem of_not_valid {o : Outcome} (h : (ofOutcome o).grammarBadge ≠ .valid) :
    (ofOutcome o).codeBadge = .unset ∧ (ofOutcome o).codeErrors = [] ∧ ∀ p, (ofOutcome o).panelText p = "" := by
  cases o with
  | skipped => exact ⟨rfl, rfl, fun p => by cases p <;> rfl⟩
  | failed message => exact ⟨rfl, rfl, fun p => by cases p <;> rfl⟩
  | completed r =>
    cases hs : r.source with
    | some s => exact absurd (grammarBadge_of_some hs) h
    | none =>
      have hview : ofOutcome (.completed r)
          = { grammarBadge := .invalid, grammarErrors := r.grammarErrors.map ErrorItem.ofEntry } := ofReport_of_none hs
      rw [hview]
      exact ⟨rfl, rfl, fun p => by cases p <;> rfl⟩

/-- A report is shown without a banner. -/
theorem banner_ofReport (r : Report) : (ofReport r).banner = none := by
  unfold ofReport
  split <;> rfl

/-- **The banner tells of a failure, and of nothing else.** -/
theorem banner_iff (o : Outcome) : (ofOutcome o).banner.isSome = true ↔ ∃ message, o = .failed message := by
  cases o with
  | skipped => simp [ofOutcome]
  | failed message => simp [ofOutcome]
  | completed r => simp [ofOutcome, banner_ofReport]

/-- Nothing else is shown of a failure. -/
theorem cleared_of_banner {o : Outcome} (h : (ofOutcome o).banner.isSome = true) (d : Document) :
    (ofOutcome o).badge d = .unset ∧ (ofOutcome o).items d = [] := by
  obtain ⟨message, rfl⟩ := (banner_iff o).mp h
  cases d <;> exact ⟨rfl, rfl⟩

end Diagnostics.View

/-- Does the event leave the texts of the panels alone? -/
def Event.keepsPanels {τ : Type} : Event τ → Bool
  | .change (.panel _) c => c.keepsText
  | _ => true

/-- No change makes a text area one that can be written into, or one that cannot. -/
theorem Editor.Change.readOnly_apply (c : Change) (b : Buffer) : (c.apply b).readOnly = b.readOnly := by
  cases c <;> rfl

/-- To empty a text area and fill it again does not make it one that can be written into. -/
theorem Editor.Buffer.readOnly_refill (text : String) (b : Buffer) :
    ((b.setText "").insert text).readOnly = b.readOnly := rfl

/-- A change of a document leaves the panels alone. -/
theorem Editor.Desk.get_panel_update_document (desk : Desk) (d : Document) (p : Panel) (f : Buffer → Buffer) :
    (desk.update (.document d) f).get (.panel p) = desk.get (.panel p) :=
  desk.get_update_of_ne f (by simp)

namespace Session

variable {σ τ : Type}

/-! ### The panels show the view -/

/-- **The display invariant.**  The view is that of the latest outcome, and each panel holds its text. -/
structure Displays (s : Session σ τ) : Prop where
  view : s.view = View.ofOutcome s.outcome
  panels : ∀ p, (s.desk.get (.panel p)).text = s.view.panelText p

variable {s t : Session σ τ}

/-- Showing an outcome fills all panels with its view, whatever they held and wherever their cursors were. -/
theorem displays_applyOutcome (s : Session σ τ) (o : Outcome) : (s.applyOutcome o).Displays := by
  refine ⟨rfl, fun p => ?_⟩
  cases p <;> exact Buffer.insert_setText_empty _ _

/-- The display is about the outcome, the view and the texts of the panels. -/
theorem Displays.congr (h : s.Displays) (houtcome : t.outcome = s.outcome) (hview : t.view = s.view)
    (hpanels : ∀ p, (t.desk.get (.panel p)).text = (s.desk.get (.panel p)).text) : t.Displays :=
  ⟨by rw [hview, houtcome, h.view], fun p => by rw [hpanels, hview, h.panels]⟩

theorem Displays.begin (h : s.Displays) : s.begin.Displays := by
  unfold Session.begin
  split
  · exact displays_applyOutcome s _
  · split <;> exact h.congr rfl rfl fun _ => rfl

theorem Displays.refresh (h : s.Displays) : s.refresh.Displays := by
  unfold Session.refresh
  split
  · exact h.begin
  · exact h

theorem Displays.dispatch [Wording] (h : s.Displays) (engine : Engine) : (s.dispatch engine).Displays := by
  unfold Session.dispatch
  split
  · exact displays_applyOutcome _ _
  all_goals exact h.congr rfl rfl fun _ => rfl

variable [Store σ] [Clock τ]

theorem Displays.tick [Wording] (h : s.Displays) (engine : Engine) (now : τ) : (s.tick engine now).Displays := by
  cases hc : (s.commit.poll now).1 with
  | none =>
    rw [tick_quiet engine hc]
    exact h.dispatch engine
  | some action =>
    have hsaved : (s.saved engine now).Displays := (h.dispatch engine).congr rfl rfl fun _ => rfl
    rw [tick_due engine (by rw [hc]; rfl)]
    exact hsaved.refresh

/-- **Every event in which the host does not write into a panel keeps the display.** -/
theorem displays_step [Wording] (engine : Engine) (h : s.Displays) {e : Event τ} (keeps : e.keepsPanels = true) :
    (s.step engine e).Displays := by
  cases e with
  | ready =>
    show s.ready.Displays
    unfold ready
    split
    · exact h
    · exact Displays.refresh (s := { s with engineReady := true }) (h.congr rfl rfl fun _ => rfl)
  | requestParse =>
    show s.requestParse.Displays
    unfold requestParse
    split
    · exact h.begin
    · exact h
  | tick now => exact h.tick engine now
  | flush =>
    show s.flush.Displays
    unfold flush
    split <;> exact h.congr rfl rfl fun _ => rfl
  | edited d now => cases d <;> exact h.congr rfl rfl fun _ => rfl
  | setOptimization | setPackrat | setAutoRefresh => exact h.congr rfl rfl fun _ => rfl
  | setPanelShown panel on =>
    exact h.congr rfl rfl fun p => part_relayout Buffer.text (fun _ => rfl) _ _ _
  | errorClicked list index =>
    refine h.congr rfl rfl fun p => ?_
    exact Desk.part_foldl Buffer.text (f := fun desk (c : Command) => c.apply desk) _
      (fun desk c => desk.part_update Buffer.text c.slot _ (Action.text_apply c.action)) _ _
  | change slot c =>
    refine h.congr rfl rfl fun p => ?_
    cases slot with
    | document d => exact congrArg Buffer.text (Desk.get_panel_update_document s.desk d p c.apply)
    | panel q => exact Desk.part_update Buffer.text _ _ _ fun b => Change.text_apply keeps b

/-- A session that starts shows nothing, in empty panels. -/
theorem displays_start (store : σ) : (start store : Session σ τ).Displays := by
  refine ⟨rfl, fun p => ?_⟩
  refine (part_relayout Buffer.text (fun _ => rfl) _ _ _).trans ?_
  cases p <;> rfl

theorem displays_play [Wording] (h : s.Displays) {turns : List (Turn τ)}
    (keeps : ∀ t ∈ turns, t.event.keepsPanels = true) :
    (s.play turns).Displays :=
  play_preserves (P := Displays) (fun _ t ht hs => displays_step t.engine hs (keeps t ht)) h

/-! ### Panels cannot be written into -/

/-- Nobody can write into the panels. -/
def PanelsFixed (s : Session σ τ) : Prop := ∀ p, (s.desk.get (.panel p)).readOnly = true

omit [Store σ] [Clock τ] in
theorem readOnly_applyOutcome (s : Session σ τ) (o : Outcome) (slot : Slot) :
    ((s.applyOutcome o).desk.get slot).readOnly = (s.desk.get slot).readOnly := by
  refine Desk.part_foldl Buffer.readOnly slot (fun desk p => ?_) Panel.all s.desk
  exact desk.part_update Buffer.readOnly (.panel p) slot (Buffer.readOnly_refill _)

omit [Store σ] [Clock τ] in
theorem readOnly_begin (s : Session σ τ) (slot : Slot) :
    (s.begin.desk.get slot).readOnly = (s.desk.get slot).readOnly := by
  unfold begin
  split
  · exact readOnly_applyOutcome s _ slot
  · split <;> rfl

omit [Store σ] [Clock τ] in
theorem readOnly_refresh (s : Session σ τ) (slot : Slot) :
    (s.refresh.desk.get slot).readOnly = (s.desk.get slot).readOnly := by
  unfold refresh
  split
  · exact readOnly_begin s slot
  · rfl

omit [Store σ] [Clock τ] in
theorem readOnly_dispatch [Wording] (engine : Engine) (s : Session σ τ) (slot : Slot) :
    ((s.dispatch engine).desk.get slot).readOnly = (s.desk.get slot).readOnly := by
  unfold dispatch
  split
  · exact readOnly_applyOutcome _ _ slot
  · rfl
  · rfl

/-- **No event changes which text areas can be written into.** -/
theorem readOnly_step [Wording] (engine : Engine) (s : Session σ τ) (e : Event τ) (slot : Slot) :
    ((s.step engine e).desk.get slot).readOnly = (s.desk.get slot).readOnly := by
  cases e with
  | ready =>
    show (s.ready.desk.get slot).readOnly = _
    unfold ready
    split
    · rfl
    · exact readOnly_refresh _ slot
  | requestParse =>
    show (s.requestParse.desk.get slot).readOnly = _
    unfold requestParse
    split
    · exact readOnly_begin s slot
    · rfl
  | tick now =>
    show ((s.tick engine now).desk.get slot).readOnly = _
    cases h : (s.commit.poll now).1 with
    | none => rw [tick_quiet engine h, readOnly_dispatch]
    | some action => rw [tick_due engine (by rw [h]; rfl), readOnly_refresh, saved_desk, readOnly_dispatch]
  | flush =>
    show (s.flush.desk.get slot).readOnly = _
    unfold flush
    split <;> rfl
  | edited d now => cases d <;> rfl
  | setOptimization | setPackrat | setAutoRefresh => rfl
  | setPanelShown panel on => exact part_relayout Buffer.readOnly (fun _ => rfl) _ _ _
  | errorClicked list index =>
    exact Desk.part_foldl Buffer.readOnly (f := fun desk (c : Command) => c.apply desk) _
      (fun desk c => desk.part_update Buffer.readOnly c.slot _ fun b => by cases c.action <;> rfl) _ _
  | change other c => exact Desk.part_update Buffer.readOnly _ _ _ (Change.readOnly_apply c)

theorem PanelsFixed.step [Wording] (h : s.PanelsFixed) (engine : Engine) (e : Event τ) :
    (s.step engine e).PanelsFixed :=
  fun p => (readOnly_step engine s e _).trans (h p)

theorem PanelsFixed.play [Wording] (h : s.PanelsFixed) (turns : List (Turn τ)) : (s.play turns).PanelsFixed :=
  play_preserves (P := PanelsFixed) (fun _ t _ hs => hs.step t.engine t.event) h

theorem panelsFixed_start (store : σ) : (start store : Session σ τ).PanelsFixed := by
  intro p
  refine (part_relayout Buffer.readOnly (fun _ => rfl) _ _ _).trans ?_
  cases p <;> rfl

end Session

end GrammarStudio
