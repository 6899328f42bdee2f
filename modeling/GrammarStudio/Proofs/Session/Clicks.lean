import GrammarStudio.Proofs.Diagnostics.Places
import GrammarStudio.Proofs.Editor.Insertion
import GrammarStudio.Proofs.Session.Calls
import GrammarStudio.Proofs.Session.Documents

/-!
# Where a click on an error leads

A row of an error list leads to the place that the analyzer has named, in the text as it is when the host moves its
cursor there, and not as it was when it was analysed.  Until then the request waits: neither the person's typing nor
anything that the session does takes it away.

* `Buffer.goal?` — where a cursor is to be put, while the host has not done so;
* `Session.Located` — the invariant: the view is that of the outcome, whose places count from one and fit;
* `Session.errorClicked_eq` — a click touches the desk alone;
* `Session.movesCursor`, `Session.LeavesCursor` — the events that move a document's cursor, and turns without one;
* `Session.goal?_step`, `Session.goal?_play` — all others leave a goal as it is;
* `Session.LeadsTo` — a goal that the host finds whenever it looks, in the text that is there then;
* `Session.errorClicked_leads` — what a click on an error does, and all that it does.
-/

namespace GrammarStudio

open Analysis Diagnostics Editor Text

namespace Editor

/-- The position a cursor is to be put at, while the host has not done so. -/
def Buffer.goal? (b : Buffer) : Option Position := if b.cursorMoved then some b.cursor else none

/-- What the host is asked for is the index of the goal in the text that is there. -/
theorem Buffer.cursor_takeRequests (b : Buffer) :
    b.takeRequests.1.cursor = b.goal?.map fun p => p.index b.text.toList := by
  show b.cursorRequest = _
  unfold cursorRequest goal?
  split <;> rfl

/-- Does the change put the cursor somewhere, or is it the host that does so at last? -/
def Change.movesCursor : Change → Bool
  | .setText _ | .insert _ | .moveTo _ | .syncCursor _ | .takeRequests => true
  | .typed _ | .scrollTo _ _ | .requestFocus | .requestLayout => false

theorem Change.goal?_apply {c : Change} (h : c.movesCursor = false) (b : Buffer) : (c.apply b).goal? = b.goal? := by
  cases c <;> first | rfl | cases h

end Editor

namespace Session

variable {σ τ : Type}

/-! ### The places on view -/

/-- **What is on view has its places.**  The view is that of the latest outcome, whose lines and columns count from one
and fit. -/
structure Located (s : Session σ τ) : Prop where
  view : s.view = View.ofOutcome s.outcome
  inRange : s.outcome.InRange

section Located

variable {s t : Session σ τ}

theorem Located.congr (h : s.Located) (houtcome : t.outcome = s.outcome) (hview : t.view = s.view) : t.Located :=
  ⟨by rw [hview, houtcome, h.view], by rw [houtcome]; exact h.inRange⟩

theorem located_applyOutcome (s : Session σ τ) {o : Outcome} (h : o.InRange) : (s.applyOutcome o).Located := ⟨rfl, h⟩

theorem Located.begin (h : s.Located) : s.begin.Located := by
  unfold Session.begin
  split
  · exact located_applyOutcome s trivial
  · split <;> exact h.congr rfl rfl

theorem Located.refresh (h : s.Located) : s.refresh.Located := by
  unfold Session.refresh
  split
  · exact h.begin
  · exact h

theorem Located.dispatch [Wording] (h : s.Located) (engine : Engine) : (s.dispatch engine).Located := by
  unfold Session.dispatch
  split
  · exact located_applyOutcome _ (Outcome.inRange_analyze engine _)
  all_goals exact h.congr rfl rfl

variable [Store σ] [Clock τ]

theorem Located.tick [Wording] (h : s.Located) (engine : Engine) (now : τ) : (s.tick engine now).Located := by
  cases hc : (s.commit.poll now).1 with
  | none =>
    rw [tick_quiet engine hc]
    exact h.dispatch engine
  | some action =>
    have hsaved : (s.saved engine now).Located := (h.dispatch engine).congr rfl rfl
    rw [tick_due engine (by rw [hc]; rfl)]
    exact hsaved.refresh

/-- **Every event leaves places on view**, whatever the host writes into the text areas. -/
theorem Located.step [Wording] (h : s.Located) (engine : Engine) (e : Event τ) : (s.step engine e).Located := by
  cases e with
  | ready =>
    show s.ready.Located
    unfold ready
    split
    · exact h
    · exact Located.refresh (s := { s with engineReady := true }) (h.congr rfl rfl)
  | requestParse =>
    show s.requestParse.Located
    unfold requestParse
    split
    · exact h.begin
    · exact h
  | tick now => exact h.tick engine now
  | flush =>
    show s.flush.Located
    unfold flush
    split <;> exact h.congr rfl rfl
  | edited d now => cases d <;> exact h.congr rfl rfl
  | setOptimization | setPackrat | setAutoRefresh | setPanelShown | errorClicked | change => exact h.congr rfl rfl

theorem located_play [Wording] (store : σ) (turns : List (Turn τ)) : ((start store : Session σ τ).play turns).Located :=
  play_preserves (P := Located) (fun _ t _ hs => hs.step t.engine t.event) ⟨rfl, trivial⟩

end Located

/-! ### What a click touches -/

/-- **A click touches the desk alone**, and nothing at all where there is no such row. -/
theorem errorClicked_eq (s : Session σ τ) (list : Document) (index : Nat) :
    s.errorClicked list index =
      match (s.view.items list)[index]? with
      | none => s
      | some item => { s with desk := clicked s.desk list item } := by
  rw [errorClicked, desk_of_commands]
  cases (s.view.items list)[index]? <;> rfl

/-! ### A goal that waits for the host -/

/-- Does the event put the cursor of the document somewhere, or does the host do so at last?  A click does so if one of
its commands goes to the document. -/
def movesCursor (s : Session σ τ) (d : Document) : Event τ → Bool
  | .change slot c => decide (slot = .document d) && c.movesCursor
  | .errorClicked list index => (s.view.commands list index).any fun c => decide (c.slot = .document d)
  | _ => false

variable [Store σ] [Clock τ]

/-- **Turns in which nobody moves the cursor of a document.** -/
def LeavesCursor [Wording] (d : Document) : Session σ τ → List (Turn τ) → Prop
  | _, [] => True
  | s, t :: rest => s.movesCursor d t.event = false ∧ LeavesCursor d (s.step t.engine t.event) rest

/-- **An event that does not move the cursor leaves its goal as it is**, whatever it does to the text. -/
theorem goal?_step [Wording] (engine : Engine) {s : Session σ τ} {d : Document} {e : Event τ}
    (h : s.movesCursor d e = false) :
    ((s.step engine e).desk.get (.document d)).goal? = (s.desk.get (.document d)).goal? := by
  cases e with
  | setPanelShown panel on => exact part_relayout Buffer.goal? (fun _ => rfl) _ _ _
  | errorClicked list index =>
    have hothers : ∀ c ∈ s.view.commands list index, c.slot ≠ .document d := by
      simpa [movesCursor] using h
    exact congrArg Buffer.goal? (get_foldl_commands hothers s.desk)
  | change slot c =>
    by_cases hslot : slot = .document d
    · have hkeeps : c.movesCursor = false := by simpa [movesCursor, hslot] using h
      exact Desk.part_update Buffer.goal? _ _ _ (Change.goal?_apply hkeeps)
    · exact congrArg Buffer.goal? (s.desk.get_update_of_ne c.apply (Ne.symm hslot))
  | ready | edited | requestParse | setOptimization | setPackrat | setAutoRefresh | tick | flush =>
    exact congrArg Buffer.goal? (desk_document_step engine s rfl d)

theorem goal?_play [Wording] {s : Session σ τ} {d : Document} {turns : List (Turn τ)} (h : s.LeavesCursor d turns) :
    ((s.play turns).desk.get (.document d)).goal? = (s.desk.get (.document d)).goal? := by
  induction turns generalizing s with
  | nil => rfl
  | cons t rest ih =>
    rw [play_cons, ih h.2]
    exact goal?_step t.engine h.1

/-- **A goal that the host finds whenever it looks.**  As long as nobody moves the cursor of the document, what the host
takes is an index of the text that is there then, at the place which the position means in that text. -/
def LeadsTo [Wording] (s : Session σ τ) (d : Document) (target : Position) : Prop :=
  ∀ turns : List (Turn τ), s.LeavesCursor d turns →
    ∃ i, ((s.play turns).desk.get (.document d)).takeRequests.1.cursor = some i ∧
      i ≤ ((s.play turns).desk.get (.document d)).text.toList.length ∧
      positionAt ((s.play turns).desk.get (.document d)).text.toList i =
        target.clamp ((s.play turns).desk.get (.document d)).text.toList

theorem leadsTo_of_goal? [Wording] {s : Session σ τ} {d : Document} {target : Position}
    (h : (s.desk.get (.document d)).goal? = some target) : s.LeadsTo d target := by
  intro turns hturns
  refine ⟨target.index ((s.play turns).desk.get (.document d)).text.toList, ?_, target.index_le _,
    target.positionAt_index _⟩
  rw [Buffer.cursor_takeRequests, goal?_play hturns, h]
  rfl

/-- **A click on an error leads to its place.**  After any turns, a click on a row that does not exist changes nothing.
A click on an error touches the text areas alone, and no text in them.  The document of its list is asked to bring the
line of the error to the middle, to take the focus, and to put the cursor at the place of the error, in the text that
is there when the host does so.  If the error stands in the code and names a rule, the grammar is asked to show the
place of the rule and to put the cursor there, and its focus is left as it is; without a rule the grammar is left alone,
as the code is beside an error in the grammar.  The panels are always left alone. -/
theorem errorClicked_leads [Wording] (store : σ) (turns : List (Turn τ)) (list : Document) (index : Nat) :
    let s : Session σ τ := (start store).play turns
    let t : Session σ τ := s.errorClicked list index
    match (s.outcome.errors list)[index]? with
    | none => t = s
    | some e =>
      t = { s with desk := t.desk } ∧ (∀ slot, (t.desk.get slot).text = (s.desk.get slot).text) ∧
        (∀ p, t.desk.get (.panel p) = s.desk.get (.panel p)) ∧
        (∃ target : Position, target.row + 1 = e.location.line ∧ target.col + 1 = e.location.col ∧
          t.desk.get (.document list) = { s.desk.get (.document list) with
            cursor := target, cursorMoved := true, scroll := some ⟨target.row, true⟩, focusWanted := true } ∧
          t.LeadsTo list target) ∧
        match list, e.origin with
        | .grammar, _ => t.desk.get .code = s.desk.get .code
        | .code, none => t.desk.get .grammar = s.desk.get .grammar
        | .code, some l =>
          ∃ target : Position, target.row + 1 = l.line ∧ target.col + 1 = l.col ∧
            t.desk.get .grammar = { s.desk.get .grammar with
              cursor := target, cursorMoved := true, scroll := some ⟨target.row, true⟩ } ∧
            t.LeadsTo .grammar target := by
  intro s t
  have hlocated : s.Located := located_play store turns
  have hitems : (s.view.items list)[index]? = ((s.outcome.errors list)[index]?).map ErrorItem.ofEntry := by
    rw [hlocated.view, View.items_ofOutcome, List.getElem?_map]
  have hclick : t = match (s.view.items list)[index]? with
      | none => s
      | some item => { s with desk := clicked s.desk list item } := errorClicked_eq s list index
  cases herror : (s.outcome.errors list)[index]? with
  | none =>
    rw [hitems, herror] at hclick
    exact hclick
  | some e =>
    rw [hitems, herror] at hclick
    have hdesk : t.desk = clicked s.desk list (.ofEntry e) := by rw [hclick]; rfl
    have hrange : e.InRange := hlocated.inRange.entry (List.mem_of_getElem? herror)
    have hself := get_clicked_self s.desk (.ofEntry e) list
    refine ⟨by rw [hdesk]; exact hclick, fun slot => ?_, fun p => ?_, ⟨target e.location, ?_⟩, ?_⟩
    · rw [hdesk, text_clicked]
    · rw [hdesk, get_clicked_panel]
    · obtain ⟨hrow, hcol⟩ := target_add_one hrange.1
      refine ⟨hrow, hcol, by rw [hdesk]; exact hself, leadsTo_of_goal? ?_⟩
      rw [hdesk, hself]
      rfl
    · cases list with
      | grammar => rw [hdesk]; exact get_clicked_code s.desk (.ofEntry e)
      | code =>
        have hgrammar := get_clicked_grammar s.desk (.ofEntry e)
        cases horigin : e.origin with
        | none =>
          rw [originTarget_ofEntry, horigin] at hgrammar
          rw [hdesk]
          exact hgrammar
        | some l =>
          rw [originTarget_ofEntry, horigin] at hgrammar
          obtain ⟨hrow, hcol⟩ := target_add_one (hrange.2 l horigin)
          refine ⟨target l, hrow, hcol, by rw [hdesk]; exact hgrammar, leadsTo_of_goal? ?_⟩
          rw [hdesk, hgrammar]
          rfl

end Session

end GrammarStudio
