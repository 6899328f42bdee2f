import GrammarStudio.Proofs.Session.Calls
import GrammarStudio.Proofs.Session.Documents
import GrammarStudio.Proofs.Session.ExactTime

/-!
# Nobody writes into a document but its author

A document is kept twice: in its text area, which the host changes, and in the session, which learns of a change by a
report.  No event of the session writes into the text area.  So for a document of which no change waits to be reported
the two texts are one, whatever else has happened, and the session works with what is on the screen.

* `Session.areaText`, `Session.commits` — what the screen shows of a document; the events that save the documents;
* `Event.leavesUnreported`, `unreported` — the documents with a change that is not reported, event by event;
* `Session.Faithful`, `Session.Faithful.step`, `Session.faithful_play` — the others are the same in both places;
* `Writes`, `Session.writes_step` — what an event writes into the store;
* `Session.documents_unaltered` — a request that is built and a commit that is made carry what the screen shows.
-/

namespace GrammarStudio

open Analysis Editor

/-! ### Reports -/

/-- Does a change of the document wait to be reported after the event, given whether one did before? -/
def Event.leavesUnreported {τ : Type} (d : Document) (before : Bool) : Event τ → Bool
  | .change slot c => before || (decide (slot = .document d) && !c.keepsText)
  | .edited other _ => before && decide (other ≠ d)
  | _ => before

/-- Does a change of the document wait to be reported after these turns? -/
def unreported {τ : Type} (d : Document) (turns : List (Turn τ)) : Bool :=
  turns.foldl (fun before t => t.event.leavesUnreported d before) false

section Reports

variable {τ : Type}

/-- An event that leaves the documents alone leaves nothing to report. -/
theorem Event.leavesUnreported_of_keeps {e : Event τ} (h : e.keepsDocuments = true) (d : Document) :
    e.leavesUnreported d false = false := by
  cases e with
  | change slot c =>
    cases slot with
    | document other => simp_all [leavesUnreported, keepsDocuments]
    | panel p => simp [leavesUnreported]
  | ready | edited | requestParse | setOptimization | setPackrat | setAutoRefresh | setPanelShown | errorClicked
  | tick | flush => rfl

/-- Where every change is reported at once, nothing is left to report. -/
theorem unreported_of_reported {turns : List (Turn τ)} (h : Reported (turns.map Turn.event)) (d : Document) :
    unreported d turns = false := by
  unfold unreported
  generalize hevents : turns.map Turn.event = events at h
  induction h generalizing turns with
  | nil =>
    rw [List.map_eq_nil_iff.mp hevents]
    rfl
  | edit other c now _ ih =>
    obtain ⟨first, turns, rfl, hfirst, hrest⟩ := List.map_eq_cons_iff.mp hevents
    obtain ⟨second, turns, rfl, hsecond, hrest⟩ := List.map_eq_cons_iff.mp hrest
    rw [List.foldl_cons, List.foldl_cons, hfirst, hsecond]
    have hreported : (Event.edited other now).leavesUnreported d
        ((Event.change (.document other) c : Event τ).leavesUnreported d false) = false := by
      by_cases heq : other = d <;> simp [Event.leavesUnreported, heq]
    rw [hreported]
    exact ih hrest
  | other keeps _ ih =>
    obtain ⟨first, turns, rfl, hfirst, hrest⟩ := List.map_eq_cons_iff.mp hevents
    rw [List.foldl_cons, hfirst, Event.leavesUnreported_of_keeps keeps]
    exact ih hrest

end Reports

/-- The text of a document in a request. -/
def Request.text (r : Request) : Document → String
  | .grammar => r.grammar
  | .code => r.code

/-! ### What is written -/

/-- What an event can make of a store: it saves both documents with these texts, and settings, or no document. -/
inductive Writes {σ : Type} [Store σ] (before : σ) : Option (Document → String) → σ → Prop
  | nothing : Writes before none before
  | settings (settings : Settings) : Writes before none (Persistence.save before settings)
  | panel (panel : Panel) (on : Bool) : Writes before none (Persistence.savePanel before panel on)
  | documents (texts : Document → String) (settings : Settings) :
      Writes before (some texts)
        (Persistence.save
          (Persistence.saveText (Persistence.saveText before .grammar (texts .grammar)) .code (texts .code)) settings)

namespace Session

variable {σ τ : Type}

/-- The text that the screen shows of a document. -/
def areaText (s : Session σ τ) (d : Document) : String := (s.desk.get (.document d)).text

theorem text_request (s : Session σ τ) (d : Document) : s.request.text d = s.text d := by
  cases d <;> rfl

/-- Does the event save the documents? -/
def commits [Clock τ] (s : Session σ τ) : Event τ → Bool
  | .tick now => (s.commit.poll now).1.isSome
  | .flush => s.commitPending
  | _ => false

/-- **What is true of the documents**, given which of them have changes to report: all others are the same in the
session as on the screen. -/
def Faithful (s : Session σ τ) (unreported : Document → Bool) : Prop :=
  ∀ d, unreported d = false → s.text d = s.areaText d

variable [Store σ] [Clock τ]

/-- **An event keeps session and screen together**, for all documents without a change to report. -/
theorem Faithful.step [Wording] {s : Session σ τ} {waiting : Document → Bool} (h : s.Faithful waiting) (engine : Engine)
    (e : Event τ) : (s.step engine e).Faithful fun d => e.leavesUnreported d (waiting d) := by
  intro d hreported
  rw [areaText, text_step]
  cases hkeeps : e.keepsDocuments with
  | true =>
    rw [desk_text_step engine s hkeeps]
    cases e with
    | edited other now =>
      dsimp only
      split
      case isTrue heq => rw [heq]
      case isFalse hne =>
        have hother : other ≠ d := fun heq => hne heq.symm
        exact h d (by simpa [Event.leavesUnreported, hother] using hreported)
    | change slot c =>
      have hbefore : waiting d = false := (Bool.or_eq_false_iff.mp hreported).1
      exact h d hbefore
    | ready | requestParse | setOptimization | setPackrat | setAutoRefresh | setPanelShown | errorClicked | tick
    | flush => exact h d hreported
  | false =>
    -- the host changes the text of a document, and not of this one, which would have to be reported
    cases e with
    | change slot c =>
      cases slot with
      | panel p => cases hkeeps
      | document other =>
        have hchanges : c.keepsText = false := hkeeps
        simp only [Event.leavesUnreported, hchanges, Bool.not_false, Bool.and_true, Bool.or_eq_false_iff,
          decide_eq_false_iff_not, Slot.document.injEq] at hreported
        obtain ⟨hbefore, hother⟩ := hreported
        have hdesk : ((s.desk.update (.document other) c.apply).get (.document d)) = s.desk.get (.document d) :=
          Desk.get_update_of_ne s.desk c.apply (by simpa using fun heq => hother heq.symm)
        exact (h d hbefore).trans (congrArg Buffer.text hdesk).symm
    | ready | edited | requestParse | setOptimization | setPackrat | setAutoRefresh | setPanelShown | errorClicked
    | tick | flush => cases hkeeps

/-- So do all turns. -/
theorem Faithful.play [Wording] {s : Session σ τ} {waiting : Document → Bool} (h : s.Faithful waiting)
    (turns : List (Turn τ)) :
    (s.play turns).Faithful fun d => turns.foldl (fun before t => t.event.leavesUnreported d before) (waiting d) := by
  induction turns generalizing s waiting with
  | nil => exact h
  | cons t rest ih => exact ih (h.step t.engine t.event)

/-- **After any turns the documents without a change to report are what the screen shows.** -/
theorem faithful_play [Wording] (store : σ) (turns : List (Turn τ)) :
    ((start store : Session σ τ).play turns).Faithful fun d => unreported d turns := by
  have hstart : (start store : Session σ τ).Faithful fun _ => false := fun d _ => (inStep_start store d).symm
  exact hstart.play turns

/-- A request that waits after an event has waited before, or is that of the analysis that the event starts. -/
theorem waits_or_starts [Wording] (engine : Engine) {s : Session σ τ} {e : Event τ} (h : s.phase.Resting) {r : Request}
    (hwaits : (s.step engine e).phase = .pending r) : s.phase = .pending r ∨ s.startOf? e = some r := by
  rw [phase_step engine e h] at hwaits
  have hleft : (if e.isTick then Phase.idle else s.phase) = .pending r → s.phase = .pending r := by
    intro hleft
    split at hleft
    · cases hleft
    · exact hleft
  cases hstart : s.startOf? e with
  | none =>
    rw [hstart] at hwaits
    exact .inl (hleft hwaits)
  | some started =>
    rw [hstart] at hwaits
    dsimp only at hwaits
    split at hwaits
    · exact .inl (hleft hwaits)
    · cases hwaits
      exact .inr rfl

/-- **What an event writes**: the documents of the session where it commits, and no document elsewhere. -/
theorem writes_step [Wording] (engine : Engine) (s : Session σ τ) (e : Event τ) :
    Writes s.store (if s.commits e then some s.text else none) (s.step engine e).store := by
  cases e with
  | ready =>
    show Writes s.store none s.ready.store
    unfold ready
    split
    · exact .nothing
    · rw [refresh_store]
      exact .nothing
  | requestParse =>
    show Writes s.store none s.requestParse.store
    unfold requestParse
    split
    · rw [begin_store]
      exact .nothing
    · exact .nothing
  | tick now =>
    show Writes s.store (if (s.commit.poll now).1.isSome then some s.text else none) (s.tick engine now).store
    cases h : (s.commit.poll now).1 with
    | none =>
      rw [tick_quiet engine h, dispatch_store]
      exact .nothing
    | some action =>
      rw [tick_due engine (by rw [h]; rfl), refresh_store, saved, persist]
      simp only [dispatch_store, dispatch_grammarText, dispatch_codeText, dispatch_settings]
      exact .documents s.text s.settings
  | flush =>
    show Writes s.store (if s.commitPending then some s.text else none) s.flush.store
    unfold flush
    cases hw : s.commit.waiting with
    | none =>
      simp only [commitPending, Debounce.isPending, Debounce.flush, hw, Option.map_none, Option.isSome_none]
      exact .nothing
    | some w =>
      simp only [commitPending, Debounce.isPending, Debounce.flush, hw, Option.map_some, Option.isSome_some]
      exact .documents s.text s.settings
  | edited d now =>
    have hstore : ((s.withText d (s.areaText d)).scheduleCommit now).store = s.store := by cases d <;> rfl
    show Writes s.store none ((s.withText d (s.areaText d)).scheduleCommit now).store
    rw [hstore]
    exact .nothing
  | setOptimization | setPackrat | setAutoRefresh => exact .settings _
  | setPanelShown panel on => exact .panel panel on
  | errorClicked | change => exact .nothing

/-- **The documents are never altered, and never lost.**  After any turns, with whatever engines: no event but the
host's own change of a document makes the screen show another text of it.  A document of which every change is reported
is in the session what the screen shows.  The analysis that an event starts, and so the request that comes to wait, has
the text that the screen shows of such a document.  So has a commit, and nothing else writes a document. -/
theorem documents_unaltered [Wording] (store : σ) (turns : List (Turn τ)) :
    let s : Session σ τ := (start store).play turns
    (Reported (turns.map Turn.event) → ∀ d, unreported d turns = false) ∧
      (∀ d, unreported d turns = false → s.text d = s.areaText d) ∧
      ∀ (engine : Engine) (e : Event τ),
        (e.keepsDocuments = true → ∀ d, (s.step engine e).areaText d = s.areaText d) ∧
        (∀ r, s.startOf? e = some r → ∀ d, unreported d turns = false → r.text d = s.areaText d) ∧
        (∀ r, (s.step engine e).phase = .pending r → s.phase = .pending r ∨ s.startOf? e = some r) ∧
        ∃ saved, Writes s.store saved (s.step engine e).store ∧ saved.isSome = s.commits e ∧
          ∀ texts, saved = some texts → ∀ d, unreported d turns = false → texts d = s.areaText d := by
  intro s
  have hfaithful : s.Faithful fun d => unreported d turns := faithful_play store turns
  have hresting : s.phase.Resting := play_resting (s := start store) trivial turns
  refine ⟨fun h d => unreported_of_reported h d, hfaithful, fun engine e =>
    ⟨fun hkeeps d => desk_text_step engine s hkeeps d, fun r hstart d hd => ?_, fun r hwaits => ?_,
      ⟨_, writes_step engine s e, ?_, fun texts hsaved d hd => ?_⟩⟩⟩
  · rw [request_of_startOf? hstart, text_request]
    exact hfaithful d hd
  · exact waits_or_starts engine hresting hwaits
  · split <;> simp_all
  · split at hsaved
    · cases hsaved
      exact hfaithful d hd
    · cases hsaved

/-- An outcome is shown, an error is clicked and a panel is shown; the code is edited, and at last the grammar, which
is not reported.  The commit that is due carries the code of the screen, and the grammar as it was. -/
theorem documents_unaltered_while_typing :
    let engine : Engine := fun r => .error (.ended r.grammar r.code)
    let store : Store.Memory := ⟨[("autoRefresh", "true"), ("grammarText", "start <- 'a'")]⟩
    let events : List (Event ℚ) :=
      [.ready, .tick 0, .errorClicked .grammar 0, .change .code (.insert "b"), .edited .code 1,
        .setPanelShown .profile true, .change .grammar (.typed "start <- 'b'")]
    let turns := events.map (Turn.mk engine)
    let s : Session Store.Memory ℚ := (start store).play turns
    (unreported .code turns = false ∧ unreported .grammar turns = true) ∧
      s.startOf? (.tick 2) = some s.request ∧ s.commits (.tick 2) = true ∧
      s.request.text .code = s.areaText .code ∧ s.request.text .grammar ≠ s.areaText .grammar ∧
      (s.step engine (.tick 2)).areaText .grammar = "start <- 'b'" := by
  intro engine store events turns s
  have hcode : unreported .code turns = false := rfl
  have hstart : s.startOf? (.tick 2) = some s.request := by decide +kernel
  obtain ⟨-, -, hstep⟩ := documents_unaltered store turns
  obtain ⟨hkeeps, hrequests, -, -⟩ := hstep engine (.tick 2)
  exact ⟨⟨hcode, rfl⟩, hstart, by decide +kernel, hrequests _ hstart .code hcode, by decide +kernel,
    (hkeeps rfl .grammar).trans (by decide +kernel)⟩

end Session

end GrammarStudio
