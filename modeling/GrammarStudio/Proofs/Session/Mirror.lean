import GrammarStudio.Proofs.Session.Documents
import GrammarStudio.Proofs.Settings.Persistence

/-!
# The store mirrors the session

Settings and panels are saved when they change, the documents when a commit is due or the session ends.  With a store
whose writes succeed, the store therefore holds the settings at all times and the documents whenever no commit waits,
and a new session over the store goes on where the old one ended.

* `Session.Mirrored` — the invariant;
* `Session.mirrored_persist` — saving everything establishes it;
* `Session.mirrored_step` — every event keeps it;
* `Session.restart_reproduces` — a session that is flushed comes back as it was.
-/

namespace GrammarStudio

open Analysis Editor

namespace Session

variable {σ τ : Type}

/-- **The mirror.**  The store holds the settings, the panels shown are those of the settings, and the store holds the
documents unless a commit waits. -/
structure Mirrored [Store σ] (s : Session σ τ) : Prop where
  settings : Persistence.load s.store = s.settings
  panels : s.shown = s.settings.panels
  texts : s.commitPending = false → ∀ d, Persistence.loadText s.store d = s.text d

variable [Store σ] {s t : Session σ τ}

/-- The mirror is about the store, what is saved in it, and whether a commit waits. -/
theorem Mirrored.congr (h : s.Mirrored) (hstore : t.store = s.store) (hsettings : t.settings = s.settings)
    (hshown : t.shown = s.shown) (hcommit : t.commit = s.commit) (htext : ∀ d, t.text d = s.text d) : t.Mirrored := by
  refine ⟨by rw [hstore, hsettings, h.settings], by rw [hshown, hsettings, h.panels], fun hc d => ?_⟩
  rw [hstore, htext]
  exact h.texts (by rw [← hc, commitPending, commitPending, hcommit]) d

theorem Mirrored.begin (h : s.Mirrored) : s.begin.Mirrored :=
  h.congr (begin_store s) (begin_settings s) (begin_shown s) (begin_commit s) fun
    | .grammar => begin_grammarText s
    | .code => begin_codeText s

theorem Mirrored.refresh (h : s.Mirrored) : s.refresh.Mirrored := by
  unfold Session.refresh
  split
  · exact h.begin
  · exact h

theorem Mirrored.dispatch [Wording] (h : s.Mirrored) (engine : Engine) : (s.dispatch engine).Mirrored :=
  h.congr (dispatch_store engine s) (dispatch_settings engine s) (dispatch_shown engine s) (dispatch_commit engine s)
    fun
    | .grammar => dispatch_grammarText engine s
    | .code => dispatch_codeText engine s

variable [Store.Lawful σ]

/-- Documents that are saved are found again. -/
theorem loadText_persist (reliable : Store.Reliable s.store) (d : Document) :
    Persistence.loadText s.persist.store d = s.text d := by
  refine (Persistence.loadText_saveAll reliable s.grammarText s.codeText s.settings d).trans ?_
  cases d <;> rfl

/-- **Saving everything makes the store a mirror**, if it held the settings before. -/
theorem mirrored_persist (reliable : Store.Reliable s.store) (settings : Persistence.load s.store = s.settings)
    (panels : s.shown = s.settings.panels) : s.persist.Mirrored := by
  refine ⟨?_, panels, fun _ d => loadText_persist reliable d⟩
  have hpanels : Persistence.loadPanels s.store = s.settings.panels := congrArg Settings.panels settings
  refine (Persistence.load_saveAll reliable s.grammarText s.codeText s.settings).trans ?_
  rw [hpanels]
  rfl

omit [Store.Lawful σ] in
theorem persist_reliable (reliable : Store.Reliable s.store) : Store.Reliable s.persist.store :=
  Persistence.save_reliable (Persistence.write_reliable (Persistence.write_reliable reliable _ _) _ _) _

/-- New settings are saved at once; the panels among them are those that are kept. -/
theorem mirrored_changeSettings [Clock τ] (reliable : Store.Reliable s.store) (h : s.Mirrored) (settings : Settings)
    (panels : settings.panels = s.settings.panels) (now : τ) : (s.changeSettings settings now).Mirrored := by
  have hkept : Persistence.loadPanels s.store = settings.panels :=
    (congrArg Settings.panels h.settings).trans panels.symm
  refine ⟨?_, h.panels.trans panels.symm, fun hc => Bool.noConfusion hc⟩
  refine (Persistence.load_save reliable settings).trans ?_
  rw [hkept]
  rfl

/-- A panel is saved at once, and noted in the settings. -/
theorem mirrored_setPanelShown (reliable : Store.Reliable s.store) (h : s.Mirrored) (panel : Panel) (on : Bool) :
    (s.setPanelShown panel on).Mirrored := by
  refine ⟨?_, rfl, fun hc d => ?_⟩
  · refine (Persistence.load_savePanel reliable panel on).trans ?_
    rw [h.settings, show Persistence.loadPanels s.store = s.shown from
      (congrArg Settings.panels h.settings).trans h.panels.symm]
    rfl
  · exact (Persistence.loadText_savePanel reliable panel on d).trans (h.texts hc d)

/-- A flush saves what waits.  With nothing to save it changes nothing that is mirrored. -/
theorem mirrored_flush (reliable : Store.Reliable s.store) (h : s.Mirrored) :
    s.flush.Mirrored ∧ s.flush.commitPending = false ∧ Store.Reliable s.flush.store := by
  unfold flush
  cases hw : s.commit.waiting with
  | some w =>
    simp only [Debounce.flush, hw, Option.map_some]
    let t : Session σ τ := { s with commit := { s.commit with waiting := none } }
    exact ⟨mirrored_persist (s := t) reliable h.settings h.panels, rfl, persist_reliable (s := t) reliable⟩
  | none =>
    simp only [Debounce.flush, hw, Option.map_none]
    have hsaved : s.commitPending = false := by simp [commitPending, Debounce.isPending, hw]
    exact ⟨⟨h.settings, h.panels, fun _ => h.texts hsaved⟩, rfl, reliable⟩

variable [Clock τ]

/-- **Every event keeps the mirror**, and the store stays one whose writes succeed. -/
theorem mirrored_step [Wording] (engine : Engine) (e : Event τ) (h : Store.Reliable s.store ∧ s.Mirrored) :
    Store.Reliable (s.step engine e).store ∧ (s.step engine e).Mirrored := by
  obtain ⟨reliable, hm⟩ := h
  cases e with
  | ready =>
    show Store.Reliable s.ready.store ∧ s.ready.Mirrored
    unfold ready
    split
    · exact ⟨reliable, hm⟩
    · rw [refresh_store]
      exact ⟨reliable, Mirrored.refresh (s := { s with engineReady := true }) ⟨hm.settings, hm.panels, hm.texts⟩⟩
  | requestParse =>
    show Store.Reliable s.requestParse.store ∧ s.requestParse.Mirrored
    unfold requestParse
    split
    · rw [begin_store]
      exact ⟨reliable, hm.begin⟩
    · exact ⟨reliable, hm⟩
  | tick now =>
    show Store.Reliable (s.tick engine now).store ∧ (s.tick engine now).Mirrored
    have hd := hm.dispatch engine
    have hr : Store.Reliable (s.dispatch engine).store := by
      rw [dispatch_store]
      exact reliable
    cases hc : (s.commit.poll now).1 with
    | none =>
      rw [tick_quiet engine hc]
      exact ⟨hr, hd⟩
    | some action =>
      rw [tick_due engine (by rw [hc]; rfl), refresh_store]
      let polled := { s.dispatch engine with commit := (s.commit.poll now).2 }
      exact ⟨persist_reliable (s := polled) hr, (mirrored_persist (s := polled) hr hd.settings hd.panels).refresh⟩
  | flush => exact ⟨(mirrored_flush reliable hm).2.2, (mirrored_flush reliable hm).1⟩
  | edited d now =>
    -- the store is behind from now on, until the commit that is scheduled
    refine ⟨?_, ?_, ?_, fun hc => Bool.noConfusion hc⟩
    · cases d <;> exact reliable
    · cases d <;> exact hm.settings
    · cases d <;> exact hm.panels
  | setOptimization o now =>
    exact ⟨Persistence.save_reliable reliable _,
      mirrored_changeSettings reliable hm { s.settings with optimization := o } rfl now⟩
  | setPackrat on now =>
    exact ⟨Persistence.save_reliable reliable _,
      mirrored_changeSettings reliable hm { s.settings with packrat := on } rfl now⟩
  | setAutoRefresh on now =>
    exact ⟨Persistence.save_reliable reliable _,
      mirrored_changeSettings reliable hm { s.settings with autoRefresh := on } rfl now⟩
  | setPanelShown panel on =>
    exact ⟨Persistence.write_reliable reliable _ _, mirrored_setPanelShown reliable hm panel on⟩
  | errorClicked list index => exact ⟨reliable, hm.settings, hm.panels, hm.texts⟩
  | change slot c => exact ⟨reliable, hm.settings, hm.panels, hm.texts⟩

omit [Store.Lawful σ] in
/-- A session that starts is what its store holds. -/
theorem mirrored_start (store : σ) : (start store : Session σ τ).Mirrored :=
  ⟨rfl, rfl, fun _ d => by cases d <;> rfl⟩

/-- **The store mirrors the session, and a restart reproduces it.**  Over a store whose writes succeed, after any
history the store holds the settings and, unless a commit waits, the documents.  Hence a new session over the store of
the flushed one has its settings, panels and documents, and shows these documents in its text areas, which are the
texts of the old areas when every change was reported. -/
theorem restart_reproduces [Wording] (engine : Engine) {store : σ} (reliable : Store.Reliable store)
    (events : List (Event τ)) :
    let s : Session σ τ := run engine (start store) events
    let again : Session σ τ := start s.flush.store
    s.Mirrored ∧ again.settings = s.settings ∧ again.shown = s.shown ∧
      (∀ d, again.text d = s.text d ∧ (again.desk.get (.document d)).text = s.text d) ∧
      (Reported events → ∀ d, (again.desk.get (.document d)).text = (s.desk.get (.document d)).text) := by
  intro s again
  have h : Store.Reliable s.store ∧ s.Mirrored :=
    run_preserves engine (P := fun s => Store.Reliable s.store ∧ s.Mirrored)
      (fun _ e _ => mirrored_step engine e) ⟨reliable, mirrored_start store⟩
  obtain ⟨hflush, hsaved, _⟩ := mirrored_flush h.1 h.2
  have hsettings : again.settings = s.settings := by
    refine hflush.settings.trans ?_
    unfold flush
    split <;> rfl
  have htext : ∀ d, again.text d = s.text d := by
    intro d
    refine Eq.trans ?_ ((hflush.texts hsaved d).trans (text_step engine s .flush d))
    cases d <;> rfl
  have hdesk : ∀ d, (again.desk.get (.document d)).text = s.text d := fun d => (inStep_start _ d).trans (htext d)
  refine ⟨h.2, hsettings, (congrArg Settings.panels hsettings).trans h.2.panels.symm,
    fun d => ⟨htext d, hdesk d⟩, fun reported d => ?_⟩
  exact (hdesk d).trans (inStep_run engine (inStep_start store) reported d).symm

/-- A store with junk under two keys, an edit that still waits at the end, and a setting changed in between. -/
theorem restart_reproduces_over_junk :
    let engine : Engine := fun r => .error (.ended r.grammar r.code)
    let store : Store.Journal Store.Memory :=
      { inner := ⟨[("codeText", "a"), ("optimizationMode", "only"), ("packrat", "TRUE"), ("show-ast", "true")]⟩ }
    let events : List (Event Float) :=
      [.ready, .setOptimization .off 0, .tick 1, .change .grammar (.insert "start <- 'a'"), .edited .grammar 2]
    let s : Session (Store.Journal Store.Memory) Float := run engine (start store) events
    let again : Session (Store.Journal Store.Memory) Float := start s.flush.store
    Store.Reliable store ∧ s.commitPending = true ∧ again.settings = s.settings ∧ again.shown = s.shown ∧
      ∀ d, (again.desk.get (.document d)).text = (s.desk.get (.document d)).text := by
  intro engine store events s again
  have reliable : Store.Reliable store := Store.Journal.reliable rfl (Store.Memory.reliable _)
  have reported : Reported events :=
    .other rfl (.other rfl (.other rfl (.edit .grammar (.insert "start <- 'a'") 2 .nil)))
  obtain ⟨_, hsettings, hshown, _, hdesk⟩ := restart_reproduces engine reliable events
  exact ⟨reliable, rfl, hsettings, hshown, hdesk reported⟩

end Session

end GrammarStudio
