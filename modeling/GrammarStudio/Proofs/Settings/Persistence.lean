import GrammarStudio.Proofs.Store.Lawful
import GrammarStudio.Settings.Persistence

/-!
# Saving and loading settings

Eight keys hold what a session remembers, and no two things share one.  So what is saved is loaded again, and saving one
thing leaves what is loaded of the others.

* `get_write` — a write as a change of one key;
* `load_save`, `load_savePanel`, `load_saveText` — the settings after each kind of save;
* `loadText_save`, `loadText_savePanel`, `loadText_saveText` — a document after each kind of save;
* `load_saveAll`, `loadText_saveAll` — settings and documents after all of them are saved.
-/

namespace GrammarStudio.Persistence

open Editor

variable {σ : Type} [Store σ]

/-! ### Single writes -/

theorem write_reliable {store : σ} (h : Store.Reliable store) (key value : String) :
    Store.Reliable (write store key value) :=
  h.after_set key value

theorem save_reliable {store : σ} (h : Store.Reliable store) (s : Settings) : Store.Reliable (save store s) :=
  write_reliable (write_reliable (write_reliable h _ _) _ _) _ _

variable [Store.Lawful σ]

/-- A write changes what is under its key, and under no other. -/
theorem get_write {store : σ} (h : Store.Reliable store) (key value other : String) :
    Store.get (write store key value) other = if other = key then some value else Store.get store other :=
  Store.Lawful.get_set store key value other (h.set_ok key value)

/-- A flag that is kept is found again. -/
theorem loadFlag_write_self {store : σ} (h : Store.Reliable store) (key : String) (b : Bool) :
    loadFlag (write store key (flagText b)) key = b := by
  rw [loadFlag, get_write h, if_pos rfl]
  cases b <;> decide

theorem loadFlag_write_of_ne {store : σ} (h : Store.Reliable store) {key other : String} (hne : other ≠ key)
    (value : String) : loadFlag (write store key value) other = loadFlag store other := by
  rw [loadFlag, get_write h, if_neg hne, loadFlag]

theorem loadText_write_of_ne {store : σ} (h : Store.Reliable store) {key : String} {d : Document}
    (hne : d.key ≠ key) (value : String) : loadText (write store key value) d = loadText store d := by
  rw [loadText, get_write h, if_neg hne, loadText]

/-! ### Documents -/

theorem loadText_saveText {store : σ} (h : Store.Reliable store) (d other : Document) (text : String) :
    loadText (saveText store d text) other = if other = d then text else loadText store other := by
  rw [loadText, saveText, get_write h]
  cases d <;> cases other <;> rfl

/-- A document is under no key of a setting. -/
theorem load_saveText {store : σ} (h : Store.Reliable store) (d : Document) (text : String) :
    load (saveText store d text) = load store := by
  have hflag : ∀ key, key ≠ d.key → loadFlag (saveText store d text) key = loadFlag store key :=
    fun key hne => loadFlag_write_of_ne h hne text
  rw [load, load, loadPanels, loadPanels, saveText, get_write h, ← saveText,
    if_neg (by cases d <;> decide), hflag _ (by cases d <;> decide), hflag _ (by cases d <;> decide),
    hflag _ (by cases d <;> decide), hflag _ (by cases d <;> decide), hflag _ (by cases d <;> decide)]

/-! ### Settings -/

/-- The settings that are saved are loaded again; the panels stay as they were kept. -/
theorem load_save {store : σ} (h : Store.Reliable store) (s : Settings) :
    load (save store s) = { s with panels := loadPanels store } := by
  have h1 := write_reliable h Settings.optimizationKey s.optimization.name
  have h2 := write_reliable h1 Settings.packratKey (flagText s.packrat)
  have hpanel : ∀ key, key ≠ Settings.optimizationKey → key ≠ Settings.packratKey →
      key ≠ Settings.autoRefreshKey → loadFlag (save store s) key = loadFlag store key := by
    intro key hopt hpack hauto
    rw [save, loadFlag_write_of_ne h2 hauto, loadFlag_write_of_ne h1 hpack, loadFlag_write_of_ne h hopt]
  have hopt : Store.get (save store s) Settings.optimizationKey = some s.optimization.name := by
    rw [save, get_write h2, if_neg (by decide), get_write h1, if_neg (by decide), get_write h, if_pos rfl]
  have hpack : loadFlag (save store s) Settings.packratKey = s.packrat := by
    rw [save, loadFlag_write_of_ne h2 (by decide), loadFlag_write_self h1]
  have hauto : loadFlag (save store s) Settings.autoRefreshKey = s.autoRefresh := by
    rw [save, loadFlag_write_self h2]
  rw [load, loadPanels, hopt, hpack, hauto, hpanel Panel.ast.key (by decide) (by decide) (by decide),
    hpanel Panel.astOptimized.key (by decide) (by decide) (by decide),
    hpanel Panel.profile.key (by decide) (by decide) (by decide)]
  simp [loadPanels]

/-- A panel is kept under a key of its own. -/
theorem load_savePanel {store : σ} (h : Store.Reliable store) (panel : Panel) (on : Bool) :
    load (savePanel store panel on) = { load store with panels := (loadPanels store).set panel on } := by
  have hself : loadFlag (savePanel store panel on) panel.key = on := loadFlag_write_self h panel.key on
  have hflag : ∀ key, key ≠ panel.key → loadFlag (savePanel store panel on) key = loadFlag store key :=
    fun key hne => loadFlag_write_of_ne h hne _
  have hopt : Store.get (savePanel store panel on) Settings.optimizationKey =
      Store.get store Settings.optimizationKey := by
    rw [savePanel, get_write h, if_neg (by cases panel <;> decide)]
  rw [load, load, hopt, hflag Settings.packratKey (by cases panel <;> decide),
    hflag Settings.autoRefreshKey (by cases panel <;> decide)]
  congr 1
  cases panel with
  | ast =>
    simp only [loadPanels, Panels.set, hself, hflag Panel.astOptimized.key (by decide),
      hflag Panel.profile.key (by decide)]
  | astOptimized =>
    simp only [loadPanels, Panels.set, hself, hflag Panel.ast.key (by decide), hflag Panel.profile.key (by decide)]
  | profile =>
    simp only [loadPanels, Panels.set, hself, hflag Panel.ast.key (by decide), hflag Panel.astOptimized.key (by decide)]

theorem loadText_save {store : σ} (h : Store.Reliable store) (s : Settings) (d : Document) :
    loadText (save store s) d = loadText store d := by
  have h1 := write_reliable h Settings.optimizationKey s.optimization.name
  have h2 := write_reliable h1 Settings.packratKey (flagText s.packrat)
  rw [save, loadText_write_of_ne h2 (by cases d <;> decide), loadText_write_of_ne h1 (by cases d <;> decide),
    loadText_write_of_ne h (by cases d <;> decide)]

theorem loadText_savePanel {store : σ} (h : Store.Reliable store) (panel : Panel) (on : Bool) (d : Document) :
    loadText (savePanel store panel on) d = loadText store d :=
  loadText_write_of_ne h (by cases d <;> cases panel <;> decide) _

/-! ### Documents and settings together -/

section All

variable {store : σ} (h : Store.Reliable store) (grammar code : String) (s : Settings)

include h

omit [Store.Lawful σ] in
theorem reliable_saveTexts : Store.Reliable (saveText (saveText store .grammar grammar) .code code) :=
  write_reliable (write_reliable h _ grammar) _ code

/-- Documents that are saved with settings are found again. -/
theorem loadText_saveAll (d : Document) :
    loadText (save (saveText (saveText store .grammar grammar) .code code) s) d =
      match d with
      | .grammar => grammar
      | .code => code := by
  have hgrammar : Store.Reliable (saveText store .grammar grammar) := write_reliable h _ grammar
  rw [loadText_save (reliable_saveTexts h grammar code), loadText_saveText hgrammar, loadText_saveText h]
  cases d <;> rfl

/-- So are the settings; the panels stay as they were kept. -/
theorem load_saveAll :
    load (save (saveText (saveText store .grammar grammar) .code code) s) = { s with panels := loadPanels store } := by
  have hgrammar : Store.Reliable (saveText store .grammar grammar) := write_reliable h _ grammar
  have hload := (load_saveText hgrammar .code code).trans (load_saveText h .grammar grammar)
  have hpanels : loadPanels (saveText (saveText store .grammar grammar) .code code) = loadPanels store :=
    congrArg Settings.panels hload
  rw [load_save (reliable_saveTexts h grammar code), hpanels]

end All

end GrammarStudio.Persistence
