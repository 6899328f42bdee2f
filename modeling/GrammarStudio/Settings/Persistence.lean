import GrammarStudio.Settings.Basic
import GrammarStudio.Store.Basic

/-!
# Settings and documents in a store

Each setting and each document has a key.  Reading falls back to defaults; a write that fails is passed over, and the
session goes on in memory.

* `Settings.load`, `loadText` — what a store holds;
* `Settings.save`, `saveText`, `savePanel` — the writes, in their order.
-/

namespace GrammarStudio

open Editor

/-- The key of a document. -/
def Editor.Document.key : Document → String
  | .grammar => "grammarText"
  | .code => "codeText"

/-- The key of a panel. -/
def Editor.Panel.key : Panel → String
  | .ast => "show-ast"
  | .astOptimized => "show-ast-optimized"
  | .profile => "show-profile"

def Settings.optimizationKey : String := "optimizationMode"
def Settings.packratKey : String := "packrat"
def Settings.autoRefreshKey : String := "autoRefresh"

/-- How a flag is kept. -/
def flagText (b : Bool) : String := if b then "true" else "false"

namespace Persistence

variable {σ : Type} [Store σ]

/-- A flag is set when exactly this text is kept under its key. -/
def loadFlag (store : σ) (key : String) : Bool := Store.get store key == some (flagText true)

/-- The document a store holds; none is the empty one. -/
def loadText (store : σ) (d : Document) : String := (Store.get store d.key).getD ""

/-- The panels a store shows. -/
def loadPanels (store : σ) : Panels :=
  { ast := loadFlag store Panel.ast.key
    astOptimized := loadFlag store Panel.astOptimized.key
    profile := loadFlag store Panel.profile.key }

/-- The settings a store holds. -/
def load (store : σ) : Settings :=
  { optimization := Optimization.ofName ((Store.get store Settings.optimizationKey).getD "")
    packrat := loadFlag store Settings.packratKey
    autoRefresh := loadFlag store Settings.autoRefreshKey
    panels := loadPanels store }

/-- A write whose failure is passed over. -/
def write (store : σ) (key value : String) : σ := (Store.set store key value).1

def saveText (store : σ) (d : Document) (text : String) : σ := write store d.key text

def savePanel (store : σ) (panel : Panel) (shown : Bool) : σ := write store panel.key (flagText shown)

/-- Saves the settings apart from the panels, which are saved one by one. -/
def save (store : σ) (s : Settings) : σ :=
  let store := write store Settings.optimizationKey s.optimization.name
  let store := write store Settings.packratKey (flagText s.packrat)
  write store Settings.autoRefreshKey (flagText s.autoRefresh)

end Persistence

end GrammarStudio
