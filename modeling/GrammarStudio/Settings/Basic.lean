import GrammarStudio.Editor.Desk

/-!
# Settings

What a person can switch: how the engine optimises, two flags, and which panels are shown.

* `Optimization` — with its name and its label;
* `Panels` — the panels that are shown;
* `Settings` — all of it.
-/

namespace GrammarStudio

open Editor

/-- Does the engine optimise the grammar's trees? -/
inductive Optimization where
  | full
  | off
  deriving DecidableEq, Repr, Inhabited

namespace Optimization

def all : List Optimization := [.full, .off]

/-- The name under which the choice is kept. -/
def name : Optimization → String
  | .full => "all"
  | .off => "none"

/-- The choice of a name; a name that is not known means the default. -/
def ofName (name : String) : Optimization := if name = "none" then .off else .full

/-- What the choice is called on the screen. -/
def label : Optimization → String
  | .full => "All optimizations"
  | .off => "No optimization"

def enabled (o : Optimization) : Bool := o == .full

@[simp] theorem ofName_name (o : Optimization) : ofName o.name = o := by cases o <;> decide

end Optimization

/-- Which panels are shown. -/
structure Panels where
  ast : Bool := false
  astOptimized : Bool := false
  profile : Bool := false
  deriving DecidableEq, Repr, Inhabited

namespace Panels

def get (p : Panels) : Panel → Bool
  | .ast => p.ast
  | .astOptimized => p.astOptimized
  | .profile => p.profile

def set (p : Panels) (panel : Panel) (shown : Bool) : Panels :=
  match panel with
  | .ast => { p with ast := shown }
  | .astOptimized => { p with astOptimized := shown }
  | .profile => { p with profile := shown }

/-- The panels that are shown, in the order of the screen. -/
def shown (p : Panels) : List Panel := Panel.all.filter p.get

theorem get_set (p : Panels) (panel other : Panel) (b : Bool) :
    (p.set panel b).get other = if other = panel then b else p.get other := by
  cases panel <;> cases other <;> rfl

end Panels

structure Settings where
  optimization : Optimization := .full
  packrat : Bool := false
  autoRefresh : Bool := false
  panels : Panels := {}
  deriving DecidableEq, Repr, Inhabited

end GrammarStudio
