import GrammarStudio.Editor.Buffer

/-!
# The desk: the five text areas

Two documents can be edited, the grammar and the code parsed with it.  Three panels show what an analysis produced and
cannot be edited.  What can happen to a text area from outside is data: the person types or moves the cursor, the host
reports where its cursor is and takes the requests it has carried out.

* `Document`, `Panel`, `Slot` — the names of the areas;
* `Desk` — one buffer per slot, with `Desk.get` and `Desk.update`;
* `Change` — one such event, with `Change.apply`.
-/

namespace GrammarStudio.Editor

/-- The documents a person edits. -/
inductive Document where
  | grammar
  | code
  deriving DecidableEq, Repr

/-- The read-only panels. -/
inductive Panel where
  | ast
  | astOptimized
  | profile
  deriving DecidableEq, Repr

/-- Every panel, in the order of the screen. -/
def Panel.all : List Panel := [.ast, .astOptimized, .profile]

/-- The heading of a panel. -/
def Panel.title : Panel → String
  | .ast => "AST"
  | .astOptimized => "Optimized AST"
  | .profile => "Profile"

/-- A text area: a document or a panel. -/
inductive Slot where
  | document (d : Document)
  | panel (p : Panel)
  deriving DecidableEq, Repr

abbrev Slot.grammar : Slot := .document .grammar
abbrev Slot.code : Slot := .document .code

/-- One buffer for each slot. -/
structure Desk where
  grammar : Buffer := {}
  code : Buffer := {}
  ast : Buffer := { readOnly := true }
  astOptimized : Buffer := { readOnly := true }
  profile : Buffer := { readOnly := true }
  deriving DecidableEq, Repr

namespace Desk

def get (desk : Desk) : Slot → Buffer
  | .document .grammar => desk.grammar
  | .document .code => desk.code
  | .panel .ast => desk.ast
  | .panel .astOptimized => desk.astOptimized
  | .panel .profile => desk.profile

/-- Changes the buffer of one slot. -/
def update (desk : Desk) (slot : Slot) (f : Buffer → Buffer) : Desk :=
  match slot with
  | .document .grammar => { desk with grammar := f desk.grammar }
  | .document .code => { desk with code := f desk.code }
  | .panel .ast => { desk with ast := f desk.ast }
  | .panel .astOptimized => { desk with astOptimized := f desk.astOptimized }
  | .panel .profile => { desk with profile := f desk.profile }

@[simp] theorem get_update_self (desk : Desk) (slot : Slot) (f : Buffer → Buffer) :
    (desk.update slot f).get slot = f (desk.get slot) := by
  rcases slot with (_ | _) | (_ | _ | _) <;> rfl

/-- A change of one slot leaves the others alone. -/
theorem get_update_of_ne (desk : Desk) {slot other : Slot} (f : Buffer → Buffer) (h : other ≠ slot) :
    (desk.update slot f).get other = desk.get other := by
  rcases slot with (_ | _) | (_ | _ | _) <;> rcases other with (_ | _) | (_ | _ | _) <;>
    first | rfl | exact absurd rfl h

end Desk

/-! ### Changes of a buffer -/

/-- A change of one text area. -/
inductive Change where
  | setText (text : String)
  | insert (text : String)
  | typed (text : String)
  | moveTo (target : Position)
  | scrollTo (row : Nat) (center : Bool)
  | requestFocus
  | requestLayout
  | syncCursor (index : Nat)
  | takeRequests
  deriving DecidableEq, Repr

/-- What a change makes of a buffer. -/
def Change.apply (change : Change) (b : Buffer) : Buffer :=
  match change with
  | .setText text => b.setText text
  | .insert text => b.insert text
  | .typed text => b.typed text
  | .moveTo target => b.moveTo target
  | .scrollTo row center => b.scrollTo row center
  | .requestFocus => b.requestFocus
  | .requestLayout => b.requestLayout
  | .syncCursor index => b.syncCursor index
  | .takeRequests => b.takeRequests.2

/-- Does the change leave the text of a buffer alone? -/
def Change.keepsText : Change → Bool
  | .setText _ | .insert _ | .typed _ => false
  | _ => true

theorem Change.text_apply {change : Change} (h : change.keepsText = true) (b : Buffer) :
    (change.apply b).text = b.text := by
  cases change <;> first | rfl | simp [keepsText] at h

end GrammarStudio.Editor
