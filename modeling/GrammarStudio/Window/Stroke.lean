/-!
# Strokes

What the keyboard does to a text with a cursor.  The cursor stands before the character with its index.

* `Stroke` — a key, or a text that is typed;
* `Stroke.apply` — the text and the cursor afterwards;
* `Stroke.move` — the cursor of a text that cannot be changed.
-/

namespace GrammarStudio.Window

inductive Stroke where
  | text (t : String)
  | enter
  | backspace
  | delete
  | left
  | right
  deriving DecidableEq, Repr

namespace Stroke

/-- Does the stroke count as an edit, even if it then changes nothing?  A line break comes from its key only. -/
def isEdit : Stroke → Bool
  | .text t => t ≠ "" && t ≠ "\n" && t ≠ "\r"
  | .enter | .backspace | .delete => true
  | .left | .right => false

/-- The characters a stroke puts in. -/
def inserted : Stroke → List Char
  | .text t => if isEdit (.text t) then t.toList else []
  | .enter => ['\n']
  | _ => []

/-- A text and its cursor after a stroke. -/
def apply (s : Stroke) (chars : List Char) (cursor : Nat) : List Char × Nat :=
  match s with
  | .backspace => (chars.take (cursor - 1) ++ chars.drop cursor, cursor - 1)
  | .delete => (chars.take cursor ++ chars.drop (cursor + 1), cursor)
  | .left => (chars, cursor - 1)
  | .right => (chars, min (cursor + 1) chars.length)
  | s => (chars.take cursor ++ s.inserted ++ chars.drop cursor, cursor + s.inserted.length)

/-- The cursor of a fixed text after a stroke.  Backspace still moves it. -/
def move (s : Stroke) (length cursor : Nat) : Nat :=
  match s with
  | .backspace | .left => cursor - 1
  | .right => min (cursor + 1) length
  | _ => cursor

end Stroke

end GrammarStudio.Window
