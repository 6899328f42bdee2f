import GrammarStudio.Text.Position

/-!
# An editing buffer

The model behind one text area.  Besides its text and cursor a buffer holds four one-shot requests to the host that
draws it: put the cursor somewhere, scroll to a row, take the keyboard focus, measure the layout again.  Each stays
until the host takes it.

* `Buffer.setText`, `Buffer.insert` — the two ways a text is filled by the program;
* `Buffer.typed` — the host's own change of the text, behind the cursor's back;
* `Buffer.moveTo`, `Buffer.scrollTo`, `Buffer.requestFocus`, `Buffer.requestLayout` — requests;
* `Buffer.takeRequests` — the host takes what is asked of it;
* `Buffer.syncCursor` — the host reports where its cursor is.
-/

namespace GrammarStudio.Editor

/-- Bring a row into sight, in the middle of the area or anywhere. -/
structure Scroll where
  row : Nat
  center : Bool
  deriving DecidableEq, Repr

/-- A text, a cursor that need not lie inside it, and the pending requests. -/
structure Buffer where
  text : String := ""
  readOnly : Bool := false
  cursor : Position := ⟨0, 0⟩
  cursorMoved : Bool := false
  scroll : Option Scroll := none
  focusWanted : Bool := false
  layoutWanted : Bool := false
  deriving DecidableEq, Repr

/-- What a host finds when it takes all requests.  The cursor comes as a character index. -/
structure Requests where
  cursor : Option Nat
  scroll : Option Scroll
  focus : Bool
  layout : Bool
  deriving DecidableEq, Repr

namespace Buffer

/-- The character index of the cursor, inside the text. -/
def cursorIndex (b : Buffer) : Nat := b.cursor.index b.text.toList

/-- A new text, with the cursor at its start. -/
def setText (b : Buffer) (text : String) : Buffer :=
  { b with text := text, cursor := ⟨0, 0⟩, cursorMoved := true }

/-- Splices `t` in at the cursor and leaves the cursor behind it. -/
def insert (b : Buffer) (t : String) : Buffer :=
  let chars := b.text.toList
  let i := b.cursorIndex
  let spliced := chars.take i ++ t.toList ++ chars.drop i
  { b with
    text := String.ofList spliced
    cursor := Text.positionAt spliced (i + t.toList.length)
    cursorMoved := true }

/-- The host changed the text itself; cursor and requests stay as they were. -/
def typed (b : Buffer) (text : String) : Buffer := { b with text := text }

def moveTo (b : Buffer) (p : Position) : Buffer := { b with cursor := p, cursorMoved := true }

def scrollTo (b : Buffer) (row : Nat) (center : Bool) : Buffer := { b with scroll := some ⟨row, center⟩ }

def requestFocus (b : Buffer) : Buffer := { b with focusWanted := true }

def requestLayout (b : Buffer) : Buffer := { b with layoutWanted := true }

/-- The host's cursor stands before the character with this index.  No request follows from it. -/
def syncCursor (b : Buffer) (index : Nat) : Buffer :=
  { b with cursor := Text.positionAt b.text.toList index }

/-- The character index the cursor was sent to, if a move is pending. -/
def cursorRequest (b : Buffer) : Option Nat := if b.cursorMoved then some b.cursorIndex else none

/-- All pending requests. -/
def requests (b : Buffer) : Requests :=
  ⟨b.cursorRequest, b.scroll, b.focusWanted, b.layoutWanted⟩

/-- The pending requests, and the buffer without them. -/
def takeRequests (b : Buffer) : Requests × Buffer :=
  (b.requests, { b with cursorMoved := false, scroll := none, focusWanted := false, layoutWanted := false })

@[simp] theorem setText_text (b : Buffer) (t : String) : (b.setText t).text = t := rfl

@[simp] theorem moveTo_text (b : Buffer) (p : Position) : (b.moveTo p).text = b.text := rfl

/-- An insertion into an emptied buffer is the inserted text. -/
theorem insert_setText_empty (b : Buffer) (t : String) : ((b.setText "").insert t).text = t := by
  simp [insert, setText]

end Buffer

end GrammarStudio.Editor
