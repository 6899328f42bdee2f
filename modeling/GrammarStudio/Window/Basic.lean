import GrammarStudio.Session.Transition
import GrammarStudio.Window.Screen
import GrammarStudio.Window.Stroke

/-!
# The window

The window shows a session and passes on to it what a person does.  It is drawn again and again; each time is an
update.  An update lets time go on, draws everything, and only then applies what was done, so what is drawn is the
session before that.

* `Window` — a session with what only the window knows: cursors, focus, the open list, the pointer;
* `Input` — what reaches an update from outside;
* `Window.drawArea` — one text area, with its cursor, focus and gutter;
* `Window.update` — an update;
* `Window.click`, `Window.hover`, `Window.close` — what a person does, in updates.
-/

namespace GrammarStudio

open Diagnostics Editor Window

/-- A session on the screen. -/
structure Window (σ τ : Type) where
  session : Session σ τ
  /-- The cursors of the text areas that have one, as character indices. -/
  cursors : List (Slot × Nat) := []
  /-- The text area that gets the strokes. -/
  focus : Option Slot := none
  listOpen : Bool := false
  /-- The dot the pointer rests on. -/
  pointer : Option (Slot × Nat) := none
  /-- The pointer's button went down on something. -/
  pressed : Bool := false
  /-- The latest update covered everything, because an analysis was under way. -/
  covered : Bool := false
  /-- The session knows that the engine can be called. -/
  signalled : Bool := false
  picture : Picture := {}

namespace Window

/-- What reaches an update from outside. -/
inductive Input where
  | nothing
  | stroke (s : Stroke)
  /-- The pointer comes to a target. -/
  | point (target : Target)
  | press (target : Target)
  | release (target : Target)
  /-- The pointer goes away. -/
  | leave
  deriving DecidableEq, Repr

namespace Input

def stroke? : Input → Option Stroke
  | .stroke s => some s
  | _ => none

/-- The target the button is let go on. -/
def released? : Input → Option Target
  | .release t => some t
  | _ => none

/-- The dot that the pointer rests on afterwards. -/
def pointer (i : Input) (before : Option (Slot × Nat)) : Option (Slot × Nat) :=
  match i with
  | .nothing | .stroke _ => before
  | .point t | .press t | .release t =>
    match t with
    | .line slot row true => some (slot, row)
    | _ => none
  | .leave => none

end Input

variable {σ τ : Type}

/-! ### Text areas -/

def cursor? (w : Window σ τ) (slot : Slot) : Option Nat := w.cursors.lookup slot

def setCursor (w : Window σ τ) (slot : Slot) (index : Nat) : Window σ τ :=
  { w with cursors := (slot, index) :: w.cursors.filter (·.1 ≠ slot) }

def updateBuffer (w : Window σ τ) (slot : Slot) (f : Buffer → Buffer) : Window σ τ :=
  { w with session := { w.session with desk := w.session.desk.update slot f } }

/-- The text area that has the focus handles a stroke and reports its cursor.  Tells whether it was edited. -/
def handleStroke (w : Window σ τ) (slot : Slot) (stroke : Option Stroke) : Window σ τ × Bool :=
  let b := w.session.desk.get slot
  let chars := b.text.toList
  let cursor := min ((w.cursor? slot).getD chars.length) chars.length
  if b.readOnly then (w.setCursor slot ((stroke.map fun s => s.move chars.length cursor).getD cursor), false)
  else
    let (chars, cursor) := (stroke.map fun s => s.apply chars cursor).getD (chars, cursor)
    let w := w.updateBuffer slot fun b => (b.typed (String.ofList chars)).syncCursor cursor
    (w.setCursor slot cursor, stroke.any Stroke.isEdit)

/-- A text area takes what was asked of it: its cursor is put where it was sent. -/
def takeRequests (w : Window σ τ) (slot : Slot) : Requests × Window σ τ :=
  let (requests, b) := (w.session.desk.get slot).takeRequests
  let w := w.updateBuffer slot fun _ => b
  (requests, match requests.cursor with
    | some index => w.setCursor slot index
    | none => w)

/-- A stroke reaches the text area that has the focus. -/
def takeStroke (w : Window σ τ) (slot : Slot) (stroke : Option Stroke) : Window σ τ × Bool :=
  if w.focus = some slot then w.handleStroke slot stroke else (w, false)

/-- Draws the gutter of a text area. -/
def drawGutter (w : Window σ τ) (slot : Slot) : Window σ τ :=
  let text := (w.session.desk.get slot).text.toList
  let gutter := Gutter.ofText text ((w.cursor? slot).getD 0) (markers w.session slot)
  { w with picture := { w.picture with gutters := (slot, gutter) :: w.picture.gutters } }

/-- A click in the gutter of a text area asks for the cursor and the focus. -/
def clickGutter (w : Window σ τ) (slot : Slot) : Option Target → Window σ τ
  | some (.line hitSlot row onDot) =>
    if hitSlot = slot then
      let row := clickedRow (w.session.desk.get slot).text.toList row
      w.updateBuffer slot fun b => (b.moveTo (landing (markers w.session slot) row onDot)).requestFocus
    else w
  | _ => w

/-- Draws a text area.  The focus it was asked to take is its own from the next update on. -/
def drawArea (w : Window σ τ) (stroke : Option Stroke) (hit : Option Target) (slot : Slot) : Window σ τ × Bool :=
  let (requests, w) := w.takeRequests slot
  let (w, edited) := w.takeStroke slot stroke
  let w := (w.drawGutter slot).clickGutter slot hit
  (if requests.focus then { w with focus := some slot } else w, edited)

/-- Draws text areas in turn, and gives the documents that were edited. -/
def drawAreas (w : Window σ τ) (stroke : Option Stroke) (hit : Option Target) : List Slot → Window σ τ × List Document
  | [] => (w, [])
  | slot :: rest =>
    let (w, edited) := w.drawArea stroke hit slot
    let (w, documents) := w.drawAreas stroke hit rest
    (w, match slot, edited with
      | .document d, true => d :: documents
      | _, _ => documents)

/-! ### Updates -/

/-- What a click on a target does to a session.  Choosing what is chosen already does nothing. -/
def eventsOf (s : Session σ τ) (now : τ) : Target → List (Event τ)
  | .optimization o => if o = s.settings.optimization then [] else [.setOptimization o now]
  | .packrat => [.setPackrat (!s.settings.packrat) now]
  | .autoRefresh => [.setAutoRefresh (!s.settings.autoRefresh) now]
  | .parse => if s.parseEnabled then [.requestParse] else []
  | .panel p => [.setPanelShown p (!s.settings.panels.get p)]
  | .errorRow list index => if index < (s.view.items list).length then [.errorClicked list index] else []
  | .optimizationBox | .line _ _ _ | .nothing => []

section Updates

variable [Store σ] [Clock τ]

/-- Time goes on: the session ticks, and before the first picture it learns that the engine can be called. -/
def advance [Wording] (engine : Engine) (w : Window σ τ) (now : τ) : Window σ τ :=
  let s := w.session.tick engine now
  { w with session := if w.signalled then s else s.ready, signalled := true }

/-- The target that is clicked.  A click counts if its button went down and up again while nothing covered the
window. -/
def hit (w : Window σ τ) (input : Input) : Option Target :=
  if w.pressed && !w.covered then input.released? else none

/-- What reaches the window before its text areas are drawn.  Letting go takes the focus away in any case. -/
def meet (w : Window σ τ) (input : Input) : Window σ τ :=
  let listOpen := if w.hit input = some .optimizationBox then !w.listOpen else w.listOpen
  let pointer := input.pointer w.pointer
  { w with
    pointer
    pressed := match input with
      | .press _ => !w.covered
      | _ => false
    focus := if input.released?.isSome then none else w.focus
    listOpen := listOpen && (input.released?.all fun t => t == Target.optimizationBox)
    picture := ⟨labels w.session listOpen pointer, []⟩ }

/-- One update. -/
def update [Wording] (engine : Engine) (w : Window σ τ) (now : τ) (input : Input) : Window σ τ :=
  let w := w.advance engine now
  let hit := w.hit input
  let events := (hit.map (eventsOf w.session now)).getD []
  let (w, edited) := (w.meet input).drawAreas input.stroke? hit (drawnSlots w.session)
  let session := w.session.run engine (edited.map (Event.edited · now) ++ events)
  { w with session, covered := session.busy }

/-- The updates of some inputs. -/
def updates [Wording] (engine : Engine) (w : Window σ τ) (now : τ) (inputs : List Input) : Window σ τ :=
  inputs.foldl (fun w input => w.update engine now input) w

/-! ### What a person does -/

/-- A click: the pointer comes, the button goes down and up, and the pointer goes away. -/
def click [Wording] (engine : Engine) (w : Window σ τ) (now : τ) (target : Target) : Window σ τ :=
  w.updates engine now [.point target, .press target, .release target, .leave]

/-- The pointer rests on a target. -/
def hover [Wording] (engine : Engine) (w : Window σ τ) (now : τ) (target : Target) : Window σ τ :=
  w.updates engine now [.point target, .point target]

/-- The window is closed: what still waits is saved, and nothing is drawn. -/
def close (w : Window σ τ) : Window σ τ := { w with session := w.session.flush }

end Updates

/-- A window that has not been drawn yet. -/
def start [Store σ] [Clock τ] (store : σ) : Window σ τ := { session := Session.start store }

end Window

end GrammarStudio
