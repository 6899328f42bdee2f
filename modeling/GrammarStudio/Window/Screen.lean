import GrammarStudio.Diagnostics.View
import GrammarStudio.Session.Basic

/-!
# What is on the screen

A picture is what one update draws: labels, in the order in which they are drawn, and the gutters of the text areas.
Each label leads somewhere when it is clicked, or nowhere.  A gutter stands beside a text and has the numbers of its
lines.  The number of the cursor's line stands out, and a line that an error points at has a dot.

* `Galley` — a text as it is laid out, with the characters at the left edges of its rows;
* `Gutter` — what stands beside a text, with `Gutter.ofText`;
* `markerOn?` — the error a dot speaks of: the first in the list that points at the line;
* `clickedRow`, `landing` — the line that a click in the gutter hits, and where it leads;
* `Target` — where a click can go;
* `Picture` — the labels and gutters of an update;
* `toolbar`, `statusBar`, `side`, … — the labels of a session.
-/

namespace GrammarStudio.Window

open Analysis Diagnostics Editor

/-! ### Rows of a text -/

/-- A text as it is laid out: the characters of each row. -/
structure Galley where
  rows : List (List Char)
  deriving DecidableEq, Repr

namespace Galley

/-- Nothing is wrapped, so each line is a row. -/
def ofText (chars : List Char) : Galley := ⟨chars.splitOn '\n'⟩

/-- The index of the first character of a row.  The rows above stand in front of it, each with its line feed. -/
def rowStart (g : Galley) (row : Nat) : Nat := ((g.rows.take row).map fun r => r.length + 1).sum

/-- The index of the character that is met at the left edge of a row.  Below the last row that one is met. -/
def leftEdge (g : Galley) (row : Nat) : Nat := g.rowStart (min row (g.rows.length - 1))

end Galley

/-! ### The gutter -/

/-- What stands beside a text.  Lines count from one. -/
structure Gutter where
  lines : Nat
  active : Nat
  dots : List Nat
  deriving DecidableEq, Repr

/-- The error that a dot on a row speaks of. -/
def markerOn? (markers : List Marker) (row : Nat) : Option Marker := markers.find? fun m => m.target.row = row

/-- The gutter of a text, with the cursor before a character. -/
def Gutter.ofText (chars : List Char) (cursor : Nat) (markers : List Marker) : Gutter :=
  { lines := Text.lineCount chars
    active := Text.rowAt chars cursor + 1
    dots := ((List.range (Text.lineCount chars)).filter fun row => (markerOn? markers row).isSome).map (· + 1) }

/-- The line that a click beside a row hits: that of the character at the left edge of the row. -/
def clickedRow (chars : List Char) (row : Nat) : Nat := Text.rowAt chars ((Galley.ofText chars).leftEdge row)

/-- Where a click in the gutter leads: to the error when it hits a dot, else to the start of the line. -/
def landing (markers : List Marker) (row : Nat) (onDot : Bool) : Position :=
  match if onDot then markerOn? markers row else none with
  | some marker => marker.target
  | none => ⟨row, 0⟩

/-! ### Labels -/

/-- Where a click can go. -/
inductive Target where
  /-- The box with the current optimization; it opens and closes the list of all of them. -/
  | optimizationBox
  | optimization (o : Optimization)
  | packrat
  | autoRefresh
  | parse
  | panel (p : Panel)
  | errorRow (list : Document) (index : Nat)
  /-- A line's number in the gutter of a text area, or the dot beside it.  Rows count from zero. -/
  | line (slot : Slot) (row : Nat) (onDot : Bool)
  /-- A label that is only to be read. -/
  | nothing
  deriving DecidableEq, Repr

structure Label where
  text : String
  target : Target := .nothing
  deriving DecidableEq, Repr

/-- What an update draws. -/
structure Picture where
  labels : List Label := []
  gutters : List (Slot × Gutter) := []

namespace Picture

/-- The target of a label: of all labels with a text the one with this number. -/
def label? (p : Picture) (text : String) (nth : Nat) : Option Target :=
  ((p.labels.filter (·.text = text))[nth]?).map Label.target

/-- A line of a gutter that is on the screen.  Lines count from one. -/
def line? (p : Picture) (slot : Slot) (line : Nat) (onDot : Bool) : Option Target :=
  match p.gutters.lookup slot with
  | none => none
  | some g =>
    if 1 ≤ line && line ≤ g.lines && (!onDot || g.dots.contains line) then some (.line slot (line - 1) onDot) else none

end Picture

/-! ### The parts of the window -/

/-- What is shown while an analysis is under way. -/
def busyText : String := "Analyzing…"

/-- What is shown while an edit waits to be committed. -/
def pendingText : String := "Pending changes…"

def toolbar (s : Settings) : List Label :=
  [⟨s.optimization.label, .optimizationBox⟩, ⟨"Packrat", .packrat⟩, ⟨"Auto refresh", .autoRefresh⟩, ⟨"Parse", .parse⟩] ++
    Panel.all.map fun p => ⟨p.title, .panel p⟩

/-- The rows of the list of optimizations. -/
def optimizationList : List Label := Optimization.all.map fun o => ⟨o.label, .optimization o⟩

def documentTitle : Document → String
  | .grammar => "Grammar"
  | .code => "Input"

/-- A cursor, as the status bar tells it: both numbers count from one. -/
def cursorText (title : String) (p : Position) : String :=
  title ++ "  Ln " ++ (p.row + 1).repr ++ ", Col " ++ (p.col + 1).repr

section Session

variable {σ τ : Type}

def statusBar (s : Session σ τ) : List Label :=
  [⟨cursorText (documentTitle .grammar) s.desk.grammar.cursor, .nothing⟩,
    ⟨cursorText (documentTitle .code) s.desk.code.cursor, .nothing⟩] ++
  (if s.busy then [⟨busyText, .nothing⟩] else if s.commitPending then [⟨pendingText, .nothing⟩] else [])

def banner (v : View) : List Label := (v.banner.map fun text => (⟨text, .nothing⟩ : Label)).toList

def badgeLabels : Badge → List Label
  | .unset => []
  | .valid => [⟨"Valid", .nothing⟩]
  | .invalid => [⟨"Invalid", .nothing⟩]

/-- The rows of an error list. -/
def errorRows (v : View) (d : Document) : List Label :=
  (v.items d).mapIdx fun index item => ⟨item.label ++ "  " ++ item.message, .errorRow d index⟩

/-- The labels around a document: its title, the verdict on it, and its errors. -/
def side (v : View) (d : Document) : List Label :=
  ⟨documentTitle d, .nothing⟩ :: (badgeLabels (v.badge d) ++ errorRows v d)

/-- The panels that are drawn, in the order in which they are. -/
def drawnPanels (s : Session σ τ) : List Panel := s.shown.shown.reverse

/-- The text areas that are drawn, in the order in which they are. -/
def drawnSlots (s : Session σ τ) : List Slot := Slot.grammar :: (drawnPanels s).map Slot.panel ++ [Slot.code]

/-- The errors that can have dots in a text area. -/
def markers (s : Session σ τ) : Slot → List Marker
  | .document d => s.view.markers d
  | .panel _ => []

/-- What is told of the dot under the pointer. -/
def tooltip (s : Session σ τ) : Option (Slot × Nat) → List Label
  | none => []
  | some (slot, row) =>
    if (drawnSlots s).contains slot then
      ((markerOn? (markers s slot) row).map fun m => (⟨m.message, .nothing⟩ : Label)).toList
    else []

/-- All labels of a session, with the list of optimizations open or not and the pointer on a dot or not. -/
def labels (s : Session σ τ) (listOpen : Bool) (pointer : Option (Slot × Nat)) : List Label :=
  toolbar s.settings ++ statusBar s ++ banner s.view ++ side s.view .grammar ++
    (drawnPanels s).map (fun p => ⟨p.title, .nothing⟩) ++ side s.view .code ++
    (if listOpen then optimizationList else []) ++ tooltip s pointer

end Session

end GrammarStudio.Window
