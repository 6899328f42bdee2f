import GrammarStudio.Analysis.Outcome
import GrammarStudio.Editor.Desk

/-!
# What is shown of an outcome

A view is made from the latest outcome alone, so nothing of an earlier one can be left in it.  Its error lists can be
written in HTML: five characters have a meaning there and are written as entities, all others stand for themselves, and
a list is unordered, with the places as data attributes.  A click on a row changes no editor itself; it gives commands.
A row of the grammar's list leads into the grammar.  A row of the code's list leads into the code, which gets the focus,
and if the error names a rule the grammar is brought there too.

* `Badge` — the verdict beside a document's heading;
* `ErrorItem` — a row of an error list, with the place it points at;
* `View`, `View.ofOutcome` — everything that is shown;
* `Marker`, `View.markers` — the dots beside the line numbers;
* `escape`, `ErrorItem.html`, `listHtml` — a text, a row and a list as HTML;
* `Command` — an instruction to one text area, with `Command.apply`;
* `View.commands` — the commands of a click.
-/

namespace GrammarStudio.Diagnostics

open Analysis Editor

/-- The verdict on a document. -/
inductive Badge where
  | unset
  | valid
  | invalid
  deriving DecidableEq, Repr

def Badge.ofBool (valid : Bool) : Badge := if valid then .valid else .invalid

/-- The cursor position of a location: both count from zero instead of one. -/
def target (l : Location) : Position := ⟨l.line - 1, l.col - 1⟩

/-- A row of an error list. -/
structure ErrorItem where
  location : Location
  message : String
  origin : Option Location
  deriving DecidableEq, Repr

namespace ErrorItem

def ofEntry (e : Entry) : ErrorItem := ⟨e.location, e.message, e.origin⟩

/-- The place, as it is shown. -/
def label (item : ErrorItem) : String := item.location.label

/-- Where a click on the row leads. -/
def target (item : ErrorItem) : Position := Diagnostics.target item.location

/-- Where the rule that raised the error stands, if the error names one. -/
def originTarget (item : ErrorItem) : Option Position := item.origin.map Diagnostics.target

end ErrorItem

/-- Told when an analysis fails. -/
def failureBanner : String := "The analyzer returned an unusable result. Diagnostics were cleared."

/-- Everything that is shown of an outcome. -/
structure View where
  grammarBadge : Badge := .unset
  codeBadge : Badge := .unset
  grammarErrors : List ErrorItem := []
  codeErrors : List ErrorItem := []
  ast : String := ""
  astOptimized : String := ""
  profile : String := ""
  banner : Option String := none
  deriving DecidableEq, Repr

namespace View

/-- The view of a report. -/
def ofReport (r : Report) : View :=
  match r.source with
  | none =>
    { grammarBadge := .ofBool r.grammarValid, grammarErrors := r.grammarErrors.map ErrorItem.ofEntry }
  | some s =>
    { grammarBadge := .ofBool r.grammarValid
      grammarErrors := r.grammarErrors.map ErrorItem.ofEntry
      codeBadge := .ofBool s.valid
      codeErrors := s.errors.map ErrorItem.ofEntry
      ast := s.ast
      astOptimized := s.astOptimized
      profile := s.profile }

/-- The view of an outcome. -/
def ofOutcome : Outcome → View
  | .skipped => {}
  | .failed _ => { banner := some failureBanner }
  | .completed r => ofReport r

/-- The error list of a document. -/
def items (view : View) : Document → List ErrorItem
  | .grammar => view.grammarErrors
  | .code => view.codeErrors

/-- The verdict on a document. -/
def badge (view : View) : Document → Badge
  | .grammar => view.grammarBadge
  | .code => view.codeBadge

/-- The text of a panel. -/
def panelText (view : View) : Panel → String
  | .ast => view.ast
  | .astOptimized => view.astOptimized
  | .profile => view.profile

end View

/-- A dot beside a line number. -/
structure Marker where
  target : Position
  message : String
  deriving DecidableEq, Repr

/-- The dots of a document, one per row of its error list. -/
def View.markers (view : View) (document : Document) : List Marker :=
  (view.items document).map fun item => ⟨item.target, item.message⟩

/-! ### Error lists in HTML -/

/-- How a character is written in HTML. -/
def escapeChar : Char → List Char
  | '&' => "&amp;".toList
  | '<' => "&lt;".toList
  | '>' => "&gt;".toList
  | '"' => "&quot;".toList
  | '\'' => "&#039;".toList
  | c => [c]

/-- A text as HTML. -/
def escape (text : String) : String := String.ofList (text.toList.flatMap escapeChar)

/-- A data attribute with a number. -/
def dataAttribute (name : String) (value : Nat) : String := "data-" ++ name ++ "=\"" ++ value.repr ++ "\""

/-- The places of a row, as attributes. -/
def ErrorItem.attributes (item : ErrorItem) : List String :=
  [dataAttribute "ln" item.location.line, dataAttribute "col" item.location.col] ++
    match item.origin with
    | some l => [dataAttribute "gln" l.line, dataAttribute "gcol" l.col]
    | none => []

/-- A row of an error list. -/
def ErrorItem.html (item : ErrorItem) : String :=
  "<li " ++ " ".intercalate item.attributes ++ "><span>" ++ item.label ++ "</span> <span>" ++ escape item.message ++
    "</span></li>"

/-- An error list. -/
def listHtml (items : List ErrorItem) : String := "<ul>" ++ String.join (items.map ErrorItem.html) ++ "</ul>"

/-! ### Clicks -/

inductive Action where
  | move (target : Position)
  | scroll (row : Nat)
  | focus
  deriving DecidableEq, Repr

/-- An instruction to one text area. -/
structure Command where
  slot : Slot
  action : Action
  deriving DecidableEq, Repr

/-- What an action does to a buffer.  Scrolling brings the row to the middle. -/
def Action.apply (action : Action) (b : Buffer) : Buffer :=
  match action with
  | .move target => b.moveTo target
  | .scroll row => b.scrollTo row true
  | .focus => b.requestFocus

def Command.apply (c : Command) (desk : Desk) : Desk := desk.update c.slot c.action.apply

/-- Brings a position of a document into sight. -/
def reveal (document : Document) (target : Position) : List Command :=
  [⟨.document document, .move target⟩, ⟨.document document, .scroll target.row⟩]

/-- Brings a position into sight and puts the keyboard there. -/
def jump (document : Document) (target : Position) : List Command :=
  reveal document target ++ [⟨.document document, .focus⟩]

/-- The commands of a click on a row; there are none for a row that does not exist. -/
def View.commands (view : View) (list : Document) (index : Nat) : List Command :=
  match (view.items list)[index]? with
  | none => []
  | some item =>
    match list, item.originTarget with
    | .code, some origin => jump .code item.target ++ reveal .grammar origin
    | _, _ => jump list item.target

end GrammarStudio.Diagnostics
