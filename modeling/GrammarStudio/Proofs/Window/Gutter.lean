import GrammarStudio.Proofs.Session.Clicks
import GrammarStudio.Proofs.Window.Frames

/-!
# Clicks in the gutter

A click beside a text is first the index of a character, then the number of a line, then a position, and at last, when
the cursor is put there, an index again.  All of these belong to the line that was clicked, whatever the text is and
wherever the errors point.

* `Position.index_of_line` — the index of a position is its row's start, and as many more as the row has of its column;
* `OnLine`, `onLine_index` — an index on a line, at a column as far as the line goes;
* `FindsRows`, `FindsRows.rowAt_eq` — what is taken for granted of a layout, and that then the line that is counted is
  the one that was clicked;
* `ClickGoal`, `clickGoal_iff` — where a click is to lead, and that it does;
* `get_drawArea_of_click`, `cursor?_drawArea` — a text area that is clicked, and one that is drawn again;
* `click_lands_on_line` — a click in the gutter ends on the line that was clicked.
-/

namespace GrammarStudio

open Diagnostics Editor Text Window

/-! ### Rows and indices -/

namespace Window.Galley

@[simp] theorem rowStart_zero (g : Galley) : g.rowStart 0 = 0 := rfl

/-- A line feed is a row, and the others come behind it. -/
theorem rowStart_newline (rest : List Char) (row : Nat) :
    (ofText ('\n' :: rest)).rowStart (row + 1) = (ofText rest).rowStart row + 1 := by
  have hrows : (ofText ('\n' :: rest)).rows = [] :: (ofText rest).rows := lines_newline rest
  simp only [rowStart, hrows, List.take_succ_cons, List.map_cons, List.sum_cons, List.length_nil]
  omega

/-- Any other character makes the first row longer. -/
theorem rowStart_cons {c : Char} (h : c ≠ '\n') (rest : List Char) (row : Nat) :
    (ofText (c :: rest)).rowStart (row + 1) = (ofText rest).rowStart (row + 1) + 1 := by
  obtain ⟨first, more, hrest, hlines⟩ := exists_lines_cons h rest
  have hrows : (ofText (c :: rest)).rows = (c :: first) :: more := hlines
  have hfewer : (ofText rest).rows = first :: more := hrest
  simp only [rowStart, hrows, hfewer, List.take_succ_cons, List.map_cons, List.sum_cons, List.length_cons]
  omega

end Window.Galley

/-- **The index of a position** is the start of its row, and as many more as the row has of its column. -/
theorem Position.index_of_line {text : List Char} {p : Position} {line : List Char}
    (h : (lines text)[p.row]? = some line) :
    p.index text = (Galley.ofText text).rowStart p.row + min p.col line.length := by
  induction text, p using Position.induction generalizing line with
  | empty p =>
    rcases p with ⟨_ | row, col⟩
    · obtain rfl : [] = line := Option.some.inj h
      simp
    · cases h
  | front c rest p hrow hcol =>
    rw [index_front rest hrow hcol, hrow, Galley.rowStart_zero]
    rcases hcol with rfl | hcol
    · rw [hrow, lines_newline] at h
      obtain rfl : [] = line := Option.some.inj h
      simp
    · simp [hcol]
  | behind c rest q ih =>
    rw [index_behind]
    by_cases hc : c = '\n'
    · subst hc
      have hplace : (behind '\n').andThen q = ⟨q.row + 1, q.col⟩ := by simp [behind, andThen, Nat.add_comm]
      rw [hplace] at h ⊢
      rw [lines_newline, List.getElem?_cons_succ] at h
      rw [ih h, Galley.rowStart_newline]
      exact Nat.add_right_comm _ _ 1
    · obtain ⟨first, more, hrest, hlines⟩ := exists_lines_cons hc rest
      rw [hlines] at h
      rcases q with ⟨_ | row, col⟩
      · have hplace : (behind c).andThen ⟨0, col⟩ = ⟨0, col + 1⟩ := by simp [behind, andThen, hc, Nat.add_comm]
        rw [hplace] at h ⊢
        obtain rfl : c :: first = line := Option.some.inj h
        have hfirst : (lines rest)[0]? = some first := by rw [hrest]; rfl
        rw [ih hfirst, Galley.rowStart_zero, Galley.rowStart_zero, List.length_cons, Nat.succ_min_succ]
        exact Nat.add_assoc _ _ 1
      · have hplace : (behind c).andThen ⟨row + 1, col⟩ = ⟨row + 1, col⟩ := by simp [behind, andThen, hc]
        rw [hplace] at h ⊢
        have hline : (lines rest)[row + 1]? = some line := by rw [hrest]; exact h
        rw [ih hline, Galley.rowStart_cons hc]
        exact Nat.add_right_comm _ _ 1

/-- The row of an index is that of its position. -/
theorem Text.rowAt_eq (text : List Char) (i : Nat) : rowAt text i = (positionAt text i).row := by
  rw [positionAt, positionAfter_row, Nat.zero_add]
  rfl

namespace Window

variable {text : List Char} {row : Nat}

/-! ### Lines that are clicked -/

theorem exists_line (h : row < lineCount text) : ∃ line, (lines text)[row]? = some line :=
  ⟨_, List.getElem?_eq_getElem (by rw [length_lines]; exact h)⟩

/-- **An index on the line of a position**, at its column or as far as the line goes. -/
def OnLine (text : List Char) (p : Position) (i : Nat) : Prop :=
  rowAt text i = p.row ∧
    ∃ line, (lines text)[p.row]? = some line ∧ i = (Galley.ofText text).rowStart p.row + min p.col line.length

/-- The index of a position is on its line, if the text has that. -/
theorem onLine_index {p : Position} (h : p.row < lineCount text) : OnLine text p (p.index text) := by
  obtain ⟨line, hline⟩ := exists_line h
  refine ⟨?_, line, hline, Position.index_of_line hline⟩
  rw [rowAt_eq, Position.positionAt_index, Position.clamp, hline]

/-- The first character of a row is on its line. -/
theorem rowAt_rowStart (h : row < lineCount text) : rowAt text ((Galley.ofText text).rowStart row) = row := by
  obtain ⟨line, hline⟩ := exists_line h
  have hindex : (⟨row, 0⟩ : Position).index text = (Galley.ofText text).rowStart row := by
    rw [Position.index_of_line (p := ⟨row, 0⟩) hline, Nat.zero_min]
    rfl
  rw [← hindex]
  exact (onLine_index (p := ⟨row, 0⟩) h).1

/-- **What is taken for granted of a layout.**  Nothing is wrapped, so each line is a row, and the first character of
the line is met at the left edge of its row. -/
def FindsRows (text : List Char) (leftEdge : Nat → Nat) : Prop :=
  ∀ row < lineCount text, leftEdge row = (Galley.ofText text).rowStart row

/-- A galley does so. -/
theorem findsRows_leftEdge (text : List Char) : FindsRows text (Galley.ofText text).leftEdge := by
  intro row h
  have hrow : row ≤ (Galley.ofText text).rows.length - 1 := by
    rw [show (Galley.ofText text).rows.length = lineCount text from length_lines text]
    omega
  rw [Galley.leftEdge, Nat.min_eq_left hrow]

/-- **The line that is counted is the one that was clicked.** -/
theorem FindsRows.rowAt_eq {leftEdge : Nat → Nat} (h : FindsRows text leftEdge) (hrow : row < lineCount text) :
    rowAt text (leftEdge row) = row := by
  rw [h row hrow, rowAt_rowStart hrow]

theorem clickedRow_of_lt (h : row < lineCount text) : clickedRow text row = row := (findsRows_leftEdge text).rowAt_eq h

/-! ### Where a click leads -/

/-- **Where a click on a line is to lead**: beside the dot to the start of the line, and on it to the first of the
errors that point at the line.  Where there is no such error it makes no difference. -/
inductive ClickGoal (markers : List Marker) (row : Nat) : Bool → Position → Prop
  | number : ClickGoal markers row false ⟨row, 0⟩
  | dot {m : Marker} (before after : List Marker) : markers = before ++ m :: after →
      (∀ earlier ∈ before, earlier.target.row ≠ row) → m.target.row = row → ClickGoal markers row true m.target
  | bare : (∀ m ∈ markers, m.target.row ≠ row) → ClickGoal markers row true ⟨row, 0⟩

theorem ClickGoal.row_eq {markers : List Marker} {onDot : Bool} {p : Position} (h : ClickGoal markers row onDot p) :
    p.row = row := by
  cases h with
  | number => rfl
  | dot before after _ _ hrow => exact hrow
  | bare => rfl

/-- The first marker of a row, and no other. -/
theorem markerOn?_eq_some_iff {markers : List Marker} {m : Marker} : markerOn? markers row = some m ↔
    m.target.row = row ∧ ∃ before after, markers = before ++ m :: after ∧ ∀ e ∈ before, e.target.row ≠ row := by
  simp [markerOn?, List.find?_eq_some_iff_append]

theorem markerOn?_eq_none_iff {markers : List Marker} :
    markerOn? markers row = none ↔ ∀ m ∈ markers, m.target.row ≠ row := by
  simp [markerOn?]

/-- **A click leads where it is to lead**, and nowhere else. -/
theorem clickGoal_iff (markers : List Marker) (row : Nat) (onDot : Bool) (p : Position) :
    ClickGoal markers row onDot p ↔ p = landing markers row onDot := by
  constructor
  · intro h
    cases h with
    | number => rfl
    | dot before after hmarkers hbefore hrow =>
      rw [landing, if_pos rfl, markerOn?_eq_some_iff.mpr ⟨hrow, before, after, hmarkers, hbefore⟩]
    | bare hnone => rw [landing, if_pos rfl, markerOn?_eq_none_iff.mpr hnone]
  · rintro rfl
    cases onDot with
    | false => exact .number
    | true =>
      rw [landing, if_pos rfl]
      cases hon : markerOn? markers row with
      | none => exact .bare (markerOn?_eq_none_iff.mp hon)
      | some m =>
        obtain ⟨hrow, before, after, hmarkers, hbefore⟩ := markerOn?_eq_some_iff.mp hon
        exact .dot before after hmarkers hbefore hrow

/-! ### Text areas that are clicked -/

section Areas

variable {σ τ : Type} (w : Window σ τ) (slot : Slot) (stroke : Option Stroke)

@[simp] theorem cursor?_setCursor (index : Nat) : (w.setCursor slot index).cursor? slot = some index := by
  simp [cursor?, setCursor]

@[simp] theorem get_updateBuffer (f : Buffer → Buffer) :
    (w.updateBuffer slot f).session.desk.get slot = f (w.session.desk.get slot) :=
  w.session.desk.get_update_self slot f

/-- Requests and strokes leave the view as it is, and so the errors that have dots. -/
theorem markers_takeStroke : markers ((w.takeRequests slot).2.takeStroke slot stroke).1.session slot =
    markers w.session slot := by
  have htaken : (w.takeRequests slot).2.session.view = w.session.view := by
    rw [session_takeRequests]
    rfl
  have hview : ((w.takeRequests slot).2.takeStroke slot stroke).1.session.view = w.session.view := by
    obtain hsame | ⟨-, text, index, hstruck⟩ := session_takeStroke_cases (w.takeRequests slot).2 slot stroke
    · rw [hsame, htaken]
    · rw [hstruck]
      exact htaken
  cases slot with
  | document d => exact congrArg (View.markers · d) hview
  | panel p => rfl

theorem get_clickGutter (row : Nat) (onDot : Bool) :
    (w.clickGutter slot (some (.line slot row onDot))).session.desk.get slot =
      ((w.session.desk.get slot).moveTo (landing (markers w.session slot)
        (clickedRow (w.session.desk.get slot).text.toList row) onDot)).requestFocus := by
  dsimp only [clickGutter]
  rw [if_pos rfl]
  exact get_updateBuffer w slot _

/-- **A text area that is clicked in its gutter** is asked to go where the click leads, and to take the focus. -/
theorem get_drawArea_of_click (row : Nat) (onDot : Bool) :
    ∃ b : Buffer, (w.drawArea stroke (some (.line slot row onDot)) slot).1.session.desk.get slot =
      (b.moveTo (landing (markers w.session slot) (clickedRow b.text.toList row) onDot)).requestFocus := by
  refine ⟨((w.takeRequests slot).2.takeStroke slot stroke).1.session.desk.get slot, ?_⟩
  rw [session_drawArea, get_clickGutter]
  exact congrArg (fun m => Buffer.requestFocus (Buffer.moveTo _ (landing m _ onDot))) (markers_takeStroke w slot stroke)

/-- The cursor of a text area is put where its buffer wants it to be. -/
theorem cursor?_takeRequests {p : Position} (h : (w.session.desk.get slot).goal? = some p) :
    (w.takeRequests slot).2.cursor? slot = some (p.index (w.session.desk.get slot).text.toList) := by
  have hcursor : (w.session.desk.get slot).takeRequests.1.cursor =
      some (p.index (w.session.desk.get slot).text.toList) := by
    rw [Buffer.cursor_takeRequests, h]
    rfl
  unfold takeRequests
  dsimp only
  rw [hcursor]
  exact cursor?_setCursor _ slot _

/-- Without a stroke a cursor that is in the text stays where it is. -/
theorem cursor?_takeStroke_none {i : Nat} (h : w.cursor? slot = some i)
    (hi : i ≤ (w.session.desk.get slot).text.toList.length) : (w.takeStroke slot none).1.cursor? slot = some i := by
  unfold takeStroke
  split
  · unfold handleStroke
    rw [h]
    dsimp only [Option.getD_some, Option.map_none, Option.getD_none]
    rw [Nat.min_eq_left hi]
    split
    all_goals exact cursor?_setCursor _ slot _
  · exact h

/-- **A text area that is drawn again** has its cursor where its buffer wanted it to be, in the text that is there. -/
theorem cursor?_drawArea {p : Position} (h : (w.session.desk.get slot).goal? = some p) :
    (w.drawArea none none slot).1.cursor? slot = some (p.index (w.session.desk.get slot).text.toList) := by
  have hdrawn : (w.drawArea none none slot).1.cursor? slot =
      ((w.takeRequests slot).2.takeStroke slot none).1.cursor? slot := by
    unfold drawArea
    dsimp only
    split <;> rfl
  have htext : ((w.takeRequests slot).2.session.desk.get slot).text = (w.session.desk.get slot).text := by
    rw [session_takeRequests, get_updateBuffer]
    rfl
  rw [hdrawn]
  refine cursor?_takeStroke_none _ slot (cursor?_takeRequests w slot h) ?_
  rw [htext]
  exact p.index_le _

end Areas

/-! ### From the click to the line -/

/-- **A click in the gutter ends on the line that was clicked.**  For any text, any errors and any line of the text the
click leads where it is to lead: beside the dots to the start of the line, and on a dot to the first error in the list
that points at the line, or else to the start of the line as well.  When the cursor of the buffer is moved there, the
next request to put it somewhere is the index of a character on this line, at the column of the error or as far as the
line goes.  And so it is in a window, whatever it has drawn before: when a text area is drawn while its gutter is
clicked, its cursor is on this line when it is drawn again. -/
theorem click_lands_on_line {σ τ : Type} (text : String) (markers : List Marker) {leftEdge : Nat → Nat}
    (finds : FindsRows text.toList leftEdge) {row : Nat} (hrow : row < lineCount text.toList) (onDot : Bool) :
    let target := landing markers (rowAt text.toList (leftEdge row)) onDot
    (∀ p, ClickGoal markers row onDot p ↔ p = target) ∧ target.row = row ∧
      (∀ b : Buffer, b.text = text → ∃ i, (b.moveTo target).requestFocus.takeRequests.1.cursor = some i ∧
        OnLine text.toList target i) ∧
      ∀ (w : Window σ τ) (slot : Slot) (stroke : Option Stroke),
        let drawn := (w.drawArea stroke (some (.line slot row onDot)) slot).1
        (drawn.session.desk.get slot).text = text → Window.markers w.session slot = markers →
          (drawn.session.desk.get slot).focusWanted = true ∧ (drawn.session.desk.get slot).goal? = some target ∧
            ∃ i, (drawn.drawArea none none slot).1.cursor? slot = some i ∧ OnLine text.toList target i := by
  intro target
  have hlanding : target = landing markers row onDot := by
    show landing markers (rowAt text.toList (leftEdge row)) onDot = _
    rw [finds.rowAt_eq hrow]
  have hgoal : ∀ p, ClickGoal markers row onDot p ↔ p = target := by
    intro p
    rw [clickGoal_iff, hlanding]
  have htarget : target.row = row := ((hgoal target).mpr rfl).row_eq
  have honline : OnLine text.toList target (target.index text.toList) := onLine_index (by rw [htarget]; exact hrow)
  refine ⟨hgoal, htarget, fun b hb => ⟨target.index text.toList, ?_, honline⟩, fun w slot stroke => ?_⟩
  · rw [← hb]
    rfl
  · intro drawn htext hmarkers
    obtain ⟨b, hb⟩ := get_drawArea_of_click w slot stroke row onDot
    have hclicked : drawn.session.desk.get slot = (b.moveTo target).requestFocus := by
      have hbtext : b.text = text := by
        rw [← htext, show drawn.session.desk.get slot = _ from hb]
        rfl
      rw [show drawn.session.desk.get slot = _ from hb, hmarkers, hbtext, clickedRow_of_lt hrow, hlanding]
    have hwanted : (drawn.session.desk.get slot).goal? = some target := by
      rw [hclicked]
      rfl
    refine ⟨by rw [hclicked]; rfl, hwanted, target.index text.toList, ?_, honline⟩
    rw [cursor?_drawArea drawn slot hwanted, htext]

/-- A text with a character of two bytes, an empty line and a line feed at its end.  Two errors point at its third line,
the first of them past the end of the line; a click on the dot ends in front of the line feed. -/
theorem click_lands_on_line_pastEnd :
    let text := "é\n\nab\n"
    let markers : List Marker := [⟨⟨9, 9⟩, "far"⟩, ⟨⟨2, 7⟩, "first"⟩, ⟨⟨2, 0⟩, "second"⟩]
    FindsRows text.toList (Galley.ofText text.toList).leftEdge ∧ 2 < lineCount text.toList ∧
      landing markers (clickedRow text.toList 2) true = ⟨2, 7⟩ ∧
      ∀ b : Buffer, b.text = text → (b.moveTo ⟨2, 7⟩).requestFocus.takeRequests.1.cursor = some 5 := by
  intro text markers
  have finds : FindsRows text.toList (Galley.ofText text.toList).leftEdge := findsRows_leftEdge text.toList
  have hrow : 2 < lineCount text.toList := by decide
  obtain ⟨hgoal, -, hrequest, -⟩ := click_lands_on_line (σ := Unit) (τ := Unit) text markers finds hrow true
  have htarget : landing markers (clickedRow text.toList 2) true = ⟨2, 7⟩ :=
    ((hgoal ⟨2, 7⟩).mp (.dot [⟨⟨9, 9⟩, "far"⟩] [⟨⟨2, 0⟩, "second"⟩] rfl (by simp) rfl)).symm
  refine ⟨finds, hrow, htarget, fun b hb => ?_⟩
  obtain ⟨i, hi, -, line, hline, hindex⟩ := hrequest b hb
  rw [show landing markers (rowAt text.toList ((Galley.ofText text.toList).leftEdge 2)) true = _ from htarget]
    at hi hline hindex
  have hthird : some ['a', 'b'] = (lines text.toList)[2]? := by decide
  obtain rfl : ['a', 'b'] = line := Option.some.inj (hthird.trans hline)
  rw [hi, hindex]
  decide

end Window

end GrammarStudio
