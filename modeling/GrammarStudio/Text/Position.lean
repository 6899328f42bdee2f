/-!
# Rows, columns and offsets of a text

A position is a zero-based row and column.  Rows are separated by the line feed alone and columns count characters, so
a carriage return is an ordinary character.  Any pair of numbers is a position of any text: a column past the end of
its row means the end of that row, a row past the last one means the end of the text.

* `Position.index` — how many characters stand before a position;
* `Position.offset` — how many bytes of UTF-8 stand before it;
* `positionAt` — the position of a character index;
* `lineCount` and `rowAt` — the number of rows, and the row of a character index.
-/

namespace GrammarStudio

/-- A zero-based row and column. -/
structure Position where
  row : Nat
  col : Nat
  deriving DecidableEq, Repr, Inhabited

namespace Text

/-- The characters before row `row` and column `col`, counted with `weight`. -/
def weightBefore (weight : Char → Nat) : List Char → Nat → Nat → Nat
  | [], _, _ => 0
  | c :: rest, 0, col =>
    if c = '\n' ∨ col = 0 then 0 else weight c + weightBefore weight rest 0 (col - 1)
  | c :: rest, row + 1, col =>
    weight c + weightBefore weight rest (if c = '\n' then row else row + 1) col

/-- The position behind `text`, when its first character stands at `p`. -/
def positionAfter (p : Position) : List Char → Position
  | [] => p
  | c :: rest => positionAfter (if c = '\n' then ⟨p.row + 1, 0⟩ else ⟨p.row, p.col + 1⟩) rest

/-- The position of the character with this index; an index past the end means the end. -/
def positionAt (text : List Char) (index : Nat) : Position :=
  positionAfter ⟨0, 0⟩ (text.take index)

/-- The row that holds the character with this index. -/
def rowAt (text : List Char) (index : Nat) : Nat := (text.take index).count '\n'

/-- The number of rows: one more than there are line feeds. -/
def lineCount (text : List Char) : Nat := text.count '\n' + 1

end Text

namespace Position

/-- How many characters of the text stand before the position. -/
def index (p : Position) (text : List Char) : Nat := Text.weightBefore (fun _ => 1) text p.row p.col

/-- How many bytes of the text's UTF-8 form stand before the position. -/
def offset (p : Position) (text : List Char) : Nat := Text.weightBefore Char.utf8Size text p.row p.col

end Position

/-! ### What the definitions say -/

/-- An index lies inside the text or at its end. -/
theorem Text.weightBefore_one_le (text : List Char) (row col : Nat) :
    Text.weightBefore (fun _ => 1) text row col ≤ text.length := by
  induction text generalizing row col with
  | nil => cases row <;> simp [Text.weightBefore]
  | cons c rest ih =>
    cases row with
    | zero =>
      by_cases h : c = '\n' ∨ col = 0
      · simp [Text.weightBefore, h]
      · have := ih 0 (col - 1)
        simp only [Text.weightBefore, h, if_false, List.length_cons]; omega
    | succ row =>
      have := ih (if c = '\n' then row else row + 1) col
      simp only [Text.weightBefore, List.length_cons]; omega

theorem Position.index_le (p : Position) (text : List Char) : p.index text ≤ text.length :=
  Text.weightBefore_one_le text p.row p.col

/-- The row of an index is the row of its position. -/
theorem Text.positionAfter_row (p : Position) (text : List Char) :
    (Text.positionAfter p text).row = p.row + text.count '\n' := by
  induction text generalizing p with
  | nil => simp [Text.positionAfter]
  | cons c rest ih =>
    by_cases h : c = '\n'
    · subst h; simp [Text.positionAfter, ih]; omega
    · simp [Text.positionAfter, ih, h]

end GrammarStudio
