import GrammarStudio.Text.Position

/-!
# Rows and indices

A position is read in two ways: by rows, as a row of the text and a place in it, and by a walk over the characters, as
the number of those in front of it.  Both readings belong to one text, so each is found again from the other, as far as
the position lies in the text.

* `Text.lines`, `Text.endOf`, `Position.clamp` — the rows, the end, and the place that a position means;
* `Position.andThen` — positions of a text that does not begin at the top, with `Text.positionAfter_eq`;
* `Position.induction` — a position is the front of a text, or it lies behind its first character;
* `Position.positionAt_index` — the place in front of which the walk ends is the one that the position means;
* `Text.index_positionAt` — and the walk to the position of an index ends at that index;
* `Position.weightBefore_mono` — a later position has no less in front of it.
-/

namespace GrammarStudio

namespace Text

/-! ### Rows -/

/-- The rows of a text, without the line feeds between them. -/
def lines (text : List Char) : List (List Char) := text.splitOn '\n'

@[simp] theorem lines_nil : lines [] = [[]] := rfl

@[simp] theorem lines_newline (rest : List Char) : lines ('\n' :: rest) = [] :: lines rest := by
  simp [lines, List.splitOn_eq_splitOnP, List.splitOnP_cons_eq_if_modifyHead]

theorem lines_cons {c : Char} (h : c ≠ '\n') (rest : List Char) :
    lines (c :: rest) = (lines rest).modifyHead (c :: ·) := by
  simp [lines, List.splitOn_eq_splitOnP, List.splitOnP_cons_eq_if_modifyHead, h]

theorem lines_ne_nil (text : List Char) : lines text ≠ [] := List.splitOn_ne_nil _ _

/-- There is a first row, and a character that is no line feed stands in front of it. -/
theorem exists_lines_cons {c : Char} (h : c ≠ '\n') (rest : List Char) :
    ∃ first more, lines rest = first :: more ∧ lines (c :: rest) = (c :: first) :: more := by
  obtain ⟨first, more, hlines⟩ := List.exists_cons_of_ne_nil (lines_ne_nil rest)
  refine ⟨first, more, hlines, ?_⟩
  rw [lines_cons h, hlines]
  rfl

theorem length_lines (text : List Char) : (lines text).length = lineCount text := by
  induction text with
  | nil => rfl
  | cons c rest ih =>
    by_cases h : c = '\n'
    · subst h
      rw [lines_newline, List.length_cons, ih]
      simp [lineCount]
    · rw [lines_cons h, List.length_modifyHead, ih]
      simp [lineCount, h]

/-- The position behind the last character: the end of the last row. -/
def endOf (text : List Char) : Position :=
  ⟨(lines text).length - 1, ((lines text).getLast (lines_ne_nil text)).length⟩

end Text

namespace Position

open Text

/-- **The place in a text that a position means.**  A column past the end of its row means the end of the row, and a
row past the last one means the end of the text. -/
def clamp (p : Position) (text : List Char) : Position :=
  match (lines text)[p.row]? with
  | some line => ⟨p.row, min p.col line.length⟩
  | none => endOf text

/-- Positions in the order of reading. -/
instance : LE Position := ⟨fun p q => p.row < q.row ∨ p.row = q.row ∧ p.col ≤ q.col⟩

theorem le_iff {p q : Position} : p ≤ q ↔ p.row < q.row ∨ p.row = q.row ∧ p.col ≤ q.col := Iff.rfl

/-! ### Texts that do not begin at the top -/

/-- The position `q` of a text whose first character stands at `p`. -/
def andThen (p q : Position) : Position := ⟨p.row + q.row, if q.row = 0 then p.col + q.col else q.col⟩

/-- The position behind one character. -/
def behind (c : Char) : Position := if c = '\n' then ⟨1, 0⟩ else ⟨0, 1⟩

theorem andThen_assoc (p q r : Position) : (p.andThen q).andThen r = p.andThen (q.andThen r) := by
  simp only [andThen, Position.mk.injEq]
  refine ⟨Nat.add_assoc _ _ _, ?_⟩
  by_cases hr : r.row = 0
  · by_cases hq : q.row = 0
    · simp [hr, hq, Nat.add_assoc]
    · simp [hr, hq]
  · simp [hr]

end Position

namespace Text

open Position

/-- **A walk goes on from where it starts** as it goes on from the top. -/
theorem positionAfter_eq (p : Position) (text : List Char) :
    positionAfter p text = p.andThen (positionAfter ⟨0, 0⟩ text) := by
  induction text generalizing p with
  | nil => simp [positionAfter, andThen]
  | cons c rest ih =>
    rw [positionAfter, positionAfter, ih, ih (if c = '\n' then _ else _), ← andThen_assoc]
    by_cases h : c = '\n' <;> simp [h, andThen]

@[simp] theorem positionAt_zero (text : List Char) : positionAt text 0 = ⟨0, 0⟩ := by
  rw [positionAt, List.take_zero, positionAfter]

/-- A position behind the first character is one of the rest. -/
theorem positionAt_succ (c : Char) (rest : List Char) (i : Nat) :
    positionAt (c :: rest) (i + 1) = (behind c).andThen (positionAt rest i) := by
  rw [positionAt, List.take_succ_cons, positionAfter, positionAfter_eq, positionAt, behind]

end Text

namespace Position

open Text

/-- **Every position of a text** is its front, or it lies behind the first character. -/
theorem front_or_behind (c : Char) (p : Position) :
    (p.row = 0 ∧ (c = '\n' ∨ p.col = 0)) ∨ ∃ q, p = (behind c).andThen q := by
  rcases p with ⟨_ | row, col⟩
  · by_cases h : c = '\n' ∨ col = 0
    · exact .inl ⟨rfl, h⟩
    · have hnewline : c ≠ '\n' := fun heq => h (.inl heq)
      have hcol : col ≠ 0 := fun heq => h (.inr heq)
      refine .inr ⟨⟨0, col - 1⟩, ?_⟩
      simp only [behind, hnewline, andThen, if_false, if_true, Position.mk.injEq]
      exact ⟨trivial, by omega⟩
  · by_cases h : c = '\n'
    · refine .inr ⟨⟨row, col⟩, ?_⟩
      simp [behind, h, andThen, Nat.add_comm]
    · refine .inr ⟨⟨row + 1, col⟩, ?_⟩
      simp [behind, h, andThen]

/-- Induction over the characters in front of a position. -/
theorem induction {motive : List Char → Position → Prop} (empty : ∀ p, motive [] p)
    (front : ∀ c rest p, p.row = 0 → (c = '\n' ∨ p.col = 0) → motive (c :: rest) p)
    (behind : ∀ c rest q, motive rest q → motive (c :: rest) ((behind c).andThen q)) (text : List Char)
    (p : Position) : motive text p := by
  induction text generalizing p with
  | nil => exact empty p
  | cons c rest ih =>
    rcases front_or_behind c p with ⟨hrow, hcol⟩ | ⟨q, rfl⟩
    · exact front c rest p hrow hcol
    · exact behind c rest q (ih q)

/-! ### What stands in front of a position -/

section Weight

variable (weight : Char → Nat)

@[simp] theorem weightBefore_nil (p : Position) : weightBefore weight [] p.row p.col = 0 := by
  cases p.row <;> rfl

theorem weightBefore_front {c : Char} {p : Position} (rest : List Char) (hrow : p.row = 0)
    (hcol : c = '\n' ∨ p.col = 0) : weightBefore weight (c :: rest) p.row p.col = 0 := by
  rw [hrow, weightBefore, if_pos hcol]

/-- The first character stands in front of all positions behind it. -/
theorem weightBefore_behind (c : Char) (rest : List Char) (q : Position) :
    weightBefore weight (c :: rest) ((behind c).andThen q).row ((behind c).andThen q).col =
      weight c + weightBefore weight rest q.row q.col := by
  by_cases h : c = '\n'
  · subst h
    have hcol : ((behind '\n').andThen q).col = q.col := by
      simp [behind, andThen]
    rw [hcol, show ((behind '\n').andThen q).row = q.row + 1 from Nat.add_comm 1 q.row, weightBefore, if_pos rfl]
  · rcases q with ⟨_ | row, col⟩
    · simp [behind, andThen, h, weightBefore, Nat.add_comm 1 col]
    · simp [behind, andThen, h, weightBefore]

end Weight

@[simp] theorem index_nil (p : Position) : p.index [] = 0 := weightBefore_nil _ p

theorem index_front {c : Char} {p : Position} (rest : List Char) (hrow : p.row = 0) (hcol : c = '\n' ∨ p.col = 0) :
    p.index (c :: rest) = 0 := weightBefore_front _ rest hrow hcol

theorem index_behind (c : Char) (rest : List Char) (q : Position) :
    ((behind c).andThen q).index (c :: rest) = q.index rest + 1 :=
  (weightBefore_behind _ c rest q).trans (Nat.add_comm _ _)

/-- What lies behind the first character comes in the same order as in the rest. -/
theorem le_of_behind_le {c : Char} {p q : Position} (h : (behind c).andThen p ≤ (behind c).andThen q) : p ≤ q := by
  rw [le_iff] at h ⊢
  simp only [andThen] at h
  by_cases hp : p.row = 0 <;> by_cases hq : q.row = 0 <;> simp only [hp, hq, if_true, if_false] at h <;> omega

/-- Nothing behind the first character comes before the front. -/
theorem not_behind_le_front {c : Char} {p q : Position} (hrow : q.row = 0) (hcol : c = '\n' ∨ q.col = 0) :
    ¬ (behind c).andThen p ≤ q := by
  rw [le_iff, hrow]
  by_cases h : c = '\n'
  · simp only [andThen, behind, h, if_true]
    omega
  · have hzero : q.col = 0 := hcol.resolve_left h
    simp only [andThen, behind, h, if_false, hzero]
    split <;> omega

/-- **A later position has no less in front of it.** -/
theorem weightBefore_mono (weight : Char → Nat) (text : List Char) {p q : Position} (h : p ≤ q) :
    weightBefore weight text p.row p.col ≤ weightBefore weight text q.row q.col := by
  induction text, p using Position.induction generalizing q with
  | empty p => simp
  | front c rest p hrow hcol =>
    rw [weightBefore_front weight rest hrow hcol]
    exact Nat.zero_le _
  | behind c rest p ih =>
    rcases front_or_behind c q with ⟨hrow, hcol⟩ | ⟨q, rfl⟩
    · exact absurd h (not_behind_le_front hrow hcol)
    · rw [weightBefore_behind, weightBefore_behind]
      exact Nat.add_le_add_left (ih (le_of_behind_le h)) _

/-! ### The place a position means -/

@[simp] theorem clamp_nil (p : Position) : p.clamp [] = ⟨0, 0⟩ := by
  rcases p with ⟨_ | row, col⟩ <;> simp [clamp, endOf]

theorem clamp_front {c : Char} {p : Position} (rest : List Char) (hrow : p.row = 0) (hcol : c = '\n' ∨ p.col = 0) :
    p.clamp (c :: rest) = ⟨0, 0⟩ := by
  by_cases h : c = '\n'
  · subst h
    simp [clamp, hrow]
  · obtain ⟨first, more, -, hlines⟩ := exists_lines_cons h rest
    simp [clamp, hrow, hlines, hcol.resolve_left h]

theorem endOf_cons (c : Char) (rest : List Char) : endOf (c :: rest) = (behind c).andThen (endOf rest) := by
  by_cases h : c = '\n'
  · subst h
    obtain ⟨first, more, hlines⟩ := List.exists_cons_of_ne_nil (lines_ne_nil rest)
    simp [endOf, behind, andThen, hlines]
    omega
  · obtain ⟨first, more, hrest, hlines⟩ := exists_lines_cons h rest
    cases more with
    | nil => simp [endOf, behind, andThen, h, hrest, hlines, Nat.add_comm]
    | cons second more => simp [endOf, behind, andThen, h, hrest, hlines]

theorem clamp_behind (c : Char) (rest : List Char) (q : Position) :
    ((behind c).andThen q).clamp (c :: rest) = (behind c).andThen (q.clamp rest) := by
  by_cases h : c = '\n'
  · subst h
    have hrow : ((behind '\n').andThen q).row = q.row + 1 := Nat.add_comm 1 q.row
    rw [clamp, hrow, lines_newline, List.getElem?_cons_succ, clamp, endOf_cons]
    cases (lines rest)[q.row]? with
    | none => rfl
    | some line => simp [behind, andThen, Nat.add_comm]
  · obtain ⟨first, more, hrest, hlines⟩ := exists_lines_cons h rest
    rcases q with ⟨_ | row, col⟩
    · simp [clamp, behind, andThen, h, hrest, hlines]
      omega
    · have hrow : ((behind c).andThen ⟨row + 1, col⟩).row = row + 1 := by simp [behind, h, andThen]
      rw [clamp, hrow, hlines, List.getElem?_cons_succ, clamp, hrest, List.getElem?_cons_succ, endOf_cons]
      cases more[row]? with
      | none => rfl
      | some line => simp [behind, andThen, h]

/-- **The walk to a position ends at the place that it means.** -/
theorem positionAt_index (text : List Char) (p : Position) : positionAt text (p.index text) = p.clamp text := by
  induction text, p using Position.induction with
  | empty p => simp
  | front c rest p hrow hcol => rw [index_front rest hrow hcol, clamp_front rest hrow hcol, positionAt_zero]
  | behind c rest q ih => rw [index_behind, positionAt_succ, ih, clamp_behind]

end Position

namespace Text

open Position

/-- The walk over the whole text ends at its end. -/
theorem positionAt_length (text : List Char) : positionAt text text.length = endOf text := by
  induction text with
  | nil => simp [endOf]
  | cons c rest ih => rw [List.length_cons, positionAt_succ, ih, endOf_cons]

/-- **The walk to the position of an index ends at that index**, or at the end of the text. -/
theorem index_positionAt (text : List Char) (i : Nat) : (positionAt text i).index text = min i text.length := by
  induction text generalizing i with
  | nil => simp
  | cons c rest ih =>
    cases i with
    | zero => rw [positionAt_zero, index_front rest rfl (.inr rfl), Nat.zero_min]
    | succ i => rw [positionAt_succ, index_behind, ih, List.length_cons, Nat.succ_min_succ]

end Text

end GrammarStudio
