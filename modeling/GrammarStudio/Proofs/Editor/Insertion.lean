import GrammarStudio.Editor.Buffer
import GrammarStudio.Proofs.Text.Offsets

/-!
# Insertions

What is inserted into a buffer goes where its cursor means to be, and the cursor goes behind it.  The cursor is kept as
a row and a column, so the next insertion has to find that place again, in the text that the first one has made.  It
does, and so a text can be inserted piece by piece.

* `Buffer.toList_insert` — the characters of the new text;
* `Buffer.cursorIndex_insert` — the cursor is found again behind what was inserted;
* `Buffer.insert_insert` — two insertions, one after the other, are one;
* `Buffer.insert_at_cursor` — the whole of it, in characters and in bytes.
-/

namespace GrammarStudio

open Text

/-- A position and the place that it means have the same index. -/
theorem Position.index_clamp (p : Position) (text : List Char) : (p.clamp text).index text = p.index text := by
  rw [← positionAt_index, index_positionAt]
  exact Nat.min_eq_left (p.index_le text)

namespace Editor.Buffer

variable (b : Buffer) (t u : String)

/-- The characters in front of the cursor, and those behind it. -/
def charsBefore : List Char := b.text.toList.take b.cursorIndex

def charsAfter : List Char := b.text.toList.drop b.cursorIndex

@[simp] theorem length_charsBefore : b.charsBefore.length = b.cursorIndex := by
  rw [charsBefore, List.length_take]
  exact Nat.min_eq_left (b.cursor.index_le b.text.toList)

/-- **What is inserted stands between the two.** -/
@[simp] theorem toList_insert : (b.insert t).text.toList = b.charsBefore ++ t.toList ++ b.charsAfter :=
  String.toList_ofList

theorem cursor_insert :
    (b.insert t).cursor = positionAt (b.insert t).text.toList (b.cursorIndex + t.toList.length) := by
  rw [toList_insert]
  rfl

/-- An insertion changes the text and the cursor, and asks the host to move its own. -/
theorem insert_frame :
    b.insert t = { b with text := (b.insert t).text, cursor := (b.insert t).cursor, cursorMoved := true } := rfl

/-- **The cursor is found again behind what was inserted**, through all rows and characters in front of it. -/
theorem cursorIndex_insert : (b.insert t).cursorIndex = b.cursorIndex + t.toList.length := by
  have hinside : b.cursorIndex + t.toList.length ≤ (b.insert t).text.toList.length := by
    rw [toList_insert, List.length_append, List.length_append, length_charsBefore]
    omega
  calc (b.insert t).cursorIndex
      = (positionAt (b.insert t).text.toList (b.cursorIndex + t.toList.length)).index (b.insert t).text.toList := by
        rw [cursorIndex, cursor_insert]
    _ = min (b.cursorIndex + t.toList.length) (b.insert t).text.toList.length := index_positionAt _ _
    _ = b.cursorIndex + t.toList.length := Nat.min_eq_left hinside

theorem charsBefore_insert : (b.insert t).charsBefore = b.charsBefore ++ t.toList := by
  have hlength : b.cursorIndex + t.toList.length = (b.charsBefore ++ t.toList).length := by
    rw [List.length_append, length_charsBefore]
  rw [charsBefore, cursorIndex_insert, toList_insert, hlength, List.take_left]

theorem charsAfter_insert : (b.insert t).charsAfter = b.charsAfter := by
  have hlength : b.cursorIndex + t.toList.length = (b.charsBefore ++ t.toList).length := by
    rw [List.length_append, length_charsBefore]
  rw [charsAfter, cursorIndex_insert, toList_insert, hlength, List.drop_left]

/-- The text after two insertions is that after one of both. -/
theorem text_insert_insert : ((b.insert t).insert u).text = (b.insert (t ++ u)).text := by
  rw [← String.toList_inj, toList_insert, toList_insert, charsBefore_insert, charsAfter_insert, String.toList_append,
    List.append_assoc b.charsBefore]

/-- **Two insertions, one after the other, are one.** -/
theorem insert_insert : (b.insert t).insert u = b.insert (t ++ u) := by
  have hcursor : ((b.insert t).insert u).cursor = (b.insert (t ++ u)).cursor := by
    rw [cursor_insert, cursor_insert, text_insert_insert, cursorIndex_insert, String.toList_append, List.length_append,
      Nat.add_assoc]
  rw [insert_frame (b.insert t), insert_frame b (t ++ u), text_insert_insert, hcursor]
  rfl

/-! ### The same in bytes -/

/-- The text is cut at the offset of the cursor, and what is inserted is put in between. -/
theorem text_insert : (b.insert t).text =
    (b.text.sliceTo (b.cursor.place b.text)).copy ++ t ++ (b.text.sliceFrom (b.cursor.place b.text)).copy := by
  have hcut := b.cursor.splits_place b.text
  rw [hcut.copy_sliceTo_eq, hcut.copy_sliceFrom_eq, ← String.toList_inj, toList_insert, String.toList_append,
    String.toList_append, String.toList_ofList, String.toList_ofList]
  rfl

/-- The place behind what was inserted, as many bytes further on as it has. -/
theorem offset_insert : ((b.insert t).cursor.place (b.insert t).text).offset.byteIdx =
    (b.cursor.place b.text).offset.byteIdx + t.utf8ByteSize := by
  have hbefore : (b.insert t).text.toList.take ((b.insert t).cursor.index (b.insert t).text.toList)
      = b.charsBefore ++ t.toList := charsBefore_insert b t
  rw [Position.place_offset, Position.place_offset, Position.offset_eq, Position.offset_eq, hbefore,
    String.ofList_append, String.utf8ByteSize_append, String.ofList_toList]
  rfl

/-- **An insertion splices at the cursor.**  Whatever the cursor of a buffer is, there is a place in the text at its
offset, where no character is cut; what is inserted goes there, and the new text can be cut behind it, where as many
characters are in front as were before and came in.  In characters, the text is the old one up to the index of the place
that the cursor means, what is inserted, and the rest of the old one; the cursor stands at the position behind what was
inserted; nothing else changes but the request to the host.  And to insert two texts one after the other leaves the same
buffer as to insert them as one. -/
theorem insert_at_cursor (b : Buffer) (t : String) :
    let i := (b.cursor.clamp b.text.toList).index b.text.toList
    (∃ place : b.text.Pos, place.offset.byteIdx = b.cursor.offset b.text.toList ∧
        (b.insert t).text = (b.text.sliceTo place).copy ++ t ++ (b.text.sliceFrom place).copy ∧
        ∃ behind : (b.insert t).text.Pos, behind.offset.byteIdx = place.offset.byteIdx + t.utf8ByteSize ∧
          ((b.insert t).text.sliceTo behind).copy.length = i + t.length) ∧
      (b.insert t).text.toList = b.text.toList.take i ++ t.toList ++ b.text.toList.drop i ∧
      (b.insert t).cursor = positionAt (b.insert t).text.toList (i + t.length) ∧
      b.insert t = { b with text := (b.insert t).text, cursor := (b.insert t).cursor, cursorMoved := true } ∧
      ∀ u, (b.insert t).insert u = b.insert (t ++ u) := by
  intro i
  have hi : i = b.cursorIndex := b.cursor.index_clamp b.text.toList
  rw [hi, ← String.length_toList]
  refine ⟨⟨b.cursor.place b.text, Position.place_offset _ _, text_insert b t, ?_⟩, toList_insert b t,
    cursor_insert b t, insert_frame b t, insert_insert b t⟩
  refine ⟨(b.insert t).cursor.place (b.insert t).text, offset_insert b t, ?_⟩
  rw [Position.length_sliceTo_place]
  exact cursorIndex_insert b t

end Editor.Buffer

end GrammarStudio
