import GrammarStudio.Proofs.Text.Lines

/-!
# Indices and byte offsets

A position of a text has a number of bytes in front of it and a number of characters.  Both count the same piece of the
text, so a text can be cut at any position at all: no character is cut into, and nothing behind the end is asked for.

* `Position.offset_eq` — the offset is the length in bytes of the characters up to the index;
* `Position.place`, `Position.splits_place` — the place of a position in a string, and what it cuts the string into;
* `Position.offset_index_inverse` — offsets, indices and positions are inverse to each other, but for the clamping.
-/

namespace GrammarStudio

open Text

namespace Position

theorem utf8ByteSize_cons (c : Char) (rest : List Char) :
    (String.ofList (c :: rest)).utf8ByteSize = c.utf8Size + (String.ofList rest).utf8ByteSize := by
  have hsplit : String.ofList (c :: rest) = String.singleton c ++ String.ofList rest := by
    rw [String.singleton_eq_ofList, ← String.ofList_append, List.singleton_append]
  rw [hsplit, String.utf8ByteSize_append, String.utf8ByteSize_singleton]

/-- **The offset counts the bytes of the characters up to the index.** -/
theorem offset_eq (p : Position) (text : List Char) :
    p.offset text = (String.ofList (text.take (p.index text))).utf8ByteSize := by
  unfold offset
  induction text, p using Position.induction with
  | empty p => simp
  | front c rest p hrow hcol => rw [weightBefore_front _ rest hrow hcol, index_front rest hrow hcol]; rfl
  | behind c rest q ih => rw [weightBefore_behind, index_behind, ih, List.take_succ_cons, utf8ByteSize_cons]

/-- The characters in front of a position, and the others. -/
theorem take_append_drop_index (p : Position) (text : String) :
    String.ofList (text.toList.take (p.index text.toList)) ++ String.ofList (text.toList.drop (p.index text.toList))
      = text := by
  rw [← String.ofList_append, List.take_append_drop, String.ofList_toList]

/-- The place of a position in a string.  It never lies inside a character. -/
def place (p : Position) (text : String) : text.Pos :=
  ⟨⟨p.offset text.toList⟩, String.Pos.Raw.isValid_iff_exists_append.mpr
    ⟨_, _, (take_append_drop_index p text).symm, congrArg String.Pos.Raw.mk (offset_eq p text.toList)⟩⟩

@[simp] theorem place_offset (p : Position) (text : String) :
    (p.place text).offset.byteIdx = p.offset text.toList := rfl

/-- **A position cuts a string** in front of the character with its index. -/
theorem splits_place (p : Position) (text : String) :
    (p.place text).Splits (String.ofList (text.toList.take (p.index text.toList)))
      (String.ofList (text.toList.drop (p.index text.toList))) :=
  ⟨(take_append_drop_index p text).symm, congrArg String.Pos.Raw.mk (offset_eq p text.toList)⟩

/-- The slice in front of a position has as many characters as the index says. -/
theorem length_sliceTo_place (p : Position) (text : String) :
    (text.sliceTo (p.place text)).copy.length = p.index text.toList := by
  rw [(splits_place p text).copy_sliceTo_eq, String.length_ofList, List.length_take]
  exact Nat.min_eq_left (p.index_le text.toList)

/-- An earlier position has no greater index. -/
theorem index_mono (text : List Char) {p q : Position} (h : p ≤ q) : p.index text ≤ q.index text :=
  weightBefore_mono _ text h

/-- **Positions, indices and offsets are inverse to each other, but for the clamping.**  Any position of any text has an
offset in the text, at which no character is cut.  In front of it stand as many characters as the index says, and these
have as many bytes as the offset says.  The position of that index is the place that the position means: the position
itself, its column cut down to the length of its row, or the end of the text where there is no such row.  The index of
the position of an index is that index, or the end.  And a later position has no smaller index. -/
theorem offset_index_inverse (text : String) (p : Position) :
    (∃ place : text.Pos, place.offset.byteIdx = p.offset text.toList ∧
        (text.sliceTo place).copy = String.ofList (text.toList.take (p.index text.toList)) ∧
        (text.sliceTo place).copy.length = p.index text.toList) ∧
      p.offset text.toList ≤ text.utf8ByteSize ∧
      p.offset text.toList = (String.ofList (text.toList.take (p.index text.toList))).utf8ByteSize ∧
      positionAt text.toList (p.index text.toList) =
        (match (lines text.toList)[p.row]? with
        | some line => ⟨p.row, min p.col line.length⟩
        | none => positionAt text.toList text.toList.length) ∧
      (∀ i, (positionAt text.toList i).index text.toList = min i text.toList.length) ∧
      ∀ q, p ≤ q → p.index text.toList ≤ q.index text.toList := by
  refine ⟨⟨p.place text, rfl, (splits_place p text).copy_sliceTo_eq, length_sliceTo_place p text⟩,
    (p.place text).isValid.le_utf8ByteSize, offset_eq p text.toList, ?_, index_positionAt text.toList,
    fun q hle => index_mono text.toList hle⟩
  rw [positionAt_length]
  exact positionAt_index text.toList p

end Position

end GrammarStudio
