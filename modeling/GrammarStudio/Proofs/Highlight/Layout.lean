import GrammarStudio.Highlight.Layout
import GrammarStudio.Proofs.Highlight.Sections
import GrammarStudio.Proofs.Text.Offsets

/-!
# A layout loses nothing

The scan of a grammar counts in bytes, and the sections of a grammar are cut by characters.  The two go together: at
every character the scan knows how many bytes stand in front of it, so each piece that it asks for is there, and it is
the section that belongs there.  A layout that grows by such pieces covers its text without a gap.

* `slice?_eq_some_iff` — a text is cut at the ends of two of its beginnings;
* `passWhile_indexed`, `passQuoted_indexed`, `passMark_indexed`, `pass_indexed` — the scan passes what a token takes;
* `scan_indexed` — the scan appends the sections, one by one;
* `Tiles`, `Layout.Covers` — stretches that follow one another, and what they cover;
* `layOut_tiles` — the layout of a grammar is there, and it loses nothing.
-/

namespace GrammarStudio.Highlight

open String

/-! ### Bytes -/

/-- How many bytes some characters have. -/
def bytes (chars : List Char) : Nat := (ofList chars).utf8ByteSize

@[simp] theorem bytes_nil : bytes [] = 0 := rfl

@[simp] theorem bytes_cons (c : Char) (rest : List Char) : bytes (c :: rest) = c.utf8Size + bytes rest :=
  Position.utf8ByteSize_cons c rest

@[simp] theorem bytes_append (a b : List Char) : bytes (a ++ b) = bytes a + bytes b := by
  rw [bytes, ofList_append, utf8ByteSize_append]
  rfl

/-- **The piece between two bytes** is what stands between two beginnings of the text that have so many bytes. -/
theorem slice?_eq_some_iff {text piece : String} {start stop : Nat} :
    slice? text start stop = some piece ↔
      ∃ front back, text = front ++ piece ++ back ∧ start = front.utf8ByteSize ∧ stop = (front ++ piece).utf8ByteSize := by
  constructor
  · intro h
    unfold slice? at h
    split at h
    case isFalse => cases h
    case isTrue hcut =>
      have hle : text.pos ⟨start⟩ hcut.2.1 ≤ text.pos ⟨stop⟩ hcut.2.2 := hcut.1
      rw [extract_eq_copy_slice _ _ hle] at h
      obtain ⟨front, back, hstart, hstop⟩ := copy_slice_eq_iff_splits.mp ⟨hle, Option.some.inj h⟩
      exact ⟨front, back, hstop.eq_append, congrArg Pos.Raw.byteIdx hstart.offset_eq_rawEndPos,
        congrArg Pos.Raw.byteIdx hstop.offset_eq_rawEndPos⟩
  · rintro ⟨front, back, rfl, rfl, rfl⟩
    have hstart : (⟨front.utf8ByteSize⟩ : Pos.Raw).IsValid (front ++ piece ++ back) :=
      Pos.Raw.isValid_iff_exists_append.mpr ⟨front, piece ++ back, append_assoc, rfl⟩
    have hstop : (⟨(front ++ piece).utf8ByteSize⟩ : Pos.Raw).IsValid (front ++ piece ++ back) :=
      Pos.Raw.isValid_iff_exists_append.mpr ⟨front ++ piece, back, rfl, rfl⟩
    obtain ⟨hle, hcopy⟩ : ∃ hle, (slice (front ++ piece ++ back) (pos _ _ hstart) (pos _ _ hstop) hle).copy = piece :=
      copy_slice_eq_iff_splits.mpr ⟨front, back, ⟨append_assoc, rfl⟩, ⟨rfl, rfl⟩⟩
    rw [slice?, dif_pos ⟨hle, hstart, hstop⟩, extract_eq_copy_slice _ _ hle, hcopy]

theorem slice?_ofList (front piece back : List Char) :
    slice? (ofList (front ++ piece ++ back)) (bytes front) (bytes front + bytes piece) = some (ofList piece) := by
  rw [← bytes_append]
  exact slice?_eq_some_iff.mpr
    ⟨ofList front, ofList back, by rw [ofList_append, ofList_append], rfl, by rw [← ofList_append]; rfl⟩

/-- The piece up to the end. -/
theorem slice?_ofList_end (front back : List Char) :
    slice? (ofList (front ++ back)) (bytes front) (ofList (front ++ back)).utf8ByteSize = some (ofList back) := by
  have h := slice?_ofList front back []
  rwa [List.append_nil, ← bytes_append] at h

/-- A piece stays where it is when the text grows. -/
theorem slice?_append {text piece : String} {start stop : Nat} (h : slice? text start stop = some piece)
    (more : String) : slice? (text ++ more) start stop = some piece := by
  obtain ⟨front, back, rfl, hstart, hstop⟩ := slice?_eq_some_iff.mp h
  exact slice?_eq_some_iff.mpr ⟨front, back ++ more, append_assoc, hstart, hstop⟩

theorem isValid_of_slice? {text piece : String} {start stop : Nat} (h : slice? text start stop = some piece) :
    (⟨start⟩ : Pos.Raw).IsValid text ∧ (⟨stop⟩ : Pos.Raw).IsValid text := by
  unfold slice? at h
  split at h
  case isTrue hcut => exact hcut.2
  case isFalse => cases h

/-! ### Over a token -/

/-- The counter of the scan, one character further on. -/
theorem bytes_concat (front : List Char) (c : Char) : bytes front + c.utf8Size = bytes (front ++ [c]) := by
  simp

theorem indexed_cons (front : List Char) (c : Char) (rest : List Char) :
    indexed (bytes front) (c :: rest) = (bytes front, c) :: indexed (bytes (front ++ [c])) rest := by
  rw [indexed, bytes_concat]

/-- The byte behind `front` and the first characters of `rest`, and the characters to come then. -/
def ahead (front rest : List Char) (n : Nat) : Nat × List (Nat × Char) :=
  (bytes (front ++ rest.take n), indexed (bytes (front ++ rest.take n)) (rest.drop n))

@[simp] theorem ahead_zero (front rest : List Char) : ahead front rest 0 = (bytes front, indexed (bytes front) rest) := by
  simp [ahead]

@[simp] theorem ahead_succ (front : List Char) (c : Char) (rest : List Char) (n : Nat) :
    ahead front (c :: rest) (n + 1) = ahead (front ++ [c]) rest n := by
  simp [ahead]

theorem ahead_add (front rest : List Char) (m n : Nat) :
    ahead front rest (m + n) = ahead (front ++ rest.take m) (rest.drop m) n := by
  simp only [ahead, List.take_add, List.append_assoc, List.drop_drop]

theorem passWhile_indexed (kind : Char → Bool) (front rest : List Char) :
    passWhile kind (bytes front) (indexed (bytes front) rest) = ahead front rest (rest.takeWhile kind).length := by
  induction rest generalizing front with
  | nil => exact (ahead_zero front []).symm
  | cons c rest ih =>
    rw [indexed_cons, passWhile, List.takeWhile_cons]
    split
    · rw [bytes_concat, ih, List.length_cons, ahead_succ]
    · rw [List.length_nil, ahead_zero, indexed_cons]

theorem passQuoted_indexed (close : Char) (escaped : Bool) (front rest : List Char) :
    passQuoted close escaped (bytes front) (indexed (bytes front) rest) =
      ahead front rest (quotedLength close escaped rest) := by
  fun_induction quotedLength close escaped rest generalizing front with
  | case1 => exact (ahead_zero front []).symm
  | case2 c rest ih => rw [indexed_cons, passQuoted, if_pos rfl, bytes_concat, ih, ahead_succ]
  | case3 rest ih =>
    rw [indexed_cons, passQuoted, if_neg Bool.false_ne_true, if_pos rfl, bytes_concat, ih, ahead_succ]
  | case4 c rest hc hend =>
    rw [indexed_cons, passQuoted, if_neg Bool.false_ne_true, if_neg hc, if_pos hend, bytes_concat, ahead_succ,
      ahead_zero]
  | case5 c rest hc hend ih =>
    rw [indexed_cons, passQuoted, if_neg Bool.false_ne_true, if_neg hc, if_neg hend, bytes_concat, ih, ahead_succ]

/-- The look behind an `i` finds the character that decides whether it is a mark. -/
theorem passMark_indexed (front rest : List Char) :
    passMark (ofList (front ++ rest)) (bytes front) (indexed (bytes front) rest) =
      some (ahead front rest (markLength rest)) := by
  have hone : bytes front + 1 = bytes (front ++ ['i']) := bytes_concat front 'i'
  have hbehind (rest : List Char) :
      slice? (ofList (front ++ 'i' :: rest)) (bytes (front ++ ['i'])) (ofList (front ++ 'i' :: rest)).utf8ByteSize =
        some (ofList rest) := by
    rw [List.append_cons]
    exact slice?_ofList_end (front ++ ['i']) rest
  fun_cases markLength rest with
  | case1 c rest hname =>
    rw [indexed_cons, passMark, hone, hbehind, Option.bind_eq_bind, Option.bind_some, toList_ofList, List.head?_cons,
      Option.any_some, if_pos hname, ahead_zero, indexed_cons front]
    rfl
  | case2 c rest hname =>
    rw [indexed_cons, passMark, hone, hbehind, Option.bind_eq_bind, Option.bind_some, toList_ofList, List.head?_cons,
      Option.any_some, if_neg hname, ahead_succ, ahead_zero]
    rfl
  | case3 =>
    rw [indexed_cons, passMark, hone, hbehind, Option.bind_eq_bind, Option.bind_some, toList_ofList, List.head?_nil,
      Option.any_none, if_neg Bool.false_ne_true, ahead_succ, ahead_zero]
    rfl
  | case4 rest hmore hlast =>
    rw [ahead_zero]
    cases rest with
    | nil => rfl
    | cons c rest =>
      have hc : c ≠ 'i' := by
        rintro rfl
        cases rest with
        | nil => exact hlast rfl
        | cons d rest => exact hmore d rest rfl
      rw [indexed_cons, passMark]
      · rfl
      · simpa using hc

section

variable (front rest : List Char) (n : Nat)

theorem slice?_ahead :
    slice? (ofList (front ++ rest)) (ahead front rest n).1 (ofList (front ++ rest)).utf8ByteSize =
      some (ofList (rest.drop n)) := by
  have h := slice?_ofList_end (front ++ rest.take n) (rest.drop n)
  rwa [List.append_assoc, List.take_append_drop] at h

theorem passMark_ahead :
    passMark (ofList (front ++ rest)) (ahead front rest n).1 (ahead front rest n).2 =
      some (ahead front rest (n + markLength (rest.drop n))) := by
  have h := passMark_indexed (front ++ rest.take n) (rest.drop n)
  rwa [List.append_assoc, List.take_append_drop, ← ahead_add] at h

end

/-- What the scan knows behind a token whose first character is the last of `front`. -/
def Token.passed (t : Token) (front rest : List Char) : Passed :=
  ⟨t.tone, (ahead front rest t.length).1, t.depth, (ahead front rest t.length).2⟩

/-- **The scan passes what a token takes**, and it finds every piece that it asks for. -/
theorem pass_indexed (depth : Nat) (front : List Char) (c : Char) (rest : List Char) :
    pass (ofList (front ++ [c] ++ rest)) depth (bytes front) c (indexed (bytes (front ++ [c])) rest) =
      some ((token depth c rest).map fun t => t.passed (front ++ [c]) rest) := by
  unfold pass token nameLength
  simp only [Option.pure_def, Option.bind_eq_bind, bytes_concat, passWhile_indexed, passQuoted_indexed, passMark_ahead,
    slice?_ahead, Option.bind_some, toList_ofList]
  -- both sides make the same choices, so what is done with a token is done at the end of each
  simp only [apply_ite (Option.map _), apply_ite some, Option.map_some, Option.map_none, Token.passed, ahead_zero]

/-! ### The scan -/

section

variable {text : String} {l : Layout} {flushed depth start : Nat} {c : Char} {rest : List (Nat × Char)}

theorem scan_of_pass_none (h : pass text depth start c rest = some none) :
    scan text l flushed depth ((start, c) :: rest) = scan text l flushed depth rest := by
  rw [scan]
  split
  case h_1 hpass => cases h.symm.trans hpass
  case h_2 => rfl
  case h_3 hpass => cases h.symm.trans hpass

theorem scan_of_pass_some {p : Passed} {plain piece : String} (h : pass text depth start c rest = some (some p))
    (hplain : slice? text flushed start = some plain) (hpiece : slice? text start p.stop = some piece) :
    scan text l flushed depth ((start, c) :: rest) =
      scan text ((l.append plain .plain).append piece p.tone) p.stop p.depth p.rest := by
  rw [scan]
  split
  case h_1 hpass => cases h.symm.trans hpass
  case h_2 hpass => cases h.symm.trans hpass
  case h_3 q hpass =>
    obtain rfl : p = q := Option.some.inj (Option.some.inj (h.symm.trans hpass))
    rw [hplain, hpiece]
    rfl

end

/-- A layout with sections at its end. -/
def Layout.extend (l : Layout) (parts : List Section) : Layout := parts.foldl (fun l s => l.append s.text s.tone) l

theorem Layout.extend_append (l : Layout) (parts more : List Section) :
    l.extend (parts ++ more) = (l.extend parts).extend more := List.foldl_append

/-- Plain characters at the end are one section, or none. -/
theorem Layout.extend_plainSections (l : Layout) (plain : List Char) :
    l.extend (plainSections plain) = l.append (ofList plain) .plain := by
  cases plain <;> rfl

/-- **The scan appends the sections.**  The induction is on the characters to come, as the sections are cut.  What
carries it is what the scan counts: `done` is laid out, `plain` has been passed since, last character first, and the two
counters are the bytes of `done` and of both. -/
theorem scan_indexed (l : Layout) (done : List Char) (depth : Nat) (plain rest : List Char) :
    scan (ofList (done ++ plain.reverse ++ rest)) l (bytes done) depth (indexed (bytes (done ++ plain.reverse)) rest) =
      some (l.extend (sectionsFrom depth plain rest)) := by
  fun_induction sectionsFrom depth plain rest generalizing l done with
  | case1 depth plain =>
    rw [indexed, scan, List.append_nil, Layout.extend_plainSections]
    split
    case isTrue =>
      rw [slice?_ofList_end]
      rfl
    case isFalse h =>
      -- Nothing is left over, so nothing plain was passed.
      have hbytes : bytes plain.reverse = 0 := by
        have hle : bytes (done ++ plain.reverse) ≤ bytes done := Nat.le_of_not_lt h
        rw [bytes_append] at hle
        omega
      rw [utf8ByteSize_eq_zero_iff.mp hbytes]
      rfl
  | case2 depth plain c rest htoken ih =>
    have hpass := pass_indexed depth (done ++ plain.reverse) c rest
    rw [htoken] at hpass
    rw [indexed_cons, List.append_cons, scan_of_pass_none hpass]
    have hnext := ih l done
    rwa [List.reverse_cons, ← List.append_assoc] at hnext
  | case3 depth plain c rest t htoken ih =>
    have hpass := pass_indexed depth (done ++ plain.reverse) c rest
    rw [htoken] at hpass
    have hplain := slice?_ofList done plain.reverse ([c] ++ rest)
    rw [← bytes_append, ← List.append_assoc] at hplain
    have hpiece := slice?_ofList (done ++ plain.reverse) (c :: rest.take t.length) (rest.drop t.length)
    have htext : done ++ plain.reverse ++ (c :: rest.take t.length) ++ rest.drop t.length =
        done ++ plain.reverse ++ [c] ++ rest := by simp
    rw [← bytes_append, htext, List.append_cons _ c (rest.take t.length)] at hpiece
    rw [indexed_cons, List.append_cons, scan_of_pass_some hpass hplain hpiece, Layout.extend_append,
      Layout.extend_plainSections]
    have hnext := ih ((l.append (ofList plain.reverse) .plain).append (ofList (c :: rest.take t.length)) t.tone)
      (done ++ plain.reverse ++ [c] ++ rest.take t.length)
    rw [List.reverse_nil, List.append_nil, List.append_assoc _ (rest.take t.length), List.take_append_drop] at hnext
    exact hnext

theorem layOut_eq (text : String) : layOut text = some (Layout.extend {} (sections text)) := by
  have h := scan_indexed {} [] 0 [] text.toList
  rwa [List.reverse_nil, List.append_nil, List.nil_append, ofList_toList] at h

/-! ### What a layout covers -/

/-- Stretches that follow one another from a byte to another one, none of them empty. -/
def Tiles : (start : Nat) → List Stretch → (stop : Nat) → Prop
  | start, [], stop => start = stop
  | start, s :: rest, stop => s.start = start ∧ s.start < s.stop ∧ Tiles s.stop rest stop

/-- One more stretch. -/
theorem Tiles.concat {start stop : Nat} {stretches : List Stretch} (h : Tiles start stretches stop) {last : Nat}
    (hlast : stop < last) (tone : Tone) : Tiles start (stretches ++ [⟨stop, last, tone⟩]) last := by
  induction stretches generalizing start with
  | nil =>
    obtain rfl : start = stop := h
    exact ⟨rfl, hlast, rfl⟩
  | cons s rest ih => exact ⟨h.1, h.2.1, ih h.2.2⟩

/-- **The stretches of a layout cover its text**, without a gap, and these are the pieces. -/
structure Layout.Covers (l : Layout) (parts : List Section) : Prop where
  tiles : Tiles 0 l.stretches l.text.utf8ByteSize
  pieces : l.pieces = parts.map some
  chars : chars parts = l.text.toList

namespace Layout

theorem covers_empty : Covers {} [] := ⟨rfl, rfl, rfl⟩

section

variable {l : Layout} {parts : List Section} (h : l.pieces = parts.map some)

include h

/-- Where all stretches cover pieces, each of them does. -/
theorem exists_slice? {s : Stretch} (hs : s ∈ l.stretches) : ∃ piece, slice? l.text s.start s.stop = some piece := by
  have hmem : (slice? l.text s.start s.stop).map (Section.mk · s.tone) ∈ parts.map some :=
    h ▸ List.mem_map_of_mem hs
  obtain ⟨part, -, hpart⟩ := List.mem_map.mp hmem
  obtain ⟨piece, hpiece, -⟩ := Option.map_eq_some_iff.mp hpart.symm
  exact ⟨piece, hpiece⟩

/-- A stretch that covers a piece covers it as well when the text has grown. -/
theorem pieces_grow (more : String) : { l with text := l.text ++ more }.pieces = parts.map some := by
  rw [← h]
  refine List.map_congr_left fun s hs => ?_
  obtain ⟨piece, hpiece⟩ := exists_slice? h hs
  rw [hpiece, slice?_append hpiece more]

end

/-- **One more section is covered, too.** -/
theorem Covers.append {l : Layout} {parts : List Section} (h : l.Covers parts) {s : Section} (hs : s.text ≠ "") :
    (l.append s.text s.tone).Covers (parts ++ [s]) := by
  have happend : l.append s.text s.tone =
      ⟨l.text ++ s.text, l.stretches ++ [⟨l.text.utf8ByteSize, (l.text ++ s.text).utf8ByteSize, s.tone⟩]⟩ := by
    rw [Layout.append, if_neg (by simpa using hs)]
  have hlast : slice? (l.text ++ s.text) l.text.utf8ByteSize (l.text ++ s.text).utf8ByteSize = some s.text :=
    slice?_eq_some_iff.mpr ⟨l.text, "", (append_empty).symm, rfl, rfl⟩
  rw [happend]
  refine ⟨h.tiles.concat ?_ s.tone, ?_, ?_⟩
  · rw [utf8ByteSize_append]
    have hpos : s.text.utf8ByteSize ≠ 0 := fun hzero => hs (utf8ByteSize_eq_zero_iff.mp hzero)
    omega
  · rw [Layout.pieces, List.map_append, List.map_append, List.map_singleton, List.map_singleton, hlast]
    exact congrArg (· ++ [some s]) (pieces_grow h.pieces s.text)
  · rw [chars_append, h.chars, toList_append]
    simp [Highlight.chars]

/-- And so are any number of them. -/
theorem Covers.extend {l : Layout} {parts more : List Section} (h : l.Covers parts) (hmore : ∀ s ∈ more, s.text ≠ "") :
    (l.extend more).Covers (parts ++ more) := by
  induction more generalizing l parts with
  | nil => rwa [List.append_nil]
  | cons s rest ih =>
    obtain ⟨hs, hrest⟩ := List.forall_mem_cons.mp hmore
    rw [List.append_cons]
    exact ih (h.append hs) hrest

end Layout

theorem text_ne_empty_of_mem_plainSections {plain : List Char} {s : Section} (h : s ∈ plainSections plain) :
    s.text ≠ "" := by
  unfold plainSections at h
  split at h
  case isTrue => cases h
  case isFalse hplain =>
    obtain rfl := List.mem_singleton.mp h
    simpa using hplain

/-- No section is empty: a token has its first character. -/
theorem text_ne_empty_of_mem_sectionsFrom {depth : Nat} {plain rest : List Char} {s : Section}
    (h : s ∈ sectionsFrom depth plain rest) : s.text ≠ "" := by
  fun_induction sectionsFrom depth plain rest with
  | case1 depth plain => exact text_ne_empty_of_mem_plainSections h
  | case2 depth plain c rest _ ih => exact ih h
  | case3 depth plain c rest t _ ih =>
    rcases List.mem_append.mp h with h | h
    · exact text_ne_empty_of_mem_plainSections h
    · rcases List.mem_cons.mp h with rfl | h
      · simp
      · exact ih h

/-- The texts of sections put together have their characters. -/
theorem join_text (parts : List Section) : String.join (parts.map Section.text) = ofList (chars parts) := by
  rw [← toList_inj, toList_join, toList_ofList, chars, List.flatMap_map]

/-- **A layout loses nothing.**  Every text has one: whatever piece the scan asks for is there.  Its text is the one
that was laid out, and its stretches follow one another from the first byte to the last, none of them empty, and none
begins or ends inside a character.  What they cover are the sections of the grammar, which put together are the text. -/
theorem layOut_tiles (text : String) :
    ∃ l, layOut text = some l ∧ l.text = text ∧ Tiles 0 l.stretches text.utf8ByteSize ∧
      (∀ s ∈ l.stretches, (⟨s.start⟩ : Pos.Raw).IsValid text ∧ (⟨s.stop⟩ : Pos.Raw).IsValid text) ∧
      l.pieces = (sections text).map some ∧ (∀ s ∈ sections text, s.text ≠ "") ∧
      String.join ((sections text).map Section.text) = text := by
  obtain ⟨l, hl, hcovers⟩ : ∃ l, layOut text = some l ∧ l.Covers (sections text) :=
    ⟨_, layOut_eq text, Layout.covers_empty.extend fun s hs => text_ne_empty_of_mem_sectionsFrom hs⟩
  have htext : l.text = text := toList_inj.mp (hcovers.chars.symm.trans (chars_sections text))
  subst htext
  refine ⟨l, hl, rfl, hcovers.tiles, fun s hs => ?_, hcovers.pieces,
    fun s hs => text_ne_empty_of_mem_sectionsFrom hs, ?_⟩
  · obtain ⟨piece, hpiece⟩ := Layout.exists_slice? hcovers.pieces hs
    exact isValid_of_slice? hpiece
  · rw [join_text, chars_sections, ofList_toList]

end GrammarStudio.Highlight
