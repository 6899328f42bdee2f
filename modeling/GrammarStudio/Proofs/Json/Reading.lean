import GrammarStudio.Proofs.Json.Scanning
import GrammarStudio.Json.Reader

/-!
# Every spelling of a document is read

The reader goes on from a place where a value may stand, over any spelling of a value, to the place behind it.  The
documents and the reader have a case for each other, so the three statements about values, items and members follow
the grammar.

* `run_token`, `run_blanks` — one token, and none;
* `run_written`, `run_items`, `run_members` — a value, and what stands between the brackets of a container;
* `parse?_padded` — a whole text.
-/

namespace GrammarStudio.Json

namespace Reader

/-! ### Steps of the reader -/

/-- The reader takes the first token of the text. -/
theorem run_token {r r' : Reader} {cs rest : List Char} {t : Token} (ht : nextToken cs = .token t rest)
    (hs : r.step t = some r') : run r cs = run r' rest := by
  rw [run]
  split
  case h_1 h => rw [ht] at h; cases h
  case h_2 h => rw [ht] at h; cases h
  case h_3 t' rest' h =>
    rw [ht] at h
    cases h
    rw [hs]

/-- Two texts with the same first token are read alike. -/
theorem run_congr {cs ds : List Char} (h : nextToken cs = nextToken ds) (r : Reader) : run r cs = run r ds := by
  rw [run, run.eq_1 r ds]
  split
  case h_1 hcs => rw [← h, hcs]
  case h_2 hcs => rw [← h, hcs]
  case h_3 hcs => rw [← h, hcs]

theorem run_blanks {blanks : List Char} (h : Blanks blanks) (r : Reader) (cs : List Char) :
    run r (blanks ++ cs) = run r cs :=
  run_congr (nextToken_blanks h cs) r

/-- A complete document is the answer at the end of the text. -/
theorem run_complete (v : Json) {blanks : List Char} (h : Blanks blanks) : run (.complete v) blanks = some v := by
  have hb := run_blanks h (.complete v) []
  rw [List.append_nil] at hb
  rw [hb, run]
  rfl

/-- A value may come next. -/
def Awaits (r : Reader) (frames : List Frame) : Prop := r = .value frames ∨ r = .itemOrClose frames

/-- A member name may come next. -/
def AwaitsName (r : Reader) (frames : List Frame) : Prop := r = .name frames ∨ r = .nameOrClose frames

variable {r r' : Reader} {frames : List Frame}

/-- Where a value may come next, each token but a closing bracket begins one. -/
theorem Awaits.step (h : Awaits r frames) {t : Token} (ht : t ≠ .closeArray) : r.step t = begin frames t := by
  rcases h with rfl | rfl
  · rfl
  · cases t <;> first | rfl | exact absurd rfl ht

theorem AwaitsName.step (h : AwaitsName r frames) (name : List StringPart) :
    r.step (.string name) = beginMember name frames := by
  rcases h with rfl | rfl <;> rfl

/-- A token that is a value by itself. -/
theorem run_begin {cs rest : List Char} {t : Token} (hr : Awaits r frames) (ht : nextToken cs = .token t rest)
    (hclose : t ≠ .closeArray) (hb : begin frames t = some r') : run r cs = run r' rest :=
  run_token ht (by rw [hr.step hclose, hb])

/-! ### Values -/

mutual

/-- **A value is read as it is written.** -/
theorem run_written {v : Json} {cs rest : List Char} {r r' : Reader} {frames : List Frame} (h : Written v cs)
    (hrest : Apart rest) (hr : Awaits r frames) (hput : put v frames = some r') :
    run r (cs ++ rest) = run r' rest :=
  match h with
  | .null => run_begin hr rfl (by decide) hput
  | .yes => run_begin hr rfl (by decide) hput
  | .no => run_begin hr rfl (by decide) hput
  | .number hn => run_begin hr (nextToken_number hn hrest) (by rintro ⟨⟩) hput
  | .string hs => by
    rw [List.cons_append, List.append_assoc]
    exact run_begin hr (nextToken_string hs rest) (by rintro ⟨⟩) hput
  | .emptyArray hb => by
    rw [List.cons_append, List.append_assoc, run_begin hr rfl (by decide) rfl, run_blanks hb]
    exact run_token rfl hput
  | .array hitems => by
    rw [List.cons_append, List.append_assoc, run_begin hr rfl (by decide) rfl]
    exact run_items hitems (.inr rfl) hput
  | .emptyObject hb => by
    rw [List.cons_append, List.append_assoc, run_begin hr rfl (by decide) rfl, run_blanks hb]
    exact run_token rfl hput
  | .object hmembers => by
    rw [List.cons_append, List.append_assoc, run_begin hr rfl (by decide) rfl]
    exact run_members hmembers (.inr rfl) hput

/-- Blanks around a value change nothing. -/
theorem run_padded {v : Json} {cs rest : List Char} {r r' : Reader} {frames : List Frame} (h : Padded v cs)
    (hrest : Apart rest) (hr : Awaits r frames) (hput : put v frames = some r') :
    run r (cs ++ rest) = run r' rest :=
  match h with
  | .mk hbefore hv hafter => by
    rw [List.append_assoc, run_blanks hbefore, List.append_assoc,
      run_written hv (hrest.blanks hafter) hr hput, run_blanks hafter]

/-- The items of an array, behind those in `done`, go into the array that the bracket closes. -/
theorem run_items {items done : List Json} {cs rest : List Char} {r r' : Reader} {frames : List Frame}
    (h : ItemsWritten items cs) (hr : Awaits r (.items done :: frames))
    (hput : put (.array (done.reverse ++ items)) frames = some r') : run r (cs ++ ']' :: rest) = run r' rest :=
  match h with
  | .one hv => by
    rw [run_padded hv (apart_cons (by decide) rest) hr rfl]
    exact run_token rfl (by simpa [step, close] using hput)
  | .more hv hitems => by
    rw [List.append_assoc, List.cons_append, run_padded hv (apart_cons (by decide) _) hr rfl, run_token rfl rfl]
    exact run_items hitems (.inl rfl) (by simpa using hput)

/-- The members of an object, behind those in `done`, go into the object that the brace closes. -/
theorem run_members {members done : List (List StringPart × Json)} {cs rest : List Char} {r r' : Reader}
    {frames : List Frame} (h : MembersWritten members cs) (hr : AwaitsName r (.members done :: frames))
    (hput : put (.object (done.reverse ++ members)) frames = some r') : run r (cs ++ '}' :: rest) = run r' rest :=
  match h with
  | .one hbefore hname hafter hv => by
    simp only [List.append_assoc, List.cons_append]
    rw [run_blanks hbefore, run_token (nextToken_string hname _) (hr.step _), run_blanks hafter, run_token rfl rfl,
      run_padded hv (apart_cons (by decide) rest) (.inl rfl) rfl]
    exact run_token rfl (by simpa [step, close] using hput)
  | .more hbefore hname hafter hv hmembers => by
    simp only [List.append_assoc, List.cons_append]
    rw [run_blanks hbefore, run_token (nextToken_string hname _) (hr.step _), run_blanks hafter, run_token rfl rfl,
      run_padded hv (apart_cons (by decide) _) (.inl rfl) rfl, run_token rfl rfl]
    exact run_members hmembers (.inl rfl) (by simpa using hput)

end

end Reader

/-- **Every text that spells a document is read as that document.** -/
theorem parse?_padded {v : Json} {text : String} (h : Padded v text.toList) : parse? text = some v := by
  rw [parse?]
  have hrun : Reader.run (.value []) (text.toList ++ []) = Reader.run (.complete v) [] :=
    Reader.run_padded h apart_nil (.inl rfl) rfl
  rw [List.append_nil] at hrun
  rw [hrun]
  exact Reader.run_complete v Blanks.nil

end GrammarStudio.Json
