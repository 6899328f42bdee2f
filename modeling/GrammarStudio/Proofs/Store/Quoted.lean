import GrammarStudio.Proofs.Json.Soundness
import GrammarStudio.Store.Quoted

/-!
# What is written of a map is read as that map

A map of texts is written as a JSON object, with some characters of its keys and values as escapes.  That text is one of
the spellings of the object, so the reader finds every key and value again, whatever characters are in them.  Any other
text is read as a map, too, if it spells an object of texts, and only then.

* `document`, `padded_render` — the object of a map, and the text that is written for it;
* `parse?_eq_some_iff`, `parse?_eq_none_iff` — a text is read as a map exactly if it spells an object of texts, and then
  as the map of its members;
* `ofPairs_of_sorted`, `parse?_render` — what is written of a map is read as that map.
-/

namespace GrammarStudio.Store.Entries

open Json (MembersWritten Padded StringPart StringWritten)

/-! ### Characters -/

theorem hexWritten_hexDigit {n : Nat} (h : n < 16) : Json.HexWritten n (hexDigit n) := ⟨h, .inl rfl⟩

/-- A character below space is written as the unit that it is. -/
theorem unitWritten_control {c : Char} (h : c.toNat < 0x20) :
    Json.UnitWritten c.toNat ['0', '0', hexDigit (c.toNat / 16), hexDigit (c.toNat % 16)] := by
  have hzero : Json.HexWritten 0 '0' := ⟨by decide, .inl rfl⟩
  have hunit := Json.UnitWritten.mk hzero hzero (hexWritten_hexDigit (n := c.toNat / 16) (by omega))
    (hexWritten_hexDigit (n := c.toNat % 16) (by omega))
  rwa [show ((0 * 16 + 0) * 16 + c.toNat / 16) * 16 + c.toNat % 16 = c.toNat by omega] at hunit

/-- **Each character is written as one of its spellings**, in front of the rest of the string. -/
theorem stringWritten_quoteChar (c : Char) {parts : List StringPart} {cs : List Char} (h : StringWritten parts cs) :
    StringWritten (.scalar c :: parts) (quoteChar c ++ cs) := by
  unfold quoteChar
  split
  case h_8 notQuote notEscape _ _ _ _ _ =>
    split
    case isTrue hcontrol =>
      have hhigh : Json.isHighUnit c.toNat = false := by simp only [Json.isHighUnit]; grind
      have hlow : Json.isLowUnit c.toNat = false := by simp only [Json.isLowUnit]; grind
      have hunit := StringWritten.unit (unitWritten_control hcontrol) hhigh hlow h
      rwa [Char.ofNat_toNat] at hunit
    case isFalse hprintable => exact .raw (Nat.le_of_not_lt hprintable) notQuote notEscape h
  all_goals exact .short (by decide) h

/-- A text is written as one of its spellings. -/
theorem stringWritten_quoted (text : String) :
    StringWritten (StringPart.ofText text) (text.toList.flatMap quoteChar) := by
  rw [StringPart.ofText]
  induction text.toList with
  | nil => exact .nil
  | cons c cs ih =>
    rw [List.map_cons, List.flatMap_cons]
    exact stringWritten_quoteChar c ih

/-! ### Members -/

/-- The members of a map's object. -/
def members (entries : Entries) : List (List StringPart × Json) :=
  entries.map fun p => (StringPart.ofText p.1, .string (StringPart.ofText p.2))

/-- The object of a map. -/
def document (entries : Entries) : Json := .object (members entries)

/-- A value stands behind a space, and perhaps in front of a line break. -/
theorem padded_quote (text : String) {after : List Char} (h : Json.Blanks after) :
    Padded (.string (StringPart.ofText text)) ([' '] ++ (quote text ++ after)) :=
  .mk (by simp [Json.Blanks]) (.string (stringWritten_quoted text)) h

/-- The lines of a map's members, with the line breaks around them. -/
theorem membersWritten_lines (p : String × String) (rest : Entries) :
    MembersWritten (members (p :: rest)) ('\n' :: (renderMembers (p :: rest) ++ ['\n'])) := by
  have hindent : Json.Blanks ['\n', ' ', ' '] := by simp [Json.Blanks]
  induction rest generalizing p with
  | nil =>
    have hbreak : Json.Blanks ['\n'] := by simp [Json.Blanks]
    have hone := MembersWritten.one hindent (stringWritten_quoted p.1) .nil (padded_quote p.2 hbreak)
    simpa [members, renderMembers, renderMember, quote] using hone
  | cons q rest ih =>
    have hmore := MembersWritten.more hindent (stringWritten_quoted p.1) .nil (padded_quote p.2 .nil) (ih q)
    simpa [members, renderMembers, renderMember, quote] using hmore

/-- **What is written of a map spells its object.** -/
theorem padded_render (entries : Entries) : Padded (document entries) (render entries).toList := by
  rw [render, String.toList_ofList]
  cases entries with
  | nil => exact .bare (.emptyObject .nil)
  | cons p rest =>
    have hobject := Padded.bare (.object (membersWritten_lines p rest))
    simpa [document] using hobject

/-! ### Reading -/

/-- A member is read as a pair if it is the one of that pair. -/
theorem pair?_eq_some_iff {m : List StringPart × Json} {p : String × String} :
    pair? m = some p ↔ m = (StringPart.ofText p.1, .string (StringPart.ofText p.2)) := by
  obtain ⟨name, value⟩ := m
  obtain ⟨key, text⟩ := p
  cases value with
  | string parts =>
    simp only [pair?, Option.bind_eq_bind, Option.bind_eq_some_iff, Option.map_eq_some_iff,
      StringPart.text?_eq_some_iff, Prod.mk.injEq, Json.string.injEq]
    constructor
    · rintro ⟨_, rfl, _, rfl, rfl, rfl⟩
      exact ⟨rfl, rfl⟩
    · rintro ⟨rfl, rfl⟩
      exact ⟨key, rfl, text, rfl, rfl, rfl⟩
  | _ => simp [pair?]

/-- The members of an object are read as pairs if they are the members of these. -/
theorem mapM_pair?_eq_some_iff {ms : List (List StringPart × Json)} {pairs : Entries} :
    ms.mapM pair? = some pairs ↔ ms = members pairs := by
  induction ms generalizing pairs with
  | nil => cases pairs <;> simp [members]
  | cons m ms ih =>
    simp only [List.mapM_cons, Option.pure_def, Option.bind_eq_bind, Option.bind_eq_some_iff, Option.some.injEq,
      pair?_eq_some_iff, ih]
    constructor
    · rintro ⟨p, rfl, rest, rfl, rfl⟩
      rfl
    · intro h
      cases pairs with
      | nil => cases h
      | cons p rest =>
        rw [members, List.map_cons] at h
        obtain ⟨rfl, rfl⟩ := List.cons.inj h
        exact ⟨p, rfl, rest, rfl, rfl⟩

/-- A key behind all others is inserted at the end. -/
theorem insert_of_forall_lt {entries : Entries} {key : String} (h : ∀ p ∈ entries, p.1 < key) (value : String) :
    insert key value entries = entries ++ [(key, value)] := by
  induction entries with
  | nil => rfl
  | cons p rest ih =>
    have hlt : p.1 < key := h p List.mem_cons_self
    have hne : key ≠ p.1 := fun heq => String.lt_irrefl key (heq ▸ hlt)
    rw [insert, if_neg (String.lt_asymm hlt), if_neg hne, ih fun q hq => h q (List.mem_cons_of_mem _ hq)]
    rfl

/-- **A map is put together from its own pairs.** -/
theorem ofPairs_of_sorted {entries : Entries} (h : Sorted entries) : ofPairs entries = entries := by
  -- the pairs that are inserted already are a sorted list in front of the others
  suffices ∀ pairs done : Entries, Sorted (done ++ pairs) →
      pairs.foldl (fun entries p => insert p.1 p.2 entries) done = done ++ pairs from this entries [] h
  intro pairs
  induction pairs with
  | nil => intro done _; simp
  | cons p rest ih =>
    intro done hsorted
    have hlast : ∀ q ∈ done, q.1 < p.1 := fun q hq =>
      (List.pairwise_append.mp hsorted).2.2 q hq p List.mem_cons_self
    rw [List.append_cons] at hsorted
    rw [List.foldl_cons, insert_of_forall_lt hlast, ih _ hsorted, List.append_assoc]
    rfl

/-- **A text is read as a map exactly if it spells an object of texts**, and then as the map of the members. -/
theorem parse?_eq_some_iff {text : String} {entries : Entries} :
    parse? text = some entries ↔ ∃ pairs, Padded (document pairs) text.toList ∧ ofPairs pairs = entries := by
  constructor
  · intro h
    unfold parse? at h
    split at h
    · rename_i ms hobject
      obtain ⟨pairs, hpairs, rfl⟩ := Option.map_eq_some_iff.mp h
      rw [mapM_pair?_eq_some_iff.mp hpairs] at hobject
      exact ⟨pairs, Json.parse?_eq_some_iff.mp hobject, rfl⟩
    · cases h
  · rintro ⟨pairs, hspelled, rfl⟩
    rw [parse?, Json.parse?_padded hspelled]
    show ((members pairs).mapM pair?).map ofPairs = some (ofPairs pairs)
    rw [mapM_pair?_eq_some_iff.mpr rfl, Option.map_some]

/-- Every spelling of an object of texts is read as the map of its members. -/
theorem parse?_document {pairs : Entries} {text : String} (h : Padded (document pairs) text.toList) :
    parse? text = some (ofPairs pairs) :=
  parse?_eq_some_iff.mpr ⟨pairs, h, rfl⟩

/-- A text that spells no object of texts is not read as a map. -/
theorem parse?_eq_none_iff {text : String} : parse? text = none ↔ ∀ pairs, ¬ Padded (document pairs) text.toList := by
  constructor
  · intro h pairs hspelled
    rw [parse?_document hspelled] at h
    cases h
  · intro h
    refine Option.eq_none_iff_forall_ne_some.mpr fun entries hentries => ?_
    obtain ⟨pairs, hspelled, -⟩ := parse?_eq_some_iff.mp hentries
    exact h pairs hspelled

/-- **What is written of a map is read as that map.** -/
theorem parse?_render {entries : Entries} (h : Sorted entries) : parse? (render entries) = some entries := by
  rw [parse?_document (padded_render entries), ofPairs_of_sorted h]

end GrammarStudio.Store.Entries
