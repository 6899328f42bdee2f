import GrammarStudio.Proofs.Highlight.Sections
import Mathlib.Data.List.DropRight

/-!
# Literals and classes at the end of a line

A literal or a class that is not closed ends with the line feed of its line.  There are two ways over it: the line feed
can be escaped, and behind a literal that it ends, a mark may follow at the start of the next line.

* `escaped` — does a character lose its meaning to a backslash?
* `quotedLength_lineFeed` — where the text between the quotes goes on behind a line feed;
* `Quoted` — a token in its parts, and `Quoted.goesOn_iff`: where it goes on;
* `runs_over_lineFeed_iff` — where a section of a text does.
-/

namespace GrammarStudio.Highlight

/-- Does the character behind `before` lose its meaning to a backslash?  In a run of backslashes every second one has
lost its own. -/
def escaped (before : List Char) : Bool := (before.rtakeWhile (· == '\\')).length % 2 == 1

@[simp] theorem escaped_nil : escaped [] = false := rfl

@[simp] theorem escaped_concat (before : List Char) (c : Char) :
    escaped (before ++ [c]) = (!escaped before && c == '\\') := by
  by_cases hc : c = '\\'
  · simp only [escaped, List.rtakeWhile_concat, hc, beq_self_eq_true, if_true, List.length_append,
      List.length_singleton, Bool.and_true]
    grind
  · simp [escaped, hc]

/-! ### Between the quotes -/

theorem quotedLength_eq_zero_iff (close : Char) (rest : List Char) :
    quotedLength close false rest = 0 ↔ rest = [] := by
  cases rest with
  | nil => simp [quotedLength]
  | cons c rest =>
    rw [quotedLength]
    split_ifs <;> simp

/-- Behind a line feed the body goes on only if that is escaped, and then it does if there is text.  The induction is on
the text still to come; `before` is what has been read, whose last backslashes are the state. -/
theorem quotedLength_lineFeed (close : Char) (before rest b a : List Char)
    (h : rest.take (quotedLength close (escaped before) rest) = b ++ '\n' :: a) :
    a ≠ [] ↔ escaped (before ++ b) ∧ a ++ rest.drop (quotedLength close (escaped before) rest) ≠ [] := by
  generalize he : escaped before = e at h ⊢
  fun_induction quotedLength close e rest generalizing before b with
  | case1 e => simp at h
  | case2 c rest ih =>
    cases b with
    | nil =>
      obtain ⟨rfl, rfl⟩ := List.cons_eq_cons.mp h
      simp [he, List.take_eq_nil_iff, quotedLength_eq_zero_iff]
    | cons x b =>
      obtain ⟨rfl, hb⟩ := List.cons_eq_cons.mp h
      simpa using ih (before ++ [c]) b (by simp [he]) hb
  | case3 rest ih =>
    cases b with
    | nil => simp at h
    | cons x b =>
      obtain ⟨rfl, hb⟩ := List.cons_eq_cons.mp h
      simpa using ih (before ++ ['\\']) b (by simp [he]) hb
  | case4 c rest hc hend =>
    -- The body ends here, and what ends it is not escaped.
    have hends : [c] = b ++ '\n' :: a := by simpa using h
    obtain ⟨rfl, -, rfl⟩ : b = [] ∧ c = '\n' ∧ a = [] := by
      cases b <;> simp_all
    simp [he]
  | case5 c rest hc hend ih =>
    cases b with
    | nil => simp_all
    | cons x b =>
      obtain ⟨rfl, hb⟩ := List.cons_eq_cons.mp h
      simpa using ih (before ++ [c]) b (by simp [he, hc]) hb

/-! ### The mark behind them -/

/-- The mark is a single letter or nothing. -/
theorem take_markLength (rest : List Char) :
    rest.take (markLength rest) = if markLength rest = 1 then ['i'] else [] := by
  unfold markLength
  split
  · split <;> simp
  · simp
  · simp

/-- A literal or a class in two parts: the body, that is what stands between the quotes with the one that closes it,
and the mark, which only a literal has. -/
structure Quoted (close c : Char) (rest : List Char) (t : Token) (body mark : List Char) : Prop where
  opens : c ≠ '\\' ∧ c ≠ '\n'
  body_eq : body = rest.take (quotedLength close false rest)
  behind_body : rest.drop (quotedLength close false rest) = mark ++ rest.drop t.length
  take_eq : rest.take t.length = body ++ mark
  mark_eq : mark = if t.tone = .literal ∧ markLength (mark ++ rest.drop t.length) = 1 then ['i'] else []

theorem exists_quoted {depth : Nat} {c : Char} {rest : List Char} {t : Token} (ht : token depth c rest = some t)
    (hq : t.tone = .literal ∨ t.tone = .charClass) : ∃ close body mark, Quoted close c rest t body mark := by
  cases begins_of_token ht with
  | charClass hclass => exact ⟨']', _, [], by simp [hclass], rfl, rfl, by simp, by simp⟩
  | literal hliteral =>
    have hbehind := List.take_append_drop (markLength (rest.drop (quotedLength c false rest)))
      (rest.drop (quotedLength c false rest))
    rw [List.drop_drop] at hbehind
    have hopens : c ≠ '\\' ∧ c ≠ '\n' := by
      rcases hliteral with rfl | rfl <;> decide
    exact ⟨c, _, _, hopens, rfl, hbehind.symm, List.take_add, by rw [hbehind, take_markLength]; simp⟩
  | _ => simp at hq

section

variable {close c : Char} {rest body mark before after : List Char} {t : Token}

/-- A line feed of the token is not the quote in front, and no part of the mark: it stands in the body. -/
theorem Quoted.lineFeed_in_body (h : Quoted close c rest t body mark)
    (hlf : c :: rest.take t.length = before ++ '\n' :: after) :
    ∃ b a, before = c :: b ∧ body = b ++ '\n' :: a ∧ after = a ++ mark := by
  have hnone : '\n' ∉ mark := by
    rw [h.mark_eq]; split <;> simp
  cases before with
  | nil => exact absurd (List.cons_eq_cons.mp hlf).1 h.opens.2
  | cons x b =>
    obtain ⟨rfl, htail⟩ := List.cons_eq_cons.mp hlf
    rcases List.append_eq_append_iff.mp (h.take_eq.symm.trans htail) with ⟨inMark, -, hin⟩ | ⟨a, hb, ha⟩
    · exact absurd (hin ▸ List.mem_append_right inMark List.mem_cons_self) hnone
    · cases a with
      | nil => exact absurd ((List.nil_append mark).symm.trans ha.symm ▸ List.mem_cons_self) hnone
      | cons y a =>
        obtain ⟨rfl, rfl⟩ := List.cons_eq_cons.mp ha
        exact ⟨b, a, rfl, hb, rfl⟩

/-- Behind a line feed the token goes on if that is escaped and there is text, or if the body ends there and the text
goes on with a mark. -/
theorem Quoted.goesOn_iff (h : Quoted close c rest t body mark)
    (hlf : c :: rest.take t.length = before ++ '\n' :: after) :
    after ≠ [] ↔ if escaped before then after ++ rest.drop t.length ≠ []
      else t.tone = .literal ∧ markLength (after ++ rest.drop t.length) = 1 := by
  obtain ⟨b, a, rfl, hb, rfl⟩ := h.lineFeed_in_body hlf
  have hc : escaped [c] = false := (escaped_concat [] c).trans (by simp [h.opens.1])
  have hbody : a ≠ [] ↔ escaped (c :: b) ∧ a ++ (mark ++ rest.drop t.length) ≠ [] := by
    have hgoes := quotedLength_lineFeed close [c] rest b a
    rw [hc, ← h.body_eq, h.behind_body] at hgoes
    exact hgoes hb
  split
  case isTrue he =>
    refine ⟨fun hne => List.append_ne_nil_of_left_ne_nil hne _, fun hne => ?_⟩
    rw [List.append_assoc] at hne
    exact List.append_ne_nil_of_left_ne_nil (hbody.mpr ⟨he, hne⟩) mark
  case isFalse he =>
    -- The body ends here: what goes on is the mark.
    obtain rfl : a = [] := by simpa [he] using hbody
    have hmark := h.mark_eq
    rw [List.nil_append]
    by_cases hi : t.tone = .literal ∧ markLength (mark ++ rest.drop t.length) = 1
    · rw [if_pos hi] at hmark
      exact iff_of_true (by simp [hmark]) hi
    · rw [if_neg hi] at hmark
      exact iff_of_false (by simp [hmark]) hi

end

/-! ### Over the end of a line -/

/-- **Where a literal or a class runs over the end of a line.**  Take any line feed in such a section, with what the
section holds in front of it and behind it, and the sections that follow.  The section goes on behind the line feed in
exactly two cases: an odd run of backslashes escapes it and the text goes on, or it ends a literal and the next line
begins with the mark, an `i` that no character of a name follows.  Any other line feed is the section's last character,
so that no character of a later line is colored with the section. -/
theorem runs_over_lineFeed_iff (text : String) (parts more : List Section) (s : Section)
    (hs : sections text = parts ++ s :: more) (hq : s.tone = .literal ∨ s.tone = .charClass)
    (before after : List Char) (hlf : s.text.toList = before ++ '\n' :: after) :
    after ≠ [] ↔ if escaped before then after ++ chars more ≠ []
      else s.tone = .literal ∧ markLength (after ++ chars more) = 1 := by
  have hplain : s.tone ≠ .plain := by
    rcases hq with hq | hq <;> simp [hq]
  obtain ⟨depth, c, rest, t, ht, rfl, rfl⟩ := sectionsFrom_eq_append hs hplain
  rw [chars_sectionsFrom, List.reverse_nil, List.nil_append]
  obtain ⟨close, body, mark, hparts⟩ := exists_quoted ht hq
  exact hparts.goesOn_iff (by simpa using hlf)

theorem runs_over_lineFeed_iff_both :
    sections "'\\\na\ni" = [] ++ ⟨"'\\\na\ni", .literal⟩ :: [] ∧
      (['a', '\n', 'i'] ≠ [] ↔ if escaped ['\'', '\\'] then ['a', '\n', 'i'] ++ chars [] ≠ []
        else Tone.literal = .literal ∧ markLength (['a', '\n', 'i'] ++ chars []) = 1) ∧
      (['i'] ≠ [] ↔ if escaped ['\'', '\\', '\n', 'a'] then ['i'] ++ chars [] ≠ []
        else Tone.literal = .literal ∧ markLength (['i'] ++ chars []) = 1) := by
  have hcut : sections "'\\\na\ni" = [] ++ ⟨"'\\\na\ni", .literal⟩ :: [] := by
    simp [sections, sectionsFrom, token, quotedLength, markLength, plainSections]
  exact ⟨hcut, runs_over_lineFeed_iff _ _ _ _ hcut (.inl rfl) _ _ (by decide),
    runs_over_lineFeed_iff _ _ _ _ hcut (.inl rfl) _ _ (by decide)⟩

/-- So a quote left open does not end with its line if the next one is an `i`, nor does a bracket if a backslash stands
at the end of the line. -/
theorem not_ends_with_line :
    ¬ (∀ text, ∀ s ∈ sections text, s.tone = .literal → '\n' ∉ s.text.toList.dropLast) ∧
      ¬ ∀ text, ∀ s ∈ sections text, s.tone = .charClass → '\n' ∉ s.text.toList.dropLast := by
  have hliteral : sections "'a\ni" = [⟨"'a\ni", .literal⟩] := by
    simp [sections, sectionsFrom, token, quotedLength, markLength, plainSections]
  have hclass : sections "[a\\\nb]" = [⟨"[a\\\nb]", .charClass⟩] := by
    simp [sections, sectionsFrom, token, quotedLength, plainSections]
  refine ⟨fun h => ?_, fun h => ?_⟩
  · exact h "'a\ni" ⟨"'a\ni", .literal⟩ (by simp [hliteral]) rfl (by decide)
  · exact h "[a\\\nb]" ⟨"[a\\\nb]", .charClass⟩ (by simp [hclass]) rfl (by decide)

end GrammarStudio.Highlight
