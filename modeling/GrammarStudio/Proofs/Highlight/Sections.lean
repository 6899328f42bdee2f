import GrammarStudio.Highlight.Sections
import Mathlib.Combinatorics.Enumerative.DyckWord

/-!
# Sections and the tokens they come from

What is not plain in a text was cut as a token.  The text can be taken apart at such a section: it is a token at the
depth of parentheses reached there, and what follows is cut from the depth behind it.  That depth is known from the
sections in front, of which only the parentheses count.

* `chars_sections` — the sections put together are the text;
* `Begins`, `begins_of_token` — the ways a token begins, with what it takes then;
* `Section.paren?`, `parens` — the parentheses among sections, as steps up and down;
* `depthAfter` — the depth behind some parentheses;
* `NoParens` — characters among which there is no parenthesis, as all that begin no token;
* `token_of_sectionsFrom` — a section that is not plain, and the token that it is, at the depth behind the others;
* `sectionsFrom_eq_append` — the same at some depth.
-/

namespace GrammarStudio.Highlight

theorem tone_of_mem_plainSections {text : List Char} {s : Section} (h : s ∈ plainSections text) : s.tone = .plain := by
  unfold plainSections at h
  split at h
  · simp at h
  · obtain rfl := List.mem_singleton.mp h
    rfl

theorem chars_sectionsFrom (depth : Nat) (plain rest : List Char) :
    chars (sectionsFrom depth plain rest) = plain.reverse ++ rest := by
  fun_induction sectionsFrom depth plain rest with
  | case1 depth plain => simp
  | case2 depth plain c rest _ ih => simp [ih]
  | case3 depth plain c rest t _ ih => simp [ih, List.take_append_drop]

/-- The sections put together are the text. -/
theorem chars_sections (text : String) : chars (sections text) = text.toList :=
  chars_sectionsFrom 0 [] text.toList

/-! ### Tokens -/

/-- **The ways a token begins**, with what it takes then. -/
inductive Begins (depth : Nat) (c : Char) (rest : List Char) : Token → Prop
  | comment (h : c = '#') : Begins depth c rest ⟨.comment, (rest.takeWhile (· ≠ '\n')).length, depth⟩
  | charClass (h : c = '[') : Begins depth c rest ⟨.charClass, quotedLength ']' false rest, depth⟩
  | literal (h : c = '\'' ∨ c = '"') : Begins depth c rest
      ⟨.literal, quotedLength c false rest + markLength (rest.drop (quotedLength c false rest)), depth⟩
  | opening (h : c = '(') : Begins depth c rest ⟨.paren depth, 0, depth + 1⟩
  | closing (h : c = ')') : Begins depth c rest ⟨.paren (depth - 1), 0, depth - 1⟩
  | directive (h : c = '%') : Begins depth c rest ⟨.directive, nameLength rest, depth⟩
  | definition (h : isNameStart c = true) : Begins depth c rest ⟨.definition, nameLength rest, depth⟩
  | reference (h : isNameStart c = true) : Begins depth c rest ⟨.reference, nameLength rest, depth⟩
  | operator (h : isOperator c = true) : Begins depth c rest ⟨.operator, 0, depth⟩

/-- A token begins in one of these ways. -/
theorem begins_of_token {depth : Nat} {c : Char} {rest : List Char} {t : Token} (h : token depth c rest = some t) :
    Begins depth c rest t := by
  unfold token at h
  by_cases hcomment : c = '#'
  · cases (if_pos hcomment).symm.trans h
    exact .comment hcomment
  rw [if_neg hcomment] at h
  by_cases hclass : c = '['
  · cases (if_pos hclass).symm.trans h
    exact .charClass hclass
  rw [if_neg hclass] at h
  by_cases hliteral : c = '\'' ∨ c = '"'
  · cases (if_pos hliteral).symm.trans h
    exact .literal hliteral
  rw [if_neg hliteral] at h
  by_cases hopen : c = '('
  · cases (if_pos hopen).symm.trans h
    exact .opening hopen
  rw [if_neg hopen] at h
  by_cases hclose : c = ')'
  · cases (if_pos hclose).symm.trans h
    exact .closing hclose
  rw [if_neg hclose] at h
  by_cases hdirective : c = '%'
  · cases (if_pos hdirective).symm.trans h
    exact .directive hdirective
  rw [if_neg hdirective] at h
  by_cases hname : isNameStart c = true
  · cases (if_pos hname).symm.trans h
    split
    · exact .definition hname
    · exact .reference hname
  rw [if_neg hname] at h
  by_cases hoperator : isOperator c = true
  · cases (if_pos hoperator).symm.trans h
    exact .operator hoperator
  · cases (if_neg hoperator).symm.trans h

/-! ### Parentheses -/

/-- An opening parenthesis is a step up, a closing one is a step down, and any other section is neither. -/
def Section.paren? (s : Section) : Option DyckStep :=
  if s.text = "(" then some .U else if s.text = ")" then some .D else none

/-- The parentheses among sections. -/
def parens (parts : List Section) : List DyckStep := parts.filterMap Section.paren?

@[simp] theorem parens_nil : parens [] = [] := rfl

@[simp] theorem parens_append (a b : List Section) : parens (a ++ b) = parens a ++ parens b := List.filterMap_append

theorem parens_cons (s : Section) (parts : List Section) : parens (s :: parts) = parens [s] ++ parens parts :=
  parens_append [s] parts

/-- The depth behind a parenthesis.  Outside there is nothing to go down to. -/
def stepDepth (depth : Nat) : DyckStep → Nat
  | .U => depth + 1
  | .D => depth - 1

/-- The depth behind some parentheses. -/
def depthAfter (depth : Nat) (steps : List DyckStep) : Nat := steps.foldl stepDepth depth

@[simp] theorem depthAfter_nil (depth : Nat) : depthAfter depth [] = depth := rfl

@[simp] theorem depthAfter_append (depth : Nat) (a b : List DyckStep) :
    depthAfter depth (a ++ b) = depthAfter (depthAfter depth a) b := List.foldl_append

/-- A section whose characters are no parenthesis, or more than one, is none. -/
theorem parens_eq_nil {chars : List Char} (hopen : chars ≠ ['(']) (hclose : chars ≠ [')']) (tone : Tone) :
    parens [⟨String.ofList chars, tone⟩] = [] := by
  have hu : String.ofList chars ≠ "(" := fun h => hopen (String.ofList_injective h)
  have hd : String.ofList chars ≠ ")" := fun h => hclose (String.ofList_injective h)
  simp [parens, Section.paren?, hu, hd]

/-- There is no parenthesis among these characters. -/
def NoParens (chars : List Char) : Prop := '(' ∉ chars ∧ ')' ∉ chars

theorem noParens_nil : NoParens [] := ⟨List.not_mem_nil, List.not_mem_nil⟩

theorem NoParens.reverse {chars : List Char} (h : NoParens chars) : NoParens chars.reverse :=
  ⟨mt List.mem_reverse.mp h.1, mt List.mem_reverse.mp h.2⟩

/-- Every parenthesis begins a token. -/
theorem NoParens.cons {chars : List Char} (h : NoParens chars) {depth : Nat} {c : Char} {rest : List Char}
    (hc : token depth c rest = none) : NoParens (c :: chars) := by
  have hopen : '(' ≠ c := by
    rintro rfl
    simp [token] at hc
  have hclose : ')' ≠ c := by
    rintro rfl
    simp [token] at hc
  exact ⟨List.not_mem_cons_of_ne_of_not_mem hopen h.1, List.not_mem_cons_of_ne_of_not_mem hclose h.2⟩

/-- **The depth behind a token** is the one behind its section. -/
theorem depthAfter_token {depth : Nat} {c : Char} {rest : List Char} {t : Token} (h : token depth c rest = some t) :
    depthAfter depth (parens [⟨String.ofList (c :: rest.take t.length), t.tone⟩]) = t.depth := by
  have hother (hopen : c ≠ '(') (hclose : c ≠ ')') (n : Nat) (tone : Tone) :
      depthAfter depth (parens [⟨String.ofList (c :: rest.take n), tone⟩]) = depth := by
    rw [parens_eq_nil (by simp [hopen]) (by simp [hclose]), depthAfter_nil]
  cases begins_of_token h with
  | opening hc =>
    subst hc
    rfl
  | closing hc =>
    subst hc
    rfl
  | _ hc => exact hother (by rintro rfl; exact absurd hc (by decide)) (by rintro rfl; exact absurd hc (by decide)) _ _

theorem parens_plainSections {plain : List Char} (h : NoParens plain) : parens (plainSections plain) = [] := by
  unfold plainSections
  split
  · rfl
  · refine parens_eq_nil ?_ ?_ .plain
    · rintro rfl
      exact h.1 List.mem_cons_self
    · rintro rfl
      exact h.2 List.mem_cons_self

/-- **A section that is not plain is a token**, at the depth behind the sections in front, and the sections behind it
are those of the text behind the token. -/
theorem token_of_sectionsFrom {depth : Nat} {plain rest : List Char} (hplain : NoParens plain)
    {parts more : List Section} {s : Section} (h : sectionsFrom depth plain rest = parts ++ s :: more)
    (hs : s.tone ≠ .plain) :
    ∃ c rest' t, token (depthAfter depth (parens parts)) c rest' = some t ∧
      s = ⟨String.ofList (c :: rest'.take t.length), t.tone⟩ ∧
      more = sectionsFrom t.depth [] (rest'.drop t.length) := by
  fun_induction sectionsFrom depth plain rest generalizing parts with
  | case1 depth plain =>
    have hmem : s ∈ plainSections plain.reverse := by simp [h]
    exact absurd (tone_of_mem_plainSections hmem) hs
  | case2 depth plain c rest hnone ih => exact ih (hplain.cons hnone) h
  | case3 depth plain c rest t ht ih =>
    have hfirst : parens (plainSections plain.reverse) = [] := parens_plainSections hplain.reverse
    rcases List.append_eq_append_iff.mp h with ⟨front, hparts, hfront⟩ | ⟨back, hback, hcons⟩
    · cases front with
      | nil =>
        obtain ⟨rfl, rfl⟩ := List.cons_eq_cons.mp hfront
        refine ⟨c, rest, t, ?_, rfl, rfl⟩
        rwa [hparts, List.append_nil, hfirst, depthAfter_nil]
      | cons first front =>
        -- The section stands behind this token, and the depth there is the one behind the token.
        obtain ⟨rfl, hmore⟩ := List.cons_eq_cons.mp hfront
        rw [hparts, parens_append, hfirst, List.nil_append, parens_cons, depthAfter_append, depthAfter_token ht]
        exact ih noParens_nil hmore
    · cases back with
      | nil =>
        obtain ⟨rfl, rfl⟩ := List.cons_eq_cons.mp hcons
        refine ⟨c, rest, t, ?_, rfl, rfl⟩
        rwa [show parts = plainSections plain.reverse by simpa using hback.symm, hfirst, depthAfter_nil]
      | cons x back =>
        -- The section would stand among the plain ones in front of the token.
        obtain ⟨rfl, -⟩ := List.cons_eq_cons.mp hcons
        have hmem : s ∈ plainSections plain.reverse := by simp [hback]
        exact absurd (tone_of_mem_plainSections hmem) hs

/-- A section that is not plain is a token at some depth. -/
theorem sectionsFrom_eq_append {depth : Nat} {rest : List Char} {parts more : List Section} {s : Section}
    (h : sectionsFrom depth [] rest = parts ++ s :: more) (hs : s.tone ≠ .plain) :
    ∃ depth' c rest' t, token depth' c rest' = some t ∧
      s = ⟨String.ofList (c :: rest'.take t.length), t.tone⟩ ∧
      more = sectionsFrom t.depth [] (rest'.drop t.length) :=
  ⟨_, token_of_sectionsFrom noParens_nil h hs⟩

end GrammarStudio.Highlight
