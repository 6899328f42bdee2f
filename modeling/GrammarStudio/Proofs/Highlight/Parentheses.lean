import GrammarStudio.Proofs.Highlight.Sections
import Mathlib.Data.List.Cycle
import Mathlib.Data.List.TakeWhile
import Mathlib.Tactic.SplitIfs

/-!
# Parentheses in pairs

The depth of parentheses is a number that goes up and down along the whole text, and stays where it is when there is
nothing to go down to.  Between two parentheses that belong together the others are balanced, so the depth is the same
at both, and they have one color.  A closing parenthesis that belongs to none is one at depth zero, and there the text
might as well begin.

* `depthAfter_dyckWord` — balanced parentheses leave the depth as it is;
* `exists_last_open` — at any depth but zero, an opening parenthesis waits for its closing one;
* `Balanced`, `Open` — sections with balanced parentheses, and the parenthesis that is open behind some sections;
* `pairs_share_color` — the colors of parentheses.
-/

namespace GrammarStudio.Highlight

/-! ### Depth -/

/-- Where no beginning has more closing parentheses than opening ones, none is lost.  The induction is on the last
parenthesis. -/
theorem depthAfter_add_count (depth : Nat) {steps : List DyckStep}
    (h : ∀ i, (steps.take i).count .D ≤ (steps.take i).count .U) :
    depthAfter depth steps + steps.count .D = depth + steps.count .U := by
  induction steps using List.reverseRecOn with
  | nil => rfl
  | append_singleton front x ih =>
    have hfront : ∀ i, (front.take i).count .D ≤ (front.take i).count .U := by
      intro i
      have htake : (front ++ [x]).take (min i front.length) = front.take i := by
        rw [List.take_append_of_le_length (min_le_right i _), ← List.take_eq_take_min]
      exact htake ▸ h (min i front.length)
    have hall := h (front ++ [x]).length
    rw [List.take_length, List.count_append, List.count_append] at hall
    rw [depthAfter_append, List.count_append, List.count_append]
    have hcount := ih hfront
    cases x with
    | U =>
      show depthAfter depth front + 1 + _ = _
      simp
      omega
    | D =>
      show depthAfter depth front - 1 + _ = _
      simp at hall ⊢
      omega

/-- **Balanced parentheses leave the depth as it is.** -/
theorem depthAfter_dyckWord (depth : Nat) (w : DyckWord) : depthAfter depth w.toList = depth := by
  have h := depthAfter_add_count depth w.count_D_le_count_U
  rw [w.count_U_eq_count_D] at h
  omega

/-- **At any depth but zero, an opening parenthesis waits for its closing one**, and it stands one level further out.
A closing one at the end takes one of two such levels away, so the induction is on how many parentheses there are. -/
theorem exists_last_open (steps : List DyckStep) (h : depthAfter 0 steps ≠ 0) :
    ∃ (front : List DyckStep) (mid : DyckWord),
      steps = front ++ .U :: mid.toList ∧ depthAfter 0 front + 1 = depthAfter 0 steps := by
  rcases List.eq_nil_or_concat' steps with rfl | ⟨before, x, rfl⟩
  · exact absurd rfl h
  · rw [depthAfter_append] at h ⊢
    cases x with
    | U => exact ⟨before, 0, rfl, rfl⟩
    | D =>
      have hdepth : depthAfter (depthAfter 0 before) [.D] = depthAfter 0 before - 1 := rfl
      rw [hdepth] at h ⊢
      obtain ⟨outer, inside, rfl, houter⟩ := exists_last_open before (by omega)
      obtain ⟨front, mid, rfl, hfront⟩ := exists_last_open outer (by omega)
      refine ⟨front, mid + inside.nest, ?_, by omega⟩
      show _ = front ++ .U :: (mid.toList ++ (([.U] ++ inside.toList) ++ [.D]))
      simp
  termination_by steps.length
  decreasing_by
    all_goals subst_vars
    all_goals simp only [List.length_append, List.length_cons, List.length_nil]
    all_goals omega

/-! ### Sections between parentheses -/

/-- The parentheses among these sections are balanced. -/
def Balanced (parts : List Section) : Prop := ∃ w : DyckWord, parens parts = w.toList

/-- Behind these sections, the next closing parenthesis belongs to this opening one: it is the last one behind which
the others are balanced. -/
def Open (parts : List Section) (o : Section) : Prop :=
  ∃ front mid, parts = front ++ o :: mid ∧ o.text = "(" ∧ Balanced mid

/-- At any depth but zero, there is such an opening parenthesis. -/
theorem exists_open {parts : List Section} (h : depthAfter 0 (parens parts) ≠ 0) : ∃ o, Open parts o := by
  obtain ⟨outer, inside, hsteps, -⟩ := exists_last_open (parens parts) h
  obtain ⟨front, back, rfl, -, hback⟩ := List.filterMap_eq_append_iff.mp hsteps
  obtain ⟨between, o, mid, rfl, -, ho, hmid⟩ := List.filterMap_eq_cons_iff.mp hback
  refine ⟨o, front ++ between, mid, by simp, ?_, inside, hmid⟩
  unfold Section.paren? at ho
  split_ifs at ho with htext
  · exact htext
  · cases ho

/-! ### Colors -/

theorem length_rainbow : rainbow.length = 7 := rfl

theorem nodup_rainbow : rainbow.Nodup := by decide

theorem color_paren (depth : Nat) :
    (Tone.paren depth).color = rainbow.get ⟨depth % rainbow.length, Nat.mod_lt _ (by decide)⟩ := by
  rw [Tone.color, List.getD_eq_getElem?_getD, List.getElem?_eq_getElem, Option.getD_some]
  rfl

theorem color_paren_mem (depth : Nat) : (Tone.paren depth).color ∈ rainbow := by
  rw [color_paren]
  exact List.get_mem _ _

/-- One level further in stands the next color, and behind the last the first again. -/
theorem color_paren_succ (depth : Nat) :
    (Tone.paren (depth + 1)).color = rainbow.next (Tone.paren depth).color (color_paren_mem depth) := by
  have hnext := List.next_getElem rainbow nodup_rainbow (depth % rainbow.length) (Nat.mod_lt _ (by decide))
  simp only [color_paren, List.get_eq_getElem]
  rw [hnext]
  simp only [Nat.mod_add_mod]

/-! ### Sections that are parentheses -/

/-- A parenthesis stands in no name. -/
theorem paren_not_mem_name {p : Char} (hp : p = '(' ∨ p = ')') (rest : List Char) :
    p ∉ rest.take (nameLength rest) := by
  intro h
  rw [nameLength, ← List.prefix_iff_eq_take.mp (List.takeWhile_prefix _)] at h
  have hname := List.mem_takeWhile_imp h
  rcases hp with rfl | rfl
  all_goals exact absurd hname (by decide)

/-- A parenthesis in a token is the token, or it stands in a comment, a literal or a class. -/
theorem paren_in_token {depth : Nat} {c p : Char} {rest : List Char} {t : Token} (ht : token depth c rest = some t)
    (hp : p = '(' ∨ p = ')') (hin : p ∈ c :: rest.take t.length) :
    (c :: rest.take t.length = [p] ∧ ∃ depth', t.tone = .paren depth') ∨
      t.tone = .comment ∨ t.tone = .literal ∨ t.tone = .charClass := by
  have hname := paren_not_mem_name hp rest
  have hne : p ≠ '%' ∧ isNameStart p = false ∧ isOperator p = false := by
    rcases hp with rfl | rfl
    all_goals decide
  have hbehind (h : isNameStart c = true) (hin : p ∈ c :: rest.take (nameLength rest)) : False := by
    rcases List.mem_cons.mp hin with rfl | hin
    · exact absurd h (by simp [hne.2.1])
    · exact hname hin
  cases begins_of_token ht with
  | comment => exact .inr (.inl rfl)
  | charClass => exact .inr (.inr (.inr rfl))
  | literal => exact .inr (.inr (.inl rfl))
  | opening => exact .inl ⟨by rw [List.mem_singleton.mp hin]; rfl, depth, rfl⟩
  | closing => exact .inl ⟨by rw [List.mem_singleton.mp hin]; rfl, depth - 1, rfl⟩
  -- The others begin with another character, and go on with characters of a name if at all.
  | directive hdirective =>
    rcases List.mem_cons.mp hin with rfl | hin
    · exact absurd hdirective hne.1
    · exact absurd hin hname
  | definition hstart => exact (hbehind hstart hin).elim
  | reference hstart => exact (hbehind hstart hin).elim
  | operator hoperator =>
    obtain rfl := List.mem_singleton.mp hin
    exact absurd hoperator (by simp [hne.2.2])

/-- **A parenthesis is a section of its own**, unless it stands in a comment, a literal or a class. -/
theorem paren_in_section {depth : Nat} {plain rest : List Char} (hplain : NoParens plain) {s : Section}
    (hs : s ∈ sectionsFrom depth plain rest) {p : Char} (hp : p = '(' ∨ p = ')') (hin : p ∈ s.text.toList) :
    (s.text = String.singleton p ∧ ∃ depth', s.tone = .paren depth') ∨
      s.tone = .comment ∨ s.tone = .literal ∨ s.tone = .charClass := by
  have hnone {plain : List Char} (hplain : NoParens plain) : s ∉ plainSections plain.reverse := by
    intro h
    have hchars : p ∈ chars (plainSections plain.reverse) := List.mem_flatMap.mpr ⟨s, h, hin⟩
    rw [chars_plainSections, List.mem_reverse] at hchars
    rcases hp with rfl | rfl
    · exact hplain.1 hchars
    · exact hplain.2 hchars
  fun_induction sectionsFrom depth plain rest with
  | case1 depth plain => exact absurd hs (hnone hplain)
  | case2 depth plain c rest htoken ih => exact ih (hplain.cons htoken) hs
  | case3 depth plain c rest t ht ih =>
    rcases List.mem_append.mp hs with hs | hs
    · exact absurd hs (hnone hplain)
    rcases List.mem_cons.mp hs with rfl | hs
    · rw [String.toList_ofList] at hin
      rcases paren_in_token ht hp hin with ⟨hchars, htone⟩ | hquoted
      · exact .inl ⟨by rw [hchars, String.singleton_eq_ofList], htone⟩
      · exact .inr hquoted
    · exact ih noParens_nil hs

section

variable {text : String} {parts more : List Section} {s : Section}

/-- A section that is a parenthesis is a token. -/
theorem tone_ne_plain (h : sections text = parts ++ s :: more) (hs : s.text = "(" ∨ s.text = ")") :
    s.tone ≠ .plain := by
  have hmem : s ∈ sections text := by simp [h]
  rcases hs with hs | hs
  · have hparen := paren_in_section noParens_nil hmem (.inl rfl) (by rw [hs]; decide)
    rcases hparen with ⟨-, depth, h⟩ | h | h | h <;> simp [h]
  · have hparen := paren_in_section noParens_nil hmem (.inr rfl) (by rw [hs]; decide)
    rcases hparen with ⟨-, depth, h⟩ | h | h | h <;> simp [h]

/-- **An opening parenthesis** has the tone of its depth. -/
theorem tone_of_opening (h : sections text = parts ++ s :: more) (hs : s.text = "(") :
    s.tone = .paren (depthAfter 0 (parens parts)) := by
  obtain ⟨c, rest, t, ht, rfl, -⟩ :=
    token_of_sectionsFrom noParens_nil h (tone_ne_plain h (.inl hs))
  obtain ⟨rfl, -⟩ := List.cons_eq_cons.mp (String.ofList_injective hs)
  obtain rfl : _ = t := by simpa [token] using ht
  rfl

/-- **A closing parenthesis** has the tone of the depth behind it, and what follows is cut from there. -/
theorem tone_of_closing (h : sections text = parts ++ s :: more) (hs : s.text = ")") :
    s.tone = .paren (depthAfter 0 (parens parts) - 1) ∧
      more = sectionsFrom (depthAfter 0 (parens parts) - 1) [] (chars more) := by
  obtain ⟨c, rest, t, ht, rfl, rfl⟩ :=
    token_of_sectionsFrom noParens_nil h (tone_ne_plain h (.inr hs))
  obtain ⟨rfl, -⟩ := List.cons_eq_cons.mp (String.ofList_injective hs)
  obtain rfl : _ = t := by simpa [token] using ht
  exact ⟨rfl, by rw [chars_sectionsFrom, List.reverse_nil, List.nil_append]⟩

/-- The parenthesis that is open behind some sections stands one level further out. -/
theorem depth_of_open (h : sections text = parts ++ s :: more) {o : Section} (ho : Open parts o) :
    ∃ depth, o.tone = .paren depth ∧ depthAfter 0 (parens parts) = depth + 1 := by
  obtain ⟨front, mid, rfl, hopen, w, hw⟩ := ho
  rw [List.append_assoc, List.cons_append] at h
  refine ⟨_, tone_of_opening h hopen, ?_⟩
  have hparen : parens [o] = [.U] := by simp [parens, Section.paren?, hopen]
  rw [parens_append, parens_cons, hparen, hw, depthAfter_append, depthAfter_append, depthAfter_dyckWord]
  rfl

/-- **Parentheses in pairs have one color.**  Take any section of a text that is a parenthesis.

* A closing one has the color of the opening one that it belongs to, the last one behind which all are balanced.
* An opening one directly inside another, with balanced ones between them at most, has the next of the seven colors,
  and behind the seventh the first comes again.
* One that stands inside no other, as a closing one that belongs to none, has the first color.
* Behind a closing one that belongs to none, the sections are those of the rest of the text, as if it began there.

Every other parenthesis of the text stands in a comment, a literal or a class. -/
theorem pairs_share_color (text : String) (parts more : List Section) (s : Section)
    (h : sections text = parts ++ s :: more) :
    (s.text = ")" → ∀ o, Open parts o → s.tone.color = o.tone.color) ∧
      (s.text = "(" → ∀ o, Open parts o →
        ∃ ho : o.tone.color ∈ rainbow, s.tone.color = rainbow.next o.tone.color ho) ∧
      (s.text = "(" ∨ s.text = ")" → (∀ o, ¬ Open parts o) → some s.tone.color = rainbow.head?) ∧
      (s.text = ")" → (∀ o, ¬ Open parts o) → more = sections (String.ofList (chars more))) ∧
      (s.text ≠ "(" → s.text ≠ ")" → '(' ∈ s.text.toList ∨ ')' ∈ s.text.toList →
        s.tone = .comment ∨ s.tone = .literal ∨ s.tone = .charClass) ∧
      rainbow.length = 7 ∧ rainbow.Nodup := by
  have hzero (hnone : ∀ o, ¬ Open parts o) : depthAfter 0 (parens parts) = 0 := by
    by_contra hdepth
    obtain ⟨o, ho⟩ := exists_open hdepth
    exact hnone o ho
  refine ⟨fun hs o ho => ?_, fun hs o ho => ?_, fun hs hnone => ?_, fun hs hnone => ?_, fun hu hd hin => ?_,
    length_rainbow, nodup_rainbow⟩
  · obtain ⟨depth, htone, hdepth⟩ := depth_of_open h ho
    rw [(tone_of_closing h hs).1, hdepth, htone, Nat.add_sub_cancel]
  · obtain ⟨depth, htone, hdepth⟩ := depth_of_open h ho
    rw [tone_of_opening h hs, hdepth]
    simp only [htone, color_paren_mem, color_paren_succ, exists_true_left]
  · rcases hs with hs | hs
    · rw [tone_of_opening h hs, hzero hnone]
      rfl
    · rw [(tone_of_closing h hs).1, hzero hnone]
      rfl
  · have hmore := (tone_of_closing h hs).2
    rwa [hzero hnone, ← String.toList_ofList (l := chars more)] at hmore
  · have hmem : s ∈ sections text := by simp [h]
    rcases hin with hin | hin
    · exact (paren_in_section noParens_nil hmem (.inl rfl) hin).resolve_left fun hown => hu hown.1
    · exact (paren_in_section noParens_nil hmem (.inr rfl) hin).resolve_left fun hown => hd hown.1

end

/-- A closing parenthesis too many, then a pair in a pair, with a closing one in a literal inside. -/
theorem pairs_share_color_surplus :
    let inner : List Section := [⟨"(", .paren 0⟩, ⟨"(", .paren 1⟩, ⟨"')'", .literal⟩]
    let closing : List Section := [⟨")", .paren 1⟩, ⟨")", .paren 0⟩]
    sections ")((')'))" = [] ++ ⟨")", .paren 0⟩ :: (inner ++ closing) ∧ (∀ o, ¬ Open [] o) ∧
      some (Tone.paren 0).color = rainbow.head? ∧ inner ++ closing = sections (String.ofList (chars (inner ++ closing))) ∧
      sections ")((')'))" = (⟨")", .paren 0⟩ :: inner) ++ ⟨")", .paren 1⟩ :: [⟨")", .paren 0⟩] ∧
      Open (⟨")", .paren 0⟩ :: inner) ⟨"(", .paren 1⟩ ∧ (⟨")", .paren 1⟩ : Section).tone.color = (Tone.paren 1).color := by
  intro inner closing
  have hcut : sections ")((')'))" = [] ++ ⟨")", .paren 0⟩ :: (inner ++ closing) := by
    simp [sections, sectionsFrom, token, quotedLength, markLength, plainSections, inner, closing]
  have hnone : ∀ o, ¬ Open [] o := by
    rintro o ⟨front, mid, h, -⟩
    simp at h
  have hopen : Open (⟨")", .paren 0⟩ :: inner) ⟨"(", .paren 1⟩ :=
    ⟨[⟨")", .paren 0⟩, ⟨"(", .paren 0⟩], [⟨"')'", .literal⟩], rfl, rfl, 0, by decide⟩
  obtain ⟨-, -, hfirst, hfresh, -⟩ := pairs_share_color _ _ _ _ hcut
  exact ⟨hcut, hnone, hfirst (.inr rfl) hnone, hfresh rfl hnone, hcut, hopen,
    (pairs_share_color _ (⟨")", .paren 0⟩ :: inner) [⟨")", .paren 0⟩] _ hcut).1 rfl _ hopen⟩

end GrammarStudio.Highlight
