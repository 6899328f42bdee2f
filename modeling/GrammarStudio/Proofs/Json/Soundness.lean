import GrammarStudio.Proofs.Json.Reading
import GrammarStudio.Proofs.Json.Tokens

/-!
# Only what spells a document is read

At every place of a text the reader knows what it has read of each container that is still open.  Its frames are a
record of the text in front of that place, and each token adds to both.  So when the document is complete, the text
behind the reader spells it; and with every spelling being read, a text is read as a document exactly if it spells it.

* `Before` — the text in front of a value, in the containers that are still open;
* `Reached` — the text in front of any place that the reader stands at;
* `Reached.step`, `Reached.run` — a token, and all the tokens of a text;
* `parse?_eq_some_iff` — a text is read as the document that it spells, and as no other.
-/

namespace GrammarStudio.Json

/-! ### Blanks, items and members at the end -/

theorem Blanks.append {bs cs : List Char} (h : Blanks bs) (h' : Blanks cs) : Blanks (bs ++ cs) := by
  intro c hc
  rcases List.mem_append.mp hc with hc | hc
  · exact h c hc
  · exact h' c hc

section Extend

variable {v : Json} {cs blanks : List Char}

theorem Padded.after (h : Padded v cs) (hb : Blanks blanks) : Padded v (cs ++ blanks) := by
  obtain ⟨hbefore, hv, hafter⟩ := h
  rw [List.append_assoc, List.append_assoc]
  exact .mk hbefore hv (hafter.append hb)

theorem Padded.before (h : Written v cs) (hb : Blanks blanks) : Padded v (blanks ++ cs) := by
  simpa using Padded.mk hb h Blanks.nil

theorem ItemsWritten.after {items : List Json} (h : ItemsWritten items cs) (hb : Blanks blanks) :
    ItemsWritten items (cs ++ blanks) := by
  induction items generalizing cs with
  | nil => cases h
  | cons v items ih =>
    cases h with
    | one hv => exact .one (hv.after hb)
    | more hv hitems =>
      rw [List.append_assoc, List.cons_append]
      exact .more hv (ih hitems)

/-- One more item stands behind a comma. -/
theorem ItemsWritten.add {items : List Json} {vs : List Char} (h : ItemsWritten items cs) (hv : Padded v vs) :
    ItemsWritten (items ++ [v]) (cs ++ ',' :: vs) := by
  induction items generalizing cs with
  | nil => cases h
  | cons first items ih =>
    cases h with
    | one hfirst => exact .more hfirst (.one hv)
    | more hfirst hitems =>
      rw [List.append_assoc, List.cons_append]
      exact .more hfirst (ih hitems)

theorem MembersWritten.after {members : List (List StringPart × Json)} (h : MembersWritten members cs)
    (hb : Blanks blanks) : MembersWritten members (cs ++ blanks) := by
  induction members generalizing cs with
  | nil => cases h
  | cons m members ih =>
    cases h with
    | one hbefore hname hafter hv =>
      simp only [List.append_assoc, List.cons_append]
      exact .one hbefore hname hafter (hv.after hb)
    | more hbefore hname hafter hv hmembers =>
      simp only [List.append_assoc, List.cons_append]
      exact .more hbefore hname hafter hv (ih hmembers)

/-- One more member stands behind a comma. -/
theorem MembersWritten.add {members : List (List StringPart × Json)} {m : List StringPart × Json} {ms : List Char}
    (h : MembersWritten members cs) (hm : MembersWritten [m] ms) :
    MembersWritten (members ++ [m]) (cs ++ ',' :: ms) := by
  induction members generalizing cs with
  | nil => cases h
  | cons first members ih =>
    cases h with
    | one hbefore hname hafter hv =>
      simp only [List.append_assoc, List.cons_append]
      exact .more hbefore hname hafter hv hm
    | more hbefore hname hafter hv hmembers =>
      simp only [List.append_assoc, List.cons_append]
      exact .more hbefore hname hafter hv (ih hmembers)

end Extend

/-! ### The text in front of a place -/

/-- The items of an array, last first, up to where the next one stands. -/
inductive ItemsBefore : List Json → List Char → Prop
  | none : ItemsBefore [] []
  | some {done : List Json} {cs : List Char} : ItemsWritten done.reverse cs → ItemsBefore done (cs ++ [','])

/-- The members of an object, last first, up to where the next one stands. -/
inductive MembersBefore : List (List StringPart × Json) → List Char → Prop
  | none : MembersBefore [] []
  | some {done : List (List StringPart × Json)} {cs : List Char} : MembersWritten done.reverse cs →
      MembersBefore done (cs ++ [','])

theorem ItemsBefore.add {done : List Json} {v : Json} {cs vs : List Char} (h : ItemsBefore done cs)
    (hv : Padded v vs) : ItemsWritten (v :: done).reverse (cs ++ vs) := by
  rw [List.reverse_cons]
  cases h with
  | none => exact .one hv
  | some hdone =>
    rw [List.append_assoc]
    exact hdone.add hv

theorem MembersBefore.add {done : List (List StringPart × Json)} {m : List StringPart × Json} {cs ms : List Char}
    (h : MembersBefore done cs) (hm : MembersWritten [m] ms) : MembersWritten (m :: done).reverse (cs ++ ms) := by
  rw [List.reverse_cons]
  cases h with
  | none => exact hm
  | some hdone =>
    rw [List.append_assoc]
    exact hdone.add hm

/-- The text in front of a value, in the containers that are still open. -/
inductive Before : List Frame → List Char → Prop
  | nil : Before [] []
  | items {frames : List Frame} {done : List Json} {outer blanks cs : List Char} : Before frames outer →
      Blanks blanks → ItemsBefore done cs → Before (.items done :: frames) (outer ++ (blanks ++ '[' :: cs))
  | member {frames : List Frame} {done : List (List StringPart × Json)} {name : List StringPart}
      {outer blanks cs before ns after : List Char} : Before frames outer → Blanks blanks → MembersBefore done cs →
      Blanks before → StringWritten name ns → Blanks after →
      Before (.member done name :: frames)
        (outer ++ (blanks ++ '{' :: (cs ++ (before ++ '"' :: (ns ++ '"' :: (after ++ [':']))))))

/-- **The text in front of a place at which the reader stands.** -/
inductive Reached : Reader → List Char → Prop
  | value {frames : List Frame} {cs : List Char} : Before frames cs → Reached (.value frames) cs
  | itemOrClose {frames : List Frame} {outer blanks : List Char} : Before frames outer → Blanks blanks →
      Reached (.itemOrClose (.items [] :: frames)) (outer ++ (blanks ++ ['[']))
  | name {frames : List Frame} {done : List (List StringPart × Json)} {outer blanks cs : List Char} :
      Before frames outer → Blanks blanks → MembersWritten done.reverse cs →
      Reached (.name (.members done :: frames)) (outer ++ (blanks ++ '{' :: (cs ++ [','])))
  | nameOrClose {frames : List Frame} {outer blanks : List Char} : Before frames outer → Blanks blanks →
      Reached (.nameOrClose (.members [] :: frames)) (outer ++ (blanks ++ ['{']))
  | colon {frames : List Frame} {done : List (List StringPart × Json)} {name : List StringPart}
      {outer blanks cs before ns : List Char} : Before frames outer → Blanks blanks → MembersBefore done cs →
      Blanks before → StringWritten name ns →
      Reached (.colon (.member done name :: frames))
        (outer ++ (blanks ++ '{' :: (cs ++ (before ++ '"' :: (ns ++ ['"'])))))
  | items {frames : List Frame} {done : List Json} {outer blanks cs : List Char} : Before frames outer →
      Blanks blanks → ItemsWritten done.reverse cs →
      Reached (.more (.items done :: frames)) (outer ++ (blanks ++ '[' :: cs))
  | members {frames : List Frame} {done : List (List StringPart × Json)} {outer blanks cs : List Char} :
      Before frames outer → Blanks blanks → MembersWritten done.reverse cs →
      Reached (.more (.members done :: frames)) (outer ++ (blanks ++ '{' :: cs))
  | complete {v : Json} {cs : List Char} : Padded v cs → Reached (.complete v) cs

/-! ### Tokens -/

section Tokens

variable {frames : List Frame} {r r' : Reader} {cs blanks word : List Char} {t : Token}

/-- A value ends in the innermost container, or it is the document. -/
theorem Before.put {v : Json} {vs : List Char} (h : Before frames cs) (hv : Padded v vs)
    (hput : Reader.put v frames = some r') : Reached r' (cs ++ vs) := by
  cases h with
  | nil =>
    cases hput
    exact .complete hv
  | items hframes hblanks hdone =>
    cases hput
    simp only [List.append_assoc, List.cons_append]
    exact .items hframes hblanks (hdone.add hv)
  | member hframes hblanks hdone hbefore hname hafter =>
    cases hput
    simp only [List.append_assoc, List.cons_append, List.nil_append]
    exact .members hframes hblanks (hdone.add (.one hbefore hname hafter hv))

/-- A value begins. -/
theorem Before.begin (h : Before frames cs) (hb : Blanks blanks) (ht : TokenWritten t word)
    (hbegin : Reader.begin frames t = some r') : Reached r' (cs ++ (blanks ++ word)) := by
  cases ht with
  | openArray =>
    cases hbegin
    exact .itemOrClose h hb
  | openObject =>
    cases hbegin
    exact .nameOrClose h hb
  | null => exact h.put (.before .null hb) hbegin
  | yes => exact h.put (.before .yes hb) hbegin
  | no => exact h.put (.before .no hb) hbegin
  | number hn => exact h.put (.before (.number hn) hb) hbegin
  | string hs => exact h.put (.before (.string hs) hb) hbegin
  | closeArray | closeObject | comma | colon => cases hbegin

/-- **A token leads to the text with it.** -/
theorem Reached.step (h : Reached r cs) (hb : Blanks blanks) (ht : TokenWritten t word) (hstep : r.step t = some r') :
    Reached r' (cs ++ (blanks ++ word)) := by
  cases h with
  | value hframes => exact hframes.begin hb ht hstep
  | @itemOrClose frames _ _ hframes hblanks =>
    by_cases hclose : t = .closeArray
    · subst hclose
      cases ht
      have hv := Padded.before (.emptyArray hb) hblanks
      simpa using hframes.put hv hstep
    · have hbegin : Reader.begin (.items [] :: frames) t = some r' := by
        rw [← hstep]
        exact (Reader.Awaits.step (.inr rfl) hclose).symm
      exact (Before.items hframes hblanks .none).begin hb ht hbegin
  | name hframes hblanks hdone =>
    cases ht with
    | string hs =>
      cases hstep
      simpa using Reached.colon hframes hblanks (.some hdone) hb hs
    | _ => cases hstep
  | nameOrClose hframes hblanks =>
    cases ht with
    | string hs =>
      cases hstep
      simpa using Reached.colon hframes hblanks .none hb hs
    | closeObject =>
      have hv := Padded.before (.emptyObject hb) hblanks
      simpa using hframes.put hv hstep
    | _ => cases hstep
  | colon hframes hblanks hdone hbefore hname =>
    cases ht with
    | colon =>
      cases hstep
      simpa using Reached.value (.member hframes hblanks hdone hbefore hname hb)
    | _ => cases hstep
  | items hframes hblanks hdone =>
    cases ht with
    | comma =>
      cases hstep
      simpa using Reached.value (.items hframes hblanks (.some (hdone.after hb)))
    | closeArray =>
      have hv := Padded.before (.array (hdone.after hb)) hblanks
      simpa using hframes.put hv hstep
    | _ => cases hstep
  | members hframes hblanks hdone =>
    cases ht with
    | comma =>
      cases hstep
      simpa using Reached.name hframes hblanks (hdone.after hb)
    | closeObject =>
      have hv := Padded.before (.object (hdone.after hb)) hblanks
      simpa using hframes.put hv hstep
    | _ => cases hstep
  | complete => cases hstep

end Tokens

/-- **A document that is read to the end of a text is spelled by the text in front of the reader and the rest.** -/
theorem Reached.run {r : Reader} {pre cs : List Char} {v : Json} (h : Reached r pre) (hrun : r.run cs = some v) :
    Padded v (pre ++ cs) := by
  fun_induction Reader.run r cs generalizing pre with
  | case1 r cs hfinished =>
    cases h with
    | complete hv =>
      cases hrun
      exact hv.after (blanks_of_finished hfinished)
    | _ => cases hrun
  | case2 => cases hrun
  | case3 r cs t rest htoken r' hstep ih =>
    obtain ⟨blanks, word, hblanks, hword, rfl⟩ := token_of_nextToken htoken
    have hnext := ih (h.step hblanks hword hstep) hrun
    simpa only [List.append_assoc] using hnext
  | case4 => cases hrun

/-- **A text is read as a document exactly if it spells it.** -/
theorem parse?_eq_some_iff {text : String} {v : Json} : parse? text = some v ↔ Padded v text.toList :=
  ⟨fun h => Reached.run (.value .nil) h, parse?_padded⟩

/-- A text spells one document at most. -/
theorem Padded.unique {text : String} {v w : Json} (hv : Padded v text.toList) (hw : Padded w text.toList) : v = w := by
  have h := parse?_padded hv
  rw [parse?_padded hw] at h
  exact (Option.some.inj h).symm

end GrammarStudio.Json
