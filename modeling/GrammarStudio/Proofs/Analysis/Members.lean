import GrammarStudio.Proofs.Analysis.Spelling

/-!
# Fields found among the members of an object

`only` finds the one member that has one of some names.  What it finds depends neither on the order of the members nor
on those of other names, and a member that is not repeated outlives the removal of repeated ones.

* `under`, `only_eq_some_iff` — the values under some names, in order, and what `only` makes of them;
* `Answers` — every field of a record is found;
* `answers_of_spelled` — the members of a record's object answer for its fields;
* `under_dropEarlier`, `answers_of_dropEarlier` — and do so still when repeated names are removed;
* `getElem?_of_inOrder` — the fields of a record's array;
* `plain_of_recordSpelled` — a record made of plain values.
-/

namespace GrammarStudio.Analysis

/-! ### Values under some names -/

/-- The values of the members that have one of these names. -/
def under (names : List String) (ms : List Member) : List Json :=
  (ms.filter fun m => names.contains m.1).map Prod.snd

section Under

variable {names : List String} {ms : List Member}

/-- A field is found with a value if that is the only one under its names, and found absent if there is none. -/
theorem only_eq_some_iff {value : Option Json} : only names ms = some value ↔ under names ms = value.toList := by
  rw [only, under]
  cases ms.filter fun m => names.contains m.1 with
  | nil => cases value <;> simp
  | cons m rest =>
    cases rest with
    | nil => cases value <;> simp
    | cons m' rest => cases value <;> simp

theorem under_cons_of_mem {m : Member} (h : m.1 ∈ names) : under names (m :: ms) = m.2 :: under names ms := by
  simp [under, h]

theorem under_cons_of_not_mem {m : Member} (h : m.1 ∉ names) : under names (m :: ms) = under names ms := by
  simp [under, h]

theorem under_append (ms ms' : List Member) : under names (ms ++ ms') = under names ms ++ under names ms' := by
  simp [under]

theorem under_eq_nil (h : ∀ m ∈ ms, m.1 ∉ names) : under names ms = [] := by
  rw [under, List.filter_eq_nil_iff.mpr, List.map_nil]
  intro m hm
  simpa using h m hm

theorem under_perm {ms' : List Member} (h : ms.Perm ms') : (under names ms).Perm (under names ms') :=
  (h.filter _).map _

end Under

/-- A field is found in any order of the members in which it is found in one. -/
theorem only_of_perm {names : List String} {ms ms' : List Member} {value : Option Json} (h : ms.Perm ms')
    (hvalue : only names ms' = some value) : only names ms = some value := by
  rw [only_eq_some_iff] at hvalue ⊢
  have hperm : (under names ms).Perm (under names ms') := under_perm h
  rw [hvalue] at hperm
  cases value with
  | none => exact hperm.eq_nil
  | some v => exact hperm.eq_singleton

/-! ### The fields of a record -/

/-- Each field is found with its value. -/
def Answers (fields : List Field) (ms : List Member) : Prop := ∀ f ∈ fields, only f.1 ms = some f.2

/-- No name belongs to two fields. -/
def Separate (names : List (List String)) : Prop := names.Pairwise fun a b => ∀ name ∈ a, name ∉ b

instance (names : List (List String)) : Decidable (Separate names) := by unfold Separate; infer_instance

/-- What holds a field has one of its names, and its value. -/
theorem FieldMembers.holds {fields : List Field} {ms : List Member} (h : FieldMembers fields ms) :
    ∀ m ∈ ms, ∃ f ∈ fields, m.1 ∈ f.1 ∧ f.2 = some m.2 := by
  induction h with
  | nil => intro m hm; cases hm
  | absent _ ih =>
    intro m hm
    obtain ⟨f, hf, hholds⟩ := ih m hm
    exact ⟨f, List.mem_cons_of_mem _ hf, hholds⟩
  | present hmem _ ih =>
    intro m hm
    cases hm with
    | head => exact ⟨_, List.mem_cons_self, hmem, rfl⟩
    | tail _ hm =>
      obtain ⟨f, hf, hholds⟩ := ih m hm
      exact ⟨f, List.mem_cons_of_mem _ hf, hholds⟩

/-- A name of the first field belongs to none of the members that hold the others. -/
theorem FieldMembers.apart {f : Field} {fields : List Field} {ms : List Member} (h : FieldMembers fields ms)
    (hsep : Separate ((f :: fields).map Prod.fst)) : ∀ m ∈ ms, m.1 ∉ f.1 := by
  intro m hm hname
  obtain ⟨g, hg, hgname, _⟩ := h.holds m hm
  exact (List.pairwise_cons.mp hsep).1 g.1 (List.mem_map_of_mem hg) m.1 hname hgname

/-- Among the members that hold the fields, each field is found. -/
theorem FieldMembers.answers {fields : List Field} {ms : List Member} (h : FieldMembers fields ms)
    (hsep : Separate (fields.map Prod.fst)) : Answers fields ms := by
  induction h with
  | nil => intro f hf; cases hf
  | @absent names fields ms h ih =>
    intro f hf
    cases hf with
    | head => exact only_eq_some_iff.mpr (under_eq_nil (h.apart hsep))
    | tail _ hf => exact ih (List.pairwise_cons.mp hsep).2 f hf
  | @present names name v fields ms hmem h ih =>
    intro f hf
    rw [only_eq_some_iff]
    cases hf with
    | head => rw [under_cons_of_mem hmem, under_eq_nil (h.apart hsep)]; rfl
    | tail _ hf =>
      have hname : name ∉ f.1 := (List.pairwise_cons.mp hsep).1 f.1 (List.mem_map_of_mem hf) name hmem
      rw [under_cons_of_not_mem hname, ← only_eq_some_iff]
      exact ih (List.pairwise_cons.mp hsep).2 f hf

/-- **The fields of a record are found in any of its objects**, whatever the order, the names and the other members. -/
theorem answers_of_spelled {extra : Json → Prop} {fields : List Field} {known others members : List Member}
    (hsep : Separate (fields.map Prod.fst)) (hknown : FieldMembers fields known)
    (hothers : OtherMembers extra fields others) (hperm : members.Perm (known ++ others)) :
    Answers fields members := by
  intro f hf
  refine only_of_perm hperm ?_
  have hnone : under f.1 others = [] := under_eq_nil fun m hm => (hothers m hm).1 f hf
  rw [only_eq_some_iff, under_append, hnone, List.append_nil, ← only_eq_some_iff]
  exact hknown.answers hsep f hf

/-- The items of an array are the fields that are there: what is left out at the end is absent. -/
theorem getElem?_of_inOrder {values : List (Option Json)} {items : List Json} {absent : Nat}
    (h : values = items.map some ++ List.replicate absent none) (k : Nat) : items[k]? = values[k]?.join := by
  rw [h, List.getElem?_append, List.length_map]
  split
  case isTrue => rw [List.getElem?_map]; cases items[k]? <;> rfl
  case isFalse hk =>
    rw [List.getElem?_eq_none (Nat.le_of_not_lt hk), List.getElem?_replicate]
    split <;> rfl

theorem length_le_of_inOrder {values : List (Option Json)} {items : List Json} {absent : Nat}
    (h : values = items.map some ++ List.replicate absent none) : items.length ≤ values.length := by
  rw [h, List.length_append, List.length_map]
  exact Nat.le_add_right _ _

/-! ### The texts of names -/

@[simp] theorem named_objectOf (ms : List Member) :
    named (ms.map fun m => (Json.StringPart.ofText m.1, m.2)) = some ms := by
  induction ms with
  | nil => rfl
  | cons m ms ih =>
    rw [named] at ih ⊢
    rw [List.map_cons, List.mapM_cons, ih]
    simp

/-- Members whose names are texts: the first one, and the others. -/
theorem named_cons {m : List Json.StringPart × Json} {members : List (List Json.StringPart × Json)}
    {ms : List Member} :
    named (m :: members) = some ms ↔
      ∃ name rest, Json.StringPart.text? m.1 = some name ∧ named members = some rest ∧ ms = (name, m.2) :: rest := by
  simp only [named, List.mapM_cons, Option.pure_def, Option.bind_eq_bind, Option.bind_eq_some_iff,
    Option.map_eq_some_iff, Option.some.injEq]
  constructor
  · rintro ⟨_, ⟨name, hname, rfl⟩, rest, hrest, rfl⟩
    exact ⟨name, rest, hname, hrest, rfl⟩
  · rintro ⟨name, rest, hname, hrest, rfl⟩
    exact ⟨_, ⟨name, hname, rfl⟩, rest, hrest, rfl⟩

/-- A name of some member is the text of a name. -/
theorem exists_named_of_any {members : List (List Json.StringPart × Json)} {ms : List Member}
    {parts : List Json.StringPart} {name : String} (hms : named members = some ms)
    (hname : Json.StringPart.text? parts = some name) (hany : members.any (·.1 == parts) = true) :
    ∃ m ∈ ms, m.1 = name := by
  induction members generalizing ms with
  | nil => cases hany
  | cons m members ih =>
    obtain ⟨first, rest, hfirst, hrest, rfl⟩ := named_cons.mp hms
    rw [List.any_cons, Bool.or_eq_true] at hany
    cases hany with
    | inl heq =>
      rw [beq_iff_eq.mp heq, hname] at hfirst
      cases hfirst
      exact ⟨_, List.mem_cons_self, rfl⟩
    | inr hany =>
      obtain ⟨m', hm', heq⟩ := ih hrest hany
      exact ⟨m', List.mem_cons_of_mem _ hm', heq⟩

/-- What stands under names that are not repeated stands there still when only the last member of each name is kept. -/
theorem under_dropEarlier {members : List (List Json.StringPart × Json)} {ms : List Member}
    (h : named members = some ms) :
    ∃ kept, named (Json.lastWins.dropEarlier members) = some kept ∧
      ∀ names, (∀ name ∈ names, (under [name] ms).length ≤ 1) → under names kept = under names ms := by
  induction members generalizing ms with
  | nil => exact ⟨ms, h, fun _ _ => rfl⟩
  | cons m members ih =>
    obtain ⟨name, rest, hname, hrest, rfl⟩ := named_cons.mp h
    obtain ⟨kept, hkept, hunder⟩ := ih hrest
    have hshorter : ∀ other, (under [other] rest).length ≤ (under [other] ((name, m.2) :: rest)).length := fun other =>
      (((List.sublist_cons_self (name, m.2) rest).filter _).map _).length_le
    have hsame : ∀ names, (∀ other ∈ names, (under [other] ((name, m.2) :: rest)).length ≤ 1) →
        under names kept = under names rest :=
      fun names honce => hunder names fun other hother => Nat.le_trans (hshorter other) (honce other hother)
    rw [Json.lastWins.dropEarlier]
    split
    case isTrue hany =>
      refine ⟨kept, hkept, fun names honce => ?_⟩
      obtain ⟨m', hm', heq⟩ := exists_named_of_any hrest hname hany
      have hmem : name ∉ names := by
        intro hmem
        have hlater : m'.2 ∈ under [name] rest :=
          List.mem_map_of_mem (List.mem_filter.mpr ⟨hm', by simp [heq]⟩)
        have htwice := honce name hmem
        rw [under_cons_of_mem (List.mem_singleton_self name), List.length_cons] at htwice
        have := List.length_pos_of_mem hlater
        omega
      rw [hsame names honce, under_cons_of_not_mem hmem]
    case isFalse hany =>
      refine ⟨(name, m.2) :: kept, named_cons.mpr ⟨name, kept, hname, hkept, rfl⟩, fun names honce => ?_⟩
      by_cases hmem : name ∈ names
      · rw [under_cons_of_mem hmem, under_cons_of_mem hmem, hsame names honce]
      · rw [under_cons_of_not_mem hmem, under_cons_of_not_mem hmem, hsame names honce]

/-- There is no more under one name than under that and others. -/
theorem length_under_le {names : List String} {name : String} (h : name ∈ names) (ms : List Member) :
    (under [name] ms).length ≤ (under names ms).length := by
  have hsub : ∀ m : Member, [name].contains m.1 = true → names.contains m.1 = true := by
    intro m hm
    rw [List.contains_iff_mem, List.mem_singleton] at hm
    rwa [hm, List.contains_iff_mem]
  exact ((List.monotone_filter_right ms hsub).map Prod.snd).length_le

/-- A field that is found stands once at most under each of its names. -/
theorem length_under_le_one {names : List String} {ms : List Member} {value : Option Json}
    (h : only names ms = some value) : ∀ name ∈ names, (under [name] ms).length ≤ 1 := by
  intro name hname
  have hlength := length_under_le hname ms
  rw [only_eq_some_iff.mp h] at hlength
  exact Nat.le_trans hlength (by cases value <;> simp)

/-- A field that is found among the members is found, with the same value, among those whose name is not repeated. -/
theorem named_dropEarlier {members : List (List Json.StringPart × Json)} {ms : List Member}
    (h : named members = some ms) :
    ∃ kept, named (Json.lastWins.dropEarlier members) = some kept ∧
      ∀ names value, only names ms = some value → only names kept = some value := by
  obtain ⟨kept, hkept, hunder⟩ := under_dropEarlier h
  refine ⟨kept, hkept, fun names value hvalue => ?_⟩
  rw [only_eq_some_iff, hunder names (length_under_le_one hvalue), ← only_eq_some_iff]
  exact hvalue

/-- The fields of a record are found when only the last member of each name is kept. -/
theorem answers_of_dropEarlier {fields : List Field} {members : List (List Json.StringPart × Json)}
    {ms : List Member} (h : named members = some ms) (hanswers : Answers fields ms) :
    ∃ kept, named (Json.lastWins.dropEarlier members) = some kept ∧ Answers fields kept := by
  obtain ⟨kept, hkept, hfound⟩ := named_dropEarlier h
  exact ⟨kept, hkept, fun f hf => hfound f.1 f.2 (hanswers f hf)⟩

/-! ### Plain records -/

/-- A record is plain if its fields are, one container deeper, and so are the members that are no fields. -/
theorem plain_of_recordSpelled {depth : Nat} {fields : List Field} {v : Json}
    (hfields : ∀ f ∈ fields, ∀ w, f.2 = some w → w.plain depth = true)
    (h : RecordSpelled (fun w => w.plain depth = true) fields v) : v.plain (depth + 1) = true := by
  cases h with
  | @object known others members hknown hothers hperm =>
    have hmembers : ∀ m ∈ members, m.2.plain depth = true := by
      intro m hm
      rcases List.mem_append.mp (hperm.mem_iff.mp hm) with hm | hm
      · obtain ⟨f, hf, _, hvalue⟩ := hknown.holds m hm
        exact hfields f hf m.2 hvalue
      · exact (hothers m hm).2
    simp only [objectOf, Json.plain, List.all_map, List.all_eq_true, Function.comp_apply,
      Json.StringPart.text?_ofText, Option.isSome_some, Bool.true_and]
    exact hmembers
  | @array items absent hitems =>
    rw [Json.plain, List.all_eq_true]
    intro w hw
    have hmem : some w ∈ fields.map Prod.snd := by
      rw [hitems]
      exact List.mem_append_left _ (List.mem_map_of_mem hw)
    obtain ⟨f, hf, hvalue⟩ := List.mem_map.mp hmem
    exact hfields f hf w hvalue

end GrammarStudio.Analysis
