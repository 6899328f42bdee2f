import GrammarStudio.Diagnostics.View
import GrammarStudio.Proofs.Analysis.Decoding

/-!
# What is left over beside an unusable grammar

Beside a grammar that cannot be used, the members that describe the text say nothing, and a report does not depend on
them.  But they are kept as values while the document is read, and a value that cannot be kept spoils the document: a
number that leaves the range of doubles, half of a surrogate pair, or containers that nest too deep.

* `leftFields`, `Keepable` — what is left over of the members that describe the text, and whether it can be kept;
* `named_perm`, `only_congr` — names are texts, and fields are found, whatever the order of the members;
* `readMembers_of_left` — the report of an object's members, with leftovers among them and without;
* `decode_leftovers` — leftovers that can be kept change nothing, and any others make the document malformed;
* `not_decode_any_leftovers` — one number is enough.
-/

namespace GrammarStudio.Analysis

open Diagnostics
open Json (Padded)

/-- What is left over of the members that describe the text. -/
def leftFields (left : SourceField → Option Json) : List Field :=
  sourceFields (left .sourceValid) (left .code) (left .ast) (left .astOptimized) (left .profile)

/-- Can all that is left over be kept? -/
def Keepable (left : SourceField → Option Json) : Prop := ∀ f v, left f = some v → v.plain keptDepth = true

/-- What is shown of an engine's answer. -/
def viewOf [Wording] (text : String) : View := .ofOutcome (.ofResult ((readAnswer (.ok text)).map .completed))

/-! ### Members in any order -/

/-- Members are named if each of their names is a text. -/
theorem named_eq (members : List (List Json.StringPart × Json)) :
    named members = if members.all fun m => (Json.StringPart.text? m.1).isSome then
      some (members.map fun m => ((Json.StringPart.text? m.1).getD "", m.2)) else none := by
  induction members with
  | nil => rfl
  | cons m members ih =>
    rw [named] at ih ⊢
    rw [List.mapM_cons, ih, List.all_cons, List.map_cons]
    cases Json.StringPart.text? m.1 with
    | none => rfl
    | some name =>
      rw [Option.isSome_some, Bool.true_and]
      split <;> rfl

/-- Names are texts, or one of them is not, whatever the order. -/
theorem named_perm {l l' : List (List Json.StringPart × Json)} (h : l.Perm l') :
    (named l = none ∧ named l' = none) ∨
      ∃ ms ms' : List Member, named l = some ms ∧ named l' = some ms' ∧ ms.Perm ms' := by
  rw [named_eq, named_eq, h.all_eq]
  split
  · exact .inr ⟨_, _, rfl, rfl, h.map _⟩
  · exact .inl ⟨rfl, rfl⟩

/-- Members whose names are texts are named as they are, behind others. -/
theorem named_append (l : List (List Json.StringPart × Json)) (added : List Member) :
    named (l ++ added.map fun m => (Json.StringPart.ofText m.1, m.2)) = (named l).map (· ++ added) := by
  have hadded : List.mapM (fun m => (Json.StringPart.text? m.1).map (·, m.2))
      (added.map fun m => (Json.StringPart.ofText m.1, m.2)) = some added := named_objectOf added
  rw [named, List.mapM_append, ← named, hadded]
  cases named l <;> rfl

/-- The names of named members are those of the members. -/
theorem text?_of_mem_named {members : List (List Json.StringPart × Json)} {ms : List Member}
    (h : named members = some ms) {m : Member} (hm : m ∈ ms) :
    ∃ m' ∈ members, Json.StringPart.text? m'.1 = some m.1 := by
  induction members generalizing ms with
  | nil =>
    cases h
    cases hm
  | cons first members ih =>
    obtain ⟨name, rest, hname, hrest, rfl⟩ := named_cons.mp h
    cases hm with
    | head => exact ⟨first, List.mem_cons_self, hname⟩
    | tail _ hm =>
      obtain ⟨m', hm', hfound⟩ := ih hrest hm
      exact ⟨m', List.mem_cons_of_mem _ hm', hfound⟩

theorem mem_named {members : List (List Json.StringPart × Json)} {ms : List Member} (h : named members = some ms)
    {m : List Json.StringPart × Json} (hm : m ∈ members) {name : String}
    (hname : Json.StringPart.text? m.1 = some name) : (name, m.2) ∈ ms := by
  induction members generalizing ms with
  | nil => cases hm
  | cons first members ih =>
    obtain ⟨text, rest, htext, hrest, rfl⟩ := named_cons.mp h
    cases hm with
    | head =>
      rw [htext] at hname
      cases hname
      exact List.mem_cons_self
    | tail _ hm => exact List.mem_cons_of_mem _ (ih hrest hm)

/-- A list that holds at most one value has one order. -/
theorem eq_toList_of_perm {l l' : List Json} {value : Option Json} (h : l.Perm l') (hvalue : l' = value.toList) :
    l = value.toList := by
  rw [hvalue] at h
  cases value with
  | none => exact h.eq_nil
  | some v => exact h.eq_singleton

/-- A field is found in the same way under the same values, whatever their order. -/
theorem only_congr {names : List String} {ms ms' : List Member} (h : (under names ms).Perm (under names ms')) :
    only names ms = only names ms' := by
  refine Option.ext fun value => ?_
  rw [only_eq_some_iff, only_eq_some_iff]
  exact ⟨eq_toList_of_perm h.symm, eq_toList_of_perm h⟩

/-! ### Values that are kept -/

/-- A value that is not plain cannot be kept. -/
theorem kept?_of_not_plain {v : Json} (h : ¬ v.plain keptDepth = true) : RawReport.kept? (some v) = none := by
  cases v with
  | null =>
    rw [Json.plain] at h
    exact absurd rfl h
  | bool _ | number _ | string _ | array _ | object _ => rw [RawReport.kept?, if_neg h]; rintro ⟨⟩

section Left

variable {left : SourceField → Option Json}

theorem exists_not_kept (h : ¬ Keepable left) : ∃ f, RawReport.kept? (left f) = none := by
  simp only [Keepable, not_forall] at h
  obtain ⟨f, v, hf, hplain⟩ := h
  refine ⟨f, ?_⟩
  rw [hf]
  exact kept?_of_not_plain hplain

/-- The seven values of a report, with what is left over. -/
def leftRaw (grammarValid grammar : Option Json) (left : SourceField → Option Json) : Option RawReport :=
  RawReport.build grammarValid grammar (left .sourceValid) (left .code) (left .ast) (left .astOptimized) (left .profile)

/-- One value that cannot be kept spoils a report. -/
theorem leftRaw_eq_none (h : ¬ Keepable left) (grammarValid grammar : Option Json) :
    leftRaw grammarValid grammar left = none := by
  obtain ⟨f, hf⟩ := exists_not_kept h
  unfold leftRaw RawReport.build
  cases f <;> simp [hf]

/-- Values that can be kept make no difference beside an unusable grammar. -/
theorem report_leftRaw (h : Keepable left) (grammar : Option Json) :
    (leftRaw (some (.bool false)) grammar left).map RawReport.report
      = (grammar.bind RawEntry.listOfJson?).map fun entries => (entries.mapM RawEntry.check).map (⟨·, none⟩) := by
  obtain ⟨valid, hvalid⟩ := exists_kept? (h .sourceValid)
  obtain ⟨code, hcode⟩ := exists_kept? (h .code)
  obtain ⟨ast, hast⟩ := exists_kept? (h .ast)
  obtain ⟨astOptimized, hastOptimized⟩ := exists_kept? (h .astOptimized)
  obtain ⟨profile, hprofile⟩ := exists_kept? (h .profile)
  cases grammar with
  | none => rfl
  | some list =>
    cases hlist : RawEntry.listOfJson? list with
    | none => simp [leftRaw, RawReport.build, bool?, hlist]
    | some entries =>
      simp only [leftRaw, RawReport.build, bool?, hlist, hvalid, hcode, hast, hastOptimized, hprofile,
        Option.bind_eq_bind, Option.bind_some, Option.map_some, RawReport.report, Option.some.injEq]
      cases entries.mapM RawEntry.check <;> rfl

/-! ### The report of members -/

/-- The report that the members of an object make. -/
def readMembers (ms : List Member) : Except DecodeError Report :=
  match RawReport.ofMembers ms with
  | none => .error .malformed
  | some doc => doc.report

theorem readMembers_eq (ms : List Member) :
    readMembers ms = ((RawReport.ofMembers ms).map RawReport.report).getD (.error .malformed) := by
  rw [readMembers]
  cases RawReport.ofMembers ms <;> rfl

/-- The values of a report are found one after the other. -/
theorem ofMembers_eq {ms : List Member} (h : ∀ f : SourceField, only [f.name] ms = some (left f)) :
    RawReport.ofMembers ms = (only ["grammar_valid"] ms).bind fun grammarValid =>
      (only ["grammar"] ms).bind fun grammar => leftRaw grammarValid grammar left := by
  simp only [RawReport.ofMembers, h, Option.bind_eq_bind, Option.bind_some]
  rfl

variable {ms ms' : List Member}

/-- One value that cannot be kept spoils the document. -/
theorem readMembers_of_not_keepable (h : ¬ Keepable left) (hleft : ∀ f : SourceField, only [f.name] ms = some (left f)) :
    readMembers ms = .error .malformed := by
  rw [readMembers_eq, ofMembers_eq hleft]
  simp [leftRaw_eq_none h]

/-- **Beside an unusable grammar, values that can be kept make no difference.** -/
theorem readMembers_of_keepable (h : Keepable left)
    (hvalid : ∀ v, only ["grammar_valid"] ms = some (some v) → v = .bool false)
    (hnone : ∀ f : SourceField, only [f.name] ms = some none)
    (hleft : ∀ f : SourceField, only [f.name] ms' = some (left f))
    (hsame : ∀ name ∈ ["grammar_valid", "grammar"], only [name] ms' = only [name] ms) :
    readMembers ms' = readMembers ms := by
  have hempty : Keepable fun _ => none := fun f v hv => by cases hv
  rw [readMembers_eq, readMembers_eq, ofMembers_eq hleft, ofMembers_eq hnone, hsame "grammar_valid" (by simp),
    hsame "grammar" (by simp)]
  cases hgrammarValid : only ["grammar_valid"] ms with
  | none => rfl
  | some grammarValid =>
    cases only ["grammar"] ms with
    | none => rfl
    | some grammar =>
      rw [Option.bind_some, Option.bind_some, Option.bind_some, Option.bind_some]
      cases grammarValid with
      | none => rfl
      | some v =>
        rw [hvalid v hgrammarValid, report_leftRaw h, report_leftRaw hempty]

end Left

/-! ### Documents -/

/-- An object is read by its members, if their names are texts. -/
theorem decode_object {members : List (List Json.StringPart × Json)} {text : String}
    (h : Padded (.object members) text.toList) :
    decode text = ((named members).map readMembers).getD (.error .malformed) := by
  have hread : (Json.parse? text >>= RawReport.ofJson?) = (named members).bind RawReport.ofMembers := by
    rw [Json.parse?_padded h]
    rfl
  rw [decode, hread]
  cases named members <;> rfl

/-- All failures are shown alike, so the view depends on nothing but what was read. -/
theorem viewOf_congr [Wording] {text text' : String} (h : decode text' = decode text) : viewOf text' = viewOf text := by
  rw [viewOf, viewOf, readAnswer, readAnswer, h]
  cases decode text <;> rfl

/-- A document that is malformed is shown as a failure. -/
theorem viewOf_malformed [Wording] {text : String} (h : decode text = .error .malformed) :
    viewOf text = { banner := some failureBanner } := by
  rw [viewOf, readAnswer, h]
  rfl

section Documents

variable {left : SourceField → Option Json} {added ms ms' : List Member}

theorem mem_leftFields {field : Field} : field ∈ leftFields left ↔ ∃ f : SourceField, field = ([f.name], left f) := by
  simp only [leftFields, sourceFields, List.mem_cons, List.not_mem_nil, or_false]
  constructor
  · rintro (rfl | rfl | rfl | rfl | rfl)
    exacts [⟨.sourceValid, rfl⟩, ⟨.code, rfl⟩, ⟨.ast, rfl⟩, ⟨.astOptimized, rfl⟩, ⟨.profile, rfl⟩]
  · rintro ⟨f, rfl⟩
    cases f <;> simp [SourceField.name]

/-- Each member that is left over is found among the others. -/
theorem only_left (hadded : FieldMembers (leftFields left) added)
    (hnone : ∀ m ∈ ms, ∀ f : SourceField, m.1 ≠ f.name) (hplaced : ms'.Perm (ms ++ added)) (f : SourceField) :
    only [f.name] ms' = some (left f) := by
  have hseparate : Separate ((leftFields left).map Prod.fst) := by
    show Separate [["source_valid"], ["code"], ["ast"], ["astOptimized"], ["profile"]]
    decide
  have hothers : OtherMembers (fun _ => True) (leftFields left) ms := by
    refine fun m hm => ⟨fun field hfield => ?_, trivial⟩
    obtain ⟨g, rfl⟩ := mem_leftFields.mp hfield
    simpa using hnone m hm g
  exact answers_of_spelled hseparate hadded hothers (hplaced.trans List.perm_append_comm) ([f.name], left f)
    (mem_leftFields.mpr ⟨f, rfl⟩)

/-- Other fields are found as they are without what is left over. -/
theorem only_other (hadded : FieldMembers (leftFields left) added) (hplaced : ms'.Perm (ms ++ added)) {name : String}
    (hname : ∀ f : SourceField, name ≠ f.name) : only [name] ms' = only [name] ms := by
  have habsent : under [name] added = [] := by
    refine under_eq_nil fun m hm hmem => ?_
    obtain ⟨field, hfield, hfound, -⟩ := hadded.holds m hm
    obtain ⟨f, rfl⟩ := mem_leftFields.mp hfield
    exact hname f ((List.mem_singleton.mp hmem).symm.trans (List.mem_singleton.mp hfound))
  refine only_congr ?_
  have hperm : (under [name] ms').Perm (under [name] (ms ++ added)) := under_perm hplaced
  rwa [under_append, habsent, List.append_nil] at hperm

end Documents

/-- **What is left over beside an unusable grammar changes nothing if it can be kept**, wherever it stands and however
it is written, and makes the document malformed if it cannot.  So it is with what is shown. -/
theorem decode_leftovers [Wording] {base full : List (List Json.StringPart × Json)} {left : SourceField → Option Json}
    {added : List Member} {text text' : String}
    (hunusable : (Json.StringPart.ofText "grammar_valid", .bool false) ∈ base)
    (hnone : ∀ m ∈ base, ∀ f : SourceField, Json.StringPart.text? m.1 ≠ some f.name)
    (hadded : FieldMembers (leftFields left) added)
    (hplaced : full.Perm (base ++ added.map fun m => (Json.StringPart.ofText m.1, m.2)))
    (htext : Padded (.object base) text.toList) (htext' : Padded (.object full) text'.toList) :
    (Keepable left → decode text' = decode text ∧ viewOf text' = viewOf text) ∧
      (¬ Keepable left → decode text' = .error .malformed ∧ viewOf text' = { banner := some failureBanner }) := by
  have hdecode : (Keepable left → decode text' = decode text) ∧
      (¬ Keepable left → decode text' = .error .malformed) := by
    rw [decode_object htext, decode_object htext']
    rcases named_perm hplaced with ⟨hfull, hall⟩ | ⟨ms', all, hfull, hall, hms⟩
    · rw [named_append, Option.map_eq_none_iff] at hall
      rw [hfull, hall]
      exact ⟨fun _ => rfl, fun _ => rfl⟩
    · rw [named_append, Option.map_eq_some_iff] at hall
      obtain ⟨ms, hbase, rfl⟩ := hall
      have hothers : ∀ m ∈ ms, ∀ f : SourceField, m.1 ≠ f.name := by
        intro m hm f hf
        obtain ⟨m', hm', hname⟩ := text?_of_mem_named hbase hm
        exact hnone m' hm' f (hf ▸ hname)
      have hleft := only_left hadded hothers hms
      rw [hfull, hbase]
      refine ⟨fun hkeep => ?_, fun hkeep => readMembers_of_not_keepable hkeep hleft⟩
      refine readMembers_of_keepable hkeep (fun v hv => ?_) (fun f => ?_) hleft fun name hname => ?_
      · have hmem := mem_named hbase hunusable (Json.StringPart.text?_ofText "grammar_valid")
        have hunder : Json.bool false ∈ under ["grammar_valid"] ms :=
          List.mem_map_of_mem (List.mem_filter.mpr ⟨hmem, by simp⟩)
        rw [only_eq_some_iff.mp hv] at hunder
        exact (List.mem_singleton.mp hunder).symm
      · refine only_eq_some_iff.mpr (under_eq_nil fun m hm => ?_)
        simpa using hothers m hm f
      · refine only_other hadded hms fun f => ?_
        rcases List.mem_pair.mp hname with rfl | rfl <;> cases f <;> decide
  exact ⟨fun h => ⟨hdecode.1 h, viewOf_congr (hdecode.1 h)⟩, fun h => ⟨hdecode.2 h, viewOf_malformed (hdecode.2 h)⟩⟩

/-! ### One leftover beside an unusable grammar -/

/-- A grammar that cannot be used, with no errors told. -/
def unusable : List Member := [("grammar_valid", .bool false), ("grammar", .array [])]

/-- One member that is left over. -/
def leftOne (f : SourceField) (v : Json) : SourceField → Option Json := fun g => if g = f then some v else none

theorem name_written (name : String) (h : name.toList.all Json.isBare = true) :
    Json.StringWritten (Json.StringPart.ofText name) name.toList := .bare h

theorem unusable_padded : Padded (objectOf unusable) "\x7b\"grammar_valid\":false,\"grammar\":[]\x7d".toList :=
  .bare (.object
    (.more .nil (name_written "grammar_valid" rfl) .nil (.bare .no)
    (.one .nil (name_written "grammar" rfl) .nil (.bare (.emptyArray .nil)))))

theorem unusable_separate : ∀ m ∈ unusable.map fun m => (Json.StringPart.ofText m.1, m.2), ∀ f : SourceField,
    Json.StringPart.text? m.1 ≠ some f.name := by
  intro m hm f
  obtain ⟨named, hnamed, rfl⟩ := List.mem_map.mp hm
  rw [Json.StringPart.text?_ofText]
  rcases List.mem_pair.mp hnamed with rfl | rfl <;> cases f <;> decide

/-- A text in the place of the list of errors, before the other members. -/
theorem decode_leftovers_mistyped :
    let text := "\x7b\"grammar_valid\":false,\"grammar\":[]\x7d"
    let text' := "\x7b\"code\":\"n/a\",\"grammar_valid\":false,\"grammar\":[]\x7d"
    Keepable (leftOne .code (stringOf "n/a")) ∧ decode text' = decode text ∧ viewOf text' = viewOf text := by
  intro text text'
  have hkeep : Keepable (leftOne .code (stringOf "n/a")) := by
    intro f v hf
    rw [leftOne] at hf
    split at hf
    · cases hf
      exact plain_stringOf keptDepth "n/a"
    · cases hf
  have hadded : FieldMembers (leftFields (leftOne .code (stringOf "n/a"))) [("code", stringOf "n/a")] :=
    .absent (.present (by decide) (.absent (.absent (.absent .nil))))
  have htext' : Padded (objectOf (("code", stringOf "n/a") :: unusable))
      "\x7b\"code\":\"n/a\",\"grammar_valid\":false,\"grammar\":[]\x7d".toList :=
    .bare (.object
      (.more .nil (name_written "code" rfl) .nil (.bare (.string (name_written "n/a" rfl)))
      (.more .nil (name_written "grammar_valid" rfl) .nil (.bare .no)
      (.one .nil (name_written "grammar" rfl) .nil (.bare (.emptyArray .nil))))))
  exact ⟨hkeep, (decode_leftovers List.mem_cons_self unusable_separate hadded List.perm_append_comm unusable_padded
    htext').1 hkeep⟩

/-- **A number is enough**: what is left over changes the report if it leaves the range of doubles. -/
theorem not_decode_any_leftovers :
    ¬ ∀ (base full : List (List Json.StringPart × Json)) (left : SourceField → Option Json) (added : List Member)
        (text text' : String), (Json.StringPart.ofText "grammar_valid", .bool false) ∈ base →
      (∀ m ∈ base, ∀ f : SourceField, Json.StringPart.text? m.1 ≠ some f.name) →
      FieldMembers (leftFields left) added →
      full.Perm (base ++ added.map fun m => (Json.StringPart.ofText m.1, m.2)) →
      Padded (.object base) text.toList → Padded (.object full) text'.toList → decode text' = decode text := by
  intro leftoversUnread
  have hadded : FieldMembers (leftFields (leftOne .profile (.number ⟨false, ['1'], [], some (false, ['9', '9', '9'])⟩)))
      [("profile", .number ⟨false, ['1'], [], some (false, ['9', '9', '9'])⟩)] :=
    .absent (.absent (.absent (.absent (.present (by decide) .nil))))
  have hnumber : Padded (.number ⟨false, ['1'], [], some (false, ['9', '9', '9'])⟩) _ := .bare (.number
    ⟨Json.wholeWritten_toDigits 1, [], _, .none, .some (.inl rfl) .none (Json.wholeWritten_toDigits 999).1, rfl⟩)
  have htext' : Padded (objectOf (unusable ++ [("profile", .number ⟨false, ['1'], [], some (false, ['9', '9', '9'])⟩)]))
      "\x7b\"grammar_valid\":false,\"grammar\":[],\"profile\":1e999\x7d".toList :=
    .bare (.object
      (.more .nil (name_written "grammar_valid" rfl) .nil (.bare .no)
      (.more .nil (name_written "grammar" rfl) .nil (.bare (.emptyArray .nil))
      (.one .nil (name_written "profile" rfl) .nil hnumber))))
  have hdecode := leftoversUnread _ _ _ _ _ _ List.mem_cons_self unusable_separate hadded (List.Perm.refl _)
    unusable_padded htext'
  rw [decode, decode, Json.parse?_padded unusable_padded, Json.parse?_padded htext'] at hdecode
  cases hdecode

end GrammarStudio.Analysis
