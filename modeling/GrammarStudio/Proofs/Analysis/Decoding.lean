import GrammarStudio.Proofs.Analysis.Members
import GrammarStudio.Proofs.Json.Reading

/-!
# Every spelling of a report is read

* `Reads`, `mapM_reads` — an entry read and checked, and a list of them;
* `reads_of_spelled`, `reads_lastWins_of_spelled` — an entry in the grammar's list and in the text's list, which has
  been kept as a value;
* `plain_of_spelled` — an entry of the text's list can be kept;
* `decode_of_spelled` — the report;
* `not_decode_of_spelled_any_half` — an integer that is dropped has to fit nevertheless.
-/

namespace GrammarStudio.Analysis

open Json (Padded)

/-! ### Values -/

theorem integer?_ofInt {i : Int} (h : Fits i) : integer? (.ofInt i) = some i := by
  rw [Json.ofInt, integer?, Json.Number.integer?_literal, if_pos ⟨h.1, h.2⟩]

@[simp] theorem text?_stringOf (text : String) : text? (stringOf text) = some text :=
  Json.StringPart.text?_ofText text

theorem position_of_countsFromOne (field : PositionField) {n : Nat} (h : CountsFromOne n) :
    position field n = .ok n := by
  have hone : (1 : Int) ≤ n := Int.ofNat_le.mpr h.1
  rw [position, if_pos hone, Int.toNat_natCast]

theorem optionalInteger?_ofInt {i : Int} (h : Fits i) : optionalInteger? (some (.ofInt i)) = some (some i) := by
  show (integer? (.ofInt i)).map some = some (some i)
  rw [integer?_ofInt h]
  rfl

theorem HalfMissing.read {v : Option Json} (h : HalfMissing v) : optionalInteger? v = some none := by
  rcases h with rfl | rfl <;> rfl

theorem HalfSpelled.read {v : Option Json} (h : HalfSpelled Fits v) : ∃ i, optionalInteger? v = some i := by
  rcases h with h | ⟨i, hi, rfl⟩
  · exact ⟨none, h.read⟩
  · exact ⟨some i, optionalInteger?_ofInt hi⟩

/-! ### Entries -/

/-- An entry is read off a document, and passes the checks. -/
def Reads (read : Json → Option RawEntry) (e : Entry) (v : Json) : Prop :=
  ∃ raw, read v = some raw ∧ raw.check = .ok e

section Entries

variable {e : Entry} {gln gcol : Option Json}

/-- The five values of an entry, as they are put together. -/
def entryRaw (e : Entry) (gln gcol : Option Json) : Option RawEntry :=
  RawEntry.build (some (.ofInt e.location.line)) (some (.ofInt e.location.col)) (some (stringOf e.message)) gln gcol

theorem entryRaw_eq (he : e.InRange) {line col : Option Int} (hline : optionalInteger? gln = some line)
    (hcol : optionalInteger? gcol = some col) :
    entryRaw e gln gcol = some ⟨e.location.line, e.location.col, e.message, line, col⟩ := by
  simp [entryRaw, RawEntry.build, integer?_ofInt he.1.1.2, integer?_ofInt he.1.2.2, hline, hcol]

/-- Half of a reference is not checked. -/
theorem check_half (he : e.InRange) (horigin : e.origin = none) {line col : Option Int}
    (h : line = none ∨ col = none) :
    RawEntry.check ⟨e.location.line, e.location.col, e.message, line, col⟩ = .ok e := by
  have hnone : (⟨e.location, e.message, none⟩ : Entry) = e := by rw [← horigin]
  simp only [RawEntry.check, position_of_countsFromOne _ he.1.1, position_of_countsFromOne _ he.1.2]
  rcases h with rfl | rfl
  · rw [← hnone]
    rfl
  · cases line <;> (rw [← hnone]; rfl)

theorem check_whole (he : e.InRange) {l : Location} (horigin : e.origin = some l) :
    RawEntry.check ⟨e.location.line, e.location.col, e.message, some l.line, some l.col⟩ = .ok e := by
  have hsome : (⟨e.location, e.message, some l⟩ : Entry) = e := by rw [← horigin]
  have hl := he.2 l horigin
  simp only [RawEntry.check, position_of_countsFromOne _ he.1.1, position_of_countsFromOne _ he.1.2,
    position_of_countsFromOne _ hl.1, position_of_countsFromOne _ hl.2]
  rw [← hsome]
  rfl

/-- Each way to write the reference of an entry, or to leave it out, reads as that entry. -/
theorem exists_entryRaw (he : e.InRange) (h : OriginSpelled Fits e.origin gln gcol) :
    ∃ raw, entryRaw e gln gcol = some raw ∧ raw.check = .ok e := by
  generalize horigin : e.origin = origin at h
  cases h with
  | whole l =>
    have hl := he.2 l horigin
    exact ⟨_, entryRaw_eq he (optionalInteger?_ofInt hl.1.2) (optionalInteger?_ofInt hl.2.2),
      check_whole he horigin⟩
  | noCol hgln hgcol =>
    obtain ⟨line, hline⟩ := hgln.read
    exact ⟨_, entryRaw_eq he hline hgcol.read, check_half he horigin (.inr rfl)⟩
  | noLine hgln hgcol =>
    obtain ⟨col, hcol⟩ := hgcol.read
    exact ⟨_, entryRaw_eq he hgln.read hcol, check_half he horigin (.inl rfl)⟩

/-- An object in which the fields of an entry are found. -/
theorem ofJson?_of_answers {members : List (List Json.StringPart × Json)} {ms : List Member}
    (hms : named members = some ms) (h : Answers (entryFields e gln gcol) ms) :
    RawEntry.ofJson? (.object members) = entryRaw e gln gcol := by
  have hfound : ∀ f ∈ entryFields e gln gcol, only f.1 ms = some f.2 := h
  simp only [entryFields, List.forall_mem_cons] at hfound
  obtain ⟨hln, hcol, hmsg, hgln, hgcol, _⟩ := hfound
  simp only [RawEntry.ofJson?, hms, Option.bind_eq_bind, Option.bind_some, RawEntry.ofMembers, hln, hcol, hmsg, hgln,
    hgcol]
  rfl

/-- An array is an entry if its first five items are, those behind its end being absent. -/
theorem ofItems_eq (items : List Json) :
    RawEntry.ofItems items
      = if items.length ≤ 5 then RawEntry.build items[0]? items[1]? items[2]? items[3]? items[4]? else none := by
  match items with
  | [] => rfl
  | [_] | [_, _] => simp [RawEntry.ofItems, RawEntry.build]
  | [_, _, _] | [_, _, _, _] | [_, _, _, _, _] => rfl
  | _ :: _ :: _ :: _ :: _ :: _ :: _ => simp [RawEntry.ofItems]

/-- An array with the fields of an entry, which may stop before a reference or in the middle of it. -/
theorem ofJson?_of_inOrder {items : List Json} {absent : Nat}
    (h : (entryFields e gln gcol).map Prod.snd = items.map some ++ List.replicate absent none) :
    RawEntry.ofJson? (.array items) = entryRaw e gln gcol := by
  have hlength : items.length ≤ 5 := length_le_of_inOrder h
  rw [RawEntry.ofJson?, ofItems_eq, if_pos hlength]
  simp only [getElem?_of_inOrder h]
  rfl

theorem separate_entryFields : Separate ((entryFields e gln gcol).map Prod.fst) := by
  show Separate [["ln", "line"], ["col"], ["msg", "message"], ["gln", "refLine"], ["gcol", "refCol"]]
  decide

/-- The five values are found in every document of an entry, and also when it has been kept as a value, in which no
name is repeated. -/
theorem ofJson?_of_recordSpelled {extra : Json → Prop} {v : Json}
    (h : RecordSpelled extra (entryFields e gln gcol) v) :
    RawEntry.ofJson? v = entryRaw e gln gcol ∧ RawEntry.ofJson? v.lastWins = entryRaw e gln gcol := by
  cases h with
  | object hknown hothers hperm =>
    have hanswers := answers_of_spelled separate_entryFields hknown hothers hperm
    obtain ⟨kept, hkept, hfound⟩ := answers_of_dropEarlier (named_objectOf _) hanswers
    exact ⟨ofJson?_of_answers (named_objectOf _) hanswers, ofJson?_of_answers hkept hfound⟩
  | array hitems => exact ⟨ofJson?_of_inOrder hitems, ofJson?_of_inOrder hitems⟩

end Entries

/-- **Every document of an entry reads as that entry.** -/
theorem reads_of_spelled {extra : Json → Prop} {e : Entry} {v : Json} (he : e.InRange)
    (h : EntrySpelled Fits extra e v) : Reads RawEntry.ofJson? e v := by
  obtain ⟨horigin, hrecord⟩ := h
  rw [Reads, (ofJson?_of_recordSpelled hrecord).1]
  exact exists_entryRaw he horigin

/-- **Every document of an entry reads as that entry when it has been kept.** -/
theorem reads_lastWins_of_spelled {extra : Json → Prop} {e : Entry} {v : Json} (he : e.InRange)
    (h : EntrySpelled Fits extra e v) : Reads (fun v => RawEntry.ofJson? v.lastWins) e v := by
  obtain ⟨horigin, hrecord⟩ := h
  rw [Reads, (ofJson?_of_recordSpelled hrecord).2]
  exact exists_entryRaw he horigin

/-- A list of entries is read if each way to write an entry is. -/
theorem forall₂_reads {read : Json → Option RawEntry} {extra : Json → Prop} {es : List Entry} {items : List Json}
    (hread : ∀ e v, e.InRange → EntrySpelled Fits extra e v → Reads read e v) (hes : ∀ e ∈ es, e.InRange)
    (h : List.Forall₂ (EntrySpelled Fits extra) es items) : List.Forall₂ (Reads read) es items := by
  induction h with
  | nil => exact .nil
  | cons hv _ ih =>
    exact .cons (hread _ _ (hes _ List.mem_cons_self) hv) (ih fun e he => hes e (List.mem_cons_of_mem _ he))

/-- A list of entries is read, and then checked, entry by entry. -/
theorem mapM_reads {read : Json → Option RawEntry} {es : List Entry} {items : List Json}
    (h : List.Forall₂ (Reads read) es items) :
    ∃ raws, items.mapM read = some raws ∧ raws.mapM RawEntry.check = .ok es := by
  induction h with
  | nil => exact ⟨[], rfl, rfl⟩
  | cons hread _ ih =>
    obtain ⟨raw, hraw, hcheck⟩ := hread
    obtain ⟨raws, hraws, hchecks⟩ := ih
    refine ⟨raw :: raws, ?_, ?_⟩
    · rw [List.mapM_cons, hraw, hraws]
      rfl
    · rw [List.mapM_cons, hcheck, hchecks]
      rfl

/-! ### Kept values -/

theorem plain_stringOf (depth : Nat) (text : String) : (stringOf text).plain depth = true := by
  rw [stringOf, Json.plain, Json.StringPart.text?_ofText]
  rfl

theorem HalfMissing.plain {v : Option Json} (h : HalfMissing v) (depth : Nat) :
    ∀ w, v = some w → w.plain depth = true := by
  rintro w rfl
  rcases h with h | h <;> cases h
  rw [Json.plain]

theorem HalfSpelled.plain {v : Option Json} (h : HalfSpelled Fits v) (depth : Nat) :
    ∀ w, v = some w → w.plain depth = true := by
  rcases h with h | ⟨i, hi, rfl⟩
  · exact h.plain depth
  · rintro w ⟨⟩
    exact Json.plain_ofInt depth hi.1 hi.2

theorem plain_location {n : Nat} (h : CountsFromOne n) (depth : Nat) :
    ∀ w, some (Json.ofInt n) = some w → w.plain depth = true := by
  rintro w ⟨⟩
  exact Json.plain_ofInt depth h.2.1 h.2.2

/-- The halves of a reference are plain. -/
theorem plain_origin {origin : Option Location} {gln gcol : Option Json} (h : OriginSpelled Fits origin gln gcol)
    (horigin : ∀ l, origin = some l → l.InRange) (depth : Nat) :
    (∀ w, gln = some w → w.plain depth = true) ∧ ∀ w, gcol = some w → w.plain depth = true := by
  cases h with
  | whole l =>
    have hl := horigin l rfl
    exact ⟨plain_location hl.1 depth, plain_location hl.2 depth⟩
  | noCol hgln hgcol => exact ⟨hgln.plain depth, hgcol.plain depth⟩
  | noLine hgln hgcol => exact ⟨hgln.plain depth, hgcol.plain depth⟩

/-- **An entry is plain**, one container deeper than the members that are no fields. -/
theorem plain_of_spelled {depth : Nat} {e : Entry} {v : Json} (he : e.InRange)
    (h : EntrySpelled Fits (fun w => w.plain depth = true) e v) : v.plain (depth + 1) = true := by
  obtain ⟨horigin, hrecord⟩ := h
  have hhalves := plain_origin horigin he.2 depth
  refine plain_of_recordSpelled ?_ hrecord
  simp only [entryFields, List.forall_mem_cons]
  refine ⟨plain_location he.1.1 depth, plain_location he.1.2 depth, ?_, hhalves.1, hhalves.2, ?_⟩
  · rintro w ⟨⟩
    exact plain_stringOf depth e.message
  · intro f hf
    cases hf

/-- The entries of the text's list can be kept. -/
theorem plain_entries {es : List Entry} {items : List Json} (hes : ∀ e ∈ es, e.InRange)
    (h : List.Forall₂ (EntrySpelled Fits fun v => v.plain (keptDepth - 2) = true) es items) :
    (Json.array items).plain keptDepth = true := by
  show items.all (Json.plain (keptDepth - 1)) = true
  induction h with
  | nil => rfl
  | cons hv _ ih =>
    rw [List.all_cons, Bool.and_eq_true]
    exact ⟨plain_of_spelled (hes _ List.mem_cons_self) hv, ih fun e he => hes e (List.mem_cons_of_mem _ he)⟩

/-- A plain value is kept as it is, unless it is a null. -/
theorem kept?_of_plain {v : Json} (h : v.plain keptDepth = true) (hnull : v ≠ .null) :
    RawReport.kept? (some v) = some (some v) := by
  cases v with
  | null => exact absurd rfl hnull
  | bool _ | number _ | string _ | array _ | object _ => rw [RawReport.kept?, if_pos h]; rintro ⟨⟩

/-- What is left over next to an unusable grammar is no obstacle. -/
theorem exists_kept? {left : Option Json} (h : ∀ v, left = some v → v.plain keptDepth = true) :
    ∃ k, RawReport.kept? left = some k := by
  cases left with
  | none => exact ⟨none, rfl⟩
  | some v =>
    by_cases hnull : v = .null
    · subst hnull
      exact ⟨none, rfl⟩
    · exact ⟨some v, kept?_of_plain (h v rfl) hnull⟩

/-! ### Reports -/

section Reports

variable {r : Report} {grammar : List Json} {valid code ast astOptimized profile : Option Json}

/-- The seven values of a report, as they are put together. -/
def reportRaw (r : Report) (grammar : List Json) (valid code ast astOptimized profile : Option Json) :
    Option RawReport :=
  RawReport.build (some (.bool r.grammarValid)) (some (.array grammar)) valid code ast astOptimized profile

/-- An object in which the fields of a report are found. -/
theorem ofJson?_report_of_answers {ms : List Member}
    (h : Answers (reportFields r grammar (sourceFields valid code ast astOptimized profile)) ms) :
    RawReport.ofJson? (objectOf ms) = reportRaw r grammar valid code ast astOptimized profile := by
  have hfound : ∀ f ∈ reportFields r grammar (sourceFields valid code ast astOptimized profile),
      only f.1 ms = some f.2 := h
  simp only [reportFields, sourceFields, List.forall_mem_cons] at hfound
  obtain ⟨hgrammarValid, hgrammar, hvalid, hcode, hast, hastOptimized, hprofile, _⟩ := hfound
  simp only [objectOf, RawReport.ofJson?, named_objectOf, Option.bind_eq_bind, Option.bind_some, RawReport.ofMembers,
    SourceField.name, hgrammarValid, hgrammar, hvalid, hcode, hast, hastOptimized, hprofile]
  rfl

/-- An array with the fields of a report. -/
theorem ofJson?_report_of_inOrder {items : List Json} {absent : Nat}
    (h : (reportFields r grammar (sourceFields valid code ast astOptimized profile)).map Prod.snd
      = items.map some ++ List.replicate absent none) :
    RawReport.ofJson? (.array items) = reportRaw r grammar valid code ast astOptimized profile := by
  have hlength : items.length ≤ 7 := length_le_of_inOrder h
  rw [RawReport.ofJson?, RawReport.ofItems, if_pos hlength]
  simp only [getElem?_of_inOrder h]
  rfl

theorem separate_reportFields :
    Separate ((reportFields r grammar (sourceFields valid code ast astOptimized profile)).map Prod.fst) := by
  show Separate [["grammar_valid"], ["grammar"], ["source_valid"], ["code"], ["ast"], ["astOptimized"], ["profile"]]
  decide

/-- The seven values are found in every document of a report. -/
theorem ofJson?_report {extra : Json → Prop} {v : Json}
    (h : RecordSpelled extra (reportFields r grammar (sourceFields valid code ast astOptimized profile)) v) :
    RawReport.ofJson? v = reportRaw r grammar valid code ast astOptimized profile := by
  cases h with
  | object hknown hothers hperm =>
    exact ofJson?_report_of_answers (answers_of_spelled separate_reportFields hknown hothers hperm)
  | array hitems => exact ofJson?_report_of_inOrder hitems

end Reports

/-- A report is read off its seven values, and passes the checks. -/
def ReadsReport (raw : Option RawReport) (r : Report) : Prop := ∃ doc, raw = some doc ∧ doc.report = .ok r

/-- The report of a usable grammar. -/
theorem readsReport_usable {grammar code : List Json} {errors : List Entry} {s : SourceReport}
    (hgrammar : List.Forall₂ (Reads RawEntry.ofJson?) errors grammar)
    (hcode : List.Forall₂ (Reads fun v => RawEntry.ofJson? v.lastWins) s.errors code)
    (hplain : (Json.array code).plain keptDepth = true) :
    ReadsReport (reportRaw ⟨errors, some s⟩ grammar (some (.bool s.valid)) (some (.array code))
      (some (stringOf s.ast)) (some (stringOf s.astOptimized)) (some (stringOf s.profile))) ⟨errors, some s⟩ := by
  obtain ⟨raws, hraws, hchecks⟩ := mapM_reads hgrammar
  obtain ⟨codeRaws, hcodeRaws, hcodeChecks⟩ := mapM_reads hcode
  have hvalid : RawReport.kept? (some (.bool s.valid)) = some (some (.bool s.valid)) :=
    kept?_of_plain (by rw [Json.plain]) (by rintro ⟨⟩)
  have hkept : RawReport.kept? (some (.array code)) = some (some (.array code)) :=
    kept?_of_plain hplain (by rintro ⟨⟩)
  have htext : ∀ text, RawReport.kept? (some (stringOf text)) = some (some (stringOf text)) := fun text =>
    kept?_of_plain (plain_stringOf keptDepth text) (by rintro ⟨⟩)
  refine ⟨⟨true, raws, some (.bool s.valid), some (.array code), some (stringOf s.ast),
    some (stringOf s.astOptimized), some (stringOf s.profile)⟩, ?_, ?_⟩
  · simp [reportRaw, RawReport.build, RawEntry.listOfJson?, bool?, hraws, hvalid, hkept, htext, Report.grammarValid]
  · have hlist : RawEntry.listOfKept? (.array code) = some codeRaws := hcodeRaws
    simp [RawReport.report, hchecks, require, hlist, hcodeChecks, bool?, bind, Except.bind]

/-- The report of an unusable grammar. -/
theorem readsReport_unusable {grammar : List Json} {errors : List Entry}
    {valid code ast astOptimized profile : Option Json}
    (hgrammar : List.Forall₂ (Reads RawEntry.ofJson?) errors grammar)
    (hleft : ∀ left ∈ [valid, code, ast, astOptimized, profile], ∀ v, left = some v → v.plain keptDepth = true) :
    ReadsReport (reportRaw ⟨errors, none⟩ grammar valid code ast astOptimized profile) ⟨errors, none⟩ := by
  obtain ⟨raws, hraws, hchecks⟩ := mapM_reads hgrammar
  simp only [List.forall_mem_cons] at hleft
  obtain ⟨hvalid, hcode, hast, hastOptimized, hprofile, _⟩ := hleft
  obtain ⟨valid', hvalid⟩ := exists_kept? hvalid
  obtain ⟨code', hcode⟩ := exists_kept? hcode
  obtain ⟨ast', hast⟩ := exists_kept? hast
  obtain ⟨astOptimized', hastOptimized⟩ := exists_kept? hastOptimized
  obtain ⟨profile', hprofile⟩ := exists_kept? hprofile
  refine ⟨⟨false, raws, valid', code', ast', astOptimized', profile'⟩, ?_, ?_⟩
  · simp [reportRaw, RawReport.build, RawEntry.listOfJson?, bool?, hraws, hvalid, hcode, hast, hastOptimized, hprofile,
      Report.grammarValid]
  · simp only [RawReport.report, hchecks]
    rfl

/-- Every document of a report reads as that report. -/
theorem readsReport_of_spelled {r : Report} {v : Json} (hr : r.InRange) (h : ReportSpelled Fits r v) :
    ReadsReport (RawReport.ofJson? v) r := by
  obtain ⟨errors, source⟩ := r
  obtain ⟨hgrammar, hsource, hrecord⟩ := h
  have hreads := forall₂_reads (fun _ _ => reads_of_spelled) (fun e he => hr e (List.mem_append_left _ he)) hgrammar
  cases hsource with
  | @usable s code hcode =>
    have hes : ∀ e ∈ s.errors, e.InRange := fun e he => hr e (List.mem_append_right _ he)
    rw [ofJson?_report hrecord]
    exact readsReport_usable hreads (forall₂_reads (fun _ _ => reads_lastWins_of_spelled) hes hcode)
      (plain_entries hes hcode)
  | unusable hleft =>
    rw [ofJson?_report hrecord]
    exact readsReport_unusable hreads hleft

/-- **Every text that spells a report is read as that report.** -/
theorem decode_of_spelled {r : Report} {text : String} (hr : r.InRange) (h : Spelled Fits r text) :
    decode text = .ok r := by
  obtain ⟨v, hv, hpadded⟩ := h
  obtain ⟨doc, hdoc, hreport⟩ := readsReport_of_spelled hr hv
  have hread : (Json.parse? text >>= RawReport.ofJson?) = some doc := by
    rw [Json.parse?_padded hpadded]
    exact hdoc
  rw [decode, hread]
  exact hreport

/-! ### A mixed spelling -/

/-- A grammar that can be used, and a text that it does not accept. -/
def mixedReport : Report := ⟨[], some ⟨false, [⟨⟨1, 2⟩, "😀", none⟩], "", "", ""⟩⟩

/-- Objects with their members from the last to the first, one of which is no field, and under names of both kinds.
The message is a surrogate pair, and half of a reference is there. -/
def mixedText : String :=
  "\x7b\"x\":1e+9,\"profile\":\"\",\"astOptimized\":\"\",\"ast\":\"\"," ++
    "\"code\":[\x7b\"refCol\":-5,\"message\":\"\\ud83d\\uDE00\",\"col\":2,\"line\":1\x7d]," ++
    "\"source_valid\":false,\"grammar\":[ ],\"grammar_valid\":true\x7d"

def mixedEntry : List Member :=
  [("line", .ofInt 1), ("col", .ofInt 2), ("message", stringOf "😀"), ("refCol", .ofInt (-5))]

def mixedMembers : List Member :=
  [("grammar_valid", .bool true), ("grammar", .array []), ("source_valid", .bool false),
    ("code", .array [objectOf mixedEntry.reverse]), ("ast", stringOf ""), ("astOptimized", stringOf ""),
    ("profile", stringOf "")]

def mixedExtra : List Member := [("x", .number ⟨false, ['1'], [], some (false, ['9'])⟩)]

theorem mixed_inRange : mixedReport.InRange := by
  intro e he
  rw [List.mem_singleton.mp he]
  exact ⟨by decide, by rintro l ⟨⟩⟩

theorem mixed_entry (extra : Json → Prop) :
    EntrySpelled Fits extra ⟨⟨1, 2⟩, "😀", none⟩ (objectOf mixedEntry.reverse) := by
  have hknown : FieldMembers (entryFields ⟨⟨1, 2⟩, "😀", none⟩ none (some (.ofInt (-5)))) mixedEntry :=
    .present (by decide) (.present (by decide) (.present (by decide) (.absent (.present (by decide) .nil))))
  have hothers : OtherMembers extra (entryFields ⟨⟨1, 2⟩, "😀", none⟩ none (some (.ofInt (-5)))) [] :=
    fun m hm => by cases hm
  have hhalf : HalfSpelled Fits (some (.ofInt (-5))) := .inr ⟨-5, ⟨by decide, by decide⟩, rfl⟩
  refine ⟨.noLine (.inl rfl) hhalf, .object hknown hothers ?_⟩
  rw [List.append_nil]
  exact List.reverse_perm _

theorem mixed_document : ReportSpelled Fits mixedReport (objectOf (mixedMembers ++ mixedExtra).reverse) := by
  have hsource : SourceSpelled Fits mixedReport.source (sourceFields (some (.bool false))
      (some (.array [objectOf mixedEntry.reverse])) (some (stringOf "")) (some (stringOf "")) (some (stringOf ""))) :=
    .usable (s := ⟨false, [⟨⟨1, 2⟩, "😀", none⟩], "", "", ""⟩) (.cons (mixed_entry _) .nil)
  have hknown : FieldMembers (reportFields mixedReport [] (sourceFields (some (.bool false))
      (some (.array [objectOf mixedEntry.reverse])) (some (stringOf "")) (some (stringOf "")) (some (stringOf ""))))
      mixedMembers :=
    .present (by decide) (.present (by decide) (.present (by decide) (.present (by decide) (.present (by decide)
      (.present (by decide) (.present (by decide) .nil))))))
  refine ⟨.nil, hsource, .object hknown (fun m hm => ⟨?_, trivial⟩) (List.reverse_perm _)⟩
  rw [List.mem_singleton.mp hm]
  simp [reportFields, sourceFields]

theorem mixed_padded : Padded (objectOf (mixedMembers ++ mixedExtra).reverse) mixedText.toList := by
  have hhigh : Json.UnitWritten 0xD83D "d83d".toList :=
    .mk (a := 13) (b := 8) (c := 3) (d := 13) ⟨by decide, .inl rfl⟩ ⟨by decide, .inl rfl⟩ ⟨by decide, .inl rfl⟩
      ⟨by decide, .inl rfl⟩
  have hlow : Json.UnitWritten 0xDE00 "DE00".toList :=
    .mk (a := 13) (b := 14) (c := 0) (d := 0) ⟨by decide, .inr rfl⟩ ⟨by decide, .inr rfl⟩ ⟨by decide, .inl rfl⟩
      ⟨by decide, .inl rfl⟩
  have hpair := Json.StringWritten.pair hhigh hlow (by decide) (by decide) .nil
  have hmessage : Padded (stringOf "😀") _ := .bare (.string hpair)
  have hempty : Padded (stringOf "") _ := .bare (.string .nil)
  have hint (i : Int) := Padded.bare (Json.written_ofInt i)
  have hname (name : String) (h : name.toList.all Json.isBare = true) :
      Json.StringWritten (Json.StringPart.ofText name) name.toList := .bare h
  have hentry : Padded (objectOf mixedEntry.reverse) _ := .bare (.object
    (.more .nil (hname "refCol" rfl) .nil (hint (-5))
    (.more .nil (hname "message" rfl) .nil hmessage
    (.more .nil (hname "col" rfl) .nil (hint 2)
    (.one .nil (hname "line" rfl) .nil (hint 1))))))
  have hnumber : Padded (.number ⟨false, ['1'], [], some (false, ['9'])⟩) _ := .bare (.number
    ⟨Json.wholeWritten_toDigits 1, [], _, .none, .some (.inl rfl) .plus (Json.wholeWritten_toDigits 9).1, rfl⟩)
  have hblank : Json.Blanks [' '] := fun c hc => by
    rw [List.mem_singleton.mp hc]
    exact List.mem_cons_self
  have hdocument : Padded (objectOf (mixedMembers ++ mixedExtra).reverse) _ := .bare (.object
    (.more .nil (hname "x" rfl) .nil hnumber
    (.more .nil (hname "profile" rfl) .nil hempty
    (.more .nil (hname "astOptimized" rfl) .nil hempty
    (.more .nil (hname "ast" rfl) .nil hempty
    (.more .nil (hname "code" rfl) .nil (.bare (.array (.one hentry)))
    (.more .nil (hname "source_valid" rfl) .nil (.bare .no)
    (.more .nil (hname "grammar" rfl) .nil (.bare (.emptyArray hblank))
    (.one .nil (hname "grammar_valid" rfl) .nil (.bare .yes))))))))))
  -- a literal is made of its characters, which are not read off its bytes then
  have htext : mixedText.toList = _ := (String.toList_append ..).trans (congrArg₂ (· ++ ·)
    ((String.toList_append ..).trans (congrArg₂ (· ++ ·) String.toList_ofList String.toList_ofList))
    String.toList_ofList)
  rw [htext]
  refine Eq.subst (motive := Padded _) ?_ hdocument
  decide +kernel

theorem decode_mixedText :
    mixedReport.InRange ∧ Spelled Fits mixedReport mixedText ∧ decode mixedText = .ok mixedReport := by
  have hspelled : Spelled Fits mixedReport mixedText := ⟨_, mixed_document, mixed_padded⟩
  exact ⟨mixed_inRange, hspelled, decode_of_spelled mixed_inRange hspelled⟩

/-! ### A half that does not fit -/

/-- An entry with half of a reference that does not fit. -/
def oversizedEntry : Json := .array [.ofInt 1, .ofInt 1, stringOf "m", .ofInt (2 ^ 63)]

/-- **Half of a reference is read before it is dropped**, and so it has to fit 64 bits. -/
theorem not_decode_of_spelled_any_half :
    ¬ ∀ (r : Report) (text : String), r.InRange → Spelled (fun _ => True) r text → decode text = .ok r := by
  intro anyHalf
  have hrange : (⟨[⟨⟨1, 1⟩, "m", none⟩], none⟩ : Report).InRange := by
    intro e he
    rw [List.mem_singleton.mp he]
    exact ⟨by decide, by rintro l ⟨⟩⟩
  have hentry : EntrySpelled (fun _ => True) (fun _ => True) ⟨⟨1, 1⟩, "m", none⟩ oversizedEntry := by
    have horder : (entryFields ⟨⟨1, 1⟩, "m", none⟩ (some (.ofInt (2 ^ 63))) none).map Prod.snd
        = [Json.ofInt 1, .ofInt 1, stringOf "m", .ofInt (2 ^ 63)].map some ++ List.replicate 1 none := rfl
    exact ⟨.noCol (.inr ⟨2 ^ 63, trivial, rfl⟩) (.inl rfl), .array horder⟩
  have hdocument : ReportSpelled (fun _ => True) ⟨[⟨⟨1, 1⟩, "m", none⟩], none⟩
      (.array [.bool false, .array [oversizedEntry]]) := by
    have hsource : SourceSpelled (fun _ => True) none (sourceFields none none none none none) :=
      .unusable (by simp)
    have horder : (reportFields ⟨[⟨⟨1, 1⟩, "m", none⟩], none⟩ [oversizedEntry]
          (sourceFields none none none none none)).map Prod.snd
        = [Json.bool false, .array [oversizedEntry]].map some ++ List.replicate 5 none := rfl
    exact ⟨.cons hentry .nil, hsource, .array horder⟩
  have hpadded : Padded (.array [.bool false, .array [oversizedEntry]])
      "[false,[[1,1,\"m\",9223372036854775808]]]".toList := by
    have hone := Padded.bare (Json.written_ofInt 1)
    have hhalf := Padded.bare (Json.written_ofInt (2 ^ 63))
    have hmessage : Padded (stringOf "m") _ := .bare (.string (.bare rfl))
    have hitem := Padded.bare (.array (.more hone (.more hone (.more hmessage (.one hhalf)))))
    exact .bare (.array (.more (.bare .no) (.one (.bare (.array (.one hitem))))))
  have hdecode := anyHalf _ _ hrange ⟨_, hdocument, hpadded⟩
  rw [decode, Json.parse?_padded hpadded] at hdecode
  cases hdecode

end GrammarStudio.Analysis
