import GrammarStudio.Proofs.Analysis.Leftovers

/-!
# The two lists of errors

A report lists errors of the grammar and errors of the text, and both lists hold the same kind of entry.  But the list
of the grammar is read off the document, and the list of the text is kept as a value first.  Two things tell the lists
apart.  A value that cannot be kept spoils the list of the text, also where no entry reads it.  And a field that is told
twice under one name spoils the list of the grammar, while a value keeps the last one.

* `TellsOnce` — an entry that tells no field twice under one name;
* `ofJson?_lastWins_of_isSome`, `ofJson?_lastWins_of_plain` — entries that are read alike when they have been kept;
* `grammarEntries`, `codeEntries` — what a list comes to in either place;
* `decode_grammarList`, `decode_codeList` — the documents with the one list or the other;
* `decode_lists_iff` — the lists are decoded alike exactly if they hold none of the two things;
* `not_decode_lists_alike` — a line that is told twice is enough.
-/

namespace GrammarStudio.Analysis

open Json (Padded)

/-! ### Lists of optional values -/

theorem isSome_mapM_iff {α β : Type} {f : α → Option β} {l : List α} :
    (l.mapM f).isSome ↔ ∀ a ∈ l, (f a).isSome := by
  induction l with
  | nil => simp
  | cons a l ih =>
    rw [List.mapM_cons, List.forall_mem_cons, ← ih]
    cases f a <;> cases l.mapM f <;> simp

theorem mapM_congr {α β : Type} {f g : α → Option β} {l : List α} (h : ∀ a ∈ l, f a = g a) : l.mapM f = l.mapM g := by
  induction l with
  | nil => rfl
  | cons a l ih =>
    rw [List.mapM_cons, List.mapM_cons, h a List.mem_cons_self, ih fun b hb => h b (List.mem_cons_of_mem _ hb)]

/-! ### Names that are told once -/

/-- The names of the fields of an entry. -/
def entryNames : List (List String) :=
  [["ln", "line"], ["col"], ["msg", "message"], ["gln", "refLine"], ["gcol", "refCol"]]

/-- No field of an entry is told twice under one of its names. -/
def Once (ms : List Member) : Prop := ∀ names ∈ entryNames, ∀ name ∈ names, (under [name] ms).length ≤ 1

instance (ms : List Member) : Decidable (Once ms) := by unfold Once; infer_instance

/-- An entry that tells no field twice under one name.  An array has no names. -/
def TellsOnce : Json → Prop
  | .object members => ∀ ms, named members = some ms → Once ms
  | _ => True

variable {members : List (List Json.StringPart × Json)} {ms : List Member} {v : Json}

theorem tellsOnce_of_named (h : named members = some ms) (once : Once ms) : TellsOnce (.object members) := by
  intro ms' hms'
  rw [h] at hms'
  cases hms'
  exact once

/-- The five fields of an entry are found in the same way under the same values. -/
theorem ofMembers_congr {ms' : List Member} (h : ∀ names ∈ entryNames, under names ms = under names ms') :
    RawEntry.ofMembers ms = RawEntry.ofMembers ms' := by
  have honly : ∀ names ∈ entryNames, only names ms = only names ms' := fun names hnames =>
    only_congr (.of_eq (h names hnames))
  simp only [entryNames, List.forall_mem_cons] at honly
  obtain ⟨hln, hcol, hmsg, hgln, hgcol, _⟩ := honly
  rw [RawEntry.ofMembers, RawEntry.ofMembers, hln, hcol, hmsg, hgln, hgcol]

/-- What is read as an entry tells no field twice, under one name or under two. -/
theorem once_of_isSome (h : (RawEntry.ofMembers ms).isSome) : Once ms := by
  obtain ⟨raw, hraw⟩ := Option.isSome_iff_exists.mp h
  simp only [RawEntry.ofMembers, Option.bind_eq_bind, Option.bind_eq_some_iff] at hraw
  obtain ⟨ln, hln, col, hcol, message, hmessage, gln, hgln, gcol, hgcol, _⟩ := hraw
  simp only [Once, entryNames, List.forall_mem_cons (p := fun names => ∀ name ∈ names, _)]
  exact ⟨length_under_le_one hln, length_under_le_one hcol, length_under_le_one hmessage, length_under_le_one hgln,
    length_under_le_one hgcol, fun names hnames => by cases hnames⟩

/-- **An entry that tells no field twice is read alike** when it has been kept. -/
theorem ofJson?_dropEarlier (h : named members = some ms) (once : Once ms) :
    RawEntry.ofJson? (.object (Json.lastWins.dropEarlier members)) = RawEntry.ofJson? (.object members) := by
  obtain ⟨kept, hkept, hunder⟩ := under_dropEarlier h
  have hfields : RawEntry.ofMembers kept = RawEntry.ofMembers ms :=
    ofMembers_congr fun names hnames => hunder names (once names hnames)
  rw [RawEntry.ofJson?, RawEntry.ofJson?, hkept, h]
  exact hfields

/-- What is read as an entry is read alike when it has been kept. -/
theorem ofJson?_lastWins_of_isSome (h : (RawEntry.ofJson? v).isSome) :
    TellsOnce v ∧ RawEntry.ofJson? v.lastWins = RawEntry.ofJson? v := by
  cases v with
  | object members =>
    cases hnamed : named members with
    | none =>
      rw [RawEntry.ofJson?, hnamed] at h
      cases h
    | some ms =>
      rw [RawEntry.ofJson?, hnamed] at h
      have honce : Once ms := once_of_isSome h
      exact ⟨tellsOnce_of_named hnamed honce, ofJson?_dropEarlier hnamed honce⟩
  | null | bool _ | number _ | string _ | array _ => exact ⟨trivial, rfl⟩

/-- The names of a plain object are texts. -/
theorem exists_named_of_plain {depth : Nat} (h : (Json.object members).plain depth = true) :
    ∃ ms, named members = some ms := by
  cases depth with
  | zero =>
    rw [Json.plain] at h
    cases h
  | succ depth =>
    rw [Json.plain, List.all_eq_true] at h
    have hnames : (members.all fun m => (Json.StringPart.text? m.1).isSome) = true := by
      rw [List.all_eq_true]
      exact fun m hm => (Bool.and_eq_true _ _ ▸ h m hm).1
    rw [named_eq, if_pos hnames]
    exact ⟨_, rfl⟩

/-- A plain entry that tells no field twice is read alike when it has been kept. -/
theorem ofJson?_lastWins_of_plain {depth : Nat} (h : v.plain depth = true) (once : TellsOnce v) :
    RawEntry.ofJson? v.lastWins = RawEntry.ofJson? v := by
  cases v with
  | object members =>
    obtain ⟨ms, hms⟩ := exists_named_of_plain h
    exact ofJson?_dropEarlier hms (once ms hms)
  | null | bool _ | number _ | string _ | array _ => rfl

/-! ### Lists of entries -/

variable {items : List Json}

/-- What is read as a list of entries is read alike when it has been kept. -/
theorem listOfKept?_of_isSome (h : (RawEntry.listOfJson? (.array items)).isSome) :
    (∀ v ∈ items, TellsOnce v) ∧ RawEntry.listOfKept? (.array items) = RawEntry.listOfJson? (.array items) := by
  have hitems : ∀ v ∈ items, (RawEntry.ofJson? v).isSome := isSome_mapM_iff.mp h
  exact ⟨fun v hv => (ofJson?_lastWins_of_isSome (hitems v hv)).1,
    mapM_congr fun v hv => (ofJson?_lastWins_of_isSome (hitems v hv)).2⟩

/-- A plain list whose entries tell no field twice is read alike when it has been kept. -/
theorem listOfKept?_of_plain (h : (Json.array items).plain keptDepth = true) (once : ∀ v ∈ items, TellsOnce v) :
    RawEntry.listOfKept? (.array items) = RawEntry.listOfJson? (.array items) := by
  have hitems : items.all (Json.plain (keptDepth - 1)) = true := h
  exact mapM_congr fun v hv => ofJson?_lastWins_of_plain (List.all_eq_true.mp hitems v hv) (once v hv)

/-- What a list of entries comes to where the document reads it. -/
def grammarEntries (items : List Json) : Except DecodeError (List Entry) :=
  match RawEntry.listOfJson? (.array items) with
  | none => .error .malformed
  | some raws => raws.mapM RawEntry.check

/-- What a list of entries comes to where it is kept as a value. -/
def codeEntries (items : List Json) : Except DecodeError (List Entry) :=
  if (Json.array items).plain keptDepth then
    match RawEntry.listOfKept? (.array items) with
    | none => .error .malformed
    | some raws => raws.mapM RawEntry.check
  else .error .malformed

theorem position_ne_malformed (field : PositionField) (value : Int) : position field value ≠ .error .malformed := by
  unfold position
  split <;> rintro ⟨⟩

/-- What cannot fail so step by step cannot fail so at all. -/
theorem bind_ne_error {α β : Type} {e : DecodeError} {x : Except DecodeError α} {f : α → Except DecodeError β}
    (hx : x ≠ .error e) (hf : ∀ a, f a ≠ .error e) : x >>= f ≠ .error e := by
  cases x with
  | error e' =>
    rintro ⟨⟩
    exact hx rfl
  | ok a => exact hf a

/-- An entry that has been read is not malformed: a position of it may be bad, and that is all. -/
theorem check_ne_malformed (raw : RawEntry) : raw.check ≠ .error .malformed := by
  refine bind_ne_error (position_ne_malformed .ln raw.ln) fun line => ?_
  refine bind_ne_error (position_ne_malformed .col raw.col) fun col => ?_
  split
  · rename_i gln gcol _ _
    refine bind_ne_error (position_ne_malformed .gln gln) fun refLine => ?_
    exact bind_ne_error (position_ne_malformed .gcol gcol) fun refCol => by rintro ⟨⟩
  · rintro ⟨⟩

theorem mapM_check_ne_malformed (raws : List RawEntry) : raws.mapM RawEntry.check ≠ .error .malformed := by
  induction raws with
  | nil => rintro ⟨⟩
  | cons raw raws ih =>
    rw [List.mapM_cons]
    refine bind_ne_error (check_ne_malformed raw) fun entry => ?_
    exact bind_ne_error ih fun entries => by rintro ⟨⟩

/-- A list is malformed in the document if its entries cannot be read. -/
theorem grammarEntries_eq_malformed_iff :
    grammarEntries items = .error .malformed ↔ (RawEntry.listOfJson? (.array items)).isSome = false := by
  rw [grammarEntries]
  cases RawEntry.listOfJson? (.array items) with
  | none => simp
  | some raws => simpa using mapM_check_ne_malformed raws

/-- A list is malformed as a value if it cannot be kept, or if the entries that are kept cannot be read. -/
theorem codeEntries_eq_malformed_iff :
    codeEntries items = .error .malformed ↔
      ((Json.array items).plain keptDepth = true → (RawEntry.listOfKept? (.array items)).isSome = false) := by
  rw [codeEntries]
  split
  case isFalse h => simp [h]
  case isTrue h =>
    cases RawEntry.listOfKept? (.array items) with
    | none => simp
    | some raws => simpa [h] using mapM_check_ne_malformed raws

/-- **A list comes to the same in both places**, unless it could be read but not kept, or an entry that is kept tells a
field twice. -/
theorem grammarEntries_eq_codeEntries_iff :
    grammarEntries items = codeEntries items ↔
      ((RawEntry.listOfJson? (.array items)).isSome → (Json.array items).plain keptDepth = true) ∧
      ((Json.array items).plain keptDepth = true → (RawEntry.listOfKept? (.array items)).isSome →
        ∀ v ∈ items, TellsOnce v) := by
  cases hread : (RawEntry.listOfJson? (.array items)).isSome with
  | true =>
    obtain ⟨honce, hkept⟩ := listOfKept?_of_isSome hread
    cases hplain : (Json.array items).plain keptDepth with
    | true =>
      refine ⟨fun _ => ⟨fun _ => rfl, fun _ _ => honce⟩, fun _ => ?_⟩
      rw [grammarEntries, codeEntries, if_pos hplain, hkept]
    | false =>
      have hcode : codeEntries items = .error .malformed :=
        codeEntries_eq_malformed_iff.mpr fun h => absurd h (by simp [hplain])
      rw [hcode, grammarEntries_eq_malformed_iff, hread]
      simp
  | false =>
    rw [grammarEntries_eq_malformed_iff.mpr hread, eq_comm, codeEntries_eq_malformed_iff]
    refine ⟨fun h => ⟨fun hsome => (by cases hsome), fun hplain hsome => ?_⟩, fun h hplain => ?_⟩
    · rw [h hplain] at hsome
      cases hsome
    · by_contra hsome
      have honce := h.2 hplain (eq_true_of_ne_false hsome)
      rw [listOfKept?_of_plain hplain honce] at hsome
      exact hsome hread

/-! ### Documents -/

/-- The fields of a report of a usable grammar, with a list of errors of the grammar and a list of errors of the text.
What else is told of the text is that of `s`. -/
def usableFields (s : SourceReport) (grammar code : List Json) : List Field :=
  reportFields ⟨[], some s⟩ grammar (sourceFields (some (.bool s.valid)) (some (.array code)) (some (stringOf s.ast))
    (some (stringOf s.astOptimized)) (some (stringOf s.profile)))

/-- The values of these fields, as they are put together. -/
def usableRaw (s : SourceReport) (grammar code : List Json) : Option RawReport :=
  reportRaw ⟨[], some s⟩ grammar (some (.bool s.valid)) (some (.array code)) (some (stringOf s.ast))
    (some (stringOf s.astOptimized)) (some (stringOf s.profile))

section Documents

variable {extra : Json → Prop} {s : SourceReport} {grammar code : List Json} {text text' : String}

theorem decode_usable (h : RecordSpelled extra (usableFields s grammar code) v) (htext : Padded v text.toList) :
    decode text = ((usableRaw s grammar code).map RawReport.report).getD (.error .malformed) := by
  have hread : (Json.parse? text >>= RawReport.ofJson?) = usableRaw s grammar code := by
    rw [Json.parse?_padded htext]
    exact ofJson?_report h
  rw [decode, hread]
  cases usableRaw s grammar code <;> rfl

/-- A list of errors of the text that cannot be kept spoils the document. -/
theorem decode_usable_of_not_plain (h : RecordSpelled extra (usableFields s grammar code) v)
    (htext : Padded v text.toList) (hplain : ¬ (Json.array code).plain keptDepth = true) :
    decode text = .error .malformed := by
  rw [decode_usable h htext, usableRaw, reportRaw, RawReport.build]
  simp [kept?_of_not_plain hplain]

/-- If it can be kept, both lists are read and checked, that of the grammar first. -/
theorem decode_usable_of_plain (h : RecordSpelled extra (usableFields s grammar code) v)
    (htext : Padded v text.toList) (hplain : (Json.array code).plain keptDepth = true) :
    decode text = (do
      let grammarErrors ← grammarEntries grammar
      let errors ← codeEntries code
      .ok ⟨grammarErrors, some { s with errors }⟩) := by
  have hvalid : RawReport.kept? (some (.bool s.valid)) = some (some (.bool s.valid)) :=
    kept?_of_plain (by rw [Json.plain]) (by rintro ⟨⟩)
  have hkept : RawReport.kept? (some (.array code)) = some (some (.array code)) :=
    kept?_of_plain hplain (by rintro ⟨⟩)
  have htext' : ∀ text, RawReport.kept? (some (stringOf text)) = some (some (stringOf text)) := fun text =>
    kept?_of_plain (plain_stringOf keptDepth text) (by rintro ⟨⟩)
  rw [decode_usable h htext, usableRaw, reportRaw, RawReport.build, grammarEntries, codeEntries, if_pos hplain]
  cases hlist : RawEntry.listOfJson? (.array grammar) with
  | none => simp [bool?, hlist, bind, Except.bind]
  | some raws =>
    simp only [bool?, hlist, hvalid, hkept, htext', Report.grammarValid, Option.bind_eq_bind, Option.bind_some,
      Option.map_some, Option.getD_some, RawReport.report, require, Option.isSome_some, if_true]
    cases raws.mapM RawEntry.check with
    | error e => rfl
    | ok errors =>
      cases RawEntry.listOfKept? (.array code) with
      | none => rfl
      | some codeRaws =>
        cases hcode : codeRaws.mapM RawEntry.check with
        | error e => simp [hcode, bind, Except.bind]
        | ok codeErrors => simp [hcode, bind, Except.bind]

/-- A list in the place of the errors of the grammar. -/
theorem decode_grammarList (h : RecordSpelled extra (usableFields s items []) v) (htext : Padded v text.toList) :
    decode text = (grammarEntries items).map fun errors => ⟨errors, some { s with errors := [] }⟩ := by
  rw [decode_usable_of_plain h htext rfl]
  cases grammarEntries items <;> rfl

/-- A list in the place of the errors of the text. -/
theorem decode_codeList (h : RecordSpelled extra (usableFields s [] items) v) (htext : Padded v text.toList) :
    decode text = (codeEntries items).map fun errors => ⟨[], some { s with errors }⟩ := by
  by_cases hplain : (Json.array items).plain keptDepth = true
  · rw [decode_usable_of_plain h htext hplain]
    cases codeEntries items <;> rfl
  · rw [decode_usable_of_not_plain h htext hplain, codeEntries, if_neg hplain]
    rfl

end Documents

/-! ### Two lists written side by side -/

/-- A text of which nothing is told. -/
def silent : SourceReport := ⟨false, [], "", "", ""⟩

/-- A document of two lists. -/
def twoLists (grammar code : List Json) : List Member :=
  [("grammar_valid", .bool true), ("grammar", .array grammar), ("source_valid", .bool false), ("code", .array code),
    ("ast", stringOf ""), ("astOptimized", stringOf ""), ("profile", stringOf "")]

/-- Its text, around the texts of the lists. -/
def twoListsText (grammar code : String) : String :=
  "\x7b\"grammar_valid\":true,\"grammar\":" ++ grammar ++ ",\"source_valid\":false,\"code\":" ++ code ++
    ",\"ast\":\"\",\"astOptimized\":\"\",\"profile\":\"\"\x7d"

theorem twoLists_spelled (grammar code : List Json) :
    RecordSpelled (fun _ => True) (usableFields silent grammar code) (objectOf (twoLists grammar code)) := by
  have hknown : FieldMembers (usableFields silent grammar code) (twoLists grammar code) :=
    .present (by decide) (.present (by decide) (.present (by decide) (.present (by decide) (.present (by decide)
      (.present (by decide) (.present (by decide) .nil))))))
  have hothers : OtherMembers (fun _ => True) (usableFields silent grammar code) [] := fun m hm => by cases hm
  refine .object hknown hothers ?_
  rw [List.append_nil]

theorem twoLists_padded {grammar code : List Json} {first second : String}
    (hfirst : Padded (.array grammar) first.toList) (hsecond : Padded (.array code) second.toList) :
    Padded (objectOf (twoLists grammar code)) (twoListsText first second).toList := by
  have hempty : Padded (stringOf "") ['"', '"'] := .bare (.string .nil)
  have hmembers := Json.MembersWritten.more .nil (name_written "grammar_valid" rfl) .nil (.bare .yes)
    (.more .nil (name_written "grammar" rfl) .nil hfirst
    (.more .nil (name_written "source_valid" rfl) .nil (.bare .no)
    (.more .nil (name_written "code" rfl) .nil hsecond
    (.more .nil (name_written "ast" rfl) .nil hempty
    (.more .nil (name_written "astOptimized" rfl) .nil hempty
    (.one .nil (name_written "profile" rfl) .nil hempty))))))
  have hobject := Padded.bare (.object hmembers)
  -- The pieces are variables here, for a literal would be taken apart into its characters.
  have happend : ∀ a b c d e : String,
      (a ++ b ++ c ++ d ++ e).toList = a.toList ++ b.toList ++ c.toList ++ d.toList ++ e.toList := by
    intro a b c d e
    simp only [String.toList_append]
  have htext : (twoListsText first second).toList = _ := happend _ first _ second _
  rw [htext]
  simpa [objectOf, twoLists] using hobject

/-- An entry of the first column of a line. -/
def entryOf (line : Int) : List Member := [("ln", .ofInt line), ("col", .ofInt 1), ("msg", stringOf "m")]

theorem emptyList_padded : Padded (.array []) "[]".toList := .bare (.emptyArray .nil)

/-! ### The two lists -/

/-- **The two lists are decoded alike, and when they are not.**  The same list in either place makes the same entries or
the same error, unless its entries can be read and a value among them cannot be kept, or they can be read when they have
been kept and one of them tells a field twice under one name. -/
theorem decode_lists_iff {s : SourceReport} {items : List Json} {v v' : Json} {text text' : String}
    (hgrammar : RecordSpelled (fun _ => True) (usableFields s items []) v)
    (hcode : RecordSpelled (fun _ => True) (usableFields s [] items) v')
    (htext : Padded v text.toList) (htext' : Padded v' text'.toList) :
    (decode text).map Report.grammarErrors = (decode text').map Report.codeErrors ↔
      ((RawEntry.listOfJson? (.array items)).isSome → (Json.array items).plain keptDepth = true) ∧
      ((Json.array items).plain keptDepth = true → (RawEntry.listOfKept? (.array items)).isSome →
        ∀ entry ∈ items, TellsOnce entry) := by
  have hfirst : (decode text).map Report.grammarErrors = grammarEntries items := by
    rw [decode_grammarList hgrammar htext]
    cases grammarEntries items <;> rfl
  have hsecond : (decode text').map Report.codeErrors = codeEntries items := by
    rw [decode_codeList hcode htext']
    cases codeEntries items <;> rfl
  rw [hfirst, hsecond]
  exact grammarEntries_eq_codeEntries_iff

/-- One entry, which is read in either place. -/
theorem decode_lists_iff_oneEntry :
    let text := twoListsText "[\x7b\"ln\":1,\"col\":1,\"msg\":\"m\"\x7d]" "[]"
    let text' := twoListsText "[]" "[\x7b\"ln\":1,\"col\":1,\"msg\":\"m\"\x7d]"
    (decode text).map Report.grammarErrors = (decode text').map Report.codeErrors ∧
      (decode text).map Report.grammarErrors = .ok [⟨⟨1, 1⟩, "m", none⟩] := by
  intro text text'
  have hentry : Padded (objectOf (entryOf 1)) _ := .bare (.object
    (.more .nil (name_written "ln" rfl) .nil (.bare (Json.written_ofInt 1))
    (.more .nil (name_written "col" rfl) .nil (.bare (Json.written_ofInt 1))
    (.one .nil (name_written "msg" rfl) .nil (.bare (.string (name_written "m" rfl)))))))
  have hlist : Padded (.array [objectOf (entryOf 1)]) "[\x7b\"ln\":1,\"col\":1,\"msg\":\"m\"\x7d]".toList :=
    .bare (.array (.one hentry))
  have hplain : (Json.array [objectOf (entryOf 1)]).plain keptDepth = true := by decide +kernel
  have honce : ∀ entry ∈ [objectOf (entryOf 1)], TellsOnce entry := by
    intro entry hentry
    rw [List.mem_singleton.mp hentry]
    exact tellsOnce_of_named (named_objectOf _) (by decide)
  refine ⟨(decode_lists_iff (twoLists_spelled _ _) (twoLists_spelled _ _) (twoLists_padded hlist emptyList_padded)
    (twoLists_padded emptyList_padded hlist)).mpr ⟨fun _ => hplain, fun _ _ => honce⟩, ?_⟩
  rw [decode_grammarList (twoLists_spelled _ _) (twoLists_padded hlist emptyList_padded)]
  rfl

/-- **A line that is told twice is enough**: the one list is malformed, and the other takes the last line. -/
theorem not_decode_lists_alike :
    ¬ ∀ (s : SourceReport) (items : List Json) (v v' : Json) (text text' : String),
      RecordSpelled (fun _ => True) (usableFields s items []) v →
      RecordSpelled (fun _ => True) (usableFields s [] items) v' →
      Padded v text.toList → Padded v' text'.toList →
      (decode text).map Report.grammarErrors = (decode text').map Report.codeErrors := by
  intro listsAlike
  let twice : Json := objectOf (("ln", .ofInt 2) :: entryOf 1)
  have hentry : Padded twice _ := .bare (.object
    (.more .nil (name_written "ln" rfl) .nil (.bare (Json.written_ofInt 2))
    (.more .nil (name_written "ln" rfl) .nil (.bare (Json.written_ofInt 1))
    (.more .nil (name_written "col" rfl) .nil (.bare (Json.written_ofInt 1))
    (.one .nil (name_written "msg" rfl) .nil (.bare (.string (name_written "m" rfl))))))))
  have hlist : Padded (.array [twice]) "[\x7b\"ln\":2,\"ln\":1,\"col\":1,\"msg\":\"m\"\x7d]".toList :=
    .bare (.array (.one hentry))
  have hplain : (Json.array [twice]).plain keptDepth = true := by decide +kernel
  have hgrammar : grammarEntries [twice] = .error .malformed := rfl
  have hcode : codeEntries [twice] = .ok [⟨⟨1, 1⟩, "m", none⟩] := by
    rw [codeEntries, if_pos hplain]
    rfl
  have halike := listsAlike _ _ _ _ _ _ (twoLists_spelled _ _) (twoLists_spelled _ _)
    (twoLists_padded hlist emptyList_padded) (twoLists_padded emptyList_padded hlist)
  rw [decode_grammarList (twoLists_spelled _ _) (twoLists_padded hlist emptyList_padded),
    decode_codeList (twoLists_spelled _ _) (twoLists_padded emptyList_padded hlist), hgrammar, hcode] at halike
  cases halike

end GrammarStudio.Analysis
