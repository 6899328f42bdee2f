import GrammarStudio.Proofs.Analysis.Lists
import GrammarStudio.Proofs.Json.Soundness

/-!
# The shape of a report

A document has the shape of a report, or it has not, before any position in it is looked at.  This file says what that
shape is without reading: which values a record holds for its fields, what an entry says, and what is known of the
members that describe the text, which are looked at later.  What is read off a document is what the shape says of it.

* `Holds`, `holds_iff` — the values that a document holds for the fields of a record, and that these are found;
* `EntryShape`, `ofJson?_eq_some_iff` — what an entry says, and that this is read;
* `Found`, `Keeps` — what is known of a member that is kept for later;
* `Draft`, `Shape`, `Drafted` — what a document, and a text, says before it is checked;
* `shape_iff`, `decode_of_drafted`, `decode_of_not_drafted` — a report is decoded from what its text says;
* `Drafted.fits` — all its integers fit.
-/

namespace GrammarStudio.Analysis

open Json (Padded)

/-- A list is read if all that is in it is. -/
theorem mapM_eq_some_iff {α β : Type} {read : α → Option β} {l : List α} {values : List β} :
    l.mapM read = some values ↔ List.Forall₂ (fun a b => read a = some b) l values := by
  induction l generalizing values with
  | nil => simp [eq_comm]
  | cons a l ih =>
    simp only [List.mapM_cons, Option.pure_def, Option.bind_eq_bind, Option.bind_eq_some_iff, Option.some.injEq, ih,
      List.forall₂_cons_left_iff]
    constructor
    · rintro ⟨b, hb, rest, hrest, rfl⟩
      exact ⟨b, rest, hb, hrest, rfl⟩
    · rintro ⟨b, rest, hb, hrest, rfl⟩
      exact ⟨b, hb, rest, hrest, rfl⟩

/-! ### Values of a record -/

/-- **The values that a document holds for the fields of a record**: in an object, what stands under the names of a
field, once at most; in an array, what stands in its place.  All names of an object are texts. -/
inductive Holds (names : List (List String)) (values : List (Option Json)) : Json → Prop
  | object {ms : List Member} : List.Forall₂ (fun field value => under field ms = value.toList) names values →
      Holds names values (objectOf ms)
  | array {items : List Json} {absent : Nat} : values.length = names.length →
      values = items.map some ++ List.replicate absent none → Holds names values (.array items)

section Records

variable {names : List (List String)} {values : List (Option Json)}

/-- The names of members are texts if the members are those of some texts. -/
theorem named_eq_some_iff {members : List (List Json.StringPart × Json)} {ms : List Member} :
    named members = some ms ↔ members = ms.map fun m => (Json.StringPart.ofText m.1, m.2) := by
  refine ⟨fun h => ?_, fun h => h ▸ named_objectOf ms⟩
  induction members generalizing ms with
  | nil =>
    cases h
    rfl
  | cons m members ih =>
    obtain ⟨name, rest, hname, hrest, rfl⟩ := named_cons.mp h
    rw [List.map_cons, ← ih hrest, ← Json.StringPart.text?_eq_some_iff.mp hname]

/-- The values of a record, as they are looked for. -/
def values? (names : List (List String)) : Json → Option (List (Option Json))
  | .object members => named members >>= fun ms => names.mapM (only · ms)
  | .array items =>
    if items.length ≤ names.length then some ((List.range names.length).map (items[·]?)) else none
  | _ => none

/-- Items in the places of the fields, with nothing behind them. -/
theorem eq_range_map_iff {items : List Json} {n : Nat} :
    (∃ absent, values.length = n ∧ values = items.map some ++ List.replicate absent none) ↔
      items.length ≤ n ∧ values = (List.range n).map (items[·]?) := by
  constructor
  · rintro ⟨absent, rfl, hvalues⟩
    refine ⟨length_le_of_inOrder hvalues, List.ext_getElem (by simp) fun k hk _ => ?_⟩
    have hitem := getElem?_of_inOrder hvalues k
    rw [List.getElem?_eq_getElem hk, Option.join_some] at hitem
    rw [List.getElem_map, List.getElem_range, hitem]
  · rintro ⟨hle, rfl⟩
    refine ⟨n - items.length, by simp, List.ext_getElem (by simp; omega) fun k hk hk' => ?_⟩
    rw [List.getElem_map, List.getElem_range, List.getElem_append]
    split
    case isTrue hlt =>
      rw [List.getElem_map]
      exact List.getElem?_eq_getElem _
    case isFalse hlt =>
      rw [List.getElem_replicate]
      exact List.getElem?_eq_none (by simpa using hlt)

/-- **The values that a document holds are those that are looked for and found.** -/
theorem holds_iff {v : Json} : Holds names values v ↔ values? names v = some values := by
  cases v with
  | object members =>
    simp only [values?, Option.bind_eq_bind, Option.bind_eq_some_iff, mapM_eq_some_iff, only_eq_some_iff,
      named_eq_some_iff]
    constructor
    · rintro (⟨hfound⟩ | _)
      exact ⟨_, rfl, hfound⟩
    · rintro ⟨ms, rfl, hfound⟩
      exact .object hfound
  | array items =>
    rw [values?, Option.ite_none_right_eq_some, Option.some.injEq, @eq_comm _ _ values, ← eq_range_map_iff]
    constructor
    · rintro (_ | ⟨hlength, hvalues⟩)
      exact ⟨_, hlength, hvalues⟩
    · rintro ⟨absent, hlength, hvalues⟩
      exact .array hlength hvalues
  | null | bool _ | number _ | string _ => exact ⟨by rintro ⟨⟩, by rintro ⟨⟩⟩

end Records

/-! ### Entries -/

theorem text?_eq_some_iff {v : Json} {text : String} : text? v = some text ↔ v = stringOf text := by
  rw [stringOf]
  cases v with
  | string parts =>
    rw [text?, Json.StringPart.text?_eq_some_iff]
    exact ⟨congrArg Json.string, Json.string.inj⟩
  | null | bool _ | number _ | array _ | object _ => exact ⟨by rintro ⟨⟩, by rintro ⟨⟩⟩

theorem bool?_eq_some_iff {v : Json} {b : Bool} : bool? v = some b ↔ v = .bool b := by
  cases v with
  | bool b' => exact ⟨fun h => congrArg Json.bool (Option.some.inj h), fun h => congrArg some (Json.bool.inj h)⟩
  | null | number _ | string _ | array _ | object _ => exact ⟨by rintro ⟨⟩, by rintro ⟨⟩⟩

/-- An integer that is read fits 64 bits. -/
theorem fits_of_integer? {v : Json} {i : Int} (h : integer? v = some i) : Fits i := by
  cases v with
  | number n =>
    simp only [integer?, Json.Number.integer?, Option.ite_none_left_eq_some, Option.ite_none_right_eq_some,
      Option.some.injEq] at h
    obtain ⟨-, hfits, rfl⟩ := h
    exact hfits
  | null | bool _ | string _ | array _ | object _ => cases h

/-- Half of a cross reference: an integer, or nothing. -/
inductive HalfShape : Option Json → Option Int → Prop
  | missing {v : Option Json} : HalfMissing v → HalfShape v none
  | integer {v : Json} {i : Int} : integer? v = some i → HalfShape (some v) (some i)

theorem optionalInteger?_eq_some_iff {v : Option Json} {half : Option Int} :
    optionalInteger? v = some half ↔ HalfShape v half := by
  constructor
  · intro h
    unfold optionalInteger? at h
    split at h
    case h_1 => cases h; exact .missing (.inl rfl)
    case h_2 => cases h; exact .missing (.inr rfl)
    case h_3 =>
      obtain ⟨i, hi, rfl⟩ := Option.map_eq_some_iff.mp h
      exact .integer hi
  · rintro (hmissing | hi)
    · exact hmissing.read
    · rename_i v i
      have hnull : v ≠ .null := by
        rintro rfl
        cases hi
      unfold optionalInteger?
      split
      case h_1 heq => cases heq
      case h_2 heq => exact absurd (Option.some.inj heq) hnull
      case h_3 heq =>
        cases heq
        rw [hi]
        rfl

/-- **The shape of an entry**, and what it says: two integers, a text, and two integers that may be missing. -/
inductive EntryShape (v : Json) (raw : RawEntry) : Prop
  | mk {ln col : Json} {gln gcol : Option Json} : integer? ln = some raw.ln → integer? col = some raw.col →
      HalfShape gln raw.gln → HalfShape gcol raw.gcol →
      Holds entryNames [some ln, some col, some (stringOf raw.message), gln, gcol] v → EntryShape v raw

section Entries

variable {v : Json} {raw : RawEntry} {ln col message gln gcol : Option Json}

/-- An entry is put together from values of these kinds, and from no others. -/
theorem build_eq_some_iff :
    RawEntry.build ln col message gln gcol = some raw ↔
      ∃ l c, ln = some l ∧ col = some c ∧ message = some (stringOf raw.message) ∧ integer? l = some raw.ln ∧
        integer? c = some raw.col ∧ HalfShape gln raw.gln ∧ HalfShape gcol raw.gcol := by
  simp only [RawEntry.build, Option.bind_eq_bind, Option.bind_eq_some_iff, Option.some.injEq, text?_eq_some_iff,
    optionalInteger?_eq_some_iff]
  constructor
  · rintro ⟨l, rfl, i, hl, c, rfl, j, hc, m, rfl, text, rfl, k, hgln, k', hgcol, rfl⟩
    exact ⟨l, c, rfl, rfl, rfl, hl, hc, hgln, hgcol⟩
  · rintro ⟨l, c, rfl, rfl, rfl, hl, hc, hgln, hgcol⟩
    exact ⟨l, rfl, _, hl, c, rfl, _, hc, _, rfl, _, rfl, _, hgln, _, hgcol, rfl⟩

/-- An entry is put together from the values that a document holds. -/
theorem ofJson?_eq (v : Json) :
    RawEntry.ofJson? v = (values? entryNames v).bind fun
      | [ln, col, message, gln, gcol] => RawEntry.build ln col message gln gcol
      | _ => none := by
  cases v with
  | object members =>
    simp only [RawEntry.ofJson?, values?, entryNames, List.mapM_cons, List.mapM_nil, Option.bind_eq_bind,
      Option.pure_def, Option.bind_assoc, Option.bind_some]
    rfl
  | array items =>
    rw [RawEntry.ofJson?, ofItems_eq, values?]
    show _ = (if items.length ≤ 5 then _ else none : Option (List (Option Json))).bind _
    split <;> rfl
  | null | bool _ | number _ | string _ => rfl

/-- **A document is read as an entry exactly if it has the shape of one**, and as what it says. -/
theorem ofJson?_eq_some_iff : RawEntry.ofJson? v = some raw ↔ EntryShape v raw := by
  simp only [ofJson?_eq, Option.bind_eq_some_iff, ← holds_iff]
  constructor
  · rintro ⟨values, hholds, hbuild⟩
    split at hbuild
    · obtain ⟨l, c, rfl, rfl, rfl, hl, hc, hgln, hgcol⟩ := build_eq_some_iff.mp hbuild
      exact .mk hl hc hgln hgcol hholds
    · cases hbuild
  · rintro ⟨hl, hc, hgln, hgcol, hholds⟩
    exact ⟨_, hholds, build_eq_some_iff.mpr ⟨_, _, rfl, rfl, rfl, hl, hc, hgln, hgcol⟩⟩

/-- The list of the grammar's entries. -/
theorem listOfJson?_eq_some_iff {raws : List RawEntry} :
    RawEntry.listOfJson? v = some raws ↔ ∃ items, v = .array items ∧ List.Forall₂ EntryShape items raws := by
  cases v with
  | array items =>
    simp only [RawEntry.listOfJson?, mapM_eq_some_iff, ofJson?_eq_some_iff, Json.array.injEq, exists_eq_left']
  | null | bool _ | number _ | string _ | object _ =>
    refine ⟨by rintro ⟨⟩, ?_⟩
    rintro ⟨items, ⟨⟩, -⟩

/-- The shape of the list of the text's entries.  Of members with one name the last one counts. -/
def CodeShape (v : Json) (raws : List RawEntry) : Prop :=
  ∃ items, v = .array items ∧ List.Forall₂ (fun item raw => EntryShape item.lastWins raw) items raws

theorem listOfKept?_eq_some_iff {raws : List RawEntry} : RawEntry.listOfKept? v = some raws ↔ CodeShape v raws := by
  rw [CodeShape]
  cases v with
  | array items =>
    simp only [RawEntry.listOfKept?, mapM_eq_some_iff, ofJson?_eq_some_iff, Json.array.injEq, exists_eq_left']
  | null | bool _ | number _ | string _ | object _ =>
    refine ⟨by rintro ⟨⟩, ?_⟩
    rintro ⟨items, ⟨⟩, -⟩

end Entries

/-! ### Members that are looked at later -/

/-- What is known of a member that has been kept. -/
inductive Found (α : Type) where
  | absent
  /-- It is there, and not of the right kind. -/
  | mistyped
  | value (a : α)
  deriving DecidableEq, Repr

/-- **What is kept of a member, and what is known of it.**  A null is absent; anything else must be plain. -/
inductive Keeps {α : Type} (tells : Json → α → Prop) : Option Json → Found α → Prop
  | none : Keeps tells none .absent
  | null : Keeps tells (some .null) .absent
  | mistyped {v : Json} : v ≠ .null → v.plain keptDepth = true → (∀ a, ¬ tells v a) → Keeps tells (some v) .mistyped
  | value {v : Json} {a : α} : v ≠ .null → v.plain keptDepth = true → tells v a → Keeps tells (some v) (.value a)

/-- What a reader makes of a member that has been kept. -/
def Found.ofKept {α : Type} (read : Json → Option α) : Option Json → Found α
  | none => .absent
  | some v =>
    match read v with
    | none => .mistyped
    | some a => .value a

section Kept

variable {α : Type} {tells : Json → α → Prop} {read : Json → Option α} {v : Option Json} {found : Found α}

/-- A member is kept if it is absent or plain, and then the reader tells what is known of it. -/
theorem keeps_iff (hread : ∀ v a, read v = some a ↔ tells v a) :
    Keeps tells v found ↔ ∃ kept, RawReport.kept? v = some kept ∧ found = .ofKept read kept := by
  constructor
  · intro h
    cases h with
    | none | null => exact ⟨none, rfl, rfl⟩
    | @mistyped w hnull hplain hnone =>
      have hw : read w = none := Option.eq_none_iff_forall_ne_some.mpr fun a ha => hnone a ((hread w a).mp ha)
      exact ⟨some w, kept?_of_plain hplain hnull, by rw [Found.ofKept, hw]⟩
    | @value w a hnull hplain ha =>
      exact ⟨some w, kept?_of_plain hplain hnull, by rw [Found.ofKept, (hread w a).mpr ha]⟩
  · rintro ⟨kept, hkept, rfl⟩
    unfold RawReport.kept? at hkept
    split at hkept
    case h_1 => cases hkept; exact .none
    case h_2 => cases hkept; exact .null
    case h_3 w hnull =>
      split at hkept
      case isTrue hplain =>
        cases hkept
        have hne : w ≠ .null := fun heq => hnull (by rw [heq])
        rw [Found.ofKept]
        cases hw : read w with
        | none => exact .mistyped hne hplain fun a ha => by rw [(hread w a).mpr ha] at hw; cases hw
        | some a => exact .value hne hplain ((hread w a).mp hw)
      case isFalse => cases hkept

end Kept

/-! ### Reports -/

/-- What a document of the right shape says, unchecked. -/
structure Draft where
  grammarValid : Bool
  grammar : List RawEntry
  sourceValid : Found Bool
  code : Found (List RawEntry)
  ast : Found String
  astOptimized : Found String
  profile : Found String

/-- The names of the fields of a report. -/
def reportNames : List (List String) :=
  [["grammar_valid"], ["grammar"], ["source_valid"], ["code"], ["ast"], ["astOptimized"], ["profile"]]

/-- **The shape of a report**, and what it says.  All entries of the grammar must have the shape of one; the members
that describe the text must be such that they can be kept. -/
inductive Shape (v : Json) (d : Draft) : Prop
  | mk {grammar : List Json} {sourceValid code ast astOptimized profile : Option Json} :
      Holds reportNames
        [some (.bool d.grammarValid), some (.array grammar), sourceValid, code, ast, astOptimized, profile] v →
      List.Forall₂ EntryShape grammar d.grammar →
      Keeps (fun v b => v = .bool b) sourceValid d.sourceValid → Keeps CodeShape code d.code →
      Keeps (fun v text => v = stringOf text) ast d.ast →
      Keeps (fun v text => v = stringOf text) astOptimized d.astOptimized →
      Keeps (fun v text => v = stringOf text) profile d.profile → Shape v d

/-- What a text says, if it spells a document that has the shape of a report. -/
def Drafted (text : String) (d : Draft) : Prop := ∃ v, Padded v text.toList ∧ Shape v d

/-- What a document says that has been read. -/
def RawReport.draft (doc : RawReport) : Draft where
  grammarValid := doc.grammarValid
  grammar := doc.grammar
  sourceValid := .ofKept bool? doc.sourceValid
  code := .ofKept RawEntry.listOfKept? doc.code
  ast := .ofKept text? doc.ast
  astOptimized := .ofKept text? doc.astOptimized
  profile := .ofKept text? doc.profile

section Reports

variable {v : Json} {doc : RawReport} {d : Draft}
  {grammarValid grammar sourceValid code ast astOptimized profile : Option Json}

/-- A report is put together from the values that a document holds. -/
theorem ofJson?_report_eq (v : Json) :
    RawReport.ofJson? v = (values? reportNames v).bind fun
      | [grammarValid, grammar, sourceValid, code, ast, astOptimized, profile] =>
        RawReport.build grammarValid grammar sourceValid code ast astOptimized profile
      | _ => none := by
  cases v with
  | object members =>
    simp only [RawReport.ofJson?, values?, reportNames, List.mapM_cons, List.mapM_nil, Option.bind_eq_bind,
      Option.pure_def, Option.bind_assoc, Option.bind_some]
    rfl
  | array items =>
    rw [RawReport.ofJson?, RawReport.ofItems, values?]
    show _ = (if items.length ≤ 7 then _ else none : Option (List (Option Json))).bind _
    split <;> rfl
  | null | bool _ | number _ | string _ => rfl

/-- A report is put together from values of these kinds, and from no others. -/
theorem build_report_eq_some_iff :
    RawReport.build grammarValid grammar sourceValid code ast astOptimized profile = some doc ↔
      ∃ entries, grammarValid = some (.bool doc.grammarValid) ∧ grammar = some (.array entries) ∧
        List.Forall₂ EntryShape entries doc.grammar ∧ RawReport.kept? sourceValid = some doc.sourceValid ∧
        RawReport.kept? code = some doc.code ∧ RawReport.kept? ast = some doc.ast ∧
        RawReport.kept? astOptimized = some doc.astOptimized ∧ RawReport.kept? profile = some doc.profile := by
  simp only [RawReport.build, Option.bind_eq_bind, Option.bind_eq_some_iff, Option.some.injEq, bool?_eq_some_iff,
    listOfJson?_eq_some_iff]
  constructor
  · rintro ⟨_, rfl, b, rfl, _, rfl, raws, ⟨entries, rfl, hentries⟩, k, hsourceValid, k', hcode, k'', hast, k3,
      hastOptimized, k4, hprofile, rfl⟩
    exact ⟨entries, rfl, rfl, hentries, hsourceValid, hcode, hast, hastOptimized, hprofile⟩
  · rintro ⟨entries, rfl, rfl, hentries, hsourceValid, hcode, hast, hastOptimized, hprofile⟩
    exact ⟨_, rfl, _, rfl, _, rfl, _, ⟨entries, rfl, hentries⟩, _, hsourceValid, _, hcode, _, hast, _, hastOptimized, _,
      hprofile, rfl⟩

/-- **A document has the shape of a report exactly if it is read as one**, and says what is read. -/
theorem shape_iff : Shape v d ↔ ∃ doc, RawReport.ofJson? v = some doc ∧ doc.draft = d := by
  have hbool : ∀ v b, bool? v = some b ↔ v = .bool b := fun _ _ => bool?_eq_some_iff
  have htext : ∀ v text, text? v = some text ↔ v = stringOf text := fun _ _ => text?_eq_some_iff
  have hlist : ∀ v raws, RawEntry.listOfKept? v = some raws ↔ CodeShape v raws := fun _ _ => listOfKept?_eq_some_iff
  simp only [ofJson?_report_eq, Option.bind_eq_some_iff, ← holds_iff]
  constructor
  · rintro ⟨hholds, hgrammar, hsourceValid, hcode, hast, hastOptimized, hprofile⟩
    obtain ⟨sourceValid, hsourceValid, hsourceValid'⟩ := (keeps_iff hbool).mp hsourceValid
    obtain ⟨code, hcode, hcode'⟩ := (keeps_iff hlist).mp hcode
    obtain ⟨ast, hast, hast'⟩ := (keeps_iff htext).mp hast
    obtain ⟨astOptimized, hastOptimized, hastOptimized'⟩ := (keeps_iff htext).mp hastOptimized
    obtain ⟨profile, hprofile, hprofile'⟩ := (keeps_iff htext).mp hprofile
    refine ⟨⟨d.grammarValid, d.grammar, sourceValid, code, ast, astOptimized, profile⟩, ⟨_, hholds, ?_⟩, ?_⟩
    · exact build_report_eq_some_iff.mpr
        ⟨_, rfl, rfl, hgrammar, hsourceValid, hcode, hast, hastOptimized, hprofile⟩
    · rw [RawReport.draft, ← hsourceValid', ← hcode', ← hast', ← hastOptimized', ← hprofile']
  · rintro ⟨doc, ⟨values, hholds, hbuild⟩, rfl⟩
    split at hbuild
    · obtain ⟨entries, rfl, rfl, hentries, hsourceValid, hcode, hast, hastOptimized, hprofile⟩ :=
        build_report_eq_some_iff.mp hbuild
      exact .mk hholds hentries ((keeps_iff hbool).mpr ⟨_, hsourceValid, rfl⟩) ((keeps_iff hlist).mpr ⟨_, hcode, rfl⟩)
        ((keeps_iff htext).mpr ⟨_, hast, rfl⟩) ((keeps_iff htext).mpr ⟨_, hastOptimized, rfl⟩)
        ((keeps_iff htext).mpr ⟨_, hprofile, rfl⟩)
    · cases hbuild

end Reports

/-! ### Texts -/

section Texts

variable {text : String} {d : Draft}

/-- **A text that says something is decoded by checking it.** -/
theorem decode_of_drafted (h : Drafted text d) : ∃ doc : RawReport, doc.draft = d ∧ decode text = doc.report := by
  obtain ⟨v, hv, hshape⟩ := h
  obtain ⟨doc, hdoc, hdraft⟩ := shape_iff.mp hshape
  have hread : (Json.parse? text >>= RawReport.ofJson?) = some doc := by
    rw [Json.parse?_padded hv]
    exact hdoc
  exact ⟨doc, hdraft, by rw [decode, hread]⟩

/-- **A text that says nothing is malformed.** -/
theorem decode_of_not_drafted (h : ∀ d, ¬ Drafted text d) : decode text = .error .malformed := by
  have hread : (Json.parse? text >>= RawReport.ofJson?) = none := by
    refine Option.eq_none_iff_forall_ne_some.mpr fun doc hdoc => ?_
    obtain ⟨v, hv, hdoc⟩ := Option.bind_eq_some_iff.mp hdoc
    exact h doc.draft ⟨v, Json.parse?_eq_some_iff.mp hv, shape_iff.mpr ⟨doc, hdoc, rfl⟩⟩
  rw [decode, hread]

end Texts

/-! ### Integers that fit -/

/-- The integers of an entry fit 64 bits. -/
def RawEntry.Fits (raw : RawEntry) : Prop :=
  Analysis.Fits raw.ln ∧ Analysis.Fits raw.col ∧ (∀ i, raw.gln = some i → Analysis.Fits i) ∧
    ∀ i, raw.gcol = some i → Analysis.Fits i

theorem HalfShape.fits {v : Option Json} {half : Option Int} (h : HalfShape v half) {i : Int} (hi : half = some i) :
    Fits i := by
  cases h with
  | missing => cases hi
  | integer hread =>
    cases hi
    exact fits_of_integer? hread

theorem EntryShape.fits {v : Json} {raw : RawEntry} (h : EntryShape v raw) : raw.Fits := by
  obtain ⟨hln, hcol, hgln, hgcol, -⟩ := h
  exact ⟨fits_of_integer? hln, fits_of_integer? hcol, fun _ hi => hgln.fits hi, fun _ hi => hgcol.fits hi⟩

/-- The entries of the text that have been found. -/
def Draft.codeEntries (d : Draft) : List RawEntry :=
  match d.code with
  | .value raws => raws
  | .absent | .mistyped => []

/-- The integers of all entries of a document fit 64 bits. -/
theorem Shape.fits {v : Json} {d : Draft} (h : Shape v d) : ∀ raw ∈ d.grammar ++ d.codeEntries, raw.Fits := by
  obtain ⟨-, hgrammar, -, hcode, -, -, -⟩ := h
  have hall : ∀ {shape : Json → Json} {items : List Json} {raws : List RawEntry},
      List.Forall₂ (fun item raw => EntryShape (shape item) raw) items raws → ∀ raw ∈ raws, raw.Fits := by
    intro shape items raws h
    induction h with
    | nil => intro raw hraw; cases hraw
    | cons hfirst _ ih =>
      intro raw hraw
      cases hraw with
      | head => exact hfirst.fits
      | tail _ hraw => exact ih raw hraw
  intro raw hraw
  rcases List.mem_append.mp hraw with hraw | hraw
  · exact @hall id _ _ hgrammar raw hraw
  · rw [Draft.codeEntries] at hraw
    cases hfound : d.code with
    | absent | mistyped =>
      rw [hfound] at hraw
      cases hraw
    | value raws =>
      rw [hfound] at hraw hcode
      cases hcode with
      | value _ _ hlist =>
        obtain ⟨items, -, hitems⟩ := hlist
        exact hall hitems raw hraw

theorem Drafted.fits {text : String} {d : Draft} (h : Drafted text d) :
    ∀ raw ∈ d.grammar ++ d.codeEntries, raw.Fits := by
  obtain ⟨_, -, hshape⟩ := h
  exact hshape.fits

end GrammarStudio.Analysis
