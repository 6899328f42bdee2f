import GrammarStudio.Proofs.Analysis.Shapes

/-!
# The checks of a report, in order

What a document says is checked in an order of its own: the positions of the grammar's entries; then, for a grammar that
is usable, the list of the text's entries with their positions, and the other members that describe the text.  The first
check that fails is the error, whatever else is wrong, and a document that passes all of them is a report without loss.

* `Check`, `firstFailure?` — a check, and the error of the first that fails;
* `Draft.checks` — the checks of a document, in order;
* `Runs`, `Runs.bind` — a computation that makes some checks, and two of them one after the other;
* `runs_position`, `runs_check`, `runs_entries`, `runs_require`, `runs_report` — what is checked where;
* `EntryOf`, `ReportOf` — the report that a document is;
* `decode_first_failure` — a text is decoded as its report, or the first check that fails is the error.
-/

namespace GrammarStudio.Analysis

open Json (Padded)

/-! ### Checks -/

/-- A check, with the error of a document that does not pass it. -/
structure Check where
  passes : Bool
  error : DecodeError
  deriving DecidableEq, Repr

/-- The error of the first check that fails. -/
def firstFailure? (checks : List Check) : Option DecodeError := (checks.find? fun c => !c.passes).map Check.error

theorem firstFailure?_append (checks more : List Check) :
    firstFailure? (checks ++ more) = (firstFailure? checks).or (firstFailure? more) := by
  rw [firstFailure?, firstFailure?, firstFailure?, List.find?_append]
  cases checks.find? fun c => !c.passes <;> rfl

/-- A position counts from one. -/
def positionCheck (field : PositionField) (value : Int) : Check := ⟨decide (1 ≤ value), .badPosition field value⟩

/-- The checks of an entry.  Half of a cross reference is not checked. -/
def RawEntry.checks (raw : RawEntry) : List Check :=
  [positionCheck .ln raw.ln, positionCheck .col raw.col] ++
    match raw.gln, raw.gcol with
    | some gln, some gcol => [positionCheck .gln gln, positionCheck .gcol gcol]
    | _, _ => []

/-- The checks of a member that a usable grammar requires: it is there, and of the right kind. -/
def Found.checks {α : Type} (field : SourceField) (found : Found α) : List Check :=
  [⟨match found with | .absent => false | _ => true, .missing field⟩,
    ⟨match found with | .value _ => true | _ => false, .malformed⟩]

/-- **The checks of a document, in order.** -/
def Draft.checks (d : Draft) : List Check :=
  d.grammar.flatMap RawEntry.checks ++
    if d.grammarValid then
      d.code.checks .code ++ d.codeEntries.flatMap RawEntry.checks ++ d.sourceValid.checks .sourceValid ++
        d.ast.checks .ast ++ d.astOptimized.checks .astOptimized ++ d.profile.checks .profile
    else []

/-! ### Computations that make checks -/

/-- **A computation makes these checks**: the first that fails is its error, and if none does it has an answer of some
kind. -/
def Runs {α : Type} (checks : List Check) (answer : α → Prop) (x : Except DecodeError α) : Prop :=
  match firstFailure? checks with
  | some e => x = .error e
  | none => ∃ a, x = .ok a ∧ answer a

namespace Runs

variable {α β : Type} {checks more : List Check} {answer : α → Prop} {answer' : β → Prop} {x : Except DecodeError α}
  {f : α → Except DecodeError β}

/-- No checks, and an answer. -/
theorem ok {a : α} (h : answer a) : Runs [] answer (.ok a) := ⟨a, rfl, h⟩

/-- One check, which decides. -/
theorem one {c : Check} (hfail : c.passes = false → x = .error c.error)
    (hpass : c.passes = true → ∃ a, x = .ok a ∧ answer a) : Runs [c] answer x := by
  unfold Runs firstFailure?
  cases hc : c.passes with
  | true =>
    rw [List.find?_cons_of_neg (by simp [hc])]
    exact hpass hc
  | false =>
    rw [List.find?_cons_of_pos (by simp [hc])]
    exact hfail hc

/-- The first check that fails is the error, or there is an answer. -/
theorem outcome (hx : Runs checks answer x) :
    (∃ e, firstFailure? checks = some e ∧ x = .error e) ∨
      (firstFailure? checks = none ∧ ∃ a, x = .ok a ∧ answer a) := by
  unfold Runs at hx
  split at hx
  case h_1 e hfirst => exact .inl ⟨e, hfirst, hx⟩
  case h_2 hfirst => exact .inr ⟨hfirst, hx⟩

/-- **The checks of two computations are made one after the other.** -/
theorem bind (hx : Runs checks answer x) (hf : ∀ a, answer a → Runs more answer' (f a)) :
    Runs (checks ++ more) answer' (x >>= f) := by
  unfold Runs
  rw [firstFailure?_append]
  obtain ⟨e, hfirst, rfl⟩ | ⟨hfirst, a, rfl, ha⟩ := hx.outcome
  · rw [hfirst]
    rfl
  · rw [hfirst]
    exact hf a ha

/-- The last computation may add what is no check. -/
theorem map (hx : Runs checks answer x) (hf : ∀ a, answer a → ∃ b, f a = .ok b ∧ answer' b) :
    Runs checks answer' (x >>= f) := by
  rw [← List.append_nil checks]
  exact hx.bind fun a ha => hf a ha

/-- It errs with the first check that fails, and with nothing else. -/
theorem eq_error_iff (hx : Runs checks answer x) (e : DecodeError) : x = .error e ↔ firstFailure? checks = some e := by
  obtain ⟨e', hfirst, rfl⟩ | ⟨hfirst, a, rfl, -⟩ := hx.outcome
  · rw [hfirst, Except.error.injEq, Option.some.injEq]
  · rw [hfirst]
    exact ⟨by rintro ⟨⟩, by rintro ⟨⟩⟩

/-- What it gives is an answer. -/
theorem answer_of_ok (hx : Runs checks answer x) {a : α} (ha : x = .ok a) : firstFailure? checks = none ∧ answer a := by
  obtain ⟨e, -, he⟩ | ⟨hfirst, a', ha', hanswer⟩ := hx.outcome
  · cases ha.symm.trans he
  · cases ha.symm.trans ha'
    exact ⟨hfirst, hanswer⟩

/-- It gives an answer if no check fails, and there is no other if all answers are of a kind that only one thing is. -/
theorem eq_ok_iff {kind : α → Prop} (hx : Runs checks answer x) (hkind : ∀ a, answer a → kind a)
    (unique : ∀ a a', kind a → kind a' → a = a') (a : α) :
    x = .ok a ↔ firstFailure? checks = none ∧ kind a := by
  refine ⟨fun ha => (hx.answer_of_ok ha).imp_right (hkind a), fun ⟨hfirst, ha⟩ => ?_⟩
  obtain ⟨e, hfails, -⟩ | ⟨-, a', rfl, ha'⟩ := hx.outcome
  · cases hfirst.symm.trans hfails
  · rw [unique a a' ha (hkind a' ha')]

end Runs

/-! ### Entries -/

/-- The cross reference of two halves. -/
inductive OriginOf : Option Int → Option Int → Option Location → Prop
  | whole (l : Location) : OriginOf (some l.line) (some l.col) (some l)
  | noLine {gcol : Option Int} : OriginOf none gcol none
  | noCol {gln : Option Int} : OriginOf gln none none

theorem OriginOf.unique {gln gcol : Option Int} {origin origin' : Option Location} (h : OriginOf gln gcol origin)
    (h' : OriginOf gln gcol origin') : origin = origin' := by
  cases h with
  | whole l =>
    generalize hline : (l.line : Int) = line at h'
    generalize hcol : (l.col : Int) = col at h'
    cases h' with
    | whole l' =>
      obtain ⟨hline, hcol⟩ : l.line = l'.line ∧ l.col = l'.col := ⟨by omega, by omega⟩
      rw [show l = ⟨l.line, l.col⟩ from rfl, hline, hcol]
  | noLine =>
    cases h' with
    | noLine | noCol => rfl
  | noCol =>
    cases h' with
    | noLine | noCol => rfl

/-- **The entry that five values are.** -/
structure EntryOf (raw : RawEntry) (e : Entry) : Prop where
  line : raw.ln = e.location.line
  col : raw.col = e.location.col
  message : raw.message = e.message
  origin : OriginOf raw.gln raw.gcol e.origin

theorem EntryOf.unique {raw : RawEntry} {e e' : Entry} (h : EntryOf raw e) (h' : EntryOf raw e') : e = e' := by
  obtain ⟨⟨line, col⟩, message, origin⟩ := e
  obtain ⟨⟨line', col'⟩, message', origin'⟩ := e'
  have hline : line = line' := Int.ofNat.inj (h.line.symm.trans h'.line)
  have hcol : col = col' := Int.ofNat.inj (h.col.symm.trans h'.col)
  have hmessage : message = message' := h.message.symm.trans h'.message
  have horigin : origin = origin' := h.origin.unique h'.origin
  rw [hline, hcol, hmessage, horigin]

/-- A list of entries is determined by what it says. -/
theorem entries_unique {raws : List RawEntry} {es es' : List Entry} (h : List.Forall₂ EntryOf raws es)
    (h' : List.Forall₂ EntryOf raws es') : es = es' := by
  induction h generalizing es' with
  | nil =>
    cases h'
    rfl
  | cons he _ ih =>
    cases h' with
    | cons he' hes' => rw [he.unique he', ih hes']

theorem runs_position (field : PositionField) (value : Int) :
    Runs [positionCheck field value] (fun n : Nat => value = n ∧ 1 ≤ n) (position field value) := by
  refine .one (fun hfail => ?_) fun hpass => ?_
  · rw [position, if_neg (of_decide_eq_false hfail)]
    rfl
  · have hone : 1 ≤ value := of_decide_eq_true hpass
    exact ⟨value.toNat, if_pos hone, by omega, by omega⟩

/-- **The checks of an entry.** -/
theorem runs_check {raw : RawEntry} (hfits : raw.Fits) :
    Runs raw.checks (fun e => EntryOf raw e ∧ e.InRange) raw.check := by
  obtain ⟨ln, col, message, gln, gcol⟩ := raw
  obtain ⟨hln, hcol, hgln, hgcol⟩ := hfits
  refine (runs_position .ln ln).bind fun line hline => (runs_position .col col).bind fun column hcolumn => ?_
  obtain ⟨rfl, hline⟩ := hline
  obtain ⟨rfl, hcolumn⟩ := hcolumn
  have hrange : (⟨line, column⟩ : Location).InRange := ⟨⟨hline, hln⟩, ⟨hcolumn, hcol⟩⟩
  -- an entry without a reference
  have hnone : ∀ {gln gcol : Option Int}, OriginOf gln gcol none →
      EntryOf ⟨line, column, message, gln, gcol⟩ ⟨⟨line, column⟩, message, none⟩ ∧
        (⟨⟨line, column⟩, message, none⟩ : Entry).InRange := fun h =>
    ⟨⟨rfl, rfl, rfl, h⟩, hrange, fun l hl => by cases hl⟩
  match gln, gcol with
  | none, _ => exact .ok (hnone .noLine)
  | some _, none => exact .ok (hnone .noCol)
  | some gln, some gcol =>
    refine (runs_position .gln gln).bind fun refLine hrefLine => (runs_position .gcol gcol).map fun refCol hrefCol => ?_
    obtain ⟨rfl, hrefLine⟩ := hrefLine
    obtain ⟨rfl, hrefCol⟩ := hrefCol
    have horigin : (⟨refLine, refCol⟩ : Location).InRange := ⟨⟨hrefLine, hgln _ rfl⟩, ⟨hrefCol, hgcol _ rfl⟩⟩
    refine ⟨_, rfl, ⟨rfl, rfl, rfl, .whole ⟨refLine, refCol⟩⟩, hrange, fun l hl => ?_⟩
    cases hl
    exact horigin

/-- **The checks of a list of entries are made entry by entry.** -/
theorem runs_entries {raws : List RawEntry} (hfits : ∀ raw ∈ raws, raw.Fits) :
    Runs (raws.flatMap RawEntry.checks) (fun es => List.Forall₂ EntryOf raws es ∧ ∀ e ∈ es, e.InRange)
      (raws.mapM RawEntry.check) := by
  induction raws with
  | nil => exact .ok ⟨.nil, fun e he => by cases he⟩
  | cons raw raws ih =>
    rw [List.flatMap_cons, List.mapM_cons]
    refine (runs_check (hfits raw List.mem_cons_self)).bind fun e he => ?_
    refine (ih fun r hr => hfits r (List.mem_cons_of_mem _ hr)).map fun es hes => ⟨e :: es, rfl, .cons he.1 hes.1, ?_⟩
    intro e' he'
    cases he' with
    | head => exact he.2
    | tail _ he' => exact hes.2 e' he'

/-! ### Reports -/

/-- The checks of a member that a usable grammar requires. -/
theorem runs_require {α : Type} (field : SourceField) (kept : Option Json) (read : Json → Option α) :
    Runs ((Found.ofKept read kept).checks field) (fun a => Found.ofKept read kept = .value a)
      (require field kept read) := by
  cases kept with
  | none => rfl
  | some v =>
    cases hread : read v with
    | none => simp [Runs, firstFailure?, Found.checks, Found.ofKept, require, hread]
    | some a => simp [Runs, firstFailure?, Found.checks, Found.ofKept, require, hread]

/-- What a document says of the text, if its grammar is usable. -/
inductive SourceOf (d : Draft) : Option SourceReport → Prop
  | usable {raws : List RawEntry} {s : SourceReport} : d.grammarValid = true → d.code = .value raws →
      List.Forall₂ EntryOf raws s.errors → d.sourceValid = .value s.valid → d.ast = .value s.ast →
      d.astOptimized = .value s.astOptimized → d.profile = .value s.profile → SourceOf d (some s)
  | unusable : d.grammarValid = false → SourceOf d none

/-- **The report that a document is**: entry by entry, and with what it says of the text exactly if its grammar is
usable. -/
structure ReportOf (d : Draft) (r : Report) : Prop where
  grammar : List.Forall₂ EntryOf d.grammar r.grammarErrors
  source : SourceOf d r.source

theorem SourceOf.unique {d : Draft} {source source' : Option SourceReport} (h : SourceOf d source)
    (h' : SourceOf d source') : source = source' := by
  cases h with
  | @usable raws s hvalid hcode hentries hsource hast hastOptimized hprofile =>
    cases h' with
    | @usable raws' s' _ hcode' hentries' hsource' hast' hastOptimized' hprofile' =>
      obtain ⟨valid, errors, ast, astOptimized, profile⟩ := s
      obtain ⟨valid', errors', ast', astOptimized', profile'⟩ := s'
      cases hcode.symm.trans hcode'
      cases hsource.symm.trans hsource'
      cases hast.symm.trans hast'
      cases hastOptimized.symm.trans hastOptimized'
      cases hprofile.symm.trans hprofile'
      have herrors : errors = errors' := entries_unique hentries hentries'
      rw [herrors]
    | unusable hvalid' => exact absurd (hvalid.symm.trans hvalid') (by decide)
  | unusable hvalid =>
    cases h' with
    | usable hvalid' => exact absurd (hvalid.symm.trans hvalid') (by decide)
    | unusable => rfl

theorem ReportOf.unique {d : Draft} {r r' : Report} (h : ReportOf d r) (h' : ReportOf d r') : r = r' := by
  obtain ⟨errors, source⟩ := r
  obtain ⟨errors', source'⟩ := r'
  have herrors : errors = errors' := entries_unique h.grammar h'.grammar
  have hsource : source = source' := h.source.unique h'.source
  rw [herrors, hsource]

theorem ReportOf.grammarValid {d : Draft} {r : Report} (h : ReportOf d r) : r.grammarValid = d.grammarValid := by
  have hsource := h.source
  rw [Report.grammarValid]
  cases hr : r.source with
  | none =>
    rw [hr] at hsource
    cases hsource with
    | unusable hvalid => exact hvalid.symm
  | some s =>
    rw [hr] at hsource
    cases hsource with
    | usable hvalid => exact hvalid.symm

/-- **The checks of a document are made in order.** -/
theorem runs_report {doc : RawReport} (hfits : ∀ raw ∈ doc.draft.grammar ++ doc.draft.codeEntries, raw.Fits) :
    Runs doc.draft.checks (fun r => ReportOf doc.draft r ∧ r.InRange) doc.report := by
  have hgrammarFits : ∀ raw ∈ doc.grammar, raw.Fits := fun raw hraw => hfits raw (List.mem_append_left _ hraw)
  refine (runs_entries hgrammarFits).bind fun errors herrors => ?_
  cases hvalid : doc.grammarValid with
  | false =>
    have hdraft : doc.draft.grammarValid = false := hvalid
    rw [hdraft]
    refine .ok ⟨⟨herrors.1, .unusable hdraft⟩, fun e he => herrors.2 e ?_⟩
    simpa [Report.codeErrors] using he
  | true =>
    have hdraft : doc.draft.grammarValid = true := hvalid
    rw [hdraft]
    simp only [if_true, List.append_assoc]
    refine (runs_require .code doc.code RawEntry.listOfKept?).bind fun raws hcode => ?_
    have hentries : doc.draft.codeEntries = raws := by rw [Draft.codeEntries, RawReport.draft, hcode]
    rw [hentries] at hfits ⊢
    refine (runs_entries fun raw hraw => hfits raw (List.mem_append_right _ hraw)).bind fun codeErrors hcodeErrors => ?_
    refine (runs_require .sourceValid doc.sourceValid bool?).bind fun valid hsourceValid => ?_
    refine (runs_require .ast doc.ast text?).bind fun ast hast => ?_
    refine (runs_require .astOptimized doc.astOptimized text?).bind fun astOptimized hastOptimized => ?_
    refine (runs_require .profile doc.profile text?).map fun profile hprofile => ⟨_, rfl, ⟨herrors.1, ?_⟩, ?_⟩
    · exact .usable hdraft hcode hcodeErrors.1 hsourceValid hast hastOptimized hprofile
    · intro e he
      rcases List.mem_append.mp he with he | he
      · exact herrors.2 e he
      · exact hcodeErrors.2 e he

/-- The lines and columns of a report that is read count from one and fit. -/
theorem inRange_of_decode {text : String} {r : Report} (h : decode text = .ok r) : r.InRange := by
  by_cases hdrafted : ∃ d, Drafted text d
  · obtain ⟨d, hd⟩ := hdrafted
    obtain ⟨doc, rfl, hdecode⟩ := decode_of_drafted hd
    rw [hdecode] at h
    exact ((runs_report hd.fits).answer_of_ok h).2.2
  · rw [decode_of_not_drafted fun d hd => hdrafted ⟨d, hd⟩] at h
    cases h

/-- **Decoding is all or nothing, and the first check that fails is the error.**  A text that does not spell a document
of the right shape, down to the entries of the grammar, is malformed.  Any other text is decoded with the error of the
first check of its document that fails; if none fails, as the report that the document is: with the entries of its
lists, one by one and in their order, each with a reference exactly if both halves of it are integers, with what is told
of the text exactly if the grammar is usable, and with lines and columns that count from one and fit. -/
theorem decode_first_failure (text : String) :
    ((∀ d, ¬ Drafted text d) → decode text = .error .malformed) ∧
      (∀ d, Drafted text d →
        (∀ e, decode text = .error e ↔ firstFailure? d.checks = some e) ∧
        (∀ r, decode text = .ok r ↔ firstFailure? d.checks = none ∧ ReportOf d r)) ∧
      ∀ r, decode text = .ok r → ∃ d, Drafted text d ∧ ReportOf d r ∧ r.InRange ∧ r.grammarValid = d.grammarValid := by
  have hrun : ∀ d, Drafted text d → Runs d.checks (fun r => ReportOf d r ∧ r.InRange) (decode text) := by
    intro d hd
    obtain ⟨doc, rfl, hdecode⟩ := decode_of_drafted hd
    rw [hdecode]
    exact runs_report hd.fits
  refine ⟨decode_of_not_drafted, fun d hd => ⟨(hrun d hd).eq_error_iff, ?_⟩, fun r hr => ?_⟩
  · exact (hrun d hd).eq_ok_iff (fun r hr => hr.1) fun r r' h h' => h.unique h'
  · by_cases hd : ∃ d, Drafted text d
    · obtain ⟨d, hd⟩ := hd
      obtain ⟨-, hreport, hrange⟩ := (hrun d hd).answer_of_ok hr
      exact ⟨d, hd, hreport, hrange, hreport.grammarValid⟩
    · rw [decode_of_not_drafted fun d h => hd ⟨d, h⟩] at hr
      cases hr

/-- Half of a reference is no position.  Of the second entry two are bad; the entries of the text are no list, the
syntax tree is one, and all else is missing.  The first of these is the error. -/
theorem decode_first_failure_of_many :
    let text := "[true,[[1,1,\"m\",0],[0,-1,\"m\"]],null,false,[]]"
    ∃ d, Drafted text d ∧ (d.checks.filter fun c => !c.passes).length = 10 ∧
      decode text = .error (.badPosition .ln 0) := by
  intro text
  let v : Json := .array [.bool true, .array [.array [.ofInt 1, .ofInt 1, stringOf "m", .ofInt 0],
    .array [.ofInt 0, .ofInt (-1), stringOf "m"]], .null, .bool false, .array []]
  let d : Draft :=
    ⟨true, [⟨1, 1, "m", some 0, none⟩, ⟨0, -1, "m", none, none⟩], .absent, .mistyped, .mistyped, .absent, .absent⟩
  have hpadded : Padded v text.toList := by
    have hint (i : Int) := Padded.bare (Json.written_ofInt i)
    have hmessage : Padded (stringOf "m") _ := .bare (.string (.bare rfl))
    have hfirst := Padded.bare (.array (.more (hint 1) (.more (hint 1) (.more hmessage (.one (hint 0))))))
    have hsecond := Padded.bare (.array (.more (hint 0) (.more (hint (-1)) (.one hmessage))))
    have hdocument := Padded.bare (.array (.more (.bare .yes) (.more (.bare (.array (.more hfirst (.one hsecond))))
      (.more (.bare .null) (.more (.bare .no) (.one (.bare (.emptyArray .nil))))))))
    refine Eq.subst (motive := Padded v) ?_ hdocument
    decide +kernel
  have hd : Drafted text d := ⟨v, hpadded,
    shape_iff.mpr ⟨⟨true, d.grammar, none, some (.bool false), some (.array []), none, none⟩, rfl, rfl⟩⟩
  exact ⟨d, hd, rfl, (((decode_first_failure text).2.1 d hd).1 _).mpr rfl⟩

end GrammarStudio.Analysis
