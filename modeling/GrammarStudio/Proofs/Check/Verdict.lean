import GrammarStudio.Engine.Program
import GrammarStudio.Proofs.Check.Agreement

/-!
# The verdict of a check

A script that runs a check reads its exit status and nothing else.  The status is put together from the files, the
grammar, what the engine has replied, whether that can be read, the badges of the view and whether there was a text to
parse.  Every case of these has its status, and each status has its cases.

* `Tree.Holds`, `Tree.Unreadable` — a file with a text, and one without;
* `Engine.Reply`, `Reply.Gives`, `Reply.Fails` — what a call came to: the ways to an answer, and the ways to none;
* `Check.Options.Reads`, `Check.Options.Unread` — what a check finds in its files;
* `Analyzed`, `analyzed` — the four things that an analysis can come to;
* `Check.Options.Accepts`, `Check.Options.Stops` — everything is valid, and the engine is of no use;
* `Check.Options.Concludes`, `Check.Options.verdict_of_check` — what a check leaves behind, and that it does so.
-/

namespace GrammarStudio

open Analysis Diagnostics Editor Files

/-! ### Bytes -/

namespace Text

variable {bytes : ByteArray}

/-- Bytes are read as the text whose bytes they are. -/
theorem fromUTF8?_eq_some_iff {text : String} : String.fromUTF8? bytes = some text ↔ bytes = text.toUTF8 := by
  constructor
  · intro h
    unfold String.fromUTF8? at h
    split at h
    · obtain rfl := Option.some.inj h
      rfl
    · cases h
  · rintro rfl
    exact dif_pos text.isValidUTF8

theorem fromUTF8?_eq_none_iff : String.fromUTF8? bytes = none ↔ ∀ text : String, bytes ≠ text.toUTF8 := by
  rw [Option.eq_none_iff_forall_ne_some]
  exact forall_congr' fun text => not_congr fromUTF8?_eq_some_iff

end Text

/-! ### Files -/

namespace Files.Tree

variable {t : Tree} {name : String}

/-- A file holds a text: its bytes are those of the text. -/
def Holds (t : Tree) (name text : String) : Prop := t.read name = .ok text.toUTF8

/-- **There is no text in a file**: it cannot be read, or its bytes are those of no text. -/
inductive Unreadable (t : Tree) (name : String) : Fault → Prop
  | unread {cause : Fault} : t.read name = .error cause → Unreadable t name cause
  | notText {bytes : ByteArray} : t.read name = .ok bytes → (∀ text : String, bytes ≠ text.toUTF8) →
      Unreadable t name .notText

theorem readText_of_holds {text : String} (h : t.Holds name text) : t.readText name = .ok text := by
  have hread : t.read name = .ok text.toUTF8 := h
  have htext : String.fromUTF8? text.toUTF8 = some text := Text.fromUTF8?_eq_some_iff.mpr rfl
  simp only [readText, hread, bind, Except.bind, htext]

theorem readText_of_unreadable {cause : Fault} (h : t.Unreadable name cause) : t.readText name = .error cause := by
  cases h with
  | unread hread => simp only [readText, hread, bind, Except.bind]
  | notText hread hnone =>
    simp only [readText, hread, bind, Except.bind, Text.fromUTF8?_eq_none_iff.mpr hnone]

/-- There is a text in a file or none. -/
theorem holds_or_unreadable (t : Tree) (name : String) :
    (∃ text, t.Holds name text) ∨ ∃ cause, t.Unreadable name cause := by
  cases hread : t.read name with
  | error cause => exact .inr ⟨cause, .unread hread⟩
  | ok bytes =>
    by_cases htext : ∃ text : String, bytes = text.toUTF8
    · obtain ⟨text, rfl⟩ := htext
      exact .inl ⟨text, hread⟩
    · exact .inr ⟨.notText, .notText hread (not_exists.mp htext)⟩

end Files.Tree

/-! ### Replies -/

namespace Engine

/-- What a call came to: a program that has ended, or why there is none. -/
abbrev Reply := Except Failure Ended

namespace Reply

/-- The answer that an engine makes of a reply. -/
def answer (reply : Reply) : Except Failure String := do (← reply).answer

/-- **A reply gives an answer** when the program has written a text, and either succeeded or said something. -/
inductive Gives : Reply → String → Prop
  | succeeded {e : Ended} {text : String} : e.output = text.toUTF8 → e.ending = .status 0 → Gives (.ok e) text
  | spoke {e : Ended} {text : String} : e.output = text.toUTF8 → Text.allBlank text = false → Gives (.ok e) text

/-- **A reply gives none** when no program was there to reply, because the texts could not be staged or the program
could not be started; when what it has written is no text; and when it has failed and said nothing. -/
inductive Fails : Reply → Failure → Prop
  | called (failure : Failure) : Fails (.error failure) failure
  | notText {e : Ended} : (∀ text : String, e.output ≠ text.toUTF8) → Fails (.ok e) .notText
  | silent {e : Ended} {text : String} : e.output = text.toUTF8 → e.ending ≠ .status 0 → Text.allBlank text = true →
      Fails (.ok e) (.ended e.ending.text (Text.trim (Text.readLenient e.errors)))

variable {reply : Reply}

theorem answer_of_gives {text : String} (h : reply.Gives text) : reply.answer = .ok text := by
  cases h with
  | @succeeded e _ hout hending =>
    show e.answer = _
    simp [Ended.answer, Text.fromUTF8?_eq_some_iff.mpr hout, hending, Machine.Ending.isSuccess]
  | @spoke e _ hout hspoke =>
    show e.answer = _
    simp [Ended.answer, Text.fromUTF8?_eq_some_iff.mpr hout, hspoke]

theorem answer_of_fails {f : Failure} (h : reply.Fails f) : reply.answer = .error f := by
  cases h with
  | called => rfl
  | @notText e hnone =>
    show e.answer = _
    simp [Ended.answer, Text.fromUTF8?_eq_none_iff.mpr hnone]
  | @silent e text hout hending hblank =>
    show e.answer = _
    simp [Ended.answer, Text.fromUTF8?_eq_some_iff.mpr hout, hending, hblank, Machine.Ending.isSuccess]

/-- Every reply gives an answer or none. -/
theorem gives_or_fails (reply : Reply) : (∃ text, reply.Gives text) ∨ ∃ f, reply.Fails f := by
  cases reply with
  | error failure => exact .inr ⟨failure, .called failure⟩
  | ok e =>
    by_cases htext : ∃ text : String, e.output = text.toUTF8
    · obtain ⟨text, hout⟩ := htext
      by_cases hending : e.ending = .status 0
      · exact .inl ⟨text, .succeeded hout hending⟩
      · cases hblank : Text.allBlank text with
        | true => exact .inr ⟨_, .silent hout hending hblank⟩
        | false => exact .inl ⟨text, .spoke hout hblank⟩
    · exact .inr ⟨.notText, .notText (not_exists.mp htext)⟩

/-- **What an engine makes of a reply** is the answer that it gives. -/
theorem answer_eq_ok_iff {text : String} : reply.answer = .ok text ↔ reply.Gives text := by
  constructor
  · intro h
    obtain ⟨given, hgives⟩ | ⟨f, hfails⟩ := gives_or_fails reply
    · obtain rfl := Except.ok.inj ((answer_of_gives hgives).symm.trans h)
      exact hgives
    · cases (answer_of_fails hfails).symm.trans h
  · exact answer_of_gives

/-- **An engine fails** as the reply does. -/
theorem answer_eq_error_iff {f : Failure} : reply.answer = .error f ↔ reply.Fails f := by
  constructor
  · intro h
    obtain ⟨given, hgives⟩ | ⟨cause, hfails⟩ := gives_or_fails reply
    · cases (answer_of_gives hgives).symm.trans h
    · obtain rfl := Except.error.inj ((answer_of_fails hfails).symm.trans h)
      exact hfails
  · exact answer_of_fails

/-- A program that fails has answered all the same if it has said something. -/
example : answer (.ok ⟨.status 1, "no".toUTF8, "".toUTF8⟩) = .ok "no" := by cbv

end Reply

end Engine

/-! ### Analyses -/

theorem Request.isEmpty_iff {r : Request} : r.isEmpty = true ↔ r.grammar = "" := String.isEmpty_iff

namespace Analysis

/-- **The four things that an analysis can come to.** -/
inductive Analyzed (engine : Engine) (r : Request) : Except AnalysisError Outcome → Prop
  | skipped : r.grammar = "" → Analyzed engine r (.ok .skipped)
  | unanswered {f : Engine.Failure} : r.grammar ≠ "" → engine r = .error f → Analyzed engine r (.error (.engine f))
  | unread {text : String} {e : DecodeError} : r.grammar ≠ "" → engine r = .ok text → decode text = .error e →
      Analyzed engine r (.error (.answer text e))
  | completed {text : String} {report : Report} : r.grammar ≠ "" → engine r = .ok text → decode text = .ok report →
      Analyzed engine r (.ok (.completed report))

/-- An analysis comes to one of them. -/
theorem analyzed (engine : Engine) (r : Request) : Analyzed engine r (analyze engine r).result := by
  by_cases hr : r.grammar = ""
  · rw [analyze_of_isEmpty engine (Request.isEmpty_iff.mpr hr)]
    exact .skipped hr
  · rw [analyze, if_neg (mt Request.isEmpty_iff.mp hr)]
    cases hreply : engine r with
    | error f => exact .unanswered hr hreply
    | ok text =>
      cases hdecode : decode text with
      | error e =>
        simp only [readAnswer, hdecode, Except.map]
        exact .unread hr hreply hdecode
      | ok report =>
        simp only [readAnswer, hdecode, Except.map]
        exact .completed hr hreply hdecode

end Analysis

namespace Diagnostics

/-- The grammar's badge says that it is valid where it is. -/
theorem grammarBadge_iff (r : Report) : (View.ofReport r).badge .grammar = .valid ↔ r.grammarValid = true := by
  cases hs : r.source <;> simp [View.ofReport, View.badge, Report.grammarValid, Badge.ofBool, hs]

/-- The text's badge says that it is valid where it is. -/
theorem codeBadge_iff (r : Report) : (View.ofReport r).badge .code = .valid ↔ r.sourceValid = true := by
  cases hs : r.source <;> simp [View.ofReport, View.badge, Report.sourceValid, Badge.ofBool, hs]

end Diagnostics

/-! ### Checks -/

namespace Check.Options

variable {o : Options} {tree : Tree}

/-! #### The files -/

/-- The text to parse: that of the command line, else that of the file, else none. -/
inductive CodeOf (o : Options) (tree : Tree) : String → Prop
  | inline {text : String} : o.source = some text → CodeOf o tree text
  | file {path text : String} : o.source = none → o.code = some path → tree.Holds path text → CodeOf o tree text
  | absent : o.source = none → o.code = none → CodeOf o tree ""

/-- **A check finds its two texts.** -/
structure Reads (o : Options) (tree : Tree) (grammar code : String) : Prop where
  grammar : tree.Holds o.grammar grammar
  code : o.CodeOf tree code

/-- **A check cannot read a text.**  The file of the text to parse is read behind that of the grammar, and only if there
is nothing to parse on the command line. -/
inductive Unread (o : Options) (tree : Tree) : ReadError → Prop
  | grammar {cause : Fault} : tree.Unreadable o.grammar cause → Unread o tree ⟨.grammar, o.grammar, cause⟩
  | code {grammar path : String} {cause : Fault} : tree.Holds o.grammar grammar → o.source = none →
      o.code = some path → tree.Unreadable path cause → Unread o tree ⟨.code, path, cause⟩

theorem reads_or_unread (o : Options) (tree : Tree) :
    (∃ grammar code, o.Reads tree grammar code) ∨ ∃ e, o.Unread tree e := by
  obtain ⟨grammar, hgrammar⟩ | ⟨cause, hgrammar⟩ := tree.holds_or_unreadable o.grammar
  case inr => exact .inr ⟨_, .grammar hgrammar⟩
  cases hsource : o.source with
  | some text => exact .inl ⟨grammar, text, hgrammar, .inline hsource⟩
  | none =>
    cases hcode : o.code with
    | none => exact .inl ⟨grammar, "", hgrammar, .absent hsource hcode⟩
    | some path =>
      obtain ⟨text, htext⟩ | ⟨cause, htext⟩ := tree.holds_or_unreadable path
      · exact .inl ⟨grammar, text, hgrammar, .file hsource hcode htext⟩
      · exact .inr ⟨_, .code hgrammar hsource hcode htext⟩

theorem codeText_of_codeOf {code : String} (h : o.CodeOf tree code) : o.codeText tree = .ok code := by
  cases h with
  | inline hsource => simp only [codeText, hsource]
  | file hsource hcode htext => simp only [codeText, hsource, hcode, readDocument, Tree.readText_of_holds htext]
  | absent hsource hcode => simp only [codeText, hsource, hcode]

/-- A check that finds its texts makes its request of them. -/
theorem request_of_reads {grammar code : String} (h : o.Reads tree grammar code) :
    o.request tree = .ok ⟨grammar, code, o.optimization.enabled, o.packrat⟩ :=
  request_of_texts (Tree.readText_of_holds h.grammar) (codeText_of_codeOf h.code)

/-- A check that cannot read a text makes no request. -/
theorem request_of_unread {e : ReadError} (h : o.Unread tree e) : o.request tree = .error e := by
  cases h with
  | grammar hgrammar =>
    rw [request, readDocument, Tree.readText_of_unreadable hgrammar]
    rfl
  | @code _ path cause hgrammar hsource hcode htext =>
    have hcodeText : o.codeText tree = .error ⟨.code, path, cause⟩ := by
      simp only [codeText, hsource, hcode, readDocument, Tree.readText_of_unreadable htext]
    rw [request, readDocument, Tree.readText_of_holds hgrammar, hcodeText]
    rfl

/-! #### The verdict -/

/-- **Everything is valid**: the answer can be read, the grammar is valid, and so is the text if there was one. -/
def Accepts (o : Options) (engine : Engine) (r : Request) : Prop :=
  r.grammar ≠ "" ∧ ∃ text report, engine r = .ok text ∧ decode text = .ok report ∧ report.grammarValid = true ∧
    (o.code.isSome = true ∨ o.source.isSome = true → report.sourceValid = true)

/-- **The engine is of no use**: it fails, or its answer cannot be read. -/
def Stops (engine : Engine) (r : Request) : Prop :=
  r.grammar ≠ "" ∧ ((∃ f, engine r = .error f) ∨ ∃ text e, engine r = .ok text ∧ decode text = .error e)

theorem hasCode_eq_false_or_iff {p : Prop} :
    (o.hasCode = false ∨ p) ↔ (o.code.isSome = true ∨ o.source.isSome = true → p) := by
  rw [hasCode, ← Bool.not_eq_true, Bool.or_eq_true]
  tauto

/-- **The badges accept what is valid.** -/
theorem verdict_completed_iff (o : Options) (r : Report) :
    o.verdict (.completed r) (View.ofReport r) = .accepted ↔
      r.grammarValid = true ∧ (o.code.isSome = true ∨ o.source.isSome = true → r.sourceValid = true) := by
  rw [← grammarBadge_iff, ← codeBadge_iff, ← hasCode_eq_false_or_iff, verdict]
  split
  case isTrue h => exact ⟨fun _ => h, fun _ => rfl⟩
  case isFalse h => exact ⟨fun hv => (by cases hv), fun hv => absurd hv h⟩

theorem verdict_completed_ne (o : Options) (r : Report) (view : View) : o.verdict (.completed r) view ≠ .unusable := by
  rw [verdict]
  split <;> simp

section Finish

variable [Wording] (o : Options) (engine : Engine) (r : Request)

theorem accepted_iff : (o.finish (analyze engine r).result).verdict = .accepted ↔ o.Accepts engine r := by
  -- What the analysis came to is all that is known of it from here on.
  have h := analyzed engine r
  generalize (analyze engine r).result = result at h ⊢
  cases h with
  | skipped hr => exact ⟨fun hv => (by cases hv), fun ⟨hne, _⟩ => absurd hr hne⟩
  | unanswered hr hreply =>
    refine ⟨fun hv => (by cases hv), ?_⟩
    rintro ⟨-, text, report, htext, -⟩
    cases hreply.symm.trans htext
  | unread hr hreply hdecode =>
    refine ⟨fun hv => (by cases hv), ?_⟩
    rintro ⟨-, text, report, htext, hreport, -⟩
    obtain rfl := Except.ok.inj (hreply.symm.trans htext)
    cases hdecode.symm.trans hreport
  | @completed text report hr hreply hdecode =>
    refine (verdict_completed_iff o report).trans ⟨fun hvalid => ⟨hr, text, report, hreply, hdecode, hvalid⟩, ?_⟩
    rintro ⟨-, other, found, htext, hreport, hvalid⟩
    obtain rfl := Except.ok.inj (hreply.symm.trans htext)
    obtain rfl := Except.ok.inj (hdecode.symm.trans hreport)
    exact hvalid

theorem unusable_iff : (o.finish (analyze engine r).result).verdict = .unusable ↔ Stops engine r := by
  have h := analyzed engine r
  generalize (analyze engine r).result = result at h ⊢
  cases h with
  | skipped hr => exact ⟨fun hv => (by cases hv), fun ⟨hne, _⟩ => absurd hr hne⟩
  | unanswered hr hreply => exact ⟨fun _ => ⟨hr, .inl ⟨_, hreply⟩⟩, fun _ => rfl⟩
  | unread hr hreply hdecode => exact ⟨fun _ => ⟨hr, .inr ⟨_, _, hreply, hdecode⟩⟩, fun _ => rfl⟩
  | @completed text report hr hreply hdecode =>
    refine ⟨fun hv => absurd hv (verdict_completed_ne o report _), ?_⟩
    rintro ⟨-, ⟨f, hfailed⟩ | ⟨other, e, htext, herror⟩⟩
    · cases hreply.symm.trans hfailed
    · obtain rfl := Except.ok.inj (hreply.symm.trans htext)
      cases hdecode.symm.trans herror

/-- Whatever is neither accepted nor unusable is rejected. -/
theorem rejected_iff :
    (o.finish (analyze engine r).result).verdict = .rejected ↔ ¬ o.Accepts engine r ∧ ¬ Stops engine r := by
  rw [← accepted_iff, ← unusable_iff]
  cases (o.finish (analyze engine r).result).verdict <;> simp

/-- A report is left exactly where the engine was of use. -/
theorem output_finish : (Stops engine r → (o.finish (analyze engine r).result).output = "") ∧
    (¬ Stops engine r →
      (o.finish (analyze engine r).result).output = o.report (View.ofOutcome (analyze engine r).outcome)) := by
  rw [← unusable_iff o, verdict_finish_iff]
  constructor
  · rintro ⟨message, hfailed⟩
    rw [finish_of_failed o hfailed]
  · intro h
    exact (finish_of_not_failed o (not_exists.mp h)).1

end Finish

/-- **What a check leaves behind** of a request that it has made. -/
structure Concludes [Wording] (o : Options) (engine : Engine) (r : Request) (f : Finished) : Prop where
  /-- The engine is called once, and not at all without a grammar. -/
  sent : f.sent = if r.grammar = "" then [] else [r]
  accepted : f.verdict.status = 0 ↔ o.Accepts engine r
  unusable : f.verdict.status = 2 ↔ Stops engine r
  rejected : f.verdict.status = 1 ↔ ¬ o.Accepts engine r ∧ ¬ Stops engine r
  silent : Stops engine r → f.output = ""
  reported : ¬ Stops engine r → f.output = o.report (View.ofOutcome (analyze engine r).outcome)

theorem concludes [Wording] (o : Options) (engine : Engine) (r : Request) :
    o.Concludes engine r { o.finish (analyze engine r).result with sent := (analyze engine r).calls } where
  sent := by simp only [calls_analyze, Request.isEmpty_iff]
  accepted := by
    rw [← accepted_iff]
    cases (o.finish (analyze engine r).result).verdict <;> simp [Verdict.status]
  unusable := by
    rw [← unusable_iff o]
    cases (o.finish (analyze engine r).result).verdict <;> simp [Verdict.status]
  rejected := by
    rw [← rejected_iff]
    cases (o.finish (analyze engine r).result).verdict <;> simp [Verdict.status]
  silent := (output_finish o engine r).1
  reported := (output_finish o engine r).2

/-- Without a grammar nothing is valid, and the engine is not to blame. -/
theorem Concludes.status_of_empty [Wording] {engine : Engine} {r : Request} {f : Finished} (h : o.Concludes engine r f)
    (hr : r.grammar = "") : f.verdict.status = 1 :=
  h.rejected.mpr ⟨fun haccepts => haccepts.1 hr, fun hstops => hstops.1 hr⟩

/-- **The verdict of a check.**  A check finds its texts or it cannot read one of them.  If it cannot, this is its
error, whatever the engine is.  If it does, it always comes to an end: it has called the engine once, and not at all if
the grammar is empty, and no other answer matters.  Its status is 0 exactly if the grammar is not empty, the answer can
be read, the grammar is valid, and so is the text, if a file or a text was given; it is 2 exactly if the grammar is not
empty and the engine fails or its answer cannot be read, and then there is no report; and it is 1 in all other cases,
that of the empty grammar among them.  A program as an engine fails exactly if it could not be called, has written no
text, or has failed and said nothing. -/
theorem verdict_of_check [Wording] (o : Options) (tree : Tree) :
    ((∃ grammar code, o.Reads tree grammar code) ∨ ∃ e, o.Unread tree e) ∧
      (∀ e, o.Unread tree e → ∀ engine, o.run engine tree = .error e) ∧
      (∀ grammar code, o.Reads tree grammar code → ∀ engine,
        let r : Request := ⟨grammar, code, o.optimization.enabled, o.packrat⟩
        ∃ f, o.run engine tree = .ok f ∧ o.Concludes engine r f ∧ (grammar = "" → f.verdict.status = 1) ∧
          ∀ other : Engine, (grammar ≠ "" → other r = engine r) → o.run other tree = .ok f) ∧
      ∀ reply : Engine.Reply, (∀ text, reply.answer = .ok text ↔ reply.Gives text) ∧
        ∀ failure, reply.answer = .error failure ↔ reply.Fails failure := by
  refine ⟨o.reads_or_unread tree, fun e hunread engine => ?_, fun grammar code hreads engine => ?_, fun reply =>
    ⟨fun text => Engine.Reply.answer_eq_ok_iff, fun failure => Engine.Reply.answer_eq_error_iff⟩⟩
  · rw [run, request_of_unread hunread]
    rfl
  · intro r
    have hrequest : o.request tree = .ok r := request_of_reads hreads
    have hconcludes := o.concludes engine r
    refine ⟨_, run_of_request engine hrequest, hconcludes, hconcludes.status_of_empty, fun other hother => ?_⟩
    have hanalyze : analyze other r = analyze engine r := by
      refine analyze_congr fun call hcall => ?_
      simp only [calls_analyze, Request.isEmpty_iff] at hcall
      split at hcall
      case isTrue => cases hcall
      case isFalse hfull => rw [List.mem_singleton.mp hcall, hother hfull]
    rw [run_of_request other hrequest, hanalyze]

end Check.Options

end GrammarStudio
