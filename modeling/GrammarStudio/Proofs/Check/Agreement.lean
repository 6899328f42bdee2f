import Mathlib
import GrammarStudio.Check.Run
import GrammarStudio.Proofs.Session.Display
import GrammarStudio.Proofs.Session.Mirror

/-!
# A check and a session agree

There are two ways to one analysis.  A check reads its texts from files, makes the request and prints what comes of it.
A session finds its texts in a store, queues the request when it is asked to parse, sends it with the next tick and
shows what comes of it.  With the same texts and settings both put the same request to the engine, and fare alike with
its answer, whatever it is.

* `Session.cycle` — the way of a session, with `Session.progress_cycle` and `Session.view_cycle`;
* `Check.Options.HeldBy` — a store holds what a check reads;
* `Check.Options.run_of_request` — the way of a check;
* `Check.Options.agrees_with_cycle` — they agree.
-/

namespace GrammarStudio

open Analysis Diagnostics Editor Files

variable {σ τ : Type} [Store σ] [Clock τ]

/-! ### What an analysis comes to -/

namespace Analysis

/-- An analysis that comes to an outcome does not come to a failed one: failures are errors. -/
theorem analyze_ne_failed (engine : Engine) (r : Request) (message : String) :
    (analyze engine r).result ≠ .ok (.failed message) := by
  unfold analyze
  split
  · simp
  · cases readAnswer (engine r) <;> simp [Except.map]

end Analysis

/-! ### The way of a session -/

namespace Session

/-- The session of a store, asked to parse once, after a tick. -/
def cycle [Wording] (engine : Engine) (store : σ) (now : τ) : Session σ τ := (start store).requestParse.tick engine now

variable [Wording] (engine : Engine) {store : σ}

omit [Wording] in
/-- A session that starts has no commit waiting, and a request to parse brings none. -/
theorem startOf?_cycle (store : σ) (now : τ) :
    (start store : Session σ τ).requestParse.startOf? (.tick now) = none := by
  have hcommit : (start store : Session σ τ).requestParse.commit.waiting = none := by
    unfold requestParse
    split
    · rw [begin_commit]
      rfl
    · rfl
  exact startOf?_tick_quiet (by rw [Debounce.poll, hcommit])

/-- **What a session comes to.**  It has sent its request, unless the grammar is empty, and the outcome is that of the
analysis. -/
theorem progress_cycle (manual : (Persistence.load store).autoRefresh = false) (now : τ) :
    let request := (start store : Session σ τ).request
    (cycle engine store now).progress =
      ⟨.idle, (analyze engine request).calls, (analyze engine request).outcome⟩ := by
  intro request
  have hstart : (start store : Session σ τ).startOf? .requestParse = some request :=
    if_pos (show (start store : Session σ τ).parseEnabled = true by simp [parseEnabled, start, manual])
  have hqueued : (start store : Session σ τ).requestParse.progress =
      (start store : Session σ τ).progress.start request := by
    have hstep := progress_step engine (s := (start store : Session σ τ)) .requestParse trivial
    rwa [hstart] at hstep
  have htick : (cycle engine store now).progress =
      ((start store : Session σ τ).requestParse.dispatch engine).progress := by
    have hstep := progress_step engine (s := (start store : Session σ τ).requestParse) (.tick now)
      (step_resting engine .requestParse trivial)
    rwa [startOf?_cycle store now] at hstep
  rw [htick, progress_dispatch_of_start engine rfl hqueued, calls_analyze]
  cases hr : request.isEmpty with
  | true =>
    rw [analyze_of_isEmpty engine hr]
    rfl
  | false => rfl

/-- It shows the view of its outcome. -/
theorem view_cycle (store : σ) (now : τ) :
    (cycle engine store now).view = View.ofOutcome (cycle engine store now).outcome := by
  have hparse : (start store : Session σ τ).requestParse.Displays :=
    displays_step engine (displays_start store) (e := .requestParse) rfl
  exact (hparse.tick engine now).view

/-- A session needs the answer to the request that it sends, and no other. -/
theorem cycle_congr {now : τ} {other : Engine}
    (h : ∀ r ∈ (cycle engine store now).sent, engine r = other r) : cycle engine store now = cycle other store now := by
  refine step_congr (s := (start store : Session σ τ).requestParse) (.tick now) fun r hr => h r ?_
  have hsent := sent_step_eq engine (s := (start store : Session σ τ).requestParse) (.tick now)
    (step_resting engine .requestParse trivial)
  show r ∈ ((start store : Session σ τ).requestParse.step engine (.tick now)).sent
  rw [hsent]
  exact List.mem_append_left _ hr

end Session

/-! ### The way of a check -/

namespace Check.Options

/-- A store holds the two texts, and the settings of a check, with analyses on request only. -/
structure HeldBy (o : Options) (store : σ) (grammar code : String) : Prop where
  grammar : Persistence.loadText store .grammar = grammar
  code : Persistence.loadText store .code = code
  optimization : (Persistence.load store).optimization = o.optimization
  packrat : (Persistence.load store).packrat = o.packrat
  manual : (Persistence.load store).autoRefresh = false

variable {o : Options} {tree : Tree} {grammar code : String}

/-- A check that can read its texts makes its request of them. -/
theorem request_of_texts (hgrammar : tree.readText o.grammar = .ok grammar) (hcode : o.codeText tree = .ok code) :
    o.request tree = .ok ⟨grammar, code, o.optimization.enabled, o.packrat⟩ := by
  rw [request, readDocument, hgrammar, hcode]
  rfl

/-- **What a check comes to.**  It leaves what its analysis came to, and has made the calls of that analysis. -/
theorem run_of_request [Wording] (engine : Engine) {request : Request} (h : o.request tree = .ok request) :
    o.run engine tree =
      .ok { o.finish (analyze engine request).result with sent := (analyze engine request).calls } := by
  rw [run, h]
  rfl

/-- A check is of no use exactly where a session shows a failure. -/
theorem verdict_finish_iff [Wording] (o : Options) (engine : Engine) (request : Request) :
    (o.finish (analyze engine request).result).verdict = .unusable ↔
      ∃ message, (analyze engine request).outcome = .failed message := by
  rw [Cycle.outcome]
  cases h : (analyze engine request).result with
  | error e => exact ⟨fun _ => ⟨e.message, rfl⟩, fun _ => rfl⟩
  | ok outcome =>
    cases outcome with
    | failed message => exact absurd h (analyze_ne_failed engine request message)
    | skipped =>
      constructor
      · intro hv
        cases hv
      · rintro ⟨_, hf⟩
        cases hf
    | completed r =>
      constructor
      · intro hv
        simp only [finish, Options.verdict] at hv
        split at hv <;> cases hv
      · rintro ⟨_, hf⟩
        cases hf

/-- A failure is told in place of a report. -/
theorem finish_of_failed [Wording] (o : Options) {engine : Engine} {request : Request} {message : String}
    (h : (analyze engine request).outcome = .failed message) :
    o.finish (analyze engine request).result = { verdict := .unusable, errors := "error: " ++ message ++ "\n" } := by
  rw [Cycle.outcome] at h
  cases ha : (analyze engine request).result with
  | error e =>
    rw [ha] at h
    obtain rfl : e.message = message := Outcome.failed.inj h
    rfl
  | ok outcome =>
    rw [ha] at h
    exact absurd (ha.trans (congrArg Except.ok h)) (analyze_ne_failed engine request message)

/-- Of anything else there is a report, and it is that of the view. -/
theorem finish_of_not_failed [Wording] (o : Options) {engine : Engine} {request : Request}
    (h : ∀ message, (analyze engine request).outcome ≠ .failed message) :
    (o.finish (analyze engine request).result).output =
        o.report (View.ofOutcome (analyze engine request).outcome) ∧
      (o.finish (analyze engine request).result).errors = "" := by
  rw [Cycle.outcome] at h ⊢
  cases ha : (analyze engine request).result with
  | error e =>
    rw [ha] at h
    exact absurd rfl (h e.message)
  | ok outcome => exact ⟨rfl, rfl⟩

/-- **A check and a session agree.**  Let the files of a check hold two texts and a store the same texts, with the
settings of the check and analyses on request.  Then the check comes to an end, and with the session of the store that
is asked to parse once it has these in common, whatever the engine answers: both have put the same request to the
engine, or none, exactly if the grammar is empty, and no other answer of the engine matters to either; the status of the
check says that the engine was of no use exactly if the outcome of the session is a failure, and then the message of
this failure is all that the check tells; and else the check prints the report, in the format that was asked for, of the
very view that the session shows. -/
theorem agrees_with_cycle [Wording] (engine : Engine) (hgrammar : tree.readText o.grammar = .ok grammar)
    (hcode : o.codeText tree = .ok code) {store : σ} (held : o.HeldBy store grammar code) (now : τ) :
    let request : Request := ⟨grammar, code, o.optimization.enabled, o.packrat⟩
    let s : Session σ τ := Session.cycle engine store now
    ∃ finished, o.run engine tree = .ok finished ∧
      (finished.sent = s.sent ∧ s.sent = if grammar = "" then [] else [request]) ∧
      (∀ other, (∀ r ∈ s.sent, engine r = other r) →
        o.run other tree = .ok finished ∧ Session.cycle other store now = s) ∧
      (finished.verdict.status = 2 ↔ ∃ message, s.outcome = .failed message) ∧
      (∀ message, s.outcome = .failed message →
        finished.output = "" ∧ finished.errors = "error: " ++ message ++ "\n") ∧
      ((∀ message, s.outcome ≠ .failed message) →
        (o.format = .text → finished.output = o.textReport s.view) ∧
          (o.format = .html → finished.output = o.htmlReport s.view) ∧ finished.errors = "") := by
  intro request s
  have hread : o.request tree = .ok request := request_of_texts hgrammar hcode
  have hrequest : (Session.start store : Session σ τ).request = request := by
    show Request.mk _ _ _ _ = _
    simp only [Session.start, held.grammar, held.code, held.optimization, held.packrat]
    rfl
  have hprogress := Session.progress_cycle engine held.manual now
  simp only [hrequest] at hprogress
  have hsent : s.sent = (analyze engine request).calls := congrArg Session.Progress.sent hprogress
  have houtcome : s.outcome = (analyze engine request).outcome := congrArg Session.Progress.outcome hprogress
  have hempty : request.isEmpty = true ↔ grammar = "" := String.isEmpty_iff
  refine ⟨_, run_of_request engine hread, ⟨hsent.symm, ?_⟩, fun other hother => ⟨?_, ?_⟩, ?_, ?_, fun hok => ?_⟩
  · rw [hsent, calls_analyze]
    simp only [hempty]
  · have hanalyze : analyze engine request = analyze other request :=
      analyze_congr fun call hcall => hother call (hsent ▸ hcall)
    rw [run_of_request other hread, hanalyze]
  · exact (Session.cycle_congr engine hother).symm
  · rw [houtcome, ← verdict_finish_iff o engine request]
    cases (o.finish (analyze engine request).result).verdict <;> simp [Verdict.status]
  · intro message hfailed
    rw [houtcome] at hfailed
    rw [finish_of_failed o hfailed]
    exact ⟨rfl, rfl⟩
  · rw [houtcome] at hok
    obtain ⟨houtput, herrors⟩ := finish_of_not_failed o hok
    rw [Session.view_cycle engine store now, houtcome]
    refine ⟨fun hformat => ?_, fun hformat => ?_, herrors⟩
    · rw [houtput, report, hformat]
    · rw [houtput, report, hformat]

/-- A grammar in a file with a text beside it, and an engine whose answer is no text: both have put the same request to
it, and the check tells the failure that the session shows. -/
theorem agrees_with_cycle_notText :
    let engine : Engine := fun _ => .error .notText
    let tree : Tree := { nodes := [(["g"], .file "start <- 'a'".toUTF8)], here := [] }
    let o : Options := { grammar := "g", source := some "b" }
    let store : Store.Memory := ⟨[("codeText", "b"), ("grammarText", "start <- 'a'")]⟩
    let s : Session Store.Memory Float := Session.cycle engine store 0
    ∃ finished, o.run engine tree = .ok finished ∧ finished.sent = s.sent ∧
      s.sent = [⟨"start <- 'a'", "b", true, false⟩] ∧ finished.verdict.status = 2 ∧
      finished.errors = "error: engine output is not valid UTF-8\n" := by
  intro engine tree o store s
  have hgrammar : tree.readText o.grammar = .ok "start <- 'a'" := by cbv
  have held : o.HeldBy store "start <- 'a'" "b" := ⟨rfl, rfl, by decide, by decide, by decide⟩
  have hfailed : s.outcome = .failed "engine output is not valid UTF-8" := by decide +kernel
  obtain ⟨finished, hrun, ⟨hsent, hrequest⟩, -, hstatus, hmessage, -⟩ :=
    agrees_with_cycle engine hgrammar rfl held (0 : Float)
  exact ⟨finished, hrun, hsent, hrequest, hstatus.mpr ⟨_, hfailed⟩, (hmessage _ hfailed).2⟩

end Check.Options

end GrammarStudio
