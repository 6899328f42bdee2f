import GrammarStudio.Proofs.Json.Grammar

/-!
# Tokens of a text that the grammar writes

A token is found at the head of any text that starts with one of its spellings, whatever stands behind it.  Only behind
a number must something follow that cannot belong to it, as a comma, a bracket, a blank and the end of the text do.

* `Apart` — nothing that a number could go on with;
* `scanNumber_written`, `scanString_written` — number literals and strings;
* `nextToken_blanks`, `nextToken_number`, `nextToken_string` — the same for the first token of a text.
-/

namespace GrammarStudio.Json

/-- A text that does not start with anything a number could go on with. -/
def Apart (cs : List Char) : Prop :=
  ∀ c, cs.head? = some c → c.isDigit = false ∧ c ≠ '.' ∧ c ≠ 'e' ∧ c ≠ 'E'

theorem apart_nil : Apart [] := fun c h => by cases h

theorem apart_cons {c : Char} (h : c.isDigit = false ∧ c ≠ '.' ∧ c ≠ 'e' ∧ c ≠ 'E') (cs : List Char) :
    Apart (c :: cs) := by
  intro d hd
  cases hd
  exact h

/-- Blanks keep a number apart from what follows them. -/
theorem Apart.blanks {blanks rest : List Char} (hb : Blanks blanks) (h : Apart rest) : Apart (blanks ++ rest) := by
  cases blanks with
  | nil => exact h
  | cons c cs =>
    have hc : c ∈ [' ', '\t', '\n', '\r'] := hb c List.mem_cons_self
    refine apart_cons ?_ _
    simp only [List.mem_cons, List.not_mem_nil, or_false] at hc
    rcases hc with rfl | rfl | rfl | rfl <;> decide

/-! ### Numbers -/

/-- The digits at the head of a text are those before something that is no digit. -/
theorem digits_append {ds rest : List Char} (hd : ∀ c ∈ ds, c.isDigit = true)
    (hr : ∀ c, rest.head? = some c → c.isDigit = false) : digits (ds ++ rest) = (ds, rest) := by
  have hrest : rest.takeWhile Char.isDigit = [] ∧ rest.dropWhile Char.isDigit = rest := by
    cases rest with
    | nil => exact ⟨rfl, rfl⟩
    | cons c cs => simp [hr c rfl]
  rw [digits, List.takeWhile_append_of_pos hd, List.dropWhile_append_of_pos hd, hrest.1, hrest.2, List.append_nil]

theorem scanWhole_written {whole rest : List Char} (h : WholeWritten whole)
    (hr : ∀ c, rest.head? = some c → c.isDigit = false) : scanWhole (whole ++ rest) = some (whole, rest) := by
  obtain ⟨⟨hne, hdigits⟩, hzero⟩ := h
  cases whole with
  | nil => exact absurd rfl hne
  | cons c ds =>
    by_cases hc : c = '0'
    · subst hc
      rw [hzero rfl]
      rfl
    · have hds := digits_append (fun d hd => hdigits d (List.mem_cons_of_mem c hd)) hr
      simp [scanWhole, hdigits c List.mem_cons_self, hds]

theorem scanFraction_written {fraction cs rest : List Char} (h : FractionWritten fraction cs)
    (hr : ∀ c, rest.head? = some c → c.isDigit = false ∧ c ≠ '.') :
    scanFraction (cs ++ rest) = some (fraction, rest) := by
  cases h with
  | none =>
    cases rest with
    | nil => rfl
    | cons c cs =>
      have hc := (hr c rfl).2
      simp [scanFraction, hc]
  | some hd =>
    have hds := digits_append hd.2 fun c hc => (hr c hc).1
    simp [scanFraction, hds, hd.1]

theorem scanSign_written {negative : Bool} {sign : List Char} (h : SignWritten negative sign) {ds : List Char}
    (hd : Digits ds) (rest : List Char) : scanSign (sign ++ (ds ++ rest)) = (negative, ds ++ rest) := by
  cases h with
  | minus => rfl
  | plus => rfl
  | none =>
    obtain ⟨hne, hdigits⟩ := hd
    cases ds with
    | nil => exact absurd rfl hne
    | cons c cs =>
      have hc := hdigits c List.mem_cons_self
      have hminus : c ≠ '-' := by rintro rfl; cases hc
      have hplus : c ≠ '+' := by rintro rfl; cases hc
      simp [scanSign, hminus, hplus]

theorem scanExponent_written {exponent : Option (Bool × List Char)} {cs rest : List Char}
    (h : ExponentWritten exponent cs) (hr : Apart rest) : scanExponent (cs ++ rest) = some (exponent, rest) := by
  cases h with
  | none =>
    cases rest with
    | nil => rfl
    | cons c cs =>
      obtain ⟨_, _, he, hE⟩ := hr c rfl
      simp [scanExponent, he, hE]
  | @some letter negative sign ds hletter hsign hd =>
    have hscan := scanSign_written hsign hd rest
    have hds := digits_append hd.2 fun c hc => (hr c hc).1
    have hl : (letter == 'e' || letter == 'E') = true := by rcases hletter with rfl | rfl <;> rfl
    simp [scanExponent, hl, hscan, hds, hd.1]

/-- What a fraction and an exponent start with is no digit, and without a fraction it is no point. -/
theorem head_exponent {exponent : Option (Bool × List Char)} {cs rest : List Char} (h : ExponentWritten exponent cs)
    (hr : Apart rest) : ∀ c, (cs ++ rest).head? = some c → c.isDigit = false ∧ c ≠ '.' := by
  intro c hc
  cases h with
  | none => exact ⟨(hr c hc).1, (hr c hc).2.1⟩
  | some hletter _ _ =>
    cases hc
    rcases hletter with rfl | rfl <;> decide

theorem head_fraction {fraction cs rest : List Char} (h : FractionWritten fraction cs)
    (hr : ∀ c, rest.head? = some c → c.isDigit = false) : ∀ c, (cs ++ rest).head? = some c → c.isDigit = false := by
  intro c hc
  cases h with
  | none => exact hr c hc
  | some _ =>
    cases hc
    rfl

/-- **A number is scanned as it is written.** -/
theorem scanNumber_written {n : Number} {cs rest : List Char} (h : n.Written cs) (hr : Apart rest) :
    scanNumber (cs ++ rest) = some (n, rest) := by
  obtain ⟨hwhole, fraction, exponent, hf, he, rfl⟩ := h
  have hexp := head_exponent he hr
  have hmagnitude : ∀ negative,
      scanMagnitude negative (n.whole ++ (fraction ++ (exponent ++ rest)))
        = some (⟨negative, n.whole, n.fraction, n.exponent⟩, rest) := by
    intro negative
    simp only [scanMagnitude, scanWhole_written hwhole (head_fraction hf fun c hc => (hexp c hc).1),
      scanFraction_written hf hexp, scanExponent_written he hr, Option.bind_eq_bind, Option.bind_some]
  cases hn : n.negative with
  | true =>
    have hnum : (⟨true, n.whole, n.fraction, n.exponent⟩ : Number) = n := by rw [← hn]
    simpa [scanNumber, hnum] using hmagnitude true
  | false =>
    have hnum : (⟨false, n.whole, n.fraction, n.exponent⟩ : Number) = n := by rw [← hn]
    have hminus : ∀ ds, n.whole ++ (fraction ++ (exponent ++ rest)) ≠ '-' :: ds := by
      obtain ⟨⟨hne, hdigits⟩, _⟩ := hwhole
      intro ds heq
      cases hw : n.whole with
      | nil => exact hne hw
      | cons c cs =>
        rw [hw, List.cons_append] at heq
        have hc := hdigits c (by rw [hw]; exact List.mem_cons_self)
        rw [(List.cons.inj heq).1] at hc
        cases hc
    have hscan := hmagnitude false
    rw [hnum] at hscan
    simp only [Bool.false_eq_true, if_false, List.nil_append, List.append_assoc]
    rw [scanNumber]
    · exact hscan
    · exact hminus

/-! ### Strings -/

theorem hexValue?_written {v : Nat} {c : Char} (h : HexWritten v c) : hexValue? c = some v := by
  obtain ⟨hv, rfl | rfl⟩ := h
  · have : ∀ v < 16, hexValue? (Nat.digitChar v) = some v := by decide
    exact this v hv
  · have : ∀ v < 16, hexValue? (Nat.digitChar v).toUpper = some v := by decide
    exact this v hv

theorem hexUnit?_written {u : Nat} {digits : List Char} (h : UnitWritten u digits) :
    ∃ a b c d, digits = [a, b, c, d] ∧ hexUnit? a b c d = some u := by
  obtain ⟨ha, hb, hc, hd⟩ := h
  refine ⟨_, _, _, _, rfl, ?_⟩
  simp [hexUnit?, hexValue?_written ha, hexValue?_written hb, hexValue?_written hc, hexValue?_written hd]

/-- No unit is both halves of a surrogate pair. -/
theorem isHighUnit_of_isLowUnit {u : Nat} (h : isLowUnit u = true) : isHighUnit u = false := by
  simp only [isLowUnit, isHighUnit, Bool.and_eq_true, decide_eq_true_eq, Bool.and_eq_false_iff,
    decide_eq_false_iff_not] at h ⊢
  omega

/-- A unit that is no first half followed by a second one is joined to nothing. -/
theorem joinPairs_unit {u : Nat} {pieces : List Piece}
    (h : isHighUnit u = false ∨ ∀ low, pieces.head? = some (.unit low) → isLowUnit low = false) :
    joinPairs (.unit u :: pieces)
      = (if isHighUnit u || isLowUnit u then .lone u else .scalar (Char.ofNat u)) :: joinPairs pieces := by
  cases pieces with
  | nil => rfl
  | cons p rest =>
    cases p with
    | raw c => rfl
    | unit low =>
      have hpair : (isHighUnit u && isLowUnit low) = false := by
        rcases h with hu | hlow
        · rw [hu, Bool.false_and]
        · rw [hlow low rfl, Bool.and_false]
      simp [joinPairs, hpair]

/-- The pieces that a spelling of a string is scanned into: they join to the string, and start with a second half of a
surrogate pair only if the spelling does. -/
structure PiecesOf (parts : List StringPart) (cs : List Char) (pieces : List Piece) : Prop where
  scan : ∀ done rest, scanPieces done (cs ++ '"' :: rest) = some (done.reverse ++ pieces, rest)
  join : joinPairs pieces = parts
  low : ∀ low, pieces.head? = some (.unit low) → isLowUnit low = true → StartsLow cs

namespace PiecesOf

variable {parts : List StringPart} {cs : List Char} {pieces : List Piece}

theorem nil : PiecesOf [] [] [] :=
  ⟨fun done rest => by simp [scanPieces], rfl, fun _ h => by cases h⟩

theorem raw {c : Char} (printable : 0x20 ≤ c.toNat) (noQuote : c ≠ '"') (noEscape : c ≠ '\\')
    (h : PiecesOf parts cs pieces) : PiecesOf (.scalar c :: parts) (c :: cs) (.raw c :: pieces) := by
  refine ⟨fun done rest => ?_, by rw [joinPairs, h.join], fun _ hl => by cases hl⟩
  have hc : ¬ c.toNat < 0x20 := by omega
  simp [scanPieces, noEscape, hc, h.scan]

theorem short {letter c : Char} (hmem : (letter, c) ∈ shortEscapes) (h : PiecesOf parts cs pieces) :
    PiecesOf (.scalar c :: parts) ('\\' :: letter :: cs) (.raw c :: pieces) := by
  refine ⟨fun done rest => ?_, by rw [joinPairs, h.join], fun _ hl => by cases hl⟩
  simp only [shortEscapes, List.mem_cons, Prod.mk.injEq, List.not_mem_nil, or_false] at hmem
  rcases hmem with ⟨rfl, rfl⟩ | ⟨rfl, rfl⟩ | ⟨rfl, rfl⟩ | ⟨rfl, rfl⟩ | ⟨rfl, rfl⟩ | ⟨rfl, rfl⟩ | ⟨rfl, rfl⟩ |
    ⟨rfl, rfl⟩ <;> simp [scanPieces, shortEscape?, h.scan]

/-- An escape of a unit is scanned into that unit. -/
theorem scan_unit {u : Nat} {digits : List Char} (hu : UnitWritten u digits) (h : PiecesOf parts cs pieces)
    (done : List Piece) (rest : List Char) :
    scanPieces done ('\\' :: 'u' :: (digits ++ cs) ++ '"' :: rest)
      = some (done.reverse ++ .unit u :: pieces, rest) := by
  obtain ⟨a, b, c, d, rfl, hex⟩ := hexUnit?_written hu
  simp [scanPieces, hex, h.scan]

theorem unit {u : Nat} {digits : List Char} (hu : UnitWritten u digits) (notHigh : isHighUnit u = false)
    (notLow : isLowUnit u = false) (h : PiecesOf parts cs pieces) :
    PiecesOf (.scalar (Char.ofNat u) :: parts) ('\\' :: 'u' :: (digits ++ cs)) (.unit u :: pieces) := by
  refine ⟨scan_unit hu h, ?_, fun low hl hlow => ?_⟩
  · rw [joinPairs_unit (.inl notHigh), h.join, notHigh, notLow]
    rfl
  · cases hl
    rw [notLow] at hlow
    cases hlow

theorem lone {u : Nat} {digits : List Char} (hu : UnitWritten u digits)
    (alone : isHighUnit u = true ∧ ¬ StartsLow cs ∨ isLowUnit u = true) (h : PiecesOf parts cs pieces) :
    PiecesOf (.lone u :: parts) ('\\' :: 'u' :: (digits ++ cs)) (.unit u :: pieces) := by
  refine ⟨scan_unit hu h, ?_, fun low hl hlow => ?_⟩
  · have hhalf : (isHighUnit u || isLowUnit u) = true := by
      rcases alone with ⟨hhigh, _⟩ | hlow
      · rw [hhigh, Bool.true_or]
      · rw [hlow, Bool.or_true]
    have hfree : isHighUnit u = false ∨ ∀ low, pieces.head? = some (.unit low) → isLowUnit low = false := by
      rcases alone with ⟨_, hstart⟩ | hlow
      · refine .inr fun low hl => ?_
        cases hlow : isLowUnit low with
        | false => rfl
        | true => exact absurd (h.low low hl hlow) hstart
      · exact .inl (isHighUnit_of_isLowUnit hlow)
    rw [joinPairs_unit hfree, h.join, hhalf]
    rfl
  · cases hl
    exact ⟨u, digits, cs, hlow, hu, rfl⟩

theorem pair {high low : Nat} {digits digits' : List Char} (hh : UnitWritten high digits)
    (hl : UnitWritten low digits') (isHigh : isHighUnit high = true) (isLow : isLowUnit low = true)
    (h : PiecesOf parts cs pieces) :
    PiecesOf (.scalar (pairChar high low) :: parts) ('\\' :: 'u' :: (digits ++ '\\' :: 'u' :: (digits' ++ cs)))
      (.unit high :: .unit low :: pieces) := by
  refine ⟨fun done rest => ?_, ?_, fun low' hlow' hlow => ?_⟩
  · obtain ⟨a, b, c, d, rfl, hex⟩ := hexUnit?_written hh
    have hrest := scan_unit hl h (.unit high :: done) rest
    simp only [List.cons_append, List.append_assoc, List.reverse_cons, List.nil_append] at hrest
    simp [scanPieces, hex, hrest]
  · simp [joinPairs, isHigh, isLow, h.join]
  · cases hlow'
    rw [isHighUnit_of_isLowUnit hlow] at isHigh
    cases isHigh

end PiecesOf

theorem exists_piecesOf {parts : List StringPart} {cs : List Char} (h : StringWritten parts cs) :
    ∃ pieces, PiecesOf parts cs pieces := by
  induction h with
  | nil => exact ⟨_, .nil⟩
  | raw printable noQuote noEscape _ ih =>
    obtain ⟨_, ih⟩ := ih
    exact ⟨_, ih.raw printable noQuote noEscape⟩
  | short hmem _ ih =>
    obtain ⟨_, ih⟩ := ih
    exact ⟨_, ih.short hmem⟩
  | unit hu notHigh notLow _ ih =>
    obtain ⟨_, ih⟩ := ih
    exact ⟨_, ih.unit hu notHigh notLow⟩
  | pair hh hl isHigh isLow _ ih =>
    obtain ⟨_, ih⟩ := ih
    exact ⟨_, ih.pair hh hl isHigh isLow⟩
  | lone hu alone _ ih =>
    obtain ⟨_, ih⟩ := ih
    exact ⟨_, ih.lone hu alone⟩

/-- **A string is scanned as it is written.** -/
theorem scanString_written {parts : List StringPart} {cs : List Char} (h : StringWritten parts cs)
    (rest : List Char) : scanString (cs ++ '"' :: rest) = some (parts, rest) := by
  obtain ⟨pieces, hp⟩ := exists_piecesOf h
  rw [scanString, hp.scan [] rest, ← hp.join]
  rfl

/-! ### The first token -/

/-- Blanks in front of a token are passed over. -/
theorem nextToken_blanks {blanks : List Char} (h : Blanks blanks) (cs : List Char) :
    nextToken (blanks ++ cs) = nextToken cs := by
  induction blanks with
  | nil => rfl
  | cons c rest ih =>
    have hc : c ∈ [' ', '\t', '\n', '\r'] := h c List.mem_cons_self
    have hspace : isSpace c = true := by
      simp only [List.mem_cons, List.not_mem_nil, or_false] at hc
      rcases hc with rfl | rfl | rfl | rfl <;> rfl
    rw [List.cons_append, nextToken, if_pos hspace]
    exact ih fun d hd => h d (List.mem_cons_of_mem c hd)

theorem nextToken_string {parts : List StringPart} {cs : List Char} (h : StringWritten parts cs) (rest : List Char) :
    nextToken ('"' :: (cs ++ '"' :: rest)) = .token (.string parts) rest := by
  simp [nextToken, isSpace, tokenAt, scanString_written h rest]

/-- A number starts with a digit or a minus sign. -/
theorem head_number {n : Number} {cs : List Char} (h : n.Written cs) :
    ∃ c rest, cs = c :: rest ∧ (c.isDigit = true ∨ c = '-') := by
  obtain ⟨⟨⟨hne, hdigits⟩, _⟩, fraction, exponent, _, _, rfl⟩ := h
  cases n.negative with
  | true => exact ⟨'-', _, rfl, .inr rfl⟩
  | false =>
    cases hw : n.whole with
    | nil => exact absurd hw hne
    | cons c ds => exact ⟨c, _, rfl, .inl (hdigits c (by rw [hw]; exact List.mem_cons_self))⟩

/-- What starts with a digit or a minus sign can only be a number. -/
theorem tokenAt_number {c : Char} (h : c.isDigit = true ∨ c = '-') (rest : List Char) :
    tokenAt c rest = (scanNumber (c :: rest)).map fun (n, rest) => (.number n, rest) := by
  unfold tokenAt
  split
  all_goals first
    | rfl
    | (rcases h with h | h <;> cases h)

theorem nextToken_number {n : Number} {cs rest : List Char} (h : n.Written cs) (hr : Apart rest) :
    nextToken (cs ++ rest) = .token (.number n) rest := by
  have hscan := scanNumber_written h hr
  obtain ⟨c, ds, rfl, hc⟩ := head_number h
  have hspace : isSpace c = false := by
    rcases hc with hc | rfl
    · cases hs : isSpace c with
      | false => rfl
      | true =>
        simp only [isSpace, Bool.or_eq_true, beq_iff_eq] at hs
        rcases hs with ((rfl | rfl) | rfl) | rfl <;> cases hc
    · rfl
  rw [List.cons_append] at hscan ⊢
  simp [nextToken, hspace, tokenAt_number hc, hscan]

end GrammarStudio.Json
