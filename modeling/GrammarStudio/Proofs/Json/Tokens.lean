import GrammarStudio.Proofs.Json.Scanning

/-!
# What is read off a text stands in it

A token that is found in a text is written at its head, behind blanks, by the grammar of JSON.  So nothing is passed
over but blanks, and nothing is accepted that the grammar does not write.

* `number_of_scanNumber` — a number that is scanned;
* `PiecesWritten`, `string_of_pieces` — a string as it is scanned, piece by piece, and what its pieces join to;
* `TokenWritten`, `token_of_nextToken` — a token, behind blanks;
* `blanks_of_finished` — no token is left in blanks alone.
-/

namespace GrammarStudio.Json

/-! ### Numbers -/

section Numbers

variable {cs rest : List Char}

theorem digits_eq (cs : List Char) : cs = (digits cs).1 ++ (digits cs).2 :=
  List.takeWhile_append_dropWhile.symm

theorem isDigit_of_mem_digits {c : Char} (h : c ∈ (digits cs).1) : c.isDigit = true :=
  List.all_eq_true.mp List.all_takeWhile c h

theorem whole_of_scanWhole {whole : List Char} (h : scanWhole cs = some (whole, rest)) :
    WholeWritten whole ∧ cs = whole ++ rest := by
  unfold scanWhole at h
  split at h
  case h_1 =>
    cases h
    exact ⟨⟨⟨by simp, List.all_eq_true.mp rfl⟩, fun _ => rfl⟩, rfl⟩
  case h_2 c ds hzero =>
    split at h
    case isTrue hdigit =>
      cases h
      refine ⟨⟨⟨by simp, fun d hd => ?_⟩, fun hhead => ?_⟩, ?_⟩
      · cases hd with
        | head => exact hdigit
        | tail _ hd => exact isDigit_of_mem_digits hd
      · exact absurd (Option.some.inj hhead) hzero
      · rw [List.cons_append, ← digits_eq]
    case isFalse => cases h
  case h_3 => cases h

/-- Digits that are not missing. -/
theorem digits_written (h : (digits cs).1.isEmpty = false) : Digits (digits cs).1 :=
  ⟨fun hnil => (by rw [hnil] at h; cases h), fun _ hc => isDigit_of_mem_digits hc⟩

theorem fraction_of_scanFraction {fraction : List Char} (h : scanFraction cs = some (fraction, rest)) :
    ∃ word, FractionWritten fraction word ∧ cs = word ++ rest := by
  unfold scanFraction at h
  split at h
  case h_1 ds =>
    split at h
    case isTrue => cases h
    case isFalse hdigits =>
      cases h
      exact ⟨_, .some (digits_written (eq_false_of_ne_true hdigits)), congrArg ('.' :: ·) (digits_eq ds)⟩
  case h_2 =>
    cases h
    exact ⟨[], .none, rfl⟩

theorem sign_of_scanSign (cs : List Char) :
    ∃ word, SignWritten (scanSign cs).1 word ∧ cs = word ++ (scanSign cs).2 := by
  unfold scanSign
  split
  · exact ⟨_, .minus, rfl⟩
  · exact ⟨_, .plus, rfl⟩
  · exact ⟨_, .none, rfl⟩

theorem exponent_of_scanExponent {exponent : Option (Bool × List Char)}
    (h : scanExponent cs = some (exponent, rest)) : ∃ word, ExponentWritten exponent word ∧ cs = word ++ rest := by
  unfold scanExponent at h
  split at h
  case h_1 letter ds =>
    split at h
    case isTrue hletter =>
      dsimp only at h
      split at h
      case isTrue => cases h
      case isFalse hdigits =>
        cases h
        obtain ⟨sign, hsign, hds⟩ := sign_of_scanSign ds
        have heither : letter = 'e' ∨ letter = 'E' := by simpa using hletter
        refine ⟨_, .some heither hsign (digits_written (eq_false_of_ne_true hdigits)), ?_⟩
        rw [List.cons_append, List.append_assoc, ← digits_eq, ← hds]
    case isFalse =>
      cases h
      exact ⟨[], .none, rfl⟩
  case h_2 =>
    cases h
    exact ⟨[], .none, rfl⟩

theorem magnitude_of_scanMagnitude {negative : Bool} {n : Number} (h : scanMagnitude negative cs = some (n, rest)) :
    n.negative = negative ∧ WholeWritten n.whole ∧ ∃ fraction exponent, FractionWritten n.fraction fraction ∧
      ExponentWritten n.exponent exponent ∧ cs = n.whole ++ (fraction ++ exponent) ++ rest := by
  simp only [scanMagnitude, Option.bind_eq_bind, Option.bind_eq_some_iff, Option.some.injEq, Prod.mk.injEq,
    Prod.exists] at h
  obtain ⟨whole, r1, hwhole, fraction, r2, hfraction, exponent, r3, hexponent, rfl, rfl⟩ := h
  obtain ⟨hw, rfl⟩ := whole_of_scanWhole hwhole
  obtain ⟨fword, hf, rfl⟩ := fraction_of_scanFraction hfraction
  obtain ⟨eword, he, rfl⟩ := exponent_of_scanExponent hexponent
  exact ⟨rfl, hw, fword, eword, hf, he, by simp only [List.append_assoc]⟩

/-- **A number that is scanned is written at the head of the text.** -/
theorem number_of_scanNumber {n : Number} (h : scanNumber cs = some (n, rest)) :
    ∃ word, n.Written word ∧ cs = word ++ rest := by
  unfold scanNumber at h
  split at h
  case h_1 ds =>
    obtain ⟨hneg, hwhole, fraction, exponent, hf, he, rfl⟩ := magnitude_of_scanMagnitude h
    refine ⟨_, ⟨hwhole, fraction, exponent, hf, he, rfl⟩, ?_⟩
    rw [if_pos hneg]
    rfl
  case h_2 =>
    obtain ⟨hneg, hwhole, fraction, exponent, hf, he, rfl⟩ := magnitude_of_scanMagnitude h
    refine ⟨_, ⟨hwhole, fraction, exponent, hf, he, rfl⟩, ?_⟩
    rw [if_neg (by simp [hneg])]
    rfl

end Numbers

/-! ### Strings -/

theorem hex_of_hexValue? {c : Char} {v : Nat} (h : hexValue? c = some v) : HexWritten v c := by
  have hascii : c.toNat < 128 := by
    unfold hexValue? at h
    split at h
    case isTrue hc => exact Nat.lt_of_le_of_lt hc.2 (by decide)
    case isFalse =>
      split at h
      case isTrue hc => exact Nat.lt_of_le_of_lt hc.2 (by decide)
      case isFalse =>
        split at h
        case isTrue hc => exact Nat.lt_of_le_of_lt hc.2 (by decide)
        case isFalse => cases h
  have hall : ∀ n < 128, ∀ v, hexValue? (Char.ofNat n) = some v →
      v < 16 ∧ (Char.ofNat n = Nat.digitChar v ∨ Char.ofNat n = (Nat.digitChar v).toUpper) := by
    have hdecided : ∀ n < 128, (hexValue? (Char.ofNat n)).all (fun v => decide (v < 16 ∧
        (Char.ofNat n = Nat.digitChar v ∨ Char.ofNat n = (Nat.digitChar v).toUpper))) = true := by decide
    intro n hn v hv
    have hone := hdecided n hn
    rw [hv] at hone
    exact of_decide_eq_true hone
  have hc := hall c.toNat hascii v
  rw [Char.ofNat_toNat] at hc
  exact hc h

theorem unit_of_hexUnit? {a b c d : Char} {u : Nat} (h : hexUnit? a b c d = some u) : UnitWritten u [a, b, c, d] := by
  simp only [hexUnit?, Option.bind_eq_bind, Option.bind_eq_some_iff, Option.some.injEq] at h
  obtain ⟨p, ha, q, hb, r, hc, s, hd, rfl⟩ := h
  exact .mk (hex_of_hexValue? ha) (hex_of_hexValue? hb) (hex_of_hexValue? hc) (hex_of_hexValue? hd)

/-- Four digits write one unit. -/
theorem unit_unique {u v : Nat} {ds es cs cs' : List Char} (hu : UnitWritten u ds) (hv : UnitWritten v es)
    (h : ds ++ cs = es ++ cs') : u = v := by
  obtain ⟨a, b, c, d, rfl, hread⟩ := hexUnit?_written hu
  obtain ⟨a', b', c', d', rfl, hread'⟩ := hexUnit?_written hv
  simp only [List.cons_append, List.nil_append, List.cons.injEq] at h
  obtain ⟨rfl, rfl, rfl, rfl, -⟩ := h
  exact Option.some.inj (hread.symm.trans hread')

theorem mem_shortEscapes {letter c : Char} (h : shortEscape? letter = some c) : (letter, c) ∈ shortEscapes := by
  unfold shortEscape? at h
  split at h <;> cases h <;> decide

/-- A text spells the pieces of a string: what stands between its quotes, before the halves of pairs are joined. -/
inductive PiecesWritten : List Piece → List Char → Prop
  | nil : PiecesWritten [] []
  | raw {c : Char} {pieces : List Piece} {cs : List Char} : 0x20 ≤ c.toNat → c ≠ '"' → c ≠ '\\' →
      PiecesWritten pieces cs → PiecesWritten (.raw c :: pieces) (c :: cs)
  | short {letter c : Char} {pieces : List Piece} {cs : List Char} : (letter, c) ∈ shortEscapes →
      PiecesWritten pieces cs → PiecesWritten (.raw c :: pieces) ('\\' :: letter :: cs)
  | unit {u : Nat} {digits : List Char} {pieces : List Piece} {cs : List Char} : UnitWritten u digits →
      PiecesWritten pieces cs → PiecesWritten (.unit u :: pieces) ('\\' :: 'u' :: (digits ++ cs))

/-- Pieces that are scanned are written up to the closing quote. -/
theorem pieces_of_scanPieces {done pieces : List Piece} {cs rest : List Char}
    (h : scanPieces done cs = some (pieces, rest)) :
    ∃ more word, pieces = done.reverse ++ more ∧ PiecesWritten more word ∧ cs = word ++ '"' :: rest := by
  fun_induction scanPieces done cs with
  | case1 =>
    cases h
    exact ⟨[], [], (List.append_nil _).symm, .nil, rfl⟩
  | case2 done a b c d r ih =>
    simp only [Option.bind_eq_bind, Option.bind_eq_some_iff] at h
    obtain ⟨u, hu, h⟩ := h
    obtain ⟨more, word, rfl, hword, rfl⟩ := ih u h
    exact ⟨.unit u :: more, _, by simp, .unit (unit_of_hexUnit? hu) hword, rfl⟩
  | case3 done e r _ ih =>
    simp only [Option.bind_eq_bind, Option.bind_eq_some_iff] at h
    obtain ⟨c, hc, h⟩ := h
    obtain ⟨more, word, rfl, hword, rfl⟩ := ih c h
    exact ⟨.raw c :: more, _, by simp, .short (mem_shortEscapes hc) hword, rfl⟩
  | case4 => cases h
  | case5 done c r hquote _ _ hplain ih =>
    obtain ⟨more, word, rfl, hword, rfl⟩ := ih h
    simp only [Bool.or_eq_true, beq_iff_eq, decide_eq_true_eq, not_or, Nat.not_lt] at hplain
    exact ⟨.raw c :: more, _, by simp, .raw hplain.2 hquote hplain.1 hword, rfl⟩
  | case6 => cases h

/-- The escape of a second half of a surrogate pair is a piece of its own. -/
theorem PiecesWritten.head_of_startsLow {pieces : List Piece} {cs : List Char} (h : PiecesWritten pieces cs)
    (hlow : StartsLow cs) : ∃ low rest, pieces = .unit low :: rest ∧ isLowUnit low = true := by
  obtain ⟨low, digits, rest, hlow, hdigits, hcs⟩ := hlow
  cases h with
  | nil => cases hcs
  | raw _ _ hescape _ =>
    cases hcs
    exact absurd rfl hescape
  | short hmem _ =>
    cases hcs
    simp [shortEscapes] at hmem
  | unit hu _ =>
    simp only [List.cons.injEq, true_and] at hcs
    rw [unit_unique hu hdigits hcs]
    exact ⟨low, _, rfl, hlow⟩

/-- A unit that is joined to nothing is half of a pair that stands alone, or a character. -/
theorem string_of_unit {u : Nat} {digits cs : List Char} {pieces : List Piece} {parts : List StringPart}
    (hu : UnitWritten u digits) (hpieces : PiecesWritten pieces cs) (h : StringWritten parts cs)
    (hnext : isHighUnit u = true → ∀ low rest, pieces = .unit low :: rest → isLowUnit low = false) :
    StringWritten ((if isHighUnit u || isLowUnit u then .lone u else .scalar (Char.ofNat u)) :: parts)
      ('\\' :: 'u' :: (digits ++ cs)) := by
  cases hhigh : isHighUnit u with
  | true =>
    refine .lone hu (.inl ⟨hhigh, fun hstarts => ?_⟩) h
    obtain ⟨low, rest, heq, hlow⟩ := hpieces.head_of_startsLow hstarts
    rw [hnext hhigh low rest heq] at hlow
    cases hlow
  | false =>
    cases hlow : isLowUnit u with
    | true => exact .lone hu (.inr hlow) h
    | false => exact .unit hu hhigh hlow h

/-- **What the pieces of a string join to is written as they are.** -/
theorem string_of_pieces {pieces : List Piece} {cs : List Char} (h : PiecesWritten pieces cs) :
    StringWritten (joinPairs pieces) cs := by
  -- by the cases of joining, each of which takes a piece or two off the text
  fun_induction joinPairs pieces generalizing cs with
  | case1 high low rest hpair ih =>
    cases h with
    | unit hhigh h =>
      cases h with
      | unit hlow h =>
        rw [Bool.and_eq_true] at hpair
        exact .pair hhigh hlow hpair.1 hpair.2 (ih h)
  | case2 high low rest hpair ih =>
    cases h with
    | unit hu h =>
      refine string_of_unit hu h (ih h) fun hhigh low' rest' heq => ?_
      cases heq
      rw [hhigh, Bool.true_and] at hpair
      exact eq_false_of_ne_true hpair
  | case3 u rest hnext ih =>
    cases h with
    | unit hu h => exact string_of_unit hu h (ih h) fun _ low rest' heq => absurd heq (hnext low rest')
  | case4 c rest ih =>
    cases h with
    | raw printable noQuote noEscape h => exact .raw printable noQuote noEscape (ih h)
    | short hmem h => exact .short hmem (ih h)
  | case5 =>
    cases h
    exact .nil

theorem string_of_scanString {parts : List StringPart} {cs rest : List Char}
    (h : scanString cs = some (parts, rest)) : ∃ word, StringWritten parts word ∧ cs = word ++ '"' :: rest := by
  simp only [scanString, Option.map_eq_some_iff, Prod.mk.injEq, Prod.exists] at h
  obtain ⟨pieces, r, hscan, rfl, rfl⟩ := h
  obtain ⟨more, word, rfl, hword, rfl⟩ := pieces_of_scanPieces hscan
  exact ⟨word, string_of_pieces hword, rfl⟩

/-! ### Tokens -/

/-- A text is a token, and nothing else. -/
inductive TokenWritten : Token → List Char → Prop
  | openArray : TokenWritten .openArray ['[']
  | closeArray : TokenWritten .closeArray [']']
  | openObject : TokenWritten .openObject ['{']
  | closeObject : TokenWritten .closeObject ['}']
  | comma : TokenWritten .comma [',']
  | colon : TokenWritten .colon [':']
  | null : TokenWritten .null ['n', 'u', 'l', 'l']
  | yes : TokenWritten (.bool true) ['t', 'r', 'u', 'e']
  | no : TokenWritten (.bool false) ['f', 'a', 'l', 's', 'e']
  | number {n : Number} {cs : List Char} : n.Written cs → TokenWritten (.number n) cs
  | string {parts : List StringPart} {cs : List Char} : StringWritten parts cs →
      TokenWritten (.string parts) ('"' :: (cs ++ ['"']))

theorem token_of_tokenAt {c : Char} {rest after : List Char} {t : Token} (h : tokenAt c rest = some (t, after)) :
    ∃ word, TokenWritten t word ∧ c :: rest = word ++ after := by
  unfold tokenAt at h
  split at h
  case h_1 => cases h; exact ⟨_, .openArray, rfl⟩
  case h_2 => cases h; exact ⟨_, .closeArray, rfl⟩
  case h_3 => cases h; exact ⟨_, .openObject, rfl⟩
  case h_4 => cases h; exact ⟨_, .closeObject, rfl⟩
  case h_5 => cases h; exact ⟨_, .comma, rfl⟩
  case h_6 => cases h; exact ⟨_, .colon, rfl⟩
  case h_7 => cases h; exact ⟨_, .null, rfl⟩
  case h_8 => cases h; exact ⟨_, .yes, rfl⟩
  case h_9 => cases h; exact ⟨_, .no, rfl⟩
  case h_10 =>
    simp only [Option.map_eq_some_iff, Prod.mk.injEq, Prod.exists] at h
    obtain ⟨parts, r, hscan, rfl, rfl⟩ := h
    obtain ⟨word, hword, rfl⟩ := string_of_scanString hscan
    exact ⟨_, .string hword, by simp⟩
  case h_11 =>
    simp only [Option.map_eq_some_iff, Prod.mk.injEq, Prod.exists] at h
    obtain ⟨n, r, hscan, rfl, rfl⟩ := h
    obtain ⟨word, hword, heq⟩ := number_of_scanNumber hscan
    exact ⟨word, .number hword, heq⟩

theorem blank_of_isSpace {c : Char} (h : isSpace c = true) : c ∈ [' ', '\t', '\n', '\r'] := by
  simp only [isSpace, Bool.or_eq_true, beq_iff_eq] at h
  rcases h with ((rfl | rfl) | rfl) | rfl <;> decide

theorem Blanks.cons {c : Char} {cs : List Char} (hc : isSpace c = true) (h : Blanks cs) : Blanks (c :: cs) := by
  intro d hd
  cases hd with
  | head => exact blank_of_isSpace hc
  | tail _ hd => exact h d hd

/-- **A token that is found is written behind blanks at the head of the text.** -/
theorem token_of_nextToken {cs rest : List Char} {t : Token} (h : nextToken cs = .token t rest) :
    ∃ blanks word, Blanks blanks ∧ TokenWritten t word ∧ cs = blanks ++ (word ++ rest) := by
  fun_induction nextToken cs with
  | case1 => cases h
  | case2 c r hspace ih =>
    obtain ⟨blanks, word, hblanks, hword, rfl⟩ := ih h
    exact ⟨c :: blanks, word, hblanks.cons hspace, hword, rfl⟩
  | case3 c r _ _ _ hat =>
    cases h
    obtain ⟨word, hword, heq⟩ := token_of_tokenAt hat
    exact ⟨[], word, .nil, hword, heq⟩
  | case4 => cases h

/-- Where no token is left, there are blanks alone. -/
theorem blanks_of_finished {cs : List Char} (h : nextToken cs = .finished) : Blanks cs := by
  fun_induction nextToken cs with
  | case1 => exact .nil
  | case2 c r hspace ih => exact (ih h).cons hspace
  | case3 => cases h
  | case4 => cases h

end GrammarStudio.Json
