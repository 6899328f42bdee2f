import GrammarStudio.Json.Token

/-!
# The grammar of JSON

This file says which texts spell a document, apart from any way to read them.  A document has many texts: blanks may
stand around every mark, an exponent may have a plus sign, and a character of a string may be written as itself or as an
escape of one of three kinds.

* `Blanks`, `Number.Written`, `StringWritten` — blanks, number literals, and what stands between two quotes;
* `Written`, `Padded` — the texts of a document, without and with blanks around it;
* `ItemsWritten`, `MembersWritten` — what stands between the brackets of an array or object that is not empty;
* `Json.ofInt`, `written_ofInt` — the literal of an integer: its decimal digits, behind a minus sign if it is negative;
* `integer?_literal` — the integer is read back if it fits 64 bits, and is refused if it does not;
* `tooLarge_literal` — a literal that fits 64 bits is far from the greatest double.
-/

namespace GrammarStudio.Json

/-- Spaces, tabs, line feeds and carriage returns. -/
def Blanks (cs : List Char) : Prop := ∀ c ∈ cs, c ∈ [' ', '\t', '\n', '\r']

/-! ### Numbers -/

/-- Decimal digits, at least one. -/
def Digits (cs : List Char) : Prop := cs ≠ [] ∧ ∀ c ∈ cs, c.isDigit = true

/-- The whole part of a number: digits that start with a zero only if there are no others. -/
def WholeWritten (whole : List Char) : Prop := Digits whole ∧ (whole.head? = some '0' → whole = ['0'])

/-- The fraction of a number, if it has one, stands behind a point. -/
inductive FractionWritten : List Char → List Char → Prop
  | none : FractionWritten [] []
  | some {digits : List Char} : Digits digits → FractionWritten digits ('.' :: digits)

/-- The sign of an exponent: a plus may be left out. -/
inductive SignWritten : Bool → List Char → Prop
  | minus : SignWritten true ['-']
  | plus : SignWritten false ['+']
  | none : SignWritten false []

/-- The exponent of a number, if it has one, stands behind a letter. -/
inductive ExponentWritten : Option (Bool × List Char) → List Char → Prop
  | none : ExponentWritten none []
  | some {letter : Char} {negative : Bool} {sign digits : List Char} : letter = 'e' ∨ letter = 'E' →
      SignWritten negative sign → Digits digits →
      ExponentWritten (some (negative, digits)) (letter :: (sign ++ digits))

/-- A text spells a number literal. -/
structure Number.Written (n : Number) (cs : List Char) : Prop where
  whole : WholeWritten n.whole
  parts : ∃ fraction exponent, FractionWritten n.fraction fraction ∧ ExponentWritten n.exponent exponent ∧
    cs = (if n.negative then ['-'] else []) ++ (n.whole ++ (fraction ++ exponent))

/-! ### Strings -/

/-- A hexadecimal digit, in either case, and its value. -/
def HexWritten (v : Nat) (c : Char) : Prop := v < 16 ∧ (c = Nat.digitChar v ∨ c = (Nat.digitChar v).toUpper)

/-- Four hexadecimal digits and the unit of sixteen bits that they write. -/
inductive UnitWritten : Nat → List Char → Prop
  | mk {a b c d : Nat} {p q r s : Char} : HexWritten a p → HexWritten b q → HexWritten c r → HexWritten d s →
      UnitWritten (((a * 16 + b) * 16 + c) * 16 + d) [p, q, r, s]

/-- The escapes of one letter, and what they stand for. -/
def shortEscapes : List (Char × Char) :=
  [('"', '"'), ('\\', '\\'), ('/', '/'), ('b', '\x08'), ('f', '\x0c'), ('n', '\n'), ('r', '\r'), ('t', '\t')]

/-- Does a text start with the escape of the second half of a surrogate pair? -/
def StartsLow (cs : List Char) : Prop :=
  ∃ low digits rest, isLowUnit low = true ∧ UnitWritten low digits ∧ cs = '\\' :: 'u' :: (digits ++ rest)

/-- A text spells what stands between the quotes of a string. -/
inductive StringWritten : List StringPart → List Char → Prop
  | nil : StringWritten [] []
  /-- A character that is written as itself. -/
  | raw {c : Char} {parts : List StringPart} {cs : List Char} : 0x20 ≤ c.toNat → c ≠ '"' → c ≠ '\\' →
      StringWritten parts cs → StringWritten (.scalar c :: parts) (c :: cs)
  /-- An escape of one letter. -/
  | short {letter c : Char} {parts : List StringPart} {cs : List Char} : (letter, c) ∈ shortEscapes →
      StringWritten parts cs → StringWritten (.scalar c :: parts) ('\\' :: letter :: cs)
  /-- A unit that is a character by itself. -/
  | unit {u : Nat} {digits : List Char} {parts : List StringPart} {cs : List Char} : UnitWritten u digits →
      isHighUnit u = false → isLowUnit u = false → StringWritten parts cs →
      StringWritten (.scalar (Char.ofNat u) :: parts) ('\\' :: 'u' :: (digits ++ cs))
  /-- The two halves of a surrogate pair. -/
  | pair {high low : Nat} {digits digits' : List Char} {parts : List StringPart} {cs : List Char} :
      UnitWritten high digits → UnitWritten low digits' → isHighUnit high = true → isLowUnit low = true →
      StringWritten parts cs →
      StringWritten (.scalar (pairChar high low) :: parts) ('\\' :: 'u' :: (digits ++ '\\' :: 'u' :: (digits' ++ cs)))
  /-- A half that stands alone: a second half, or a first half that no second half follows. -/
  | lone {u : Nat} {digits : List Char} {parts : List StringPart} {cs : List Char} : UnitWritten u digits →
      (isHighUnit u = true ∧ ¬ StartsLow cs ∨ isLowUnit u = true) → StringWritten parts cs →
      StringWritten (.lone u :: parts) ('\\' :: 'u' :: (digits ++ cs))

/-! ### Documents -/

mutual

/-- A text spells a document, with no blanks around it. -/
inductive Written : Json → List Char → Prop
  | null : Written .null ['n', 'u', 'l', 'l']
  | yes : Written (.bool true) ['t', 'r', 'u', 'e']
  | no : Written (.bool false) ['f', 'a', 'l', 's', 'e']
  | number {n : Number} {cs : List Char} : n.Written cs → Written (.number n) cs
  | string {parts : List StringPart} {cs : List Char} : StringWritten parts cs →
      Written (.string parts) ('"' :: (cs ++ ['"']))
  | emptyArray {blanks : List Char} : Blanks blanks → Written (.array []) ('[' :: (blanks ++ [']']))
  | array {items : List Json} {cs : List Char} : ItemsWritten items cs → Written (.array items) ('[' :: (cs ++ [']']))
  | emptyObject {blanks : List Char} : Blanks blanks → Written (.object []) ('{' :: (blanks ++ ['}']))
  | object {members : List (List StringPart × Json)} {cs : List Char} : MembersWritten members cs →
      Written (.object members) ('{' :: (cs ++ ['}']))

/-- A text spells a document, perhaps with blanks around it. -/
inductive Padded : Json → List Char → Prop
  | mk {v : Json} {before cs after : List Char} : Blanks before → Written v cs → Blanks after →
      Padded v (before ++ (cs ++ after))

/-- A text spells the items of an array, with commas between them. -/
inductive ItemsWritten : List Json → List Char → Prop
  | one {v : Json} {cs : List Char} : Padded v cs → ItemsWritten [v] cs
  | more {v : Json} {items : List Json} {cs rest : List Char} : Padded v cs → ItemsWritten items rest →
      ItemsWritten (v :: items) (cs ++ ',' :: rest)

/-- A text spells the members of an object, with commas between them. -/
inductive MembersWritten : List (List StringPart × Json) → List Char → Prop
  | one {name : List StringPart} {v : Json} {before ns after cs : List Char} : Blanks before →
      StringWritten name ns → Blanks after → Padded v cs →
      MembersWritten [(name, v)] (before ++ '"' :: (ns ++ '"' :: (after ++ ':' :: cs)))
  | more {name : List StringPart} {v : Json} {members : List (List StringPart × Json)}
      {before ns after cs rest : List Char} : Blanks before → StringWritten name ns → Blanks after → Padded v cs →
      MembersWritten members rest →
      MembersWritten ((name, v) :: members) (before ++ '"' :: (ns ++ '"' :: (after ++ ':' :: (cs ++ ',' :: rest))))

end

/-! ### Spellings with nothing optional -/

theorem Blanks.nil : Blanks [] := fun c hc => by cases hc

/-- A document without blanks around it. -/
theorem Padded.bare {v : Json} {cs : List Char} (h : Written v cs) : Padded v cs := by
  simpa using Padded.mk Blanks.nil h Blanks.nil

/-- Can a character stand in a string as itself? -/
def isBare (c : Char) : Bool := 0x20 ≤ c.toNat && c != '"' && c != '\\'

/-- A text without quotes, backslashes and control characters is written as itself. -/
theorem StringWritten.bare {cs : List Char} (h : cs.all isBare = true) : StringWritten (cs.map .scalar) cs := by
  induction cs with
  | nil => exact .nil
  | cons c cs ih =>
    simp only [List.all_cons, isBare, Bool.and_eq_true, decide_eq_true_eq, bne_iff_ne] at h
    obtain ⟨⟨⟨printable, noQuote⟩, noEscape⟩, hcs⟩ := h
    exact .raw printable noQuote noEscape (ih hcs)

/-! ### Integers -/

namespace Number

/-- The literal of an integer. -/
def literal (i : Int) : Number := ⟨decide (i < 0), Nat.toDigits 10 i.natAbs, [], none⟩

/-- The integer of a literal: read back if it fits 64 bits. -/
theorem integer?_literal (i : Int) :
    (literal i).integer? = if minInt ≤ i ∧ i ≤ maxInt then some i else none := by
  have hvalue : (if i < 0 then -(i.natAbs : Int) else i.natAbs) = i := by split <;> omega
  have hzero : (decide (i < 0) && i.natAbs == 0) = false := by
    rw [Bool.and_eq_false_iff, decide_eq_false_iff_not, beq_eq_false_iff_ne]
    omega
  simp only [integer?, literal, Nat.ofDigitChars_ten_toDigits, decide_eq_true_eq, hvalue, hzero, List.isEmpty_nil,
    Option.isSome_none, Bool.not_true, Bool.or_false, Bool.false_eq_true, if_false]

/-! ### Literals are no oversized doubles -/

/-- Folding further digits never lowers a significand. -/
theorem le_ofDigitChars (ds : List Char) (s : Nat) : s ≤ Nat.ofDigitChars 10 ds s := by
  induction ds generalizing s with
  | nil => exact Nat.le_of_eq Nat.ofDigitChars_nil.symm
  | cons d ds ih =>
    rw [Nat.ofDigitChars_cons]
    have := ih (10 * s + (d.toNat - '0'.toNat))
    omega

/-- Whole digits that fit the significand are all folded into it. -/
theorem foldWhole_fits {ds : List Char} {s : Nat} (h : Nat.ofDigitChars 10 ds s ≤ maxSignificand) :
    foldWhole s ds = (Nat.ofDigitChars 10 ds s, 0) := by
  induction ds generalizing s with
  | nil => rfl
  | cons d ds ih =>
    rw [Nat.ofDigitChars_cons, Nat.mul_comm] at h
    have hfit := Nat.le_trans (le_ofDigitChars ds _) h
    simp only [foldWhole]
    rw [if_pos hfit, ih h, Nat.ofDigitChars_cons, Nat.mul_comm 10 s]

/-- Rounding to a double at most doubles. -/
theorem nearestDouble_le (n : Nat) : nearestDouble n ≤ 2 * n := by
  unfold nearestDouble
  split
  case isTrue => omega
  case isFalse hn =>
    have hpow : 2 ^ (n.log2 - 52) ≤ n := by
      have hlog : 2 ^ n.log2 ≤ n := Nat.log2_self_le (by omega)
      exact Nat.le_trans (Nat.pow_le_pow_right (by decide) (Nat.sub_le _ _)) hlog
    have hdiv : n / 2 ^ (n.log2 - 52) * 2 ^ (n.log2 - 52) ≤ n := Nat.div_mul_le_self n _
    dsimp only
    split
    · rw [Nat.add_mul, Nat.one_mul]
      omega
    · omega

theorem lt_doubleLimit {n : Nat} (h : n ≤ 2 * maxSignificand) : n < doubleLimit :=
  Nat.lt_of_le_of_lt h (by decide +kernel)

/-- **A literal that fits 64 bits is not too large.** -/
theorem tooLarge_literal {i : Int} (low : minInt ≤ i) (high : i ≤ maxInt) : (literal i).tooLarge = false := by
  have hfit : Nat.ofDigitChars 10 (literal i).whole 0 ≤ maxSignificand := by
    show Nat.ofDigitChars 10 (Nat.toDigits 10 i.natAbs) 0 ≤ maxSignificand
    rw [Nat.ofDigitChars_ten_toDigits]
    simp only [minInt, maxInt, maxSignificand] at *
    omega
  have hscaled : (literal i).scaled = (i.natAbs, 0) := by
    rw [scaled, foldWhole_fits hfit]
    simp [literal, foldFraction]
  have hdouble : nearestDouble i.natAbs < doubleLimit := by
    refine lt_doubleLimit (Nat.le_trans (nearestDouble_le _) (Nat.mul_le_mul_left 2 ?_))
    simpa [literal] using hfit
  have hone : nearestDouble (10 ^ 0) = 1 := rfl
  rw [tooLarge, hscaled]
  cases hi : i.natAbs with
  | zero => rfl
  | succ k =>
    rw [hi] at hdouble
    show (decide (0 > 308) || decide (nearestDouble (k + 1) * nearestDouble (10 ^ 0) ≥ doubleLimit)) = false
    rw [hone, Nat.mul_one, decide_eq_false (Nat.not_le_of_lt hdouble)]
    rfl

end Number

/-- The document that is an integer. -/
def ofInt (i : Int) : Json := .number (Number.literal i)

theorem head?_toDigits {n : Nat} (hn : 0 < n) : (Nat.toDigits 10 n).head? ≠ some '0' := by
  induction n using Nat.base_induction 10 (by decide) with
  | single m hm =>
    have hdigits : ∀ m < 10, 0 < m → Nat.digitChar m ≠ '0' := by decide
    rw [Nat.toDigits_of_lt_base hm]
    exact fun hhead => hdigits m hm hn (Option.some.inj hhead)
  | digit m k hk hm ih =>
    rw [← Nat.toDigits_append_toDigits (by decide) hm hk, List.head?_append]
    cases hhead : (Nat.toDigits 10 m).head? with
    | none => exact absurd (List.head?_eq_none_iff.mp hhead) Nat.toDigits_ne_nil
    | some c =>
      rw [Option.some_or, ← hhead]
      exact ih hm

/-- Decimal digits start with a zero only if they are those of zero. -/
theorem wholeWritten_toDigits (n : Nat) : WholeWritten (Nat.toDigits 10 n) := by
  refine ⟨⟨Nat.toDigits_ne_nil, fun c hc => Nat.isDigit_of_mem_toDigits (by decide) (by decide) hc⟩, fun hhead => ?_⟩
  cases Nat.eq_zero_or_pos n with
  | inl hn => rw [hn, Nat.toDigits_zero]
  | inr hn => exact absurd hhead (head?_toDigits hn)

/-- A literal is written with its digits, behind its sign. -/
theorem written_ofInt (i : Int) :
    Written (.ofInt i) ((if decide (i < 0) then ['-'] else []) ++ (Nat.toDigits 10 i.natAbs ++ ([] ++ []))) :=
  .number ⟨wholeWritten_toDigits _, [], [], .none, .none, rfl⟩

theorem plain_ofInt (depth : Nat) {i : Int} (low : minInt ≤ i) (high : i ≤ maxInt) :
    (ofInt i).plain depth = true := by
  rw [ofInt, plain, Number.tooLarge_literal low high]
  rfl

end GrammarStudio.Json
