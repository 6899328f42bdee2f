import GrammarStudio.Json.Value

/-!
# The tokens of a JSON text

A token is a mark, a literal word, a number or a string.  Blanks between tokens are the four of the standard and no
others; nothing is skipped inside a token.  The longest token is taken, so `01` is the number `0` and then the number
`1`, which no document holds side by side.

* `Token` — the tokens;
* `scanNumber`, `scanString` — the two kinds with an inner structure;
* `nextToken` — the first token of a text, with the text behind it, which is shorter.
-/

namespace GrammarStudio.Json

inductive Token where
  | openArray
  | closeArray
  | openObject
  | closeObject
  | comma
  | colon
  | null
  | bool (b : Bool)
  | number (n : Number)
  | string (parts : List StringPart)
  deriving DecidableEq, Repr

/-- The blanks allowed between tokens: space, tab, line feed and carriage return. -/
def isSpace (c : Char) : Bool := c == ' ' || c == '\t' || c == '\n' || c == '\r'

/-! ### Numbers -/

/-- The digits that a text starts with, and the rest of it. -/
def digits (cs : List Char) : List Char × List Char := (cs.takeWhile Char.isDigit, cs.dropWhile Char.isDigit)

/-- The whole part of a number: a zero, or digits that do not start with one. -/
def scanWhole : List Char → Option (List Char × List Char)
  | '0' :: rest => some (['0'], rest)
  | c :: rest => if c.isDigit then some (c :: (digits rest).1, (digits rest).2) else none
  | [] => none

/-- The fraction of a number: a point with digits, or nothing. -/
def scanFraction : List Char → Option (List Char × List Char)
  | '.' :: rest => if (digits rest).1.isEmpty then none else some (digits rest)
  | cs => some ([], cs)

/-- The sign of an exponent, where there may be none; true for minus. -/
def scanSign : List Char → Bool × List Char
  | '-' :: rest => (true, rest)
  | '+' :: rest => (false, rest)
  | cs => (false, cs)

/-- The exponent of a number: a letter, perhaps a sign, and digits; or nothing. -/
def scanExponent : List Char → Option (Option (Bool × List Char) × List Char)
  | c :: rest =>
    if c == 'e' || c == 'E' then
      let signed := scanSign rest
      if (digits signed.2).1.isEmpty then none
      else some (some (signed.1, (digits signed.2).1), (digits signed.2).2)
    else some (none, c :: rest)
  | [] => some (none, [])

/-- A number without its sign. -/
def scanMagnitude (negative : Bool) (cs : List Char) : Option (Number × List Char) := do
  let (whole, rest) ← scanWhole cs
  let (fraction, rest) ← scanFraction rest
  let (exponent, rest) ← scanExponent rest
  some (⟨negative, whole, fraction, exponent⟩, rest)

/-- A number at the head of a text. -/
def scanNumber : List Char → Option (Number × List Char)
  | '-' :: rest => scanMagnitude true rest
  | cs => scanMagnitude false cs

/-! ### Strings -/

/-- The value of a hexadecimal digit. -/
def hexValue? (c : Char) : Option Nat :=
  if '0' ≤ c ∧ c ≤ '9' then some (c.toNat - '0'.toNat)
  else if 'a' ≤ c ∧ c ≤ 'f' then some (c.toNat - 'a'.toNat + 10)
  else if 'A' ≤ c ∧ c ≤ 'F' then some (c.toNat - 'A'.toNat + 10)
  else none

/-- The number written by four hexadecimal digits. -/
def hexUnit? (a b c d : Char) : Option Nat := do
  let a ← hexValue? a
  let b ← hexValue? b
  let c ← hexValue? c
  let d ← hexValue? d
  some (((a * 16 + b) * 16 + c) * 16 + d)

/-- What an escape of one letter stands for. -/
def shortEscape? : Char → Option Char
  | '"' => some '"'
  | '\\' => some '\\'
  | '/' => some '/'
  | 'b' => some '\x08'
  | 'f' => some '\x0c'
  | 'n' => some '\n'
  | 'r' => some '\r'
  | 't' => some '\t'
  | _ => none

/-- A character that stands in a string as itself, or a unit of sixteen bits that is written out. -/
inductive Piece where
  | raw (c : Char)
  | unit (u : Nat)
  deriving DecidableEq, Repr

/-- Reads the pieces of a string up to its closing quote, behind those read so far, last first.  A character below
space may only be written as an escape. -/
def scanPieces (done : List Piece) : List Char → Option (List Piece × List Char)
  | '"' :: rest => some (done.reverse, rest)
  | '\\' :: 'u' :: a :: b :: c :: d :: rest => do
    let u ← hexUnit? a b c d
    scanPieces (.unit u :: done) rest
  | '\\' :: e :: rest => do
    let c ← shortEscape? e
    scanPieces (.raw c :: done) rest
  | c :: rest => if c == '\\' || c.toNat < 0x20 then none else scanPieces (.raw c :: done) rest
  | [] => none

def isHighUnit (u : Nat) : Bool := 0xD800 ≤ u && u ≤ 0xDBFF
def isLowUnit (u : Nat) : Bool := 0xDC00 ≤ u && u ≤ 0xDFFF

/-- The character of a surrogate pair. -/
def pairChar (high low : Nat) : Char := Char.ofNat (0x10000 + (high - 0xD800) * 0x400 + (low - 0xDC00))

/-- Joins the halves of surrogate pairs that stand next to each other. -/
def joinPairs : List Piece → List StringPart
  | .unit high :: .unit low :: rest =>
    if isHighUnit high && isLowUnit low then .scalar (pairChar high low) :: joinPairs rest
    else (if isHighUnit high || isLowUnit high then .lone high else .scalar (Char.ofNat high)) ::
      joinPairs (.unit low :: rest)
  | .unit u :: rest =>
    (if isHighUnit u || isLowUnit u then .lone u else .scalar (Char.ofNat u)) :: joinPairs rest
  | .raw c :: rest => .scalar c :: joinPairs rest
  | [] => []

/-- The rest of a string behind its opening quote. -/
def scanString (cs : List Char) : Option (List StringPart × List Char) :=
  (scanPieces [] cs).map fun (pieces, rest) => (joinPairs pieces, rest)

/-! ### Tokens -/

/-- The token that starts with `c`, the first character of a text. -/
def tokenAt (c : Char) (rest : List Char) : Option (Token × List Char) :=
  match c, rest with
  | '[', rest => some (.openArray, rest)
  | ']', rest => some (.closeArray, rest)
  | '{', rest => some (.openObject, rest)
  | '}', rest => some (.closeObject, rest)
  | ',', rest => some (.comma, rest)
  | ':', rest => some (.colon, rest)
  | 'n', 'u' :: 'l' :: 'l' :: rest => some (.null, rest)
  | 't', 'r' :: 'u' :: 'e' :: rest => some (.bool true, rest)
  | 'f', 'a' :: 'l' :: 's' :: 'e' :: rest => some (.bool false, rest)
  | '"', rest => (scanString rest).map fun (parts, rest) => (.string parts, rest)
  | c, rest => (scanNumber (c :: rest)).map fun (n, rest) => (.number n, rest)

/-- What a text starts with. -/
inductive Scan where
  | finished
  | malformed
  | token (t : Token) (rest : List Char)

/-- The first token of a text. -/
def nextToken : List Char → Scan
  | [] => .finished
  | c :: rest =>
    if isSpace c then nextToken rest
    else
      match tokenAt c rest with
      | some (t, rest) => .token t rest
      | none => .malformed

/-! ### A token takes at least one character -/

theorem length_digits_snd (cs : List Char) : (digits cs).2.length ≤ cs.length := by
  simpa [digits] using (List.dropWhile_sublist Char.isDigit (l := cs)).length_le

theorem length_of_scanWhole {cs whole rest : List Char} (h : scanWhole cs = some (whole, rest)) :
    rest.length < cs.length := by
  unfold scanWhole at h
  split at h
  · cases h; simp
  · rename_i c r _
    split at h
    · cases h
      exact Nat.lt_succ_of_le (length_digits_snd r)
    · cases h
  · cases h

theorem length_of_scanFraction {cs fraction rest : List Char} (h : scanFraction cs = some (fraction, rest)) :
    rest.length ≤ cs.length := by
  unfold scanFraction at h
  split at h
  · rename_i r
    split at h
    · cases h
    · cases h
      exact Nat.le_succ_of_le (length_digits_snd r)
  · cases h; exact Nat.le_refl _

theorem length_scanSign (cs : List Char) : (scanSign cs).2.length ≤ cs.length := by
  unfold scanSign
  split <;> simp

theorem length_of_scanExponent {cs rest : List Char} {e : Option (Bool × List Char)}
    (h : scanExponent cs = some (e, rest)) : rest.length ≤ cs.length := by
  unfold scanExponent at h
  split at h
  · rename_i c r
    split at h
    · dsimp only at h
      split at h
      · cases h
      · cases h
        have h1 := length_digits_snd (scanSign r).2
        have h2 := length_scanSign r
        simp only [List.length_cons]; omega
    · cases h; exact Nat.le_refl _
  · cases h; exact Nat.le_refl _

theorem length_of_scanMagnitude {negative : Bool} {cs rest : List Char} {n : Number}
    (h : scanMagnitude negative cs = some (n, rest)) : rest.length < cs.length := by
  simp only [scanMagnitude, Option.bind_eq_bind, Option.bind_eq_some_iff, Option.some.injEq, Prod.mk.injEq,
    Prod.exists] at h
  obtain ⟨whole, r1, hw, fraction, r2, hf, e, r3, he, _, rfl⟩ := h
  have h1 := length_of_scanWhole hw
  have h2 := length_of_scanFraction hf
  have h3 := length_of_scanExponent he
  omega

theorem length_of_scanNumber {cs rest : List Char} {n : Number} (h : scanNumber cs = some (n, rest)) :
    rest.length < cs.length := by
  unfold scanNumber at h
  split at h
  · have := length_of_scanMagnitude h
    simp only [List.length_cons]; omega
  · exact length_of_scanMagnitude h

theorem length_of_scanPieces {done pieces : List Piece} {cs rest : List Char}
    (h : scanPieces done cs = some (pieces, rest)) : rest.length < cs.length := by
  fun_induction scanPieces done cs with
  | case1 => cases h; simp
  | case2 done a b c d r ih =>
    simp only [Option.bind_eq_bind, Option.bind_eq_some_iff] at h
    obtain ⟨u, _, h⟩ := h
    have := ih u h
    simp only [List.length_cons]; omega
  | case3 done e r _ ih =>
    simp only [Option.bind_eq_bind, Option.bind_eq_some_iff] at h
    obtain ⟨c, _, h⟩ := h
    have := ih c h
    simp only [List.length_cons]; omega
  | case4 => cases h
  | case5 done c r _ _ _ _ ih =>
    have := ih h
    simp only [List.length_cons]; omega
  | case6 => cases h

theorem length_of_scanString {cs rest : List Char} {parts : List StringPart}
    (h : scanString cs = some (parts, rest)) : rest.length < cs.length := by
  simp only [scanString, Option.map_eq_some_iff, Prod.mk.injEq, Prod.exists] at h
  obtain ⟨pieces, r, h, _, rfl⟩ := h
  exact length_of_scanPieces h

theorem length_of_tokenAt {c : Char} {rest after : List Char} {t : Token}
    (h : tokenAt c rest = some (t, after)) : after.length ≤ rest.length := by
  unfold tokenAt at h
  split at h
  all_goals first
    | (cases h; exact Nat.le_refl _)
    | (cases h; simp only [List.length_cons]; omega)
    | (simp only [Option.map_eq_some_iff, Prod.mk.injEq, Prod.exists] at h
       obtain ⟨_, _, h, _, rfl⟩ := h
       first
         | exact Nat.le_of_lt (length_of_scanString h)
         | exact Nat.le_of_lt_succ (length_of_scanNumber h))

/-- The text behind a token is shorter than the text with it. -/
theorem length_of_nextToken {cs rest : List Char} {t : Token} (h : nextToken cs = .token t rest) :
    rest.length < cs.length := by
  fun_induction nextToken cs with
  | case1 => cases h
  | case2 c r _ ih =>
    have := ih h
    simp only [List.length_cons]; omega
  | case3 c r _ _ _ ht =>
    cases h
    have := length_of_tokenAt ht
    simp only [List.length_cons]; omega
  | case4 => cases h

end GrammarStudio.Json
