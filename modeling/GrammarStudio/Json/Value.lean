import GrammarStudio.Instances

/-!
# JSON documents, as they are written

A document is kept close to its text: a number keeps its digits, a string keeps the halves of surrogate pairs that
stand alone, and an object keeps its members in order, repeated names included.  What a reader makes of these is
decided where the document is used.

* `Json` — the documents;
* `Number.integer?` — the integer that a number literal writes;
* `Number.tooLarge` — does the literal leave the range of doubles?
* `StringPart.text?` — the text of a string literal, if it is one;
* `Json.plain` — a document that an untyped reader accepts: no oversized number, no lone surrogate, bounded nesting.
-/

namespace GrammarStudio

/-- A number literal.  The digit lists hold characters from `0` to `9`; the whole part is never empty, a missing
fraction is empty, and the flag of an exponent says that it is negative. -/
structure Json.Number where
  negative : Bool
  whole : List Char
  fraction : List Char
  exponent : Option (Bool × List Char)
  deriving DecidableEq, Repr

/-- A piece of a string literal: a character, or half of a surrogate pair without its other half. -/
inductive Json.StringPart where
  | scalar (c : Char)
  | lone (unit : Nat)
  deriving DecidableEq, Repr

/-- A JSON document. -/
inductive Json where
  | null
  | bool (b : Bool)
  | number (n : Json.Number)
  | string (parts : List Json.StringPart)
  | array (items : List Json)
  | object (members : List (List Json.StringPart × Json))
  deriving Inhabited, Repr

namespace Json

/-! ### Numbers -/

/-- The least and the greatest integer that fits 64 bits with a sign. -/
def minInt : Int := -(2 ^ 63)
def maxInt : Int := 2 ^ 63 - 1

/-- The greatest significand that is folded digit by digit. -/
def maxSignificand : Nat := 2 ^ 64 - 1

namespace Number

/-- The integer a literal writes.  A literal with a fraction or an exponent writes none, nor does minus zero, nor one
that does not fit 64 bits. -/
def integer? (n : Number) : Option Int :=
  let magnitude := Nat.ofDigitChars 10 n.whole 0
  let value : Int := if n.negative then -magnitude else magnitude
  if !n.fraction.isEmpty || n.exponent.isSome || (n.negative && magnitude == 0) then none
  else if minInt ≤ value ∧ value ≤ maxInt then some value
  else none

/-- Folds whole digits into a significand until one would not fit; each digit from there on raises the power of ten. -/
def foldWhole : Nat → List Char → Nat × Nat
  | s, [] => (s, 0)
  | s, d :: rest =>
    let s' := s * 10 + (d.toNat - '0'.toNat)
    if s' ≤ maxSignificand then foldWhole s' rest else (s, rest.length + 1)

/-- Folds fraction digits until one would not fit; each digit folded lowers the power of ten, the others are dropped. -/
def foldFraction : Nat → List Char → Nat × Nat
  | s, [] => (s, 0)
  | s, d :: rest =>
    let s' := s * 10 + (d.toNat - '0'.toNat)
    if s' ≤ maxSignificand then
      let (t, k) := foldFraction s' rest
      (t, k + 1)
    else (s, 0)

/-- The significand and the power of ten that stand for a literal's magnitude. -/
def scaled (n : Number) : Nat × Int :=
  let (s, up) := foldWhole 0 n.whole
  let (s, down) := foldFraction s n.fraction
  let e : Int := match n.exponent with
    | none => 0
    | some (negative, digits) =>
      let magnitude := Nat.ofDigitChars 10 digits 0
      if negative then -magnitude else magnitude
  (s, (up : Int) - down + e)

/-- The double next to a natural number, a tie going to the even significand, were there no greatest double. -/
def nearestDouble (n : Nat) : Nat :=
  if n < 2 ^ 53 then n
  else
    let k := n.log2 - 52
    let q := n / 2 ^ k
    let r := n % 2 ^ k
    (if r * 2 > 2 ^ k ∨ (r * 2 = 2 ^ k ∧ q % 2 = 1) then q + 1 else q) * 2 ^ k

/-- From here on a product rounds past the greatest double. -/
def doubleLimit : Nat := 2 ^ 1024 - 2 ^ 970

/-- Does the literal leave the range of doubles?  Its magnitude is the product of the double next to the significand
and the double next to the power of ten; there is none next to a power above 308. -/
def tooLarge (n : Number) : Bool :=
  match n.scaled with
  | (0, _) => false
  | (_, .negSucc _) => false
  | (s, .ofNat e) => e > 308 || nearestDouble s * nearestDouble (10 ^ e) ≥ doubleLimit

end Number

/-! ### Strings -/

namespace StringPart

def scalar? : StringPart → Option Char
  | .scalar c => some c
  | .lone _ => none

/-- The text of a string literal; none when half of a surrogate pair stands alone in it. -/
def text? (parts : List StringPart) : Option String := (parts.mapM scalar?).map String.ofList

/-- The literal of a text. -/
def ofText (text : String) : List StringPart := text.toList.map .scalar

theorem mapM_scalar? (cs : List Char) : (cs.map StringPart.scalar).mapM scalar? = some cs := by
  induction cs with
  | nil => rfl
  | cons c cs ih => simp [List.mapM_cons, scalar?, ih]

@[simp] theorem text?_ofText (text : String) : text? (ofText text) = some text := by
  simp only [text?, ofText, mapM_scalar?, Option.map_some, String.ofList_toList]

/-- A string literal has a text if it is made of the characters of that text. -/
theorem text?_eq_some_iff {parts : List StringPart} {text : String} :
    text? parts = some text ↔ parts = ofText text := by
  refine ⟨fun h => ?_, fun h => h ▸ text?_ofText text⟩
  obtain ⟨cs, hcs, rfl⟩ := Option.map_eq_some_iff.mp h
  rw [ofText, String.toList_ofList]
  clear h
  induction parts generalizing cs with
  | nil =>
    cases hcs
    rfl
  | cons part parts ih =>
    simp only [List.mapM_cons, Option.pure_def, Option.bind_eq_bind, Option.bind_eq_some_iff, Option.some.injEq] at hcs
    obtain ⟨c, hc, rest, hrest, rfl⟩ := hcs
    cases part with
    | scalar c' =>
      cases hc
      rw [List.map_cons, ← ih rest hrest]
    | lone _ => cases hc

end StringPart

/-! ### Plain documents -/

/-- A document that an untyped reader accepts: its containers nest at most `depth` deep, no number is too large, and
no string or member name holds half of a surrogate pair. -/
def plain : Nat → Json → Bool
  | _, .null => true
  | _, .bool _ => true
  | _, .number n => !n.tooLarge
  | _, .string parts => (StringPart.text? parts).isSome
  | 0, .array _ => false
  | 0, .object _ => false
  | depth + 1, .array items => items.all (plain depth)
  | depth + 1, .object members => members.all fun m => (StringPart.text? m.1).isSome && plain depth m.2

/-- An object in which every name keeps its last member only; any other document as it is. -/
def lastWins : Json → Json
  | .object members => .object (dropEarlier members)
  | v => v
where
  /-- The members that no later member of the same name replaces. -/
  dropEarlier : List (List StringPart × Json) → List (List StringPart × Json)
    | [] => []
    | m :: rest => if rest.any (·.1 == m.1) then dropEarlier rest else m :: dropEarlier rest

end Json

end GrammarStudio
