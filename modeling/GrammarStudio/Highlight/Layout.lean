import GrammarStudio.Highlight.Sections

/-!
# The layout of a grammar

What is drawn is one text, with the ranges of its bytes that have a tone of their own.  Such a layout grows at its end
only.  For a grammar it is made in one scan over the characters, each of which is known by the byte at which it starts:
the scan remembers up to which byte the text has been laid out, and wherever a token begins, it cuts two pieces out of
the text, the plain one in front of the token and the token itself.

* `slice?` — the piece of a text between two bytes, if no character is cut into;
* `Stretch`, `Layout` — a range of bytes with its tone, and a text with its stretches;
* `Layout.append` — a text at the end, with the stretch that covers it;
* `Layout.pieces` — what the stretches cover;
* `passWhile`, `passQuoted`, `passMark`, `pass` — over the characters of one token, up to the byte behind it;
* `scan`, `layOut` — the layout of a grammar.
-/

namespace GrammarStudio.Highlight

open String

/-! ### Pieces of a text -/

/-- The piece of a text between two bytes.  There is none if the bytes stand in the wrong order, or if one of them lies
inside a character or behind the end. -/
def slice? (text : String) (start stop : Nat) : Option String :=
  if h : start ≤ stop ∧ (⟨start⟩ : Pos.Raw).IsValid text ∧ (⟨stop⟩ : Pos.Raw).IsValid text then
    some (text.extract (text.pos ⟨start⟩ h.2.1) (text.pos ⟨stop⟩ h.2.2))
  else none

/-! ### Layouts -/

/-- A range of bytes, without the one at its stop, and the tone of what they spell. -/
structure Stretch where
  start : Nat
  stop : Nat
  tone : Tone
  deriving DecidableEq, Repr

/-- A text and its stretches. -/
structure Layout where
  text : String := ""
  stretches : List Stretch := []
  deriving DecidableEq, Repr

namespace Layout

/-- Puts a text at the end, in a stretch of its own.  The empty text needs none. -/
def append (l : Layout) (text : String) (tone : Tone) : Layout :=
  if text.isEmpty then l
  else
    let whole := l.text ++ text
    { text := whole, stretches := l.stretches ++ [⟨l.text.utf8ByteSize, whole.utf8ByteSize, tone⟩] }

/-- What the stretches cover, as far as they cut into no character. -/
def pieces (l : Layout) : List (Option Section) :=
  l.stretches.map fun s => (slice? l.text s.start s.stop).map (⟨·, s.tone⟩)

end Layout

/-! ### Over a token -/

/-- The characters of a text, each with the byte at which it starts. -/
def indexed (start : Nat) : List Char → List (Nat × Char)
  | [] => []
  | c :: rest => (start, c) :: indexed (start + c.utf8Size) rest

/-- Passes characters of a kind.  The result is the byte behind the last of them, which is `stop` if there is none, and
what comes then. -/
def passWhile (kind : Char → Bool) (stop : Nat) : List (Nat × Char) → Nat × List (Nat × Char)
  | [] => (stop, [])
  | (i, c) :: rest => if kind c then passWhile kind (i + c.utf8Size) rest else (stop, (i, c) :: rest)

/-- Passes the characters of a quoted token up to `close` or the end of the line, which are passed, too.  A character
behind a backslash ends nothing. -/
def passQuoted (close : Char) (escaped : Bool) (stop : Nat) : List (Nat × Char) → Nat × List (Nat × Char)
  | [] => (stop, [])
  | (i, c) :: rest =>
    if escaped then passQuoted close false (i + c.utf8Size) rest
    else if c = '\\' then passQuoted close true (i + c.utf8Size) rest
    else if c = close ∨ c = '\n' then (i + c.utf8Size, rest)
    else passQuoted close false (i + c.utf8Size) rest

/-- Passes the mark behind a literal.  It is none if a name goes on behind it, for which the text is looked at. -/
def passMark (text : String) (stop : Nat) : List (Nat × Char) → Option (Nat × List (Nat × Char))
  | (i, 'i') :: rest => do
    let behind ← slice? text (i + 1) text.utf8ByteSize
    if behind.toList.head?.any isNameChar then return (stop, (i, 'i') :: rest) else return (i + 1, rest)
  | chars => return (stop, chars)

/-- A token that was passed: its tone, the byte behind it, the depth of parentheses there, and the characters to come. -/
structure Passed where
  tone : Tone
  stop : Nat
  depth : Nat
  rest : List (Nat × Char)

/-- Passes the token that begins with `c` at the byte `start`, if one does.  Outside, nothing is the result if a piece
of the text was asked for that there is not. -/
def pass (text : String) (depth start : Nat) (c : Char) (rest : List (Nat × Char)) : Option (Option Passed) :=
  let behind := start + c.utf8Size
  if c = '#' then
    let (stop, rest) := passWhile (· ≠ '\n') behind rest
    return some ⟨.comment, stop, depth, rest⟩
  else if c = '[' then
    let (stop, rest) := passQuoted ']' false behind rest
    return some ⟨.charClass, stop, depth, rest⟩
  else if c = '\'' ∨ c = '"' then do
    let (stop, rest) := passQuoted c false behind rest
    let (stop, rest) ← passMark text stop rest
    return some ⟨.literal, stop, depth, rest⟩
  else if c = '(' then return some ⟨.paren depth, behind, depth + 1, rest⟩
  else if c = ')' then return some ⟨.paren (depth - 1), behind, depth - 1, rest⟩
  else if c = '%' then
    let (stop, rest) := passWhile isNameChar behind rest
    return some ⟨.directive, stop, depth, rest⟩
  else if isNameStart c then do
    let (stop, rest) := passWhile isNameChar behind rest
    let after ← slice? text stop text.utf8ByteSize
    return some ⟨if startsDefinition after.toList then .definition else .reference, stop, depth, rest⟩
  else if isOperator c then return some ⟨.operator, behind, depth, rest⟩
  else return none

/-! ### No character comes twice -/

theorem length_passWhile_le (kind : Char → Bool) (stop : Nat) (chars : List (Nat × Char)) :
    (passWhile kind stop chars).2.length ≤ chars.length := by
  induction chars generalizing stop with
  | nil => simp [passWhile]
  | cons p rest ih =>
    rw [passWhile]
    split
    · exact Nat.le_succ_of_le (ih _)
    · exact Nat.le_refl _

theorem length_passQuoted_le (close : Char) (escaped : Bool) (stop : Nat) (chars : List (Nat × Char)) :
    (passQuoted close escaped stop chars).2.length ≤ chars.length := by
  induction chars generalizing escaped stop with
  | nil => simp [passQuoted]
  | cons p rest ih =>
    rw [passQuoted]
    split
    · exact Nat.le_succ_of_le (ih _ _)
    · split
      · exact Nat.le_succ_of_le (ih _ _)
      · split
        · exact Nat.le_succ _
        · exact Nat.le_succ_of_le (ih _ _)

theorem length_passMark_le {text : String} {stop : Nat} {chars : List (Nat × Char)} {p : Nat × List (Nat × Char)}
    (h : passMark text stop chars = some p) : p.2.length ≤ chars.length := by
  unfold passMark at h
  split at h
  · obtain ⟨behind, -, h⟩ := Option.bind_eq_some_iff.mp h
    split at h
    · obtain rfl := Option.some.inj h
      exact Nat.le_refl _
    · obtain rfl := Option.some.inj h
      exact Nat.le_succ _
  · obtain rfl := Option.some.inj h
    exact Nat.le_refl _

/-- Behind a token, there are no more characters to come than behind its first one. -/
theorem length_pass_le {text : String} {depth start : Nat} {c : Char} {rest : List (Nat × Char)} {p : Passed}
    (h : pass text depth start c rest = some (some p)) : p.rest.length ≤ rest.length := by
  unfold pass at h
  -- one case for each way a token can begin, in the order of `pass`
  by_cases hcomment : c = '#'
  · cases (if_pos hcomment).symm.trans h
    exact length_passWhile_le _ _ _
  rw [if_neg hcomment] at h
  by_cases hclass : c = '['
  · cases (if_pos hclass).symm.trans h
    exact length_passQuoted_le _ _ _ _
  rw [if_neg hclass] at h
  by_cases hliteral : c = '\'' ∨ c = '"'
  · obtain ⟨q, hq, hp⟩ := Option.bind_eq_some_iff.mp ((if_pos hliteral).symm.trans h)
    cases hp
    exact Nat.le_trans (length_passMark_le hq) (length_passQuoted_le _ _ _ _)
  rw [if_neg hliteral] at h
  by_cases hopen : c = '('
  · cases (if_pos hopen).symm.trans h
    exact Nat.le_refl _
  rw [if_neg hopen] at h
  by_cases hclose : c = ')'
  · cases (if_pos hclose).symm.trans h
    exact Nat.le_refl _
  rw [if_neg hclose] at h
  by_cases hdirective : c = '%'
  · cases (if_pos hdirective).symm.trans h
    exact length_passWhile_le _ _ _
  rw [if_neg hdirective] at h
  by_cases hname : isNameStart c = true
  · obtain ⟨after, -, hp⟩ := Option.bind_eq_some_iff.mp ((if_pos hname).symm.trans h)
    cases hp
    exact length_passWhile_le _ _ _
  rw [if_neg hname] at h
  by_cases hoperator : isOperator c = true
  · cases (if_pos hoperator).symm.trans h
    exact Nat.le_refl _
  · cases (if_neg hoperator).symm.trans h

/-! ### The scan -/

/-- The layout of a text whose first `flushed` bytes are laid out in `l` already, and of which `chars` are still to come.
It is none if a piece of the text was asked for that there is not. -/
def scan (text : String) (l : Layout) (flushed depth : Nat) : (chars : List (Nat × Char)) → Option Layout
  | [] =>
    if flushed < text.utf8ByteSize then do
      let plain ← slice? text flushed text.utf8ByteSize
      return l.append plain .plain
    else return l
  | (start, c) :: rest =>
    match h : pass text depth start c rest with
    | none => none
    | some none => scan text l flushed depth rest
    | some (some p) => do
      let plain ← slice? text flushed start
      let token ← slice? text start p.stop
      have := length_pass_le h
      scan text ((l.append plain .plain).append token p.tone) p.stop p.depth p.rest
  termination_by chars => chars.length
  decreasing_by all_goals simp only [List.length_cons]; omega

/-- The layout of a grammar. -/
def layOut (text : String) : Option Layout := scan text {} 0 0 (indexed 0 text.toList)

end GrammarStudio.Highlight
