import GrammarStudio.Text.Letters

/-!
# Grammar text in sections

Grammar text is cut into sections of one tone each.  A section begins where a token begins: a comment, a quoted
literal, a character class, a parenthesis, a name, a directive or an operator.  What lies between two tokens is one
plain section.  Any text can be cut; a token that is not closed ends with its line or with the text.

* `Color` — three channels, with `Color.hex`;
* `Tone` — what a piece of text is, and `Tone.color`;
* `token` — the token at a character, if one begins there;
* `sections` — the sections of a grammar;
* `plainSections` — those of any other text.

Parentheses take their color from their depth, so that the two of a pair look alike and nested pairs differ.
-/

namespace GrammarStudio.Highlight

open Text

/-! ### Colors -/

/-- A color by its channels. -/
structure Color where
  red : Nat
  green : Nat
  blue : Nat
  deriving DecidableEq, Repr, Inhabited

namespace Color

/-- A channel in two hexadecimal digits. -/
def channelHex (n : Nat) : List Char := [Nat.digitChar (n / 16 % 16), Nat.digitChar (n % 16)]

/-- A color in six hexadecimal digits. -/
def hex (c : Color) : String := String.ofList (channelHex c.red ++ channelHex c.green ++ channelHex c.blue)

example : (⟨220, 120, 9⟩ : Color).hex = "dc7809" := by decide

end Color

/-- What a piece of text is. -/
inductive Tone where
  | plain
  | comment
  | literal
  | charClass
  | definition
  | reference
  | directive
  | operator
  | paren (depth : Nat)
  deriving DecidableEq, Repr

/-- The colors of parentheses, by depth; behind the last the first comes again. -/
def rainbow : List Color :=
  [⟨255, 100, 100⟩, ⟨255, 200, 0⟩, ⟨255, 255, 0⟩, ⟨50, 255, 50⟩, ⟨50, 200, 255⟩, ⟨200, 100, 255⟩, ⟨255, 100, 200⟩]

def Tone.color : Tone → Color
  | .plain => ⟨220, 220, 220⟩
  | .comment => ⟨90, 120, 90⟩
  | .literal => ⟨206, 145, 120⟩
  | .charClass => ⟨215, 186, 125⟩
  | .definition => ⟨86, 156, 214⟩
  | .reference => ⟨156, 220, 254⟩
  | .directive => ⟨197, 134, 192⟩
  | .operator => ⟨212, 212, 212⟩
  | .paren depth => rainbow.getD (depth % rainbow.length) default

/-! ### Sections -/

/-- A piece of text of one tone. -/
structure Section where
  text : String
  tone : Tone
  deriving DecidableEq, Repr

/-! ### Tokens -/

/-- May the character stand in a name, behind the first? -/
def isNameChar (c : Char) : Bool := isAlphabetic c || isNumeric c || c == '_'

/-- May the character begin a name? -/
def isNameStart (c : Char) : Bool := isAlphabetic c || c == '_'

def isOperator (c : Char) : Bool := "<-←/*+?&!.~$^|".toList.contains c

/-- How many characters of `rest` a quoted token has that ends with `close`.  A backslash takes the meaning from the
character behind it; a line feed without one ends the token too. -/
def quotedLength (close : Char) : (escaped : Bool) → (rest : List Char) → Nat
  | _, [] => 0
  | true, _ :: rest => quotedLength close false rest + 1
  | false, c :: rest =>
    if c = '\\' then quotedLength close true rest + 1
    else if c = close ∨ c = '\n' then 1
    else quotedLength close false rest + 1

/-- The length of the mark behind a literal that makes it ignore case. -/
def markLength : List Char → Nat
  | 'i' :: c :: _ => if isNameChar c then 0 else 1
  | ['i'] => 1
  | _ => 0

/-- The length of a name, behind its first character. -/
def nameLength (rest : List Char) : Nat := (rest.takeWhile isNameChar).length

/-- Does an arrow follow, so that the name before it is defined here? -/
def startsDefinition (rest : List Char) : Bool :=
  match rest.dropWhile fun c => c == ' ' || c == '\t' with
  | '<' :: '-' :: _ => true
  | '←' :: _ => true
  | _ => false

/-- A token: its tone, how many characters it has behind the first, and the depth of parentheses behind it. -/
structure Token where
  tone : Tone
  length : Nat
  depth : Nat
  deriving DecidableEq, Repr

/-- The token that begins with `c`, if one does, at a depth of parentheses.  A closing parenthesis has the depth of
its opening one; one without stays at the outside. -/
def token (depth : Nat) (c : Char) (rest : List Char) : Option Token :=
  if c = '#' then some ⟨.comment, (rest.takeWhile (· ≠ '\n')).length, depth⟩
  else if c = '[' then some ⟨.charClass, quotedLength ']' false rest, depth⟩
  else if c = '\'' ∨ c = '"' then
    let n := quotedLength c false rest
    some ⟨.literal, n + markLength (rest.drop n), depth⟩
  else if c = '(' then some ⟨.paren depth, 0, depth + 1⟩
  else if c = ')' then some ⟨.paren (depth - 1), 0, depth - 1⟩
  else if c = '%' then some ⟨.directive, nameLength rest, depth⟩
  else if isNameStart c then
    let n := nameLength rest
    some ⟨if startsDefinition (rest.drop n) then .definition else .reference, n, depth⟩
  else if isOperator c then some ⟨.operator, 0, depth⟩
  else none

/-! ### Sections -/

/-- One plain section, unless it would be empty. -/
def plainSections (text : List Char) : List Section :=
  if text.isEmpty then [] else [⟨String.ofList text, .plain⟩]

/-- The sections from a depth on, behind plain characters, which come last first. -/
def sectionsFrom (depth : Nat) (plain : List Char) : List Char → List Section
  | [] => plainSections plain.reverse
  | c :: rest =>
    match token depth c rest with
    | none => sectionsFrom depth (c :: plain) rest
    | some t =>
      plainSections plain.reverse ++
        ⟨String.ofList (c :: rest.take t.length), t.tone⟩ :: sectionsFrom t.depth [] (rest.drop t.length)
  termination_by rest => rest.length
  decreasing_by all_goals simp only [List.length_drop, List.length_cons]; omega

/-- The sections of a grammar. -/
def sections (text : String) : List Section := sectionsFrom 0 [] text.toList

/-- The characters of sections, put together again. -/
def chars (parts : List Section) : List Char := parts.flatMap fun s => s.text.toList

@[simp] theorem chars_plainSections (text : List Char) : chars (plainSections text) = text := by
  unfold plainSections
  split
  · simp_all [chars]
  · simp [chars]

@[simp] theorem chars_append (a b : List Section) : chars (a ++ b) = chars a ++ chars b := by
  simp [chars]

@[simp] theorem chars_cons (s : Section) (parts : List Section) :
    chars (s :: parts) = s.text.toList ++ chars parts := rfl

end GrammarStudio.Highlight
