import GrammarStudio.Diagnostics.View

/-!
# Markup and the texts in it

Three characters are the marks of HTML: the brackets around a tag and the quotes around a value in it.  A text that is
escaped has no marks, nor has a number, so no such text can begin a tag or end one, whatever it says.  And it can be
read back: no two texts are escaped alike.

* `isMark`, `Unmarked` — the marks, and the texts without;
* `unmarked_escape`, `readEscaped_escape` — an escaped text has no marks, and tells which text it is of;
* `Part`, `Part.text` — a piece of a document, from its template or filled in;
* `Tag`, `tags` — the tags of a document, each with the text behind it;
* `tags_join` — the tags of a document that is written tag by tag;
* `Tag.pieces` — what is inside a tag, cut at the quotes.
-/

namespace GrammarStudio.Diagnostics

/-! ### Marks -/

/-- Does the character begin or end a tag, or a value in one? -/
def isMark (c : Char) : Bool := c == '<' || c == '>' || c == '"'

/-- There is no mark in the text. -/
def Unmarked (text : String) : Prop := ∀ c ∈ text.toList, isMark c = false

/-- One look at each character decides it. -/
instance (text : String) : Decidable (Unmarked text) :=
  decidable_of_iff (text.toList.all (fun c => !isMark c) = true) (by simp [Unmarked])

theorem Unmarked.append {first second : String} (h : Unmarked first) (h' : Unmarked second) :
    Unmarked (first ++ second) := by
  intro c hc
  rw [String.toList_append, List.mem_append] at hc
  exact hc.elim (h c) (h' c)

theorem Unmarked.not_mem {text : String} (h : Unmarked text) {c : Char} (hc : isMark c = true) : c ∉ text.toList := by
  intro hmem
  rw [h c hmem] at hc
  cases hc

theorem Unmarked.no_bracket {text : String} (h : Unmarked text) : '<' ∉ text.toList ∧ '>' ∉ text.toList :=
  ⟨h.not_mem rfl, h.not_mem rfl⟩

/-- No character is escaped by a mark. -/
theorem all_escapeChar (c : Char) : (escapeChar c).all (fun d => !isMark d) = true := by
  unfold escapeChar
  split
  case h_6 hlt hgt hquot _ => simpa [isMark] using ⟨⟨hlt, hgt⟩, hquot⟩
  all_goals decide

/-- **An escaped text has no marks.** -/
theorem unmarked_escape (text : String) : Unmarked (escape text) := by
  intro c hc
  rw [escape, String.toList_ofList, List.mem_flatMap] at hc
  obtain ⟨d, -, hd⟩ := hc
  simpa using List.all_eq_true.mp (all_escapeChar d) c hd

/-- No mark is a digit. -/
theorem not_mem_toDigits {c : Char} (hc : isMark c = true) (n : Nat) : c ∉ Nat.toDigits 10 n := by
  intro hmem
  have hdigit : c.isDigit = true := Nat.isDigit_of_mem_toDigits (by decide) (by decide) hmem
  simp only [isMark, Bool.or_eq_true, beq_iff_eq] at hc
  obtain (rfl | rfl) | rfl := hc <;> exact absurd hdigit (by decide)

/-- Nor has a number. -/
theorem unmarked_repr (n : Nat) : Unmarked n.repr := by
  intro c hc
  rw [Nat.toList_repr] at hc
  exact Bool.eq_false_iff.mpr fun hmark => not_mem_toDigits hmark n hc

theorem unmarked_empty : Unmarked "" := by decide

/-! ### Reading an escaped text -/

/-- The text that is escaped so. -/
def unescape : List Char → List Char
  | '&' :: 'a' :: 'm' :: 'p' :: ';' :: rest => '&' :: unescape rest
  | '&' :: 'l' :: 't' :: ';' :: rest => '<' :: unescape rest
  | '&' :: 'g' :: 't' :: ';' :: rest => '>' :: unescape rest
  | '&' :: 'q' :: 'u' :: 'o' :: 't' :: ';' :: rest => '"' :: unescape rest
  | '&' :: '#' :: '0' :: '3' :: '9' :: ';' :: rest => '\'' :: unescape rest
  | c :: rest => c :: unescape rest
  | [] => []

theorem unescape_cons {c : Char} (h : c ≠ '&') (rest : List Char) : unescape (c :: rest) = c :: unescape rest := by
  conv =>
    lhs
    unfold unescape
  split <;> simp_all

/-- One character. -/
theorem unescape_escapeChar (c : Char) (rest : List Char) : unescape (escapeChar c ++ rest) = c :: unescape rest := by
  unfold escapeChar
  split
  case h_6 hamp _ _ _ _ => exact unescape_cons hamp rest
  all_goals rfl

theorem unescape_flatMap (text : List Char) : unescape (text.flatMap escapeChar) = text := by
  induction text with
  | nil => rfl
  | cons c rest ih => rw [List.flatMap_cons, unescape_escapeChar, ih]

/-- The text that is escaped as this one. -/
def readEscaped (text : String) : String := String.ofList (unescape text.toList)

/-- **An escaped text can be read back**, whatever it says. -/
@[simp] theorem readEscaped_escape (text : String) : readEscaped (escape text) = text := by
  rw [readEscaped, escape, String.toList_ofList, unescape_flatMap, String.ofList_toList]

/-! ### Templates -/

/-- A piece of a document: it stands in the template, or it was filled in. -/
inductive Part where
  | markup (text : String)
  | filled (text : String)
  deriving DecidableEq, Repr

namespace Part

def text : Part → String
  | markup text => text
  | filled text => text

/-- What the template has here. -/
def markup? : Part → Option String
  | markup text => some text
  | filled _ => none

/-- A part that was filled in is without marks. -/
def Safe : Part → Prop
  | markup _ => True
  | filled text => Unmarked text

end Part

/-- Parts that are put together piece by piece make up what the pieces make up. -/
theorem join_map_flatMap {α β : Type} (pieces : α → List β) (text : β → String) (html : α → String)
    (h : ∀ a, String.join ((pieces a).map text) = html a) (items : List α) :
    String.join ((items.flatMap pieces).map text) = String.join (items.map html) := by
  induction items with
  | nil => rfl
  | cons a rest ih =>
    rw [List.flatMap_cons, List.map_append, String.join_append, h, ih, List.map_cons, String.join_cons]

/-! ### Tags -/

/-- A tag, by what stands between its brackets, and the text behind it, up to the next tag. -/
structure Tag where
  inside : String
  behind : String := ""
  deriving DecidableEq, Repr

namespace Tag

def html (t : Tag) : String := "<" ++ t.inside ++ ">" ++ t.behind

/-- A tag from what stands between two opening brackets. -/
def cut (text : List Char) : Tag :=
  ⟨String.ofList (text.takeWhile (· ≠ '>')), String.ofList ((text.dropWhile (· ≠ '>')).drop 1)⟩

/-- Brackets are nowhere but around the tag. -/
structure Plain (t : Tag) : Prop where
  inside : '<' ∉ t.inside.toList ∧ '>' ∉ t.inside.toList
  behind : Unmarked t.behind

/-- What is inside, cut at the quotes: the values in it stand at every second place. -/
def pieces (t : Tag) : List String := (t.inside.toList.splitOn '"').map String.ofList

/-- What the tag is without its opening bracket. -/
def chunk (t : Tag) : List Char := t.inside.toList ++ '>' :: t.behind.toList

theorem toList_html (t : Tag) : t.html.toList = '<' :: t.chunk := by
  simp [html, chunk]

theorem cut_chunk {t : Tag} (h : t.Plain) : cut t.chunk = t := by
  have hinside : ∀ c ∈ t.inside.toList, decide (c ≠ '>') = true := by
    intro c hc
    exact decide_eq_true fun heq => h.inside.2 (heq ▸ hc)
  have htake : t.chunk.takeWhile (· ≠ '>') = t.inside.toList := by
    rw [chunk, List.takeWhile_append_of_pos hinside]
    simp
  have hdrop : t.chunk.dropWhile (· ≠ '>') = '>' :: t.behind.toList := by
    rw [chunk, List.dropWhile_append_of_pos hinside]
    simp
  rw [cut, htake, hdrop]
  simp

theorem Plain.not_mem_chunk {t : Tag} (h : t.Plain) : '<' ∉ t.chunk := by
  rw [chunk, List.mem_append, List.mem_cons]
  rintro (hmem | heq | hmem)
  · exact h.inside.1 hmem
  · cases heq
  · exact h.behind.not_mem rfl hmem

/-- The pieces of a tag that is written from them. -/
theorem pieces_eq {t : Tag} {ps : List String} (written : t.inside = "\"".intercalate ps) (hne : ps ≠ [])
    (unquoted : ∀ p ∈ ps, '"' ∉ p.toList) : t.pieces = ps := by
  have hcut : t.inside.toList.splitOn '"' = ps.map String.toList := by
    rw [written, String.toList_intercalate]
    refine List.splitOn_intercalate '"' (fun l hl => ?_) (by simpa using hne)
    obtain ⟨p, hp, rfl⟩ := List.mem_map.mp hl
    exact unquoted p hp
  rw [pieces, hcut, List.map_map]
  exact (List.map_congr_left fun p _ => String.ofList_toList).trans (List.map_id ps)

/-- A tag without quotes is one piece. -/
theorem pieces_of_unquoted {inside : String} (h : '"' ∉ inside.toList) (behind : String) :
    (⟨inside, behind⟩ : Tag).pieces = [inside] :=
  pieces_eq String.intercalate_singleton.symm (by simp) (by simpa using h)

end Tag

/-- A tag without values has no brackets but its own. -/
theorem Unmarked.plain {inside behind : String} (h : Unmarked inside) (h' : Unmarked behind) :
    (⟨inside, behind⟩ : Tag).Plain := ⟨h.no_bracket, h'⟩

/-- The tags of a document: each begins at an opening bracket. -/
def tags (text : String) : List Tag := ((text.toList.splitOn '<').drop 1).map Tag.cut

/-- A cut at a character. -/
theorem splitOn_append_cons {c : Char} {first : List Char} (h : c ∉ first) (rest : List Char) :
    (first ++ c :: rest).splitOn c = first :: rest.splitOn c := by
  have hother : ∀ d ∈ first, (d == c) = false := fun d hd => beq_eq_false_iff_ne.mpr fun heq => h (heq ▸ hd)
  exact List.splitOnP_append_cons_of_forall_mem hother c (beq_self_eq_true c) rest

/-- A document that is written tag by tag is cut into these tags. -/
theorem splitOn_join {before : List Char} (hbefore : '<' ∉ before) {ts : List Tag} (h : ∀ t ∈ ts, t.Plain) :
    (before ++ (String.join (ts.map Tag.html)).toList).splitOn '<' = before :: ts.map Tag.chunk := by
  induction ts generalizing before with
  | nil =>
    show (before ++ []).splitOn '<' = [before]
    rw [List.append_nil, List.splitOn_eq_singleton hbefore]
  | cons t rest ih =>
    have hchunk := (h t List.mem_cons_self).not_mem_chunk
    have hrest := ih hchunk fun t' ht' => h t' (List.mem_cons_of_mem _ ht')
    rw [List.map_cons, List.map_cons, ← hrest, String.join_cons, String.toList_append, Tag.toList_html,
      List.cons_append, splitOn_append_cons hbefore]

/-- **The tags of a document that is written tag by tag** are these tags. -/
theorem tags_join {ts : List Tag} (h : ∀ t ∈ ts, t.Plain) : tags (String.join (ts.map Tag.html)) = ts := by
  have hsplit := splitOn_join List.not_mem_nil h
  rw [List.nil_append] at hsplit
  rw [tags, hsplit, List.drop_one, List.tail_cons, List.map_map]
  exact (List.map_congr_left fun t ht => Tag.cut_chunk (h t ht)).trans (List.map_id ts)

end GrammarStudio.Diagnostics
