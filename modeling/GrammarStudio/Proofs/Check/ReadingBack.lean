import GrammarStudio.Check.Report
import GrammarStudio.Proofs.Diagnostics.Markup

/-!
# Reports in HTML can be read back

A report in HTML holds texts that an engine wrote: messages of errors, and artifacts.  Whatever they say, they cannot
pass for a part of the report itself.  The report is seen in two ways here: as a template that is filled in, and as a
row of tags.  In the first all marks stand in the template; from the second the errors and the artifacts are read.

* `ErrorItem.parts`, `sectionParts`, `artifactParts`, `Options.parts` — what a report is put together from;
* `Options.template`, `Options.safe_parts` — what of it is fixed, and that the rest is without marks;
* `ErrorItem.tags`, `sectionTags`, `artifactTags`, `Options.tags_htmlReport` — the tags of a report;
* `Reading`, `Reading.step` — what is read of a report, tag by tag;
* `Options.ofReport_htmlReport` — all of it is read;
* `Options.htmlReport_uniquely_read` — texts of an engine cannot forge a report.
-/

namespace GrammarStudio

open Diagnostics Editor

/-! ### Rows -/

namespace Diagnostics

/-- Does the tag begin a row? -/
def Tag.isRow (t : Tag) : Bool := ['l', 'i'].isPrefixOf t.inside.toList

namespace ErrorItem

/-- What stands in every row, with a reference or without. -/
def template (referenced : Bool) : List String :=
  ["<li data-ln=\"", "\" data-col=\""] ++ (if referenced then ["\" data-gln=\"", "\" data-gcol=\""] else []) ++
    ["\"><span>", "</span> <span>", "</span></li>"]

/-- A row as parts. -/
def parts (item : ErrorItem) : List Part :=
  [.markup "<li data-ln=\"", .filled item.location.line.repr, .markup "\" data-col=\"",
      .filled item.location.col.repr] ++
    (match item.origin with
      | some l => [.markup "\" data-gln=\"", .filled l.line.repr, .markup "\" data-gcol=\"", .filled l.col.repr]
      | none => []) ++
    [.markup "\"><span>", .filled item.label, .markup "</span> <span>", .filled (escape item.message),
      .markup "</span></li>"]

theorem join_parts (item : ErrorItem) : String.join (item.parts.map Part.text) = item.html := by
  cases h : item.origin <;>
    simp [parts, html, attributes, dataAttribute, h, Part.text, String.intercalate_cons_cons, ← String.toList_inj]

theorem markup_parts (item : ErrorItem) : item.parts.filterMap Part.markup? = template item.origin.isSome := by
  cases h : item.origin <;> simp [parts, template, h, Part.markup?, List.filterMap]

theorem unmarked_label (item : ErrorItem) : Unmarked item.label :=
  ((unmarked_repr _).append (by decide)).append (unmarked_repr _)

theorem safe_parts (item : ErrorItem) : ∀ p ∈ item.parts, p.Safe := by
  cases h : item.origin <;>
    simp [parts, h, Part.Safe, unmarked_repr, unmarked_escape, unmarked_label]

/-- What is inside the tag that begins a row. -/
def tag (item : ErrorItem) : String := "li " ++ " ".intercalate item.attributes

/-- The tags of a row. -/
def tags (item : ErrorItem) : List Tag :=
  [⟨item.tag, ""⟩, ⟨"span", item.label⟩, ⟨"/span", " "⟩, ⟨"span", escape item.message⟩, ⟨"/span", ""⟩, ⟨"/li", ""⟩]

theorem join_tags (item : ErrorItem) : String.join (item.tags.map Tag.html) = item.html := by
  simp [tags, tag, html, Tag.html, ← String.toList_inj]

/-- The tag of a row, cut at the quotes. -/
theorem pieces_tag (item : ErrorItem) :
    (⟨item.tag, ""⟩ : Tag).pieces =
      ["li data-ln=", item.location.line.repr, " data-col=", item.location.col.repr] ++
        (match item.origin with
          | some l => [" data-gln=", l.line.repr, " data-gcol=", l.col.repr]
          | none => []) ++ [""] := by
  refine Tag.pieces_eq ?_ (by simp) ?_
  · cases h : item.origin <;>
      simp [tag, attributes, dataAttribute, h, String.intercalate_cons_cons, ← String.toList_inj]
  · have hnumber := not_mem_toDigits (c := '"') rfl
    cases h : item.origin <;> simp [hnumber]

/-- A row begins once. -/
theorem filter_tags (item : ErrorItem) : item.tags.filter Tag.isRow = [⟨item.tag, ""⟩] := by
  simp [tags, tag, Tag.isRow]

/-- Numbers cannot end the tag that they stand in. -/
theorem no_bracket_tag (item : ErrorItem) : '<' ∉ item.tag.toList ∧ '>' ∉ item.tag.toList := by
  have hopen := not_mem_toDigits (c := '<') rfl
  have hclose := not_mem_toDigits (c := '>') rfl
  cases h : item.origin <;>
    simp [tag, attributes, dataAttribute, h, String.intercalate_cons_cons, hopen, hclose]

theorem plain_tags (item : ErrorItem) : ∀ t ∈ item.tags, t.Plain := by
  have hspan : Unmarked "span" := by decide
  have hclosed : Unmarked "/span" := by decide
  have hend : Unmarked "/li" := by decide
  simp only [tags, List.forall_mem_cons]
  exact ⟨⟨item.no_bracket_tag, unmarked_empty⟩, hspan.plain item.unmarked_label, hclosed.plain (by decide),
    hspan.plain (unmarked_escape _), hclosed.plain unmarked_empty, hend.plain unmarked_empty, List.forall_mem_nil _⟩

end ErrorItem

end Diagnostics

/-! ### Sections and artifacts -/

namespace Check

/-- What is inside the tag that begins an element with an identity. -/
def opening (tag id : String) : String := tag ++ " id=\"" ++ id ++ "\""

theorem pieces_opening {tag id : String} (htag : Unmarked tag) (hid : Unmarked id) (behind : String) :
    (⟨opening tag id, behind⟩ : Tag).pieces = [tag ++ " id=", id, ""] := by
  have htag : '"' ∉ tag.toList := htag.not_mem rfl
  have hid : '"' ∉ id.toList := hid.not_mem rfl
  refine Tag.pieces_eq ?_ (by simp) ?_
  · simp [opening, String.intercalate_cons_cons, ← String.toList_inj]
  · simp [htag, hid]

theorem plain_opening {tag id behind : String} (htag : Unmarked tag) (hid : Unmarked id) (h : Unmarked behind) :
    (⟨opening tag id, behind⟩ : Tag).Plain := by
  refine ⟨?_, h⟩
  simp [opening, htag.no_bracket, hid.no_bracket]

/-- What stands in a section, with a row for each flag: does it have a reference? -/
def sectionTemplate (id : String) (referenced : List Bool) : List String :=
  ["<section id=\"" ++ id ++ "\">", "<ul>"] ++ referenced.flatMap ErrorItem.template ++ ["</ul>", "</section>\n"]

/-- A section as parts. -/
def sectionParts (id : String) (items : List ErrorItem) : List Part :=
  [.markup ("<section id=\"" ++ id ++ "\">"), .markup "<ul>"] ++ items.flatMap ErrorItem.parts ++
    [.markup "</ul>", .markup "</section>\n"]

/-- The tags of a section. -/
def sectionTags (id : String) (items : List ErrorItem) : List Tag :=
  [⟨opening "section" id, ""⟩, ⟨"ul", ""⟩] ++ items.flatMap ErrorItem.tags ++ [⟨"/ul", ""⟩, ⟨"/section", "\n"⟩]

theorem join_sectionParts (id : String) (items : List ErrorItem) :
    String.join ((sectionParts id items).map Part.text) = Options.element "section" id (listHtml items) := by
  have hrows := join_map_flatMap ErrorItem.parts Part.text ErrorItem.html ErrorItem.join_parts items
  simp only [sectionParts, List.map_append, String.join_append, hrows]
  simp [Options.element, listHtml, Part.text, ← String.toList_inj]

theorem join_sectionTags (id : String) (items : List ErrorItem) :
    String.join ((sectionTags id items).map Tag.html) = Options.element "section" id (listHtml items) := by
  have hrows := join_map_flatMap ErrorItem.tags Tag.html ErrorItem.html ErrorItem.join_tags items
  simp only [sectionTags, List.map_append, String.join_append, hrows]
  simp [Options.element, opening, listHtml, Tag.html, ← String.toList_inj]

theorem markup_sectionParts (id : String) (items : List ErrorItem) :
    (sectionParts id items).filterMap Part.markup? = sectionTemplate id (items.map (·.origin.isSome)) := by
  have hrows : (items.flatMap ErrorItem.parts).filterMap Part.markup?
      = (items.map (·.origin.isSome)).flatMap ErrorItem.template := by
    rw [List.filterMap_flatMap, List.flatMap_map]
    exact congrArg (items.flatMap ·) (funext ErrorItem.markup_parts)
  rw [sectionParts, List.filterMap_append, List.filterMap_append, hrows]
  rfl

theorem safe_sectionParts (id : String) (items : List ErrorItem) : ∀ p ∈ sectionParts id items, p.Safe := by
  simp only [sectionParts, List.forall_mem_append, List.forall_mem_cons, List.forall_mem_flatMap]
  exact ⟨⟨⟨trivial, trivial, List.forall_mem_nil _⟩, fun item _ => item.safe_parts⟩, trivial, trivial,
    List.forall_mem_nil _⟩

theorem plain_sectionTags {id : String} (hid : Unmarked id) (items : List ErrorItem) :
    ∀ t ∈ sectionTags id items, t.Plain := by
  simp only [sectionTags, List.forall_mem_append, List.forall_mem_cons, List.forall_mem_flatMap]
  have hlist : Unmarked "ul" := by decide
  have hlistEnd : Unmarked "/ul" := by decide
  have hend : Unmarked "/section" := by decide
  exact ⟨⟨⟨plain_opening (by decide) hid unmarked_empty, hlist.plain unmarked_empty, List.forall_mem_nil _⟩,
    fun item _ => item.plain_tags⟩, hlistEnd.plain unmarked_empty, hend.plain (by decide), List.forall_mem_nil _⟩

/-- The rows of a section are those of its errors. -/
theorem filter_sectionTags (id : String) (items : List ErrorItem) :
    (sectionTags id items).filter Tag.isRow = items.map fun item => ⟨item.tag, ""⟩ := by
  have hrows : (items.flatMap ErrorItem.tags).filter Tag.isRow = items.map fun item => ⟨item.tag, ""⟩ := by
    rw [List.filter_flatMap, List.map_eq_flatMap]
    exact congrArg (items.flatMap ·) (funext ErrorItem.filter_tags)
  rw [sectionTags, List.filter_append, List.filter_append, hrows]
  simp [opening, Tag.isRow]

/-- What stands around an artifact. -/
def artifactTemplate (name : String) : List String := ["<pre id=\"" ++ name ++ "\">", "</pre>\n"]

def artifactParts (a : Artifact) : List Part :=
  [.markup ("<pre id=\"" ++ a.name ++ "\">"), .filled (escape a.text), .markup "</pre>\n"]

def artifactTags (a : Artifact) : List Tag := [⟨opening "pre" a.name, escape a.text⟩, ⟨"/pre", "\n"⟩]

theorem join_artifactParts (a : Artifact) :
    String.join ((artifactParts a).map Part.text) = Options.element "pre" a.name (escape a.text) := by
  simp [artifactParts, Options.element, Part.text, ← String.toList_inj]

theorem join_artifactTags (a : Artifact) :
    String.join ((artifactTags a).map Tag.html) = Options.element "pre" a.name (escape a.text) := by
  simp [artifactTags, Options.element, opening, Tag.html, ← String.toList_inj]

/-- No artifact has a row. -/
theorem filter_artifactTags (artifacts : List Artifact) : (artifacts.flatMap artifactTags).filter Tag.isRow = [] := by
  rw [List.filter_flatMap, List.flatMap_eq_nil_iff]
  exact fun a _ => by simp [artifactTags, opening, Tag.isRow]

theorem safe_artifactParts (a : Artifact) : ∀ p ∈ artifactParts a, p.Safe := by
  simp only [artifactParts, List.forall_mem_cons]
  exact ⟨trivial, unmarked_escape a.text, trivial, List.forall_mem_nil _⟩

theorem plain_artifactTags {a : Artifact} (h : Unmarked a.name) : ∀ t ∈ artifactTags a, t.Plain := by
  simp only [artifactTags, List.forall_mem_cons]
  have hend : Unmarked "/pre" := by decide
  exact ⟨plain_opening (by decide) h (unmarked_escape a.text), hend.plain (by decide), List.forall_mem_nil _⟩

namespace Options

variable (o : Options) (view : View)

/-- The names of the artifacts that were asked for. -/
def artifactNames : List String := (if o.ast then ["ast"] else []) ++ if o.profile then ["profile"] else []

theorem names_artifacts : (o.artifacts view).map Artifact.name = o.artifactNames := by
  cases hast : o.ast <;> cases hprofile : o.profile <;> simp [artifacts, artifactNames, hast, hprofile]

theorem unmarked_artifactNames : ∀ name ∈ o.artifactNames, Unmarked name := by
  have hast : Unmarked "ast" := by decide
  have hprofile : Unmarked "profile" := by decide
  unfold artifactNames
  split <;> split <;> simp [hast, hprofile]

theorem unmarked_name {a : Artifact} (h : a ∈ o.artifacts view) : Unmarked a.name :=
  o.unmarked_artifactNames _ (o.names_artifacts view ▸ List.mem_map_of_mem h)

/-- **The template of a report**, for documents whose errors have references or not. -/
def template (referenced : Document → List Bool) : List String :=
  sectionTemplate "grammar-info" (referenced .grammar) ++ sectionTemplate "code-info" (referenced .code) ++
    o.artifactNames.flatMap artifactTemplate

/-- A report as parts. -/
def parts : List Part :=
  sectionParts "grammar-info" (view.items .grammar) ++ sectionParts "code-info" (view.items .code) ++
    (o.artifacts view).flatMap artifactParts

/-- The tags of a report. -/
def tags : List Tag :=
  sectionTags "grammar-info" (view.items .grammar) ++ sectionTags "code-info" (view.items .code) ++
    (o.artifacts view).flatMap artifactTags

theorem join_parts : String.join ((o.parts view).map Part.text) = o.htmlReport view := by
  simp only [parts, List.map_append, String.join_append, join_sectionParts, htmlReport]
  rw [join_map_flatMap artifactParts Part.text _ join_artifactParts]

theorem join_tags : String.join ((o.tags view).map Tag.html) = o.htmlReport view := by
  simp only [tags, List.map_append, String.join_append, join_sectionTags, htmlReport]
  rw [join_map_flatMap artifactTags Tag.html _ join_artifactTags]

theorem markup_parts :
    (o.parts view).filterMap Part.markup? = o.template fun d => (view.items d).map (·.origin.isSome) := by
  have hartifacts : ((o.artifacts view).flatMap artifactParts).filterMap Part.markup?
      = o.artifactNames.flatMap artifactTemplate := by
    rw [List.filterMap_flatMap, ← names_artifacts o view, List.flatMap_map]
    rfl
  rw [parts, List.filterMap_append, List.filterMap_append, markup_sectionParts, markup_sectionParts, hartifacts]
  rfl

/-- Nothing that is filled in has a mark. -/
theorem safe_parts : ∀ p ∈ o.parts view, p.Safe := by
  simp only [parts, List.forall_mem_append, List.forall_mem_flatMap]
  exact ⟨⟨safe_sectionParts _ _, safe_sectionParts _ _⟩, fun a _ => safe_artifactParts a⟩

theorem plain_tags : ∀ t ∈ o.tags view, t.Plain := by
  simp only [tags, List.forall_mem_append, List.forall_mem_flatMap]
  exact ⟨⟨plain_sectionTags (by decide) _, plain_sectionTags (by decide) _⟩,
    fun a ha => plain_artifactTags (o.unmarked_name view ha)⟩

/-- **These are its tags**, where its text is cut at the brackets. -/
theorem tags_htmlReport : Diagnostics.tags (o.htmlReport view) = o.tags view := by
  rw [← join_tags]
  exact tags_join (o.plain_tags view)

end Options

/-! ### Reading -/

/-- What has been read of a report.  The tags are read from the last one to the first, so a row comes after what it
holds and a section after its rows. -/
structure Reading where
  /-- The texts of the spans behind which no row has come yet. -/
  spans : List String := []
  /-- The rows behind which no section has come yet. -/
  rows : List ErrorItem := []
  lists : List (List ErrorItem) := []
  artifacts : List Artifact := []
  deriving DecidableEq, Repr

namespace Reading

/-- The number that some digits write. -/
def number (digits : String) : Nat := Nat.ofDigitChars 10 digits.toList 0

@[simp] theorem number_repr (n : Nat) : number n.repr = n := by
  rw [number, Nat.toList_repr, Nat.ofDigitChars_ten_toDigits]

/-- The beginning of a row: its message is in the second of its spans. -/
def row (r : Reading) (location : Analysis.Location) (origin : Option Analysis.Location) : Reading :=
  match r.spans with
  | [_, message] => { r with spans := [], rows := ⟨location, readEscaped message, origin⟩ :: r.rows }
  | _ => r

/-- Reads one more tag. -/
def step (t : Tag) (r : Reading) : Reading :=
  match t.pieces with
  | ["span"] => { r with spans := t.behind :: r.spans }
  | ["li data-ln=", line, " data-col=", col, ""] => r.row ⟨number line, number col⟩ none
  | ["li data-ln=", line, " data-col=", col, " data-gln=", gln, " data-gcol=", gcol, ""] =>
    r.row ⟨number line, number col⟩ (some ⟨number gln, number gcol⟩)
  | ["section id=", _, ""] => { r with rows := [], lists := r.rows :: r.lists }
  | ["pre id=", name, ""] => { r with artifacts := ⟨name, readEscaped t.behind⟩ :: r.artifacts }
  | _ => r

/-- Reads a report. -/
def ofReport (report : String) : Reading := (tags report).foldr step {}

theorem step_span (text : String) (r : Reading) : step ⟨"span", text⟩ r = { r with spans := text :: r.spans } := by
  rw [step, Tag.pieces_of_unquoted (by decide)]
  rfl

/-- Any other tag without a value says nothing. -/
theorem step_of_unquoted {inside : String} (h : '"' ∉ inside.toList) (hspan : inside ≠ "span") (behind : String)
    (r : Reading) : step ⟨inside, behind⟩ r = r := by
  rw [step, Tag.pieces_of_unquoted h]
  simp [hspan]

theorem step_tag (item : ErrorItem) (r : Reading) :
    step ⟨item.tag, ""⟩ r = r.row item.location item.origin := by
  rw [step, item.pieces_tag]
  cases item.origin <;> simp

/-- A row is read from its tags. -/
theorem foldr_row (item : ErrorItem) {r : Reading} (h : r.spans = []) :
    item.tags.foldr step r = { r with rows := item :: r.rows } := by
  have hclosed (text : String) (r : Reading) : step ⟨"/span", text⟩ r = r :=
    step_of_unquoted (by decide) (by decide) text r
  have hend (r : Reading) : step ⟨"/li", ""⟩ r = r := step_of_unquoted (by decide) (by decide) "" r
  simp only [ErrorItem.tags, List.foldr_cons, List.foldr_nil, step_span, step_tag, hclosed, hend, row, h,
    readEscaped_escape]

/-- Rows are read from their tags, in their order. -/
theorem foldr_rows (items : List ErrorItem) {r : Reading} (h : r.spans = []) :
    (items.flatMap ErrorItem.tags).foldr step r = { r with rows := items ++ r.rows } := by
  induction items with
  | nil => rfl
  | cons item rest ih =>
    rw [List.flatMap_cons, List.foldr_append, ih]
    exact foldr_row item h

/-- A section is read from its tags, if all rows behind it have their section. -/
theorem foldr_section {id : String} (hid : Unmarked id) (items : List ErrorItem) {r : Reading} (h : r.spans = [])
    (hrows : r.rows = []) : (sectionTags id items).foldr step r = { r with lists := items :: r.lists } := by
  have hlist (r : Reading) : step ⟨"ul", ""⟩ r = r := step_of_unquoted (by decide) (by decide) "" r
  have hlistEnd (r : Reading) : step ⟨"/ul", ""⟩ r = r := step_of_unquoted (by decide) (by decide) "" r
  have hend (r : Reading) : step ⟨"/section", "\n"⟩ r = r := step_of_unquoted (by decide) (by decide) "\n" r
  have hsection (r : Reading) :
      step ⟨opening "section" id, ""⟩ r = { r with rows := [], lists := r.rows :: r.lists } := by
    rw [step, pieces_opening (by decide) hid]
    simp
  simp only [sectionTags, List.foldr_append, List.foldr_cons, List.foldr_nil, hlistEnd, hend, foldr_rows items h, hlist,
    hsection, hrows, List.append_nil]

theorem foldr_artifact {a : Artifact} (h : Unmarked a.name) (r : Reading) :
    (artifactTags a).foldr step r = { r with artifacts := a :: r.artifacts } := by
  have hend (r : Reading) : step ⟨"/pre", "\n"⟩ r = r := step_of_unquoted (by decide) (by decide) "\n" r
  have hbegin (r : Reading) :
      step ⟨opening "pre" a.name, escape a.text⟩ r = { r with artifacts := a :: r.artifacts } := by
    rw [step, pieces_opening (by decide) h]
    simp
  simp only [artifactTags, List.foldr_cons, List.foldr_nil, hend, hbegin]

theorem foldr_artifacts {artifacts : List Artifact} (h : ∀ a ∈ artifacts, Unmarked a.name) (r : Reading) :
    (artifacts.flatMap artifactTags).foldr step r = { r with artifacts := artifacts ++ r.artifacts } := by
  induction artifacts with
  | nil => rfl
  | cons a rest ih =>
    rw [List.flatMap_cons, List.foldr_append, ih fun a ha => h a (List.mem_cons_of_mem _ ha)]
    exact foldr_artifact (h a List.mem_cons_self) _

end Reading

namespace Options

/-- **A report can be read back.** -/
theorem ofReport_htmlReport (o : Options) (view : View) :
    Reading.ofReport (o.htmlReport view) =
      { lists := [view.items .grammar, view.items .code], artifacts := o.artifacts view } := by
  have hartifacts := Reading.foldr_artifacts (fun a => o.unmarked_name view) {}
  have hcode : Unmarked "code-info" := by decide
  have hgrammar : Unmarked "grammar-info" := by decide
  rw [Reading.ofReport, tags_htmlReport, tags, List.foldr_append, List.foldr_append, hartifacts,
    Reading.foldr_section hcode (view.items .code) rfl rfl,
    Reading.foldr_section hgrammar (view.items .grammar) rfl rfl, List.append_nil]

/-- **The rows of a report** are those of its errors, one for each, in their order. -/
theorem rows_htmlReport (o : Options) (view : View) :
    ((Diagnostics.tags (o.htmlReport view)).filter Tag.isRow).map Tag.inside =
      (view.items .grammar ++ view.items .code).map ErrorItem.tag := by
  rw [tags_htmlReport, tags, List.filter_append, List.filter_append, filter_sectionTags, filter_sectionTags,
    filter_artifactTags, List.append_nil, ← List.map_append, List.map_map]
  rfl

/-- **Texts of an engine cannot forge a report.**  All reports in HTML are put together from a template, which depends
on the options and on which errors have a reference, and on nothing else, and from texts without marks: so all marks in
a report are those of the template.  The tags that begin a row are those of the errors of both documents, one for each,
in their order.  The errors of both documents and the artifacts that were asked for can be read from the report; so two
views with one report, for the same options, have the same errors and the same of these artifacts. -/
theorem htmlReport_uniquely_read (o : Options) (view : View) :
    let report := o.htmlReport view
    (∃ parts : List Part, String.join (parts.map Part.text) = report ∧ (∀ p ∈ parts, p.Safe) ∧
        parts.filterMap Part.markup? = o.template fun d => (view.items d).map (·.origin.isSome)) ∧
      ((Diagnostics.tags report).filter Tag.isRow).map Tag.inside =
        (view.items .grammar ++ view.items .code).map ErrorItem.tag ∧
      Reading.ofReport report =
        { lists := [view.items .grammar, view.items .code], artifacts := o.artifacts view } ∧
      ∀ other : View, o.htmlReport other = report →
        (∀ d, other.items d = view.items d) ∧ o.artifacts other = o.artifacts view := by
  intro report
  have hread := o.ofReport_htmlReport view
  refine ⟨⟨o.parts view, o.join_parts view, o.safe_parts view, o.markup_parts view⟩, o.rows_htmlReport view, hread,
    fun other hother => ?_⟩
  have hsame := (o.ofReport_htmlReport other).symm.trans ((congrArg Reading.ofReport hother).trans hread)
  simp only [Reading.mk.injEq, List.cons.injEq, true_and, and_true] at hsame
  obtain ⟨⟨hgrammar, hcode⟩, hartifacts⟩ := hsame
  refine ⟨fun d => ?_, hartifacts⟩
  cases d with
  | grammar => exact hgrammar
  | code => exact hcode

/-- A message that looks like rows of its own and a tree that looks like the end of its element: there is one row, and
both texts are read. -/
theorem htmlReport_uniquely_read_forged :
    let o : Options := { grammar := "g", ast := true, format := .html }
    let item : ErrorItem := ⟨⟨1, 20⟩, "</span></li><li data-ln=\"9\">&lt;&amp;", some ⟨3, 4⟩⟩
    let view : View := { grammarErrors := [item], astOptimized := "</pre><ul>" }
    let other : View := { view with profile := "not asked for" }
    let report := o.htmlReport view
    ((Diagnostics.tags report).filter Tag.isRow).length = 1 ∧
      Reading.ofReport report = { lists := [[item], []], artifacts := [⟨"ast", "</pre><ul>"⟩] } ∧
      o.htmlReport other = report ∧ ∀ d, other.items d = view.items d := by
  intro o item view other report
  obtain ⟨-, hrows, hread, hsame⟩ := htmlReport_uniquely_read o view
  have hone := congrArg List.length hrows
  rw [List.length_map] at hone
  exact ⟨hone, hread, rfl, (hsame other rfl).1⟩

end Options

end Check

end GrammarStudio
