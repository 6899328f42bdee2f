import GrammarStudio.Analysis.Decode
import GrammarStudio.Proofs.Json.Grammar
import Mathlib.Data.List.Forall2

/-!
# The texts that spell a report

One report has many texts.  A record may be an object, with its members in any order, under either name of a field and
among members that are no fields; or an array, which may stop before fields that are absent.  This file says which
documents and texts those are, without reading any of them.

* `RecordSpelled` — the documents of a record, given the values of its fields;
* `OriginSpelled` — the values that a cross reference may have, and those of a missing one;
* `EntrySpelled`, `SourceSpelled`, `ReportSpelled` — the documents of a report and of its parts;
* `Spelled` — the texts of a report;
* `Fits`, `Report.InRange` — the integers that are read, and the reports that can be written with them.
-/

namespace GrammarStudio.Analysis

/-! ### Records -/

/-- A field of a record: the names that it may stand under, and its value unless it is absent. -/
abbrev Field := List String × Option Json

/-- The members that hold the fields of a record, each under one of its names. -/
inductive FieldMembers : List Field → List Member → Prop
  | nil : FieldMembers [] []
  | absent {names : List String} {fields : List Field} {ms : List Member} : FieldMembers fields ms →
      FieldMembers ((names, none) :: fields) ms
  | present {names : List String} {name : String} {v : Json} {fields : List Field} {ms : List Member} :
      name ∈ names → FieldMembers fields ms → FieldMembers ((names, some v) :: fields) ((name, v) :: ms)

/-- Members of other names than those of the fields, with values of some kind. -/
def OtherMembers (extra : Json → Prop) (fields : List Field) (ms : List Member) : Prop :=
  ∀ m ∈ ms, (∀ f ∈ fields, m.1 ∉ f.1) ∧ extra m.2

/-- The object with these members. -/
def objectOf (ms : List Member) : Json := .object (ms.map fun m => (Json.StringPart.ofText m.1, m.2))

/-- The string with this text. -/
def stringOf (text : String) : Json := .string (Json.StringPart.ofText text)

/-- The documents of a record.  Members that are no fields hold values of the kind `extra`. -/
inductive RecordSpelled (extra : Json → Prop) (fields : List Field) : Json → Prop
  | object {known others members : List Member} : FieldMembers fields known → OtherMembers extra fields others →
      members.Perm (known ++ others) → RecordSpelled extra fields (objectOf members)
  | array {items : List Json} {absent : Nat} :
      fields.map Prod.snd = items.map some ++ List.replicate absent none → RecordSpelled extra fields (.array items)

/-! ### Entries -/

section Spelling

-- The integers that half of a cross reference may hold when the other half is missing.
variable (half : Int → Prop)

/-- A missing half of a cross reference. -/
def HalfMissing (v : Option Json) : Prop := v = none ∨ v = some .null

/-- Half of a cross reference whose other half is missing. -/
def HalfSpelled (v : Option Json) : Prop := HalfMissing v ∨ ∃ i, half i ∧ v = some (.ofInt i)

/-- The values of the two halves of a cross reference.  Without one of them there is no reference. -/
inductive OriginSpelled : Option Location → Option Json → Option Json → Prop
  | whole (l : Location) : OriginSpelled (some l) (some (.ofInt l.line)) (some (.ofInt l.col))
  | noCol {gln gcol : Option Json} : HalfSpelled half gln → HalfMissing gcol → OriginSpelled none gln gcol
  | noLine {gln gcol : Option Json} : HalfMissing gln → HalfSpelled half gcol → OriginSpelled none gln gcol

/-- The fields of an entry. -/
def entryFields (e : Entry) (gln gcol : Option Json) : List Field :=
  [(["ln", "line"], some (.ofInt e.location.line)), (["col"], some (.ofInt e.location.col)),
    (["msg", "message"], some (stringOf e.message)), (["gln", "refLine"], gln), (["gcol", "refCol"], gcol)]

/-- The documents of an entry. -/
inductive EntrySpelled (extra : Json → Prop) (e : Entry) : Json → Prop
  | mk {gln gcol : Option Json} {v : Json} : OriginSpelled half e.origin gln gcol →
      RecordSpelled extra (entryFields e gln gcol) v → EntrySpelled extra e v

/-! ### Reports -/

/-- The fields that describe the text. -/
def sourceFields (valid code ast astOptimized profile : Option Json) : List Field :=
  [(["source_valid"], valid), (["code"], code), (["ast"], ast), (["astOptimized"], astOptimized),
    (["profile"], profile)]

/-- What the fields that describe the text may be.  Next to an unusable grammar they are absent, or left over with any
plain values.  What an entry holds lies two containers below the value that is kept. -/
inductive SourceSpelled : Option SourceReport → List Field → Prop
  | usable {s : SourceReport} {code : List Json} :
      List.Forall₂ (EntrySpelled half fun v => v.plain (keptDepth - 2) = true) s.errors code →
      SourceSpelled (some s) (sourceFields (some (.bool s.valid)) (some (.array code)) (some (stringOf s.ast))
        (some (stringOf s.astOptimized)) (some (stringOf s.profile)))
  | unusable {valid code ast astOptimized profile : Option Json} :
      (∀ left ∈ [valid, code, ast, astOptimized, profile], ∀ v, left = some v → v.plain keptDepth = true) →
      SourceSpelled none (sourceFields valid code ast astOptimized profile)

/-- The fields of a report, in order. -/
def reportFields (r : Report) (grammar : List Json) (source : List Field) : List Field :=
  (["grammar_valid"], some (.bool r.grammarValid)) :: (["grammar"], some (.array grammar)) :: source

/-- The documents of a report. -/
inductive ReportSpelled (r : Report) : Json → Prop
  | mk {grammar : List Json} {source : List Field} {v : Json} :
      List.Forall₂ (EntrySpelled half fun _ => True) r.grammarErrors grammar → SourceSpelled half r.source source →
      RecordSpelled (fun _ => True) (reportFields r grammar source) v → ReportSpelled r v

/-- The texts of a report. -/
def Spelled (r : Report) (text : String) : Prop := ∃ v, ReportSpelled half r v ∧ Json.Padded v text.toList

end Spelling

/-! ### Reports that can be written -/

/-- The integers that fit 64 bits with a sign. -/
def Fits (i : Int) : Prop := Json.minInt ≤ i ∧ i ≤ Json.maxInt

instance (i : Int) : Decidable (Fits i) := inferInstanceAs (Decidable (_ ∧ _))

/-- A line or column that counts from one and fits. -/
def CountsFromOne (n : Nat) : Prop := 1 ≤ n ∧ Fits n

instance (n : Nat) : Decidable (CountsFromOne n) := inferInstanceAs (Decidable (_ ∧ _))

def Location.InRange (l : Location) : Prop := CountsFromOne l.line ∧ CountsFromOne l.col

instance (l : Location) : Decidable l.InRange := inferInstanceAs (Decidable (_ ∧ _))

def Entry.InRange (e : Entry) : Prop := e.location.InRange ∧ ∀ l, e.origin = some l → l.InRange

/-- The lines and columns of a report are those that a document can write. -/
def Report.InRange (r : Report) : Prop := ∀ e ∈ r.grammarErrors ++ r.codeErrors, e.InRange

end GrammarStudio.Analysis
