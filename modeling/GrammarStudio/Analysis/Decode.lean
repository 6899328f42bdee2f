import GrammarStudio.Json.Reader
import GrammarStudio.Analysis.Report

/-!
# Reading the report of an engine

An engine answers with a JSON document in a loose dialect: members may have a second name, an object may be written as
the array of its members, a reference needs both of its halves to count, and what describes the text is left out when
the grammar is unusable.  Reading is all or nothing: the first check that fails, in a fixed order, is the error.

* `DecodeError` — the three causes, with `DecodeError.message`;
* `RawEntry`, `RawReport` — the shapes, with the values still unchecked;
* `decode` — the report a text spells.

The members that describe the text are kept as they are until the grammar is known to be usable.  Kept values must
still be plain: see `Json.plain`.  The values of unknown members need only be JSON.
-/

namespace GrammarStudio.Analysis

/-! ### Errors -/

/-- The numbers of an entry, by the names they have in a document. -/
inductive PositionField where
  | ln
  | col
  | gln
  | gcol
  deriving DecidableEq, Repr

def PositionField.name : PositionField → String
  | .ln => "ln"
  | .col => "col"
  | .gln => "gln"
  | .gcol => "gcol"

/-- The members that describe the text. -/
inductive SourceField where
  | code
  | sourceValid
  | ast
  | astOptimized
  | profile
  deriving DecidableEq, Repr

def SourceField.name : SourceField → String
  | .code => "code"
  | .sourceValid => "source_valid"
  | .ast => "ast"
  | .astOptimized => "astOptimized"
  | .profile => "profile"

inductive DecodeError where
  /-- The text is no document, or the document does not have the shape of a report. -/
  | malformed
  /-- The grammar is usable and a member that describes the text is absent. -/
  | missing (field : SourceField)
  /-- A line or column that is not at least one. -/
  | badPosition (field : PositionField) (value : Int)
  deriving DecidableEq, Repr

/-- What a person is told.  Of a text that is no report the library that reads documents has its own account. -/
def DecodeError.message (account : String) : DecodeError → String
  | .malformed => "malformed engine response: " ++ account
  | .missing field => "engine response is missing `" ++ field.name ++ "`"
  | .badPosition field value =>
    "engine response has invalid `" ++ field.name ++ "` position " ++ toString value

/-! ### Members of an object -/

/-- A member of an object, under the text of its name. -/
abbrev Member := String × Json

/-- The members with the texts of their names; none when a name is no text. -/
def named (members : List (List Json.StringPart × Json)) : Option (List Member) :=
  members.mapM fun m => (Json.StringPart.text? m.1).map (·, m.2)

/-- The one member that has one of these names: a document in which two have one is refused. -/
def only (names : List String) (members : List Member) : Option (Option Json) :=
  match members.filter fun m => names.contains m.1 with
  | [] => some none
  | [m] => some (some m.2)
  | _ => none

def bool? : Json → Option Bool
  | .bool b => some b
  | _ => none

def text? : Json → Option String
  | .string parts => Json.StringPart.text? parts
  | _ => none

def integer? : Json → Option Int
  | .number n => n.integer?
  | _ => none

/-- An integer that may be absent; a null is absent too. -/
def optionalInteger? : Option Json → Option (Option Int)
  | none => some none
  | some .null => some none
  | some v => (integer? v).map some

/-! ### Entries -/

/-- An entry whose numbers are not checked yet. -/
structure RawEntry where
  ln : Int
  col : Int
  message : String
  gln : Option Int
  gcol : Option Int
  deriving DecidableEq, Repr

namespace RawEntry

/-- An entry from its five values. -/
def build (ln col message gln gcol : Option Json) : Option RawEntry := do
  let ln ← integer? (← ln)
  let col ← integer? (← col)
  let message ← text? (← message)
  let gln ← optionalInteger? gln
  let gcol ← optionalInteger? gcol
  some ⟨ln, col, message, gln, gcol⟩

/-- An entry written as an object.  Three of its members have a second name. -/
def ofMembers (members : List Member) : Option RawEntry := do
  let ln ← only ["ln", "line"] members
  let col ← only ["col"] members
  let message ← only ["msg", "message"] members
  let gln ← only ["gln", "refLine"] members
  let gcol ← only ["gcol", "refCol"] members
  build ln col message gln gcol

/-- An entry written as an array; the reference may be left out from the end. -/
def ofItems : List Json → Option RawEntry
  | [ln, col, message] => build ln col message none none
  | [ln, col, message, gln] => build ln col message gln none
  | [ln, col, message, gln, gcol] => build ln col message gln gcol
  | _ => none

def ofJson? : Json → Option RawEntry
  | .object members => named members >>= ofMembers
  | .array items => ofItems items
  | _ => none

/-- The entries of the grammar's list. -/
def listOfJson? : Json → Option (List RawEntry)
  | .array items => items.mapM ofJson?
  | _ => none

/-- The entries of the text's list.  It has been kept as a value, in which a name that is repeated has its last member
only. -/
def listOfKept? : Json → Option (List RawEntry)
  | .array items => items.mapM fun v => ofJson? v.lastWins
  | _ => none

end RawEntry

/-- A number that counts from one. -/
def position (field : PositionField) (value : Int) : Except DecodeError Nat :=
  if 1 ≤ value then .ok value.toNat else .error (.badPosition field value)

/-- Checks the numbers of an entry, in order.  Half of a reference is no reference and is not checked. -/
def RawEntry.check (raw : RawEntry) : Except DecodeError Entry := do
  let line ← position .ln raw.ln
  let col ← position .col raw.col
  match raw.gln, raw.gcol with
  | some gln, some gcol =>
    let refLine ← position .gln gln
    let refCol ← position .gcol gcol
    .ok ⟨⟨line, col⟩, raw.message, some ⟨refLine, refCol⟩⟩
  | _, _ => .ok ⟨⟨line, col⟩, raw.message, none⟩

/-! ### The document -/

/-- How deep the containers of a kept value may nest. -/
def keptDepth : Nat := 126

/-- A document of the right shape. -/
structure RawReport where
  grammarValid : Bool
  grammar : List RawEntry
  sourceValid : Option Json
  code : Option Json
  ast : Option Json
  astOptimized : Option Json
  profile : Option Json

namespace RawReport

/-- A value to be looked at later; a null is absent. -/
def kept? : Option Json → Option (Option Json)
  | none => some none
  | some .null => some none
  | some v => if v.plain keptDepth then some (some v) else none

/-- A document from its seven values. -/
def build (grammarValid grammar sourceValid code ast astOptimized profile : Option Json) : Option RawReport := do
  let grammarValid ← bool? (← grammarValid)
  let grammar ← RawEntry.listOfJson? (← grammar)
  let sourceValid ← kept? sourceValid
  let code ← kept? code
  let ast ← kept? ast
  let astOptimized ← kept? astOptimized
  let profile ← kept? profile
  some { grammarValid, grammar, sourceValid, code, ast, astOptimized, profile }

def ofMembers (members : List Member) : Option RawReport := do
  let grammarValid ← only ["grammar_valid"] members
  let grammar ← only ["grammar"] members
  let sourceValid ← only [SourceField.sourceValid.name] members
  let code ← only [SourceField.code.name] members
  let ast ← only [SourceField.ast.name] members
  let astOptimized ← only [SourceField.astOptimized.name] members
  let profile ← only [SourceField.profile.name] members
  build grammarValid grammar sourceValid code ast astOptimized profile

/-- A document written as an array; what describes the text may be left out from the end. -/
def ofItems (items : List Json) : Option RawReport :=
  if items.length ≤ 7 then build items[0]? items[1]? items[2]? items[3]? items[4]? items[5]? items[6]? else none

def ofJson? : Json → Option RawReport
  | .object members => named members >>= ofMembers
  | .array items => ofItems items
  | _ => none

end RawReport

/-- A value that a usable grammar requires. -/
def require {α : Type} (field : SourceField) (value : Option Json) (read : Json → Option α) : Except DecodeError α :=
  match value with
  | none => .error (.missing field)
  | some v =>
    match read v with
    | none => .error .malformed
    | some a => .ok a

/-- Checks a document: the grammar's entries, and then, if the grammar is usable, the members that describe the
text. -/
def RawReport.report (doc : RawReport) : Except DecodeError Report := do
  let grammarErrors ← doc.grammar.mapM RawEntry.check
  if doc.grammarValid then
    let raw ← require .code doc.code RawEntry.listOfKept?
    let errors ← raw.mapM RawEntry.check
    let valid ← require .sourceValid doc.sourceValid bool?
    let ast ← require .ast doc.ast text?
    let astOptimized ← require .astOptimized doc.astOptimized text?
    let profile ← require .profile doc.profile text?
    .ok ⟨grammarErrors, some { valid, errors, ast, astOptimized, profile }⟩
  else .ok ⟨grammarErrors, none⟩

/-- The report that a text spells. -/
def decode (text : String) : Except DecodeError Report :=
  match Json.parse? text >>= RawReport.ofJson? with
  | none => .error .malformed
  | some doc => doc.report

end GrammarStudio.Analysis
