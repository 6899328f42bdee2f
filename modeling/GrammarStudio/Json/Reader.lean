import GrammarStudio.Json.Token

/-!
# Reading a JSON document

The reader takes one token after the other.  What it has read of the containers around the current place lies on a
list of frames, so that a document may nest as deep as its text is long.

* `Frame`, `Reader` — a container still open, and where the reader stands;
* `Reader.step` — what one token does;
* `parse?` — the document a text spells, if it is one document and nothing else.
-/

namespace GrammarStudio.Json

/-- A container that is still open, with what it holds so far, last first. -/
inductive Frame where
  /-- An array. -/
  | items (done : List Json)
  /-- An object between two members. -/
  | members (done : List (List StringPart × Json))
  /-- An object in which the value of `name` is awaited. -/
  | member (done : List (List StringPart × Json)) (name : List StringPart)

/-- What may come next. -/
inductive Reader where
  /-- A value. -/
  | value (frames : List Frame)
  /-- A value, or the end of the array just opened. -/
  | itemOrClose (frames : List Frame)
  /-- A member name. -/
  | name (frames : List Frame)
  /-- A member name, or the end of the object just opened. -/
  | nameOrClose (frames : List Frame)
  /-- The colon behind a member name. -/
  | colon (frames : List Frame)
  /-- A comma or the end of the innermost container. -/
  | more (frames : List Frame)
  /-- Nothing: the document is complete. -/
  | complete (v : Json)

namespace Reader

/-- A value ends: it goes into the innermost container, or it is the document. -/
def put (v : Json) : List Frame → Option Reader
  | [] => some (.complete v)
  | .items done :: frames => some (.more (.items (v :: done) :: frames))
  | .member done key :: frames => some (.more (.members ((key, v) :: done) :: frames))
  | .members _ :: _ => none

/-- A value begins. -/
def begin (frames : List Frame) : Token → Option Reader
  | .null => put .null frames
  | .bool b => put (.bool b) frames
  | .number n => put (.number n) frames
  | .string parts => put (.string parts) frames
  | .openArray => some (.itemOrClose (.items [] :: frames))
  | .openObject => some (.nameOrClose (.members [] :: frames))
  | _ => none

/-- The innermost container ends. -/
def close (t : Token) (frames : List Frame) : Option Reader :=
  match t, frames with
  | .closeArray, .items done :: frames => put (.array done.reverse) frames
  | .closeObject, .members done :: frames => put (.object done.reverse) frames
  | _, _ => none

/-- A member name is read. -/
def beginMember (parts : List StringPart) : List Frame → Option Reader
  | .members done :: frames => some (.colon (.member done parts :: frames))
  | _ => none

/-- What one token does. -/
def step : Reader → Token → Option Reader
  | .value frames, t => begin frames t
  | .itemOrClose frames, .closeArray => close .closeArray frames
  | .itemOrClose frames, t => begin frames t
  | .name frames, .string parts => beginMember parts frames
  | .nameOrClose frames, .string parts => beginMember parts frames
  | .nameOrClose frames, .closeObject => close .closeObject frames
  | .colon frames, .colon => some (.value frames)
  | .more (.items done :: frames), .comma => some (.value (.items done :: frames))
  | .more (.members done :: frames), .comma => some (.name (.members done :: frames))
  | .more frames, t => close t frames
  | _, _ => none

/-- The document, when it is complete. -/
def document? : Reader → Option Json
  | .complete v => some v
  | _ => none

/-- Reads a text to its end. -/
def run (r : Reader) (cs : List Char) : Option Json :=
  match _found : nextToken cs with
  | .finished => r.document?
  | .malformed => none
  | .token t rest =>
    match r.step t with
    | some r' => run r' rest
    | none => none
  termination_by cs.length
  decreasing_by exact length_of_nextToken ‹_›

end Reader

/-- The document a text spells, if the text is one document with blanks around it. -/
def parse? (text : String) : Option Json := Reader.run (.value []) text.toList

end GrammarStudio.Json
