import GrammarStudio.Toml.Scalar

/-!
# TOML documents

A document is a sequence of lines: headers, and keys with their values.  Values nest, keys have parts, and neither
goes too far.  What it spells is a table.  Besides its entries a table remembers how it came about, for that decides
what may still be added to it: a table under a header is complete, a table made on the way to a header can get a header
of its own, a table made by a dotted key grows by dotted keys only, and an inline table does not grow at all.

* `Made`, `Node`, `Entries` — the values and tables;
* `Entries.within` — a change of the table at the end of a path;
* `Entries.define`, `Entries.openTable`, `Entries.openItem` — the three ways a document grows, each of which refuses what
  would define a thing twice;
* `dottedKey` — a key, by its parts;
* `value` — a value, at most so many levels deep;
* `parse?` — the entries of a document.
-/

namespace GrammarStudio.Toml

/-! ### Tables -/

/-- How a table came about. -/
inductive Made where
  /-- By a header of its own, or as the document. -/
  | header
  /-- On the way to another header. -/
  | implied
  /-- On the way along a dotted key. -/
  | dotted
  /-- Between braces. -/
  | inline
  deriving DecidableEq, Repr

/-- A value, or a table of the document. -/
inductive Node where
  | text (value : String)
  /-- A number or a truth value. -/
  | scalar
  /-- A date, a time of day, or both. -/
  | moment
  | array (items : List Node)
  | table (made : Made) (entries : List (String × Node))
  /-- The tables of one repeated header, the latest first. -/
  | tables (latest : List (String × Node)) (earlier : List (List (String × Node)))
  deriving Inhabited, Repr

abbrev Entries := List (String × Node)

/-- The longest dotted key has fewer parts, and values nest less deep. -/
def depthLimit : Nat := 80

namespace Entries

/-- Puts a node under a key, over the one that was there. -/
def put (key : String) (node : Node) : Entries → Entries
  | [] => [(key, node)]
  | (k, n) :: rest => if k = key then (key, node) :: rest else (k, n) :: put key node rest

/-- A way to change a table, given how it came about. -/
abbrev Change := Made → Entries → Option Entries

/-- Changes the table at the end of a path, and makes the tables on the way.  A dotted path only goes through tables
that no header has made; any path goes through the latest table of a repeated header. -/
def within (dotted : Bool) (change : Change) : List String → Change
  | [], made, entries => change made entries
  | key :: path, _, entries =>
    match entries.lookup key with
    | none => do
      let made := if dotted then .dotted else .implied
      some (put key (.table made (← within dotted change path made [])) entries)
    | some (.table .inline _) => none
    | some (.table made sub) =>
      if dotted && made == .header then none
      else do some (put key (.table made (← within dotted change path made sub)) entries)
    | some (.tables latest earlier) => do
      some (put key (.tables (← within dotted change path .header latest) earlier) entries)
    | some _ => none

/-- Puts a value under a new key.  Only dotted keys reach into tables that dotted keys have made, and into no other. -/
def addValue (path : List String) (key : String) (node : Node) : Change := fun made entries =>
  if (made == .dotted) == path.isEmpty then none
  else
    match entries.lookup key with
    | some _ => none
    | none => some (entries ++ [(key, node)])

/-- Defines a key of the table under a header.  The path is what stands before the last dot. -/
def define (header : List String) (path : List String) (key : String) (node : Node) (doc : Entries) : Option Entries :=
  within false (within true (addValue path key node) path) header .header doc

/-- Opens the table of a header. -/
def openTable (path : List String) (key : String) (doc : Entries) : Option Entries :=
  within false (fun _ entries =>
    match entries.lookup key with
    | none => some (put key (.table .header []) entries)
    | some (.table .implied sub) => some (put key (.table .header sub) entries)
    | some _ => none) path .header doc

/-- Opens another table of a repeated header. -/
def openItem (path : List String) (key : String) (doc : Entries) : Option Entries :=
  within false (fun _ entries =>
    match entries.lookup key with
    | none => some (put key (.tables [] []) entries)
    | some (.tables latest earlier) => some (put key (.tables [] (latest :: earlier)) entries)
    | some _ => none) path .header doc

/-- The table between braces, from its keys and values. -/
def ofPairs (pairs : List (List String × String × Node)) : Option Entries :=
  pairs.foldlM (fun entries p => define [] p.1 p.2.1 p.2.2 entries) []

end Entries

/-! ### Reading -/

/-! ### Keys -/

def isBareKeyChar (c : Char) : Bool := c.isAlphanum || c == '_' || c == '-'

/-- One part of a key: between quotes, or of plain characters. -/
def keyPart : List Char → Option (String × List Char)
  | '"' :: rest => (basic rest).map fun (text, rest) => (String.ofList text, rest)
  | '\'' :: rest => (literal rest).map fun (text, rest) => (String.ofList text, rest)
  | s =>
    match s.takeWhile isBareKeyChar with
    | [] => none
    | part => some (String.ofList part, s.dropWhile isBareKeyChar)

/-- The parts of a key, with blanks around each. -/
def keyParts (s : List Char) : Option (List String × List Char) := do
  let (part, rest) ← keyPart (skipSpace s)
  match skipSpace rest with
  | '.' :: next =>
    if next.length < s.length then do
      let (parts, rest) ← keyParts next
      some (part :: parts, rest)
    else none
  | rest => some ([part], rest)
  termination_by s.length

/-- A key: the parts before the last dot, and the last part. -/
structure Key where
  path : List String
  last : String

/-- A key that is not too long. -/
def dottedKey (s : List Char) : Option (Key × List Char) := do
  let (parts, rest) ← keyParts s
  if parts.length < depthLimit then
    match parts.reverse with
    | last :: path => some (⟨path.reverse, last⟩, rest)
    | [] => none
  else none

/-! ### Values -/

/-- A reader of one value. -/
abbrev Reader (α : Type) := List Char → Option (α × List Char)

/-- The items of an array, from behind its bracket or a comma.  A comma may stand behind the last one. -/
def arrayItems (item : Reader Node) (s : List Char) : Option (List Node × List Char) :=
  match skipBlank s with
  | ']' :: rest => some ([], rest)
  | start => do
    let (node, rest) ← item start
    match skipBlank rest with
    | ']' :: rest => some ([node], rest)
    | ',' :: next =>
      if next.length < s.length then do
        let (nodes, rest) ← arrayItems item next
        some (node :: nodes, rest)
      else none
    | _ => none
  termination_by s.length

/-- A key with its value. -/
def pair (item : Reader Node) : Reader (Key × Node) := fun s => do
  let (key, rest) ← dottedKey s
  match rest with
  | '=' :: rest => do
    let (node, rest) ← item (skipSpace rest)
    some ((key, node), skipSpace rest)
  | _ => none

/-- The pairs between braces, from behind a comma or the brace.  No comma stands behind the last one. -/
def inlinePairs (item : Reader Node) (s : List Char) : Option (List (Key × Node) × List Char) := do
  let (p, rest) ← pair item s
  match rest with
  | '}' :: rest => some ([p], rest)
  | ',' :: next =>
    if next.length < s.length then do
      let (ps, rest) ← inlinePairs item next
      some (p :: ps, rest)
    else none
  | _ => none
  termination_by s.length

/-- A value with at most so many levels of arrays and inline tables. -/
def value : (levels : Nat) → Reader Node
  | _, '"' :: '"' :: '"' :: rest => (basicLines rest).map fun (text, rest) => (.text (String.ofList text), rest)
  | _, '"' :: rest => (basic rest).map fun (text, rest) => (.text (String.ofList text), rest)
  | _, '\'' :: '\'' :: '\'' :: rest => (literalLines rest).map fun (text, rest) => (.text (String.ofList text), rest)
  | _, '\'' :: rest => (literal rest).map fun (text, rest) => (.text (String.ofList text), rest)
  | 0, '[' :: _ => none
  | 0, '{' :: _ => none
  | levels + 1, '[' :: rest => (arrayItems (value levels) rest).map fun (nodes, rest) => (.array nodes, rest)
  | levels + 1, '{' :: rest =>
    match skipSpace rest with
    | '}' :: rest => some (.table .inline [], rest)
    | start => do
      let (pairs, rest) ← inlinePairs (value levels) start
      let entries ← Entries.ofPairs (pairs.map fun p => (p.1.path, p.1.last, p.2))
      some (.table .inline entries, rest)
  | _, s => (scalar s).map fun (kind, rest) =>
      match kind with
      | .plain => (.scalar, rest)
      | .moment => (.moment, rest)

/-! ### Documents -/

/-- A document, as far as it has been read: its entries, and the header that is open. -/
structure State where
  doc : Entries := []
  header : List String := []

/-- A header between its brackets, and the line behind it. -/
def header (open_ : List String → String → Entries → Option Entries) (closing : List Char) (st : State)
    (s : List Char) : Option (State × List Char) := do
  let (key, rest) ← dottedKey s
  if closing.isPrefixOf rest then
    let rest ← lineEnd (rest.drop closing.length)
    let doc ← open_ key.path key.last st.doc
    some (⟨doc, key.path ++ [key.last]⟩, rest)
  else none

/-- One line that is not blank. -/
def line (st : State) : Reader State
  | '[' :: '[' :: rest => header Entries.openItem [']', ']'] st rest
  | '[' :: rest => header Entries.openTable [']'] st rest
  | s => do
    let ((key, node), rest) ← pair (value (depthLimit - 1)) s
    let rest ← lineEnd rest
    let doc ← Entries.define st.header key.path key.last node st.doc
    some ({ st with doc }, rest)

/-- The lines of a document. -/
def linesFrom (st : State) (s : List Char) : Option Entries :=
  match skipBlank s with
  | [] => some st.doc
  | start => do
    let (st, rest) ← line st start
    if rest.length < s.length then linesFrom st rest else none
  termination_by s.length

/-- The entries of a document.  A byte order mark before it is passed over. -/
def parse? (text : String) : Option Entries :=
  match text.toList with
  | '\uFEFF' :: rest => linesFrom {} rest
  | s => linesFrom {} s

end GrammarStudio.Toml
