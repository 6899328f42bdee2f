import GrammarStudio.Store.Entries
import GrammarStudio.Json.Reader

/-!
# Entries as a JSON object

A map of texts is written as a JSON object over several lines, each member on a line of its own behind two spaces.  It
is read from any JSON object whose values are all strings; of a repeated name the last member counts.

* `quote` — a text as a JSON string;
* `render` — the object of a map;
* `parse?` — the map of an object.
-/

namespace GrammarStudio.Store.Entries

/-- A hexadecimal digit, in lower case. -/
def hexDigit (n : Nat) : Char := Nat.digitChar n

/-- How a character is written inside a string: quotes, backslashes and the characters below space are escaped, the
common ones by a letter. -/
def quoteChar : Char → List Char
  | '"' => ['\\', '"']
  | '\\' => ['\\', '\\']
  | '\x08' => ['\\', 'b']
  | '\x0c' => ['\\', 'f']
  | '\n' => ['\\', 'n']
  | '\r' => ['\\', 'r']
  | '\t' => ['\\', 't']
  | c => if c.toNat < 0x20 then ['\\', 'u', '0', '0', hexDigit (c.toNat / 16), hexDigit (c.toNat % 16)] else [c]

/-- A text as a JSON string. -/
def quote (text : String) : List Char := '"' :: (text.toList.flatMap quoteChar ++ ['"'])

/-- A member on its line. -/
def renderMember (p : String × String) : List Char := [' ', ' '] ++ quote p.1 ++ [':', ' '] ++ quote p.2

/-- The members of a map, with the line breaks between them. -/
def renderMembers : Entries → List Char
  | [] => []
  | [p] => renderMember p
  | p :: rest => renderMember p ++ [',', '\n'] ++ renderMembers rest

/-- A map as a JSON object. -/
def render (entries : Entries) : String :=
  String.ofList (if entries.isEmpty then ['{', '}'] else ['{', '\n'] ++ renderMembers entries ++ ['\n', '}'])

/-- A member whose value is a text. -/
def pair? (m : List Json.StringPart × Json) : Option (String × String) := do
  let key ← Json.StringPart.text? m.1
  match m.2 with
  | .string parts => (Json.StringPart.text? parts).map (key, ·)
  | _ => none

/-- The map that a text spells. -/
def parse? (text : String) : Option Entries :=
  match Json.parse? text with
  | some (.object members) => (members.mapM pair?).map ofPairs
  | _ => none

end GrammarStudio.Store.Entries
