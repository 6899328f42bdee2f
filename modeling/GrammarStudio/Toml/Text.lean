/-!
# The texts of TOML

Texts stand between quotes, on one line or on several.  Between double quotes a backslash escapes; between single ones
every character stands for itself.  Line ends are written as a line feed or as a carriage return with one, and both are
read as a line feed.  No control character is a part of any text, except for the tab.

* `basic`, `basicLines` — double quotes, one and three;
* `literal`, `literalLines` — single quotes, one and three;
* `skipSpace`, `skipBlank`, `lineEnd` — what stands between.

Each reads from behind its opening quotes and gives back the rest.
-/

namespace GrammarStudio.Toml

/-- May the character stand in a comment or a text? -/
def isPrintable (c : Char) : Bool := c == '\t' || (0x20 ≤ c.toNat && c.toNat ≠ 0x7F)

def isSpace (c : Char) : Bool := c == ' ' || c == '\t'

/-! ### Escapes -/

def hexValue? (c : Char) : Option Nat :=
  if c.isDigit then some (c.toNat - '0'.toNat)
  else if 'a' ≤ c ∧ c ≤ 'f' then some (c.toNat - 'a'.toNat + 10)
  else if 'A' ≤ c ∧ c ≤ 'F' then some (c.toNat - 'A'.toNat + 10)
  else none

/-- The number that hexadecimal digits write. -/
def hexNumber? (digits : List Char) : Option Nat :=
  digits.foldlM (fun n c => (hexValue? c).map (n * 16 + ·)) 0

/-- The character of a code point written in hexadecimal digits.  Halves of surrogate pairs are no characters. -/
def codePoint? (digits : List Char) : Option Char := do
  let n ← hexNumber? digits
  if h : n.isValidChar then some (Char.ofNatAux n h) else none

/-- The character that a letter behind a backslash means. -/
def escaped? : Char → Option Char
  | 'b' => some '\x08'
  | 'f' => some '\x0c'
  | 'n' => some '\n'
  | 'r' => some '\r'
  | 't' => some '\t'
  | '\\' => some '\\'
  | '"' => some '"'
  | _ => none

/-! ### Texts on one line -/

/-- A text that ends with the next double quote. -/
def basic : List Char → Option (List Char × List Char)
  | [] => none
  | '"' :: rest => some ([], rest)
  | '\\' :: 'u' :: a :: b :: c :: d :: rest => do
    let x ← codePoint? [a, b, c, d]
    let (text, rest) ← basic rest
    some (x :: text, rest)
  | '\\' :: 'U' :: a :: b :: c :: d :: e :: f :: g :: h :: rest => do
    let x ← codePoint? [a, b, c, d, e, f, g, h]
    let (text, rest) ← basic rest
    some (x :: text, rest)
  | '\\' :: c :: rest => do
    let x ← escaped? c
    let (text, rest) ← basic rest
    some (x :: text, rest)
  | c :: rest =>
    if isPrintable c && c != '\\' then do
      let (text, rest) ← basic rest
      some (c :: text, rest)
    else none

/-- A text that ends with the next single quote. -/
def literal : List Char → Option (List Char × List Char)
  | [] => none
  | '\'' :: rest => some ([], rest)
  | c :: rest =>
    if isPrintable c then do
      let (text, rest) ← literal rest
      some (c :: text, rest)
    else none

/-! ### Texts on several lines -/

/-- Does a backslash stand at the end of its line, blanks apart? -/
def endsLine (rest : List Char) : Bool :=
  match rest.dropWhile isSpace with
  | '\n' :: _ => true
  | '\r' :: '\n' :: _ => true
  | _ => false

/-- A text that ends with three double quotes; up to two more before them belong to it.  While `joining`, blanks and
line ends are passed over: a backslash at the end of a line has asked for that. -/
def basicLinesFrom : (joining : Bool) → List Char → Option (List Char × List Char)
  | _, [] => none
  | true, ' ' :: rest => basicLinesFrom true rest
  | true, '\t' :: rest => basicLinesFrom true rest
  | true, '\n' :: rest => basicLinesFrom true rest
  | true, '\r' :: '\n' :: rest => basicLinesFrom true rest
  | _, '"' :: '"' :: '"' :: '"' :: '"' :: rest => some (['"', '"'], rest)
  | _, '"' :: '"' :: '"' :: '"' :: rest => some (['"'], rest)
  | _, '"' :: '"' :: '"' :: rest => some ([], rest)
  | _, '\\' :: 'u' :: a :: b :: c :: d :: rest => do
    let x ← codePoint? [a, b, c, d]
    let (text, rest) ← basicLinesFrom false rest
    some (x :: text, rest)
  | _, '\\' :: 'U' :: a :: b :: c :: d :: e :: f :: g :: h :: rest => do
    let x ← codePoint? [a, b, c, d, e, f, g, h]
    let (text, rest) ← basicLinesFrom false rest
    some (x :: text, rest)
  | _, '\\' :: c :: rest =>
    if endsLine (c :: rest) then basicLinesFrom true (c :: rest)
    else do
      let x ← escaped? c
      let (text, rest) ← basicLinesFrom false rest
      some (x :: text, rest)
  | _, '\r' :: '\n' :: rest => do
    let (text, rest) ← basicLinesFrom false rest
    some ('\n' :: text, rest)
  | _, c :: rest =>
    if (isPrintable c || c == '\n') && c != '\\' then do
      let (text, rest) ← basicLinesFrom false rest
      some (c :: text, rest)
    else none

/-- A text that ends with three single quotes; up to two more before them belong to it. -/
def literalLinesFrom : List Char → Option (List Char × List Char)
  | [] => none
  | '\'' :: '\'' :: '\'' :: '\'' :: '\'' :: rest => some (['\'', '\''], rest)
  | '\'' :: '\'' :: '\'' :: '\'' :: rest => some (['\''], rest)
  | '\'' :: '\'' :: '\'' :: rest => some ([], rest)
  | '\r' :: '\n' :: rest => do
    let (text, rest) ← literalLinesFrom rest
    some ('\n' :: text, rest)
  | c :: rest =>
    if isPrintable c || c == '\n' then do
      let (text, rest) ← literalLinesFrom rest
      some (c :: text, rest)
    else none

/-- A line end right behind the opening quotes is no part of the text. -/
def dropLineEnd : List Char → List Char
  | '\n' :: rest => rest
  | '\r' :: '\n' :: rest => rest
  | rest => rest

def basicLines (rest : List Char) : Option (List Char × List Char) := basicLinesFrom false (dropLineEnd rest)

def literalLines (rest : List Char) : Option (List Char × List Char) := literalLinesFrom (dropLineEnd rest)

/-! ### Between the texts -/

def skipSpace (s : List Char) : List Char := s.dropWhile isSpace

/-- Passes over blanks, line ends and comments. -/
def skipBlankFrom : (comment : Bool) → List Char → List Char
  | _, [] => []
  | _, '\n' :: rest => skipBlankFrom false rest
  | _, '\r' :: '\n' :: rest => skipBlankFrom false rest
  | true, c :: rest => if isPrintable c then skipBlankFrom true rest else c :: rest
  | false, c :: rest =>
    if isSpace c then skipBlankFrom false rest
    else if c = '#' then skipBlankFrom true rest
    else c :: rest

def skipBlank (s : List Char) : List Char := skipBlankFrom false s

/-- The next line, if nothing but a comment is left of this one. -/
def lineEnd (s : List Char) : Option (List Char) :=
  let s := skipSpace s
  let s := match s with
    | '#' :: rest => rest.dropWhile isPrintable
    | s => s
  match s with
  | [] => some []
  | '\n' :: rest => some rest
  | '\r' :: '\n' :: rest => some rest
  | _ => none

end GrammarStudio.Toml
