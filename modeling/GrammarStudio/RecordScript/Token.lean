import GrammarStudio.RecordScript.Value
import GrammarStudio.RecordScript.Command

/-!
# The words of a script for records

* `Token`, `Lexeme` — words, and where they stand;
* `lexemes` — all words of a script.

Whether a slash begins a regular expression depends on the word before it.  Line feeds are words, since they end
statements; where nothing can end they are passed over.
-/

namespace GrammarStudio.RecordScript

open Machine

inductive Token where
  | number (x : Float) (shown : Octets)
  | text (o shown : Octets)
  | pattern (o : Octets)
  | name (s : String)
  /-- A name with an opening parenthesis right behind it. -/
  | called (s : String)
  | builtin (b : Builtin) (s : String)
  /-- A sign, or a word with a meaning of its own. -/
  | sign (s : String)
  | newline
  | finish
  /-- A character that no word has. -/
  | stray (shown : Octets)
  /-- Something that is no word. -/
  | fault (message : Octets)
  deriving Inhabited

structure Lexeme where
  token : Token
  line : Nat
  /-- How many parentheses and braces are open behind the word. -/
  parens : Nat
  braces : Nat
  deriving Inhabited

def Token.isSign (t : Token) (s : String) : Bool :=
  match t with
  | .sign u => u == s
  | _ => false

/-- A word as it is shown where it was not expected. -/
def Token.shown : Token → Octets
  | .number _ o | .text _ o => o
  | .pattern o => '/' :: o ++ ['/']
  | .name s | .called s | .builtin _ s | .sign s => ascii s
  | .newline => ascii "end of line"
  | .finish => ascii "end of file"
  | .stray o | .fault o => o

def keywords : List String :=
  ["BEGIN", "END", "function", "if", "else", "while", "for", "do", "break", "continue", "next", "nextfile", "exit", "return",
    "delete", "in", "getline", "print", "printf"]

def builtinNames : List (String × Builtin) :=
  [("length", .length), ("substr", .substr), ("index", .index), ("sprintf", .sprintf), ("split", .split), ("sub", .sub),
    ("gsub", .gsub), ("match", .matchText), ("tolower", .lower), ("toupper", .upper), ("sin", .sine), ("cos", .cosine),
    ("atan2", .arcTangent), ("exp", .exponential), ("log", .logarithm), ("sqrt", .root), ("int", .integer),
    ("rand", .random), ("srand", .seed), ("close", .close), ("fflush", .flush), ("system", .system), ("systime", .time),
    ("strftime", .timeText), ("mktime", .timeOf)]

/-- Signs, the longer ones first. -/
def signs : List String :=
  ["+=", "-=", "*=", "/=", "%=", "^=", "++", "--", "==", "!=", "<=", ">=", "!~", "&&", "||", ">>", "+", "-", "*", "/", "%",
    "^", "!", "=", "<", ">", "~", "?", ":", ",", ";", "$", "(", ")", "[", "]", "|"]

/-- Behind these a slash divides. -/
def Token.precedesDivision : Token → Bool
  | .number .. | .text .. | .pattern _ | .name _ => true
  | .sign s => [")", "]", "getline", "++", "--"].contains s
  | _ => false

/-- Behind these, line feeds are passed over. -/
def Token.passesNewlines : Token → Bool
  | .sign s => ["\x7b", ";", ",", "&&", "||", "do", "else"].contains s
  | .newline => true
  | _ => false

/-- The escapes of a text between quotes. -/
def unquoted : (fuel : Nat) → Octets → Octets
  | 0, o => o
  | _ + 1, [] => []
  | fuel + 1, '\\' :: c :: rest =>
    if c = '\n' then unquoted fuel rest
    else if c = '"' then c :: unquoted fuel rest
    else
      match Format.escapeLetters.lookup c with
      | some d => d :: unquoted fuel rest
      | none =>
        if Octets.isOctal c then
          let digits := ((c :: rest).take 3).takeWhile Octets.isOctal
          Char.ofNat (Octets.valueIn 8 digits % 256) :: unquoted fuel ((c :: rest).drop digits.length)
        else if c = 'x' && rest.head?.any Octets.isHex then
          let digits := (rest.take 2).takeWhile Octets.isHex
          Char.ofNat (Octets.valueIn 16 digits) :: unquoted fuel (rest.drop digits.length)
        else '\\' :: c :: unquoted fuel rest
  | fuel + 1, c :: rest => c :: unquoted fuel rest

/-- The text up to a quote, with its escapes as they are, and what is behind the quote. -/
def quotedText : Octets → Option (Octets × Octets)
  | [] => none
  | '\n' :: _ => none
  | '"' :: rest => some ([], rest)
  | '\\' :: c :: rest => (quotedText rest).map fun (o, more) => ('\\' :: c :: o, more)
  | c :: rest => (quotedText rest).map fun (o, more) => (c :: o, more)

/-- The text up to a slash that is not between brackets, and what is behind the slash.  `inside` counts the characters
between brackets so far. -/
def patternText : (inside : Option Nat) → Octets → Option (Octets × Octets)
  | _, [] => none
  | _, '\n' :: _ => none
  | inside, '\\' :: c :: rest =>
    (patternText (inside.map (· + 1)) rest).map fun (o, more) => (if c = '/' then c :: o else '\\' :: c :: o, more)
  | none, '/' :: rest => some ([], rest)
  | none, '[' :: '^' :: rest => (patternText (some 0) rest).map fun (o, more) => ('[' :: '^' :: o, more)
  | none, '[' :: rest => (patternText (some 0) rest).map fun (o, more) => ('[' :: o, more)
  | some (n + 1), '[' :: ':' :: rest => (patternText (some (n + 2)) rest).map fun (o, more) => ('[' :: ':' :: o, more)
  | some n, ':' :: ']' :: rest => (patternText (some (n + 2)) rest).map fun (o, more) => (':' :: ']' :: o, more)
  | some (_ + 1), ']' :: rest => (patternText none rest).map fun (o, more) => (']' :: o, more)
  | inside, c :: rest => (patternText (inside.map (· + 1)) rest).map fun (o, more) => (c :: o, more)

def isNameStart (c : Char) : Bool := c.isAlpha || c = '_'

def isNamePart (c : Char) : Bool := c.isAlphanum || c = '_'

/-- A number at the front, without a sign. -/
def numberText? (o : Octets) : Option (Octets × Octets) :=
  let (_, count, _, rest) := Number.Wide.readDigits Char.isDigit 10 o
  if count = 0 then none
  else
    let (_, rest) := Number.Wide.readExponent ['e', 'E'] rest
    some (o.take (o.length - rest.length), rest)

/-- The word at the front, which is no blank, and what is behind it. -/
def firstToken (before : Option Token) (parens braces : Nat) (o : Octets) : Token × Octets :=
  match o with
  | [] => (.finish, [])
  | '\n' :: rest => (.newline, rest)
  | '"' :: rest =>
    match quotedText rest with
    | some (raw, rest) => (.text (unquoted (raw.length + 1) raw) (unquoted (raw.length + 1) raw), rest)
    | none => (.fault (ascii "runaway string constant \"" ++ (rest.takeWhile (· ≠ '\n')).take 10 ++ ascii " ..."), [])
  | '\x7b' :: rest => (.sign "\x7b", rest)
  | '\x7d' :: rest => if braces = 0 then (.fault (ascii "extra '\x7d'"), rest) else (.sign "\x7d", rest)
  | ')' :: rest => if parens = 0 then (.fault (ascii "extra ')'"), rest) else (.sign ")", rest)
  | c :: rest =>
    if c = '/' && !(before.any Token.precedesDivision) then
      match patternText none rest with
      | some (p, rest) => (.pattern p, rest)
      | none => (.fault (ascii "runaway regular expression /" ++ (rest.takeWhile (· ≠ '\n')).take 10 ++ ascii " ..."), [])
    else
      match (if c.isDigit || c = '.' then numberText? o else none) with
      | some (digits, rest) => (.number (leadingNumber digits) digits, rest)
      | none =>
        if isNameStart c then
          let name := String.ofList (o.takeWhile isNamePart)
          let rest := o.drop name.length
          let token : Token :=
            if keywords.contains name then .sign name
            else
              match builtinNames.lookup name with
              | some b => .builtin b name
              | none => if rest.head? = some '(' then .called name else .name name
          (token, rest)
        else
          match signs.find? fun s => s.toList.isPrefixOf o with
          | some s => (.sign s, o.drop s.length)
          | none =>
            let shown := if Octets.isPrint c then ['\'', c, '\''] else ascii "0x" ++ Octets.padLeftWith '0' 2 (Octets.inBase 16 c.toNat)
            (.stray shown, rest)

/-- Drops blanks, comments and joined lines; gives how many lines were joined. -/
def skipBlanks : (fuel : Nat) → Nat → Octets → Nat × Octets
  | 0, n, o => (n, o)
  | fuel + 1, n, o =>
    match o with
    | ' ' :: rest | '\t' :: rest | '\r' :: rest | '\x0c' :: rest | '\x0b' :: rest => skipBlanks fuel n rest
    | '\\' :: '\n' :: rest => skipBlanks fuel (n + 1) rest
    | '\\' :: '\r' :: '\n' :: rest => skipBlanks fuel (n + 1) rest
    | '#' :: rest => (n, rest.dropWhile (· ≠ '\n'))
    | o => (n, o)

def lexemesFrom : (fuel : Nat) → (before : Option Token) → (line parens braces : Nat) → Octets → List Lexeme
  | 0, _, line, parens, braces, _ => [⟨.finish, line, parens, braces⟩]
  | fuel + 1, before, line, parens, braces, o =>
    let (joined, o) := skipBlanks (o.length + 1) 0 o
    let line := line + joined
    let (token, rest) := firstToken before parens braces o
    let parens := if token.isSign "(" then parens + 1 else if token.isSign ")" then parens - 1
      else if token.isSign "\x7b" then 0 else parens
    let braces := if token.isSign "\x7b" then braces + 1 else if token.isSign "\x7d" then braces - 1 else braces
    let lexeme : Lexeme := ⟨token, line, parens, braces⟩
    match token with
    | .finish | .fault _ | .stray _ => [lexeme]
    | .newline =>
      if before.any Token.passesNewlines then lexemesFrom fuel before (line + 1) parens braces rest
      else lexeme :: lexemesFrom fuel (some token) (line + 1) parens braces rest
    | _ =>
      let lines := (o.take (o.length - rest.length)).count '\n'
      lexeme :: lexemesFrom fuel (some token) (line + lines) parens braces rest

/-- The words of a script, the last of which is its end, or a fault. -/
def lexemes (script : Octets) : List Lexeme := lexemesFrom (script.length + 3) (some .newline) 1 0 0 (script ++ ['\n'])

end GrammarStudio.RecordScript
