import GrammarStudio.Number.Binary
import GrammarStudio.ObjectScript.Glyphs
import GrammarStudio.Text.Letters
import GrammarStudio.Text.Unprintable

/-!
# The words of a script

Blocks are marked by how far their lines are indented: a line that stands further in than the one before opens a block,
and one that stands further out closes blocks.  Inside brackets neither lines nor indentation count.

* `Span` — where something stands;
* `Problem` — why a script cannot be read;
* `Token`, `Lexeme` — words, and where they stand;
* `Piece` — the parts of a text into which values are put;
* `Words`, `lexemes` — all words of a script.
-/

namespace GrammarStudio.ObjectScript

open Machine Number

/-- From one place to another: lines count from one, columns from zero. -/
structure Span where
  line : Nat
  column : Nat
  endLine : Nat
  endColumn : Nat
  deriving DecidableEq, Repr, Inhabited

/-- From the beginning of one span to the end of another. -/
def Span.through (a b : Span) : Span := { a with endLine := b.endLine, endColumn := b.endColumn }

/-- Why a script cannot be read. -/
structure Problem where
  /-- The kind of error. -/
  kind : String := "SyntaxError"
  message : String
  span : Span
  /-- The column that is told, where it is not the one behind the beginning of the span. -/
  offset : Option Nat := none
  /-- The line that is shown, where it is none of the script. -/
  text : Option String := none
  /-- The words make sense, but not where they stand. -/
  isLate : Bool := false

/-- A part of a text into which values are put. -/
inductive Piece where
  | text (g : Glyphs)
  /-- An expression in the words of the script; what is shown before its value, how the value is changed into a text, and
  how that text is laid out. -/
  | field (source : List Char) (line column : Nat) (shown : Option Glyphs) (conversion : Option Char) (layout : List Piece)
  /-- What is wrong with the text. -/
  | trouble (message : String)
  deriving Inhabited

inductive Token where
  | name (s : String)
  | integer (n : Nat)
  | float (x : Float)
  | text (g : Glyphs)
  | octets (o : Octets)
  | pieces (ps : List Piece)
  | sign (s : String)
  | newline
  | indent
  | dedent
  | finish
  deriving Inhabited

structure Lexeme where
  token : Token
  span : Span
  deriving Inhabited

def Token.isSign (t : Token) (s : String) : Bool :=
  match t with
  | .sign u => u == s
  | _ => false

def keywords : List String :=
  ["False", "None", "True", "and", "as", "assert", "async", "await", "break", "class", "continue", "def", "del", "elif",
    "else", "except", "finally", "for", "from", "global", "if", "import", "in", "is", "lambda", "nonlocal", "not", "or",
    "pass", "raise", "return", "try", "while", "with", "yield"]

/-- Signs, the longer ones first. -/
def signs : List String :=
  ["**=", "//=", ">>=", "<<=", "...", "<>", "**", "//", ">>", "<<", "<=", ">=", "==", "!=", "->", "+=", "-=", "*=", "/=", "%=",
    "&=", "|=", "^=", "@=", ":=", "+", "-", "*", "/", "%", "@", "&", "|", "^", "~", "<", ">", "(", ")", "[", "]", "\x7b", "\x7d",
    ",", ":", ".", ";", "=", "?", "$", "!", "\x60"]

def startsName (c : Char) : Bool := c.isAlpha || c = '_' || (c.toNat ≥ 128 && Text.isAlphabetic c)

def continuesName (c : Char) : Bool := startsName c || c.isDigit || (c.toNat ≥ 128 && Text.isNumeric c)

/-! ### The state of a reader -/

structure Lexing where
  rest : List Char
  line : Nat := 1
  column : Nat := 0
  /-- The brackets that are open, innermost first, with their places. -/
  brackets : List (Char × Nat × Nat) := []
  /-- How far the open blocks are indented, innermost first. -/
  indents : List Nat := []
  /-- The same, if a tab counted as one character. -/
  tabIndents : List Nat := []
  /-- The words, the latest first. -/
  done : List Lexeme := []
  startsLine : Bool := true
  /-- What is wrong behind the last word. -/
  trouble : Option Problem := none
  /-- The width of the line before. -/
  lastWidth : Nat := 0

abbrev Lex := StateT Lexing (Except Problem)

def pointSpan (line column : Nat) : Span := ⟨line, column, line, column + 1⟩

def refuseAt {α : Type} (span : Span) (message : String) : Lex α := throw { message, span }

/-- Passes over characters of one line. -/
def passOver (count : Nat) : Lex Unit :=
  modify fun s => { s with rest := s.rest.drop count, column := s.column + count }

/-- Passes over characters that may hold line ends. -/
def passLines (cs : List Char) : Lex Unit :=
  modify fun s =>
    let (line, column) := cs.foldl (fun (l, c) x => if x = '\n' then (l + 1, 0) else (l, c + 1)) (s.line, s.column)
    { s with rest := s.rest.drop cs.length, line, column }

/-- Adds a word that began somewhere and ends here. -/
def emitFrom (line column : Nat) (t : Token) : Lex Unit :=
  modify fun s => { s with done := { token := t, span := ⟨line, column, s.line, s.column⟩ } :: s.done }

/-! ### Numbers -/

/-- The digits at the front, which single underscores may divide, without those; and how many characters they take. -/
def dividedDigits (isDigit : Char → Bool) : (fuel : Nat) → List Char → List Char × Nat
  | 0, _ => ([], 0)
  | fuel + 1, cs =>
    let run := cs.takeWhile isDigit
    match cs.drop run.length with
    | '_' :: d :: rest =>
      if !run.isEmpty && isDigit d then
        let (more, length) := dividedDigits isDigit fuel (d :: rest)
        (run ++ more, run.length + 1 + length)
      else (run, run.length)
    | _ => (run, run.length)

/-- Can what stands right behind a number be a word of its own? -/
def followsNumber (cs : List Char) : Bool :=
  ["and", "or", "if", "else", "in", "is", "not", "for"].any fun w => w.toList.isPrefixOf cs

/-- A number at the front of a script. -/
def lexNumber : Lex Unit := do
  let s ← get
  let cs := s.rest
  let fuel := cs.length + 1
  let bad (kind : String) (length : Nat) : Lex Unit :=
    refuseAt (pointSpan s.line (s.column + length - 1)) ("invalid " ++ kind ++ " literal")
  -- a low line behind which there is no digit is taken with the number
  let withLine (length : Nat) : Nat := if (cs.drop length).head? = some '_' then length + 1 else length
  let inBase (kind : String) (base : Nat) (isDigit : Char → Bool) : Lex Unit := do
    let body := cs.drop 2
    let body' := if body.head? = some '_' then body.drop 1 else body
    let skipped := body.length - body'.length
    let (digits, length) := dividedDigits isDigit fuel body'
    let whole := 2 + skipped + length
    let next := (cs.drop whole).head?
    if base < 10 && next.any Char.isDigit then
      refuseAt (pointSpan s.line (s.column + whole)) ("invalid digit '" ++ String.singleton (next.getD ' ') ++ "' in " ++ kind ++ " literal")
    if digits.isEmpty then bad kind (withLine (2 + skipped))
    else
      match next with
      | some c => if c = '_' || (continuesName c && !followsNumber (cs.drop whole)) then bad kind (withLine whole)
      | none => pure ()
      passOver whole
      emitFrom s.line s.column (.integer (Octets.valueIn base digits))
  match cs with
  | '0' :: 'x' :: _ | '0' :: 'X' :: _ => inBase "hexadecimal" 16 Octets.isHex
  | '0' :: 'o' :: _ | '0' :: 'O' :: _ => inBase "octal" 8 Octets.isOctal
  | '0' :: 'b' :: _ | '0' :: 'B' :: _ => inBase "binary" 2 fun c => c = '0' || c = '1'
  | _ =>
    let (whole, wholeLength) := dividedDigits Char.isDigit fuel cs
    let rest := cs.drop wholeLength
    let (point, fraction, fractionLength) : Bool × List Char × Nat := match rest with
      | '.' :: rest =>
        let (digits, length) := dividedDigits Char.isDigit fuel rest
        (true, digits, length + 1)
      | _ => (false, [], 0)
    let rest := rest.drop fractionLength
    let (exponent, exponentLength) : Option (List Char) × Nat := match rest with
      | e :: rest =>
        if e = 'e' || e = 'E' then
          let (sign, digits) : List Char × List Char := match rest with
            | '-' :: digits => (['-'], digits)
            | '+' :: digits => (['+'], digits)
            | digits => ([], digits)
          let (digits, length) := dividedDigits Char.isDigit fuel digits
          if digits.isEmpty then (none, 0) else (some (sign ++ digits), 1 + sign.length + length)
        else (none, 0)
      | [] => (none, 0)
    let length := wholeLength + fractionLength + exponentLength
    match cs.drop length with
    | e :: sign :: _ =>
      if (e = 'e' || e = 'E') && (sign = '+' || sign = '-') then bad "decimal" (length + 2)
    | _ => pure ()
    match (cs.drop length).head? with
    | some c => if continuesName c && !followsNumber (cs.drop length) then bad "decimal" (withLine (max length 1))
    | none => pure ()
    passOver length
    if point || exponent.isSome then
      let text := whole ++ ['.'] ++ fraction ++ (match exponent with
        | some e => 'e' :: e
        | none => [])
      let value := match Wide.read double ('0' :: text) with
        | some (x, _) => x.toFloat
        | none => 0
      emitFrom s.line s.column (.float value)
    else
      if whole.length > 1 && whole.head? = some '0' && !whole.all (· = '0') then
        refuseAt ⟨s.line, s.column, s.line, s.column + (cs.takeWhile fun c => c = '0' || c = '_').length⟩
          "leading zeros in decimal integer literals are not permitted; use an 0o prefix for octal integers"
      emitFrom s.line s.column (.integer (Octets.valueIn 10 whole))

/-! ### Texts -/

/-- The body of a text up to the quotes that end it, and whether they are there. -/
def untilQuotes (mark : Char) (isLong : Bool) : (fuel : Nat) → (done : List Char) → List Char → List Char × Bool
  | 0, done, _ => (done.reverse, false)
  | _ + 1, done, [] => (done.reverse, false)
  | fuel + 1, done, '\\' :: c :: rest => untilQuotes mark isLong fuel (c :: '\\' :: done) rest
  | fuel + 1, done, c :: rest =>
    if c = mark then
      if !isLong then (done.reverse, true)
      else if rest.take 2 = [mark, mark] then (done.reverse, true)
      else untilQuotes mark isLong fuel (c :: done) rest
    else if c = '\n' && !isLong then (done.reverse, false)
    else untilQuotes mark isLong fuel (c :: done) rest

/-- Why an escape in a text makes no sense. -/
structure BadEscape where
  /-- Where the backslash stands in the body. -/
  start : Nat
  stop : Nat
  reason : String

def BadEscape.message (f : BadEscape) : String :=
  "(unicode error) 'unicodeescape' codec can't decode bytes in position " ++ f.start.repr ++ "-" ++ f.stop.repr ++ ": " ++ f.reason

/-- A body with its escapes put in. -/
def unescaped : (fuel : Nat) → (at_ : Nat) → (done : List Nat) → List Char → Except BadEscape Glyphs
  | 0, _, done, _ => .ok done.reverse
  | _ + 1, _, done, [] => .ok done.reverse
  | fuel + 1, at_, done, '\\' :: c :: rest =>
    let plain (n : Nat) : Except BadEscape Glyphs := unescaped fuel (at_ + 2) (n :: done) rest
    let spelled (width : Nat) (shape : String) : Except BadEscape Glyphs :=
      let digits := (rest.take width).takeWhile Octets.isHex
      if digits.length < width then
        .error { start := at_, stop := at_ + 1 + digits.length, reason := "truncated " ++ shape ++ " escape" }
      else
        let n := Octets.valueIn 16 digits
        if n > 0x10FFFF then .error { start := at_, stop := at_ + 1 + width, reason := "illegal Unicode character" }
        else unescaped fuel (at_ + 2 + width) (n :: done) (rest.drop width)
    match c with
    | '\n' => unescaped fuel (at_ + 2) done rest
    | '\\' => plain 92
    | '\'' => plain 39
    | '"' => plain 34
    | 'a' => plain 7
    | 'b' => plain 8
    | 'f' => plain 12
    | 'n' => plain 10
    | 'r' => plain 13
    | 't' => plain 9
    | 'v' => plain 11
    | 'x' => spelled 2 "\\xXX"
    | 'u' => spelled 4 "\\uXXXX"
    | 'U' => spelled 8 "\\UXXXXXXXX"
    | 'N' => .error { start := at_, stop := at_ + 1, reason := "malformed \\N character escape" }
    | c =>
      if Octets.isOctal c then
        let digits := ((c :: rest).take 3).takeWhile Octets.isOctal
        unescaped fuel (at_ + 1 + digits.length) (Octets.valueIn 8 digits :: done) ((c :: rest).drop digits.length)
      else unescaped fuel (at_ + 2) (c.toNat :: 92 :: done) rest
  | fuel + 1, at_, done, c :: rest => unescaped fuel (at_ + 1) (c.toNat :: done) rest

/-- The octets of a body with its escapes put in. -/
def unescapedOctets : (fuel : Nat) → (at_ : Nat) → (done : List Char) → List Char → Except BadEscape Octets
  | 0, _, done, _ => .ok done.reverse
  | _ + 1, _, done, [] => .ok done.reverse
  | fuel + 1, at_, done, '\\' :: c :: rest =>
    let plain (n : Nat) : Except BadEscape Octets := unescapedOctets fuel (at_ + 2) (Char.ofNat n :: done) rest
    match c with
    | '\n' => unescapedOctets fuel (at_ + 2) done rest
    | '\\' => plain 92
    | '\'' => plain 39
    | '"' => plain 34
    | 'a' => plain 7
    | 'b' => plain 8
    | 'f' => plain 12
    | 'n' => plain 10
    | 'r' => plain 13
    | 't' => plain 9
    | 'v' => plain 11
    | 'x' =>
      let digits := (rest.take 2).takeWhile Octets.isHex
      if digits.length < 2 then .error { start := at_, stop := at_ + 1, reason := "invalid \\x escape at position " ++ at_.repr }
      else unescapedOctets fuel (at_ + 4) (Char.ofNat (Octets.valueIn 16 digits) :: done) (rest.drop 2)
    | c =>
      if Octets.isOctal c then
        let digits := ((c :: rest).take 3).takeWhile Octets.isOctal
        unescapedOctets fuel (at_ + 1 + digits.length) (Char.ofNat (Octets.valueIn 8 digits % 256) :: done)
          ((c :: rest).drop digits.length)
      else unescapedOctets fuel (at_ + 2) (c :: '\\' :: done) rest
  | fuel + 1, at_, done, c :: rest => unescapedOctets fuel (at_ + 1) (c :: done) rest

/-! ### Texts with values -/

/-- Cuts the expression off what stands behind an opening brace. -/
def cutField : (fuel : Nat) → (depth : List Char) → (quote : Option Char) → (done : List Char) → List Char → List Char × List Char
  | 0, _, _, done, rest => (done.reverse, rest)
  | _ + 1, _, _, done, [] => (done.reverse, [])
  | fuel + 1, depth, some q, done, c :: rest =>
    cutField fuel depth (if c = q then none else some q) (c :: done) rest
  | fuel + 1, depth, none, done, c :: rest =>
    if c = '\'' || c = '"' then cutField fuel depth (some c) (c :: done) rest
    else if c = '(' || c = '[' || c = '{' then cutField fuel (c :: depth) none (c :: done) rest
    else if depth.isEmpty then
      if c = '\x7d' || c = ':' then (done.reverse, c :: rest)
      else if c = '!' then
        match rest with
        | '=' :: rest' => cutField fuel depth none ('=' :: '!' :: done) rest'
        | _ => (done.reverse, c :: rest)
      else if c = '=' then
        match done, rest with
        | d :: _, e :: _ =>
          if d = '=' || d = '<' || d = '>' || d = '!' || e = '=' then cutField fuel depth none (c :: done) rest
          else (done.reverse, c :: rest)
        | _, _ => (done.reverse, c :: rest)
      else cutField fuel depth none (c :: done) rest
    else if c = ')' || c = ']' || c = '\x7d' then cutField fuel (depth.drop 1) none (c :: done) rest
    else cutField fuel depth none (c :: done) rest

/-- The parts of a body into which values are put; escapes do not count in a raw one.  Inside a layout a closing brace
ends the parts. -/
def piecesOf (raw : Bool) : (fuel : Nat) → (inLayout : Bool) → (line column : Nat) → (plain : List Char) → List Char →
    Except String (List Piece × List Char)
  | 0, _, _, _, _, rest => .ok ([], rest)
  | fuel + 1, inLayout, line, column, plain, rest =>
    let refuse {α : Type} (message : String) : Except String α := .error ("f-string: " ++ message)
    let flush : Except String (List Piece) :=
      if plain.isEmpty then .ok []
      else if raw then .ok [.text (plain.reverse.map Char.toNat)]
      else
        match unescaped (plain.length + 1) 0 [] plain.reverse with
        | .ok g => .ok [.text g]
        | .error f => .error f.message
    match rest with
    | [] => do .ok (← flush, [])
    | '{' :: '{' :: more =>
      if inLayout then do
        let before ← flush
        let (own, rest) ← field fuel line (column + 1) ('{' :: more)
        let (others, rest) ← piecesOf raw fuel inLayout line column [] rest
        .ok (before ++ own ++ others, rest)
      else piecesOf raw fuel inLayout line (column + 2) ('{' :: plain) more
    | '{' :: more => do
      let before ← flush
      let (own, rest) ← field fuel line (column + 1) more
      let (others, rest) ← piecesOf raw fuel inLayout line (column + 1 + (more.length - rest.length)) [] rest
      .ok (before ++ own ++ others, rest)
    | '\x7d' :: more =>
      if inLayout then do .ok (← flush, rest)
      else
        match more with
        | '\x7d' :: more => piecesOf raw fuel inLayout line (column + 2) ('\x7d' :: plain) more
        | _ => refuse "single '\x7d' is not allowed"
    | c :: more =>
      if c = '\n' then piecesOf raw fuel inLayout (line + 1) 0 (c :: plain) more
      else piecesOf raw fuel inLayout line (column + 1) (c :: plain) more
where
  /-- A field, from behind its opening brace to behind its closing one. -/
  field : (fuel : Nat) → (line column : Nat) → List Char → Except String (List Piece × List Char)
    | 0, _, _, rest => .ok ([], rest)
    | fuel + 1, line, column, cs =>
      let refuse {α : Type} (message : String) : Except String α := .error ("f-string: " ++ message)
      let (source, rest) := cutField (cs.length + 1) [] none [] cs
      if source.contains '\\' then .error "f-string expression part cannot include a backslash"
      else if source.contains '#' then .error "f-string expression part cannot include '#'"
      else if source.all Octets.isSpace && !rest.isEmpty then refuse "empty expression not allowed"
      else
        let (shown, rest) : Option Glyphs × List Char := match rest with
          | '=' :: more =>
            let blanks := more.takeWhile Octets.isSpace
            (some ((source ++ '=' :: blanks).map Char.toNat), more.drop blanks.length)
          | rest => (none, rest)
        let (conversion, rest) : Option Char × List Char := match rest with
          | '!' :: c :: more => (some c, more)
          | rest => (none, rest)
        if conversion.any fun c => !(['s', 'r', 'a'].contains c) then
          refuse ("invalid conversion character: expected 's', 'r', or 'a'")
        else
          match rest with
          | '\x7d' :: rest => .ok ([.field source line column shown conversion []], rest)
          | ':' :: rest => do
            let (layout, rest) ← piecesOf raw fuel true line column [] rest
            match rest with
            | '\x7d' :: rest => .ok ([.field source line column shown conversion layout], rest)
            | _ => refuse "expecting '\x7d'"
          | _ => refuse "expecting '\x7d'"

/-- A text at the front of a script, behind the letters before its quotes. -/
def lexText (letters : List Char) (startLine startColumn : Nat) : Lex Unit := do
  let s ← get
  let has (c : Char) : Bool := letters.any (·.toLower = c)
  match s.rest with
  | [] => return
  | mark :: rest =>
    let isLong := rest.take 2 = [mark, mark]
    let width := if isLong then 3 else 1
    passOver width
    let start ← get
    let (body, closed) := untilQuotes mark isLong (start.rest.length + 1) [] start.rest
    if !closed then
      let lines := (start.rest.filter (· = '\n')).length
      let lastLine := if isLong then startLine + lines - (if start.rest.getLast? = some '\n' then 1 else 0) else startLine
      refuseAt (pointSpan startLine startColumn)
        ("unterminated " ++ (if isLong then "triple-quoted " else "") ++ "string literal (detected at line " ++ lastLine.repr ++ ")")
    passLines body
    passOver width
    let now ← get
    let span : Span := ⟨startLine, startColumn, now.line, now.column⟩
    let trouble (message : String) : Lex Unit := emitFrom startLine startColumn (.pieces [.trouble message])
    if has 'b' then
      if body.any (·.toNat ≥ 128) then refuseAt span "bytes can only contain ASCII literal characters"
      if has 'r' then emitFrom startLine startColumn (.octets body)
      else
        match unescapedOctets (body.length + 1) 0 [] body with
        | .ok o => emitFrom startLine startColumn (.octets o)
        | .error f => trouble ("(value error) " ++ f.reason)
    else if has 'f' then
      match piecesOf (has 'r') (body.length + 2) false start.line start.column [] body with
      | .ok (pieces, _) => emitFrom startLine startColumn (.pieces pieces)
      | .error message => trouble message
    else if has 'r' then emitFrom startLine startColumn (.text (body.map Char.toNat))
    else
      match unescaped (body.length + 1) 0 [] body with
      | .ok g => emitFrom startLine startColumn (.text g)
      | .error f => trouble f.message

/-! ### Lines -/

/-- How far a line is indented, and how many characters do that. -/
def indentation : (column length : Nat) → List Char → Nat × Nat
  | column, length, ' ' :: rest => indentation (column + 1) (length + 1) rest
  | column, length, '\t' :: rest => indentation ((column / 8 + 1) * 8) (length + 1) rest
  | _, length, '\x0c' :: rest => indentation 0 (length + 1) rest
  | column, length, _ => (column, length)

/-- Closes blocks down to an indentation. -/
def closeBlocks (column : Nat) : List Nat → Lex Unit
  | [] => modify fun s => { s with indents := [], tabIndents := [] }
  | top :: rest => do
    if top > column then
      modify fun s => { s with indents := rest, tabIndents := s.tabIndents.drop 1 }
      let s ← get
      emitFrom s.line s.column .dedent
      closeBlocks column rest

/-- The words end here, with something that is wrong. -/
def stopWith (p : Problem) : Lex Unit := modify fun s => { s with trouble := some p, rest := [] }

/-- Begins a line: blocks are opened and closed. -/
def beginLine : Lex Unit := do
  let s ← get
  let (column, length) := indentation 0 0 s.rest
  let behind := s.rest.drop length
  let isBlank := match behind with
    | [] => true
    | '\n' :: _ | '#' :: _ => true
    | _ => false
  passOver length
  if !isBlank then
    let top := s.indents.headD 0
    let tabTop := s.tabIndents.headD 0
    -- the same with tabs that count as one character: what stands further in has to do so in both ways
    let tabColumn := ((s.rest.take length).reverse.takeWhile (· ≠ '\x0c')).length
    let mixed : Lex Unit :=
      stopWith { kind := "TabError", message := "inconsistent use of tabs and spaces in indentation", span := ⟨s.line, 0, s.line, 0⟩ }
    if column = top then
      if tabColumn ≠ tabTop then mixed
    else if column > top then
      if tabColumn ≤ tabTop then mixed
      else
        modify fun s => { s with indents := column :: s.indents, tabIndents := tabColumn :: s.tabIndents }
        emitFrom s.line length .indent
    else
      if column ≠ 0 && !s.indents.contains column then
        let width := (behind.takeWhile (· ≠ '\n')).length + length
        stopWith { kind := "IndentationError", message := "unindent does not match any outer indentation level"
                   span := ⟨s.line, width, s.line, width + 1⟩ }
      else
        closeBlocks column s.indents
        if tabColumn ≠ (← get).tabIndents.headD 0 then mixed
  modify fun s => { s with startsLine := false }

def closing? : Char → Option Char
  | ')' => some '('
  | ']' => some '['
  | '\x7d' => some '{'
  | _ => none

/-- Opens and closes brackets. -/
def countBracket (sign : String) (line column : Nat) : Lex Unit := do
  match sign.toList with
  | [c] =>
    if c = '(' || c = '[' || c = '{' then modify fun s => { s with brackets := (c, line, column) :: s.brackets }
    else
      match closing? c with
      | none => return
      | some wanted =>
        match (← get).brackets with
        | [] => refuseAt (pointSpan line column) ("unmatched '" ++ sign ++ "'")
        | (opened, openedLine, _) :: rest =>
          if opened ≠ wanted then
            refuseAt (pointSpan line column) ("closing parenthesis '" ++ sign ++ "' does not match opening parenthesis '" ++
              String.singleton opened ++ "'" ++ (if openedLine = line then "" else " on line " ++ openedLine.repr))
          modify fun s => { s with brackets := rest }
  | _ => return

/-- Passes one word, or what stands between words.  Gives whether there is more. -/
def lexOne : Lex Bool := do
  let s ← get
  if s.startsLine && s.brackets.isEmpty then
    beginLine
    return true
  else
    match s.rest with
    | [] =>
      match s.trouble, s.brackets with
      | none, (c, line, column) :: _ =>
        stopWith { message := "'" ++ String.singleton c ++ "' was never closed", span := pointSpan line column }
      | _, _ => pure ()
      if (← get).trouble.isNone then
        match s.done with
        | [] => pure ()
        | l :: _ =>
          if !(l.token matches .newline) && !(l.token matches .dedent) then
            emitFrom s.line s.column .newline
        -- the end stands behind the last line, with its line end
        let (line, column) := if s.column = 0 then (s.line - 1, s.lastWidth + 1) else (s.line, s.column + 1)
        modify fun s => { s with line := max line 1, column }
        closeBlocks 0 s.indents
      let now ← get
      emitFrom now.line now.column .finish
      return false
    | c :: rest =>
      if c = '\n' then
        if s.brackets.isEmpty then
          match s.done with
          | [] => pure ()
          | l :: _ =>
            if !(l.token matches .newline) && !(l.token matches .indent) && !(l.token matches .dedent) then
              passOver 1
              emitFrom s.line s.column .newline
              modify fun t => { t with rest := s.rest }
        passLines ['\n']
        modify fun t => { t with startsLine := true, lastWidth := s.column }
        return true
      else if c = ' ' || c = '\t' || c = '\x0c' then
        passOver (s.rest.takeWhile fun c => c = ' ' || c = '\t' || c = '\x0c').length
        return true
      else if c = '#' then
        passOver (s.rest.takeWhile (· ≠ '\n')).length
        return true
      else if c = '\\' then
        match rest with
        | ['\n'] | [] =>
          stopWith { message := "unexpected EOF while parsing", span := pointSpan s.line (s.column + 1) }
          return true
        | '\n' :: _ =>
          passLines ['\\', '\n']
          return true
        | _ =>
          stopWith { message := "unexpected character after line continuation character", span := pointSpan s.line (s.column + 1) }
          return true
      else if c.isDigit || (c = '.' && rest.head?.any Char.isDigit) then
        lexNumber
        return true
      else if c = '\'' || c = '"' then
        lexText [] s.line s.column
        return true
      else if startsName c then
        let word := s.rest.takeWhile continuesName
        let behind := (s.rest.drop word.length).head?
        let lower := String.ofList (word.map Char.toLower)
        passOver word.length
        if (behind = some '\'' || behind = some '"') && ["r", "b", "u", "f", "br", "rb", "fr", "rf"].contains lower then
          lexText word s.line s.column
        else emitFrom s.line s.column (.name (String.ofList word))
        return true
      else
        match signs.find? fun o => o.toList.isPrefixOf s.rest with
        | some sign =>
          passOver sign.length
          countBracket sign s.line s.column
          emitFrom s.line s.column (.sign sign)
          return true
        | none =>
          if c.toNat ≥ 128 && !Text.isUnprintable c.toNat then
            refuseAt (pointSpan s.line s.column) ("invalid character '" ++ String.singleton c ++ "' (U+" ++
              String.ofList (Octets.upper (Octets.padLeftWith '0' 4 (Octets.inBase 16 c.toNat))) ++ ")")
          else refuseAt (pointSpan s.line s.column) ("invalid non-printable character U+" ++
              String.ofList (Octets.upper (Octets.padLeftWith '0' 4 (Octets.inBase 16 c.toNat))))

def lexAll : (fuel : Nat) → Lex Unit
  | 0 => return
  | fuel + 1 => do
    if ← lexOne then lexAll fuel

/-- All words of a script. -/
structure Words where
  lexemes : List Lexeme
  /-- What is wrong behind the last word. -/
  trouble : Option Problem
  /-- The line of the innermost bracket that is never closed. -/
  openLine : Option Nat

/-- All words of a script; where a word makes no sense, the problem. -/
def lexemes (line column : Nat) (startsLine : Bool) (source : List Char) : Except Problem Words :=
  match (lexAll (2 * source.length + 4)).run { rest := source, line, column, startsLine } with
  | .ok (_, s) => .ok { lexemes := s.done.reverse, trouble := s.trouble, openLine := s.brackets.head?.map fun b => b.2.1 }
  | .error p => .error p

end GrammarStudio.ObjectScript
