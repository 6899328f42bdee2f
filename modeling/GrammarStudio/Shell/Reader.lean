import GrammarStudio.Shell.Command

/-!
# Reading words

A script is read from its front, a character at a time.  Words are read with their quotes and with the places where
parameters are to be put in; nothing is put in yet.

* `Problem`, `SyntaxFault` — where a script stops making sense;
* `Reader` — what is left of a script, and the texts it holds for redirections;
* `Context`, `parts` — the parts of a word, or of a text between quotes or braces;
* `token` — the next token.

How a script inside a word is read is left open here (`Inner`).
-/

namespace GrammarStudio.Shell

open Machine

/-! ### Faults -/

inductive Problem where
  | unexpected (found : String) (wanted : Option String)
  | unterminated (quote : Char)
  | missingBrace
  | missingParens
  | noBackQuote
  | badName (what : String)
  | conditional (found : String)
  deriving DecidableEq, Repr

/-- A script that cannot be read. -/
structure SyntaxFault where
  line : Nat
  problem : Problem
  /-- The line is where what is wrong begins. -/
  isPlaced : Bool := false
  deriving DecidableEq, Repr

/-! ### Readers -/

inductive Token where
  | word (parts : Word) (items : Option (List Word)) (source : Octets)
  | operator (symbol : String)
  | newline
  /-- A number right before a redirection. -/
  | descriptor (n : Nat)
  | finish
  deriving Inhabited

/-- A text in the script that is still to come: what ends it, whether tabs are taken off its lines, and whether
anything is put in. -/
structure Expected where
  index : Nat
  delimiter : Octets
  dropTabs : Bool
  literal : Bool

structure Reader where
  dialect : Dialect
  rest : List Char
  line : Nat := 1
  /-- A token that was read and given back. -/
  given : Option Token := none
  /-- The texts of redirections. -/
  texts : Array Word
  /-- The texts to be read at the end of the line, the latest first. -/
  expected : List Expected := []

abbrev P := StateT Reader (Except SyntaxFault)

def fault {α : Type} (problem : Problem) : P α := do throw { line := (← get).line, problem }

def isRich : P Bool := do return (← get).dialect = .rich

/-- Reads what a quote has opened.  When it is never closed, the rich shell tells the line where it was opened. -/
def enclosed {α : Type} (read : P α) : P α := do
  let start ← get
  if start.dialect = .rich then
    tryCatch read fun f => throw (match f.problem with
      | .unterminated _ | .missingBrace | .missingParens | .noBackQuote => if f.isPlaced then f else { f with line := start.line, isPlaced := true }
      | _ => f)
  else read

/-- Passes over so many characters, none of them a line feed. -/
def skip (count : Nat) : P Unit := modify fun r => { r with rest := r.rest.drop count }

/-- Takes the next character. -/
def take? : P (Option Char) := do
  match (← get).rest with
  | [] => return none
  | c :: rest =>
    modify fun r => { r with rest, line := if c = '\n' then r.line + 1 else r.line }
    return some c

/-- Joins lines where a backslash stands at the end of one. -/
def joinLines : (fuel : Nat) → P Unit
  | 0 => pure ()
  | fuel + 1 => do
    match (← get).rest with
    | '\\' :: '\n' :: rest =>
      modify fun r => { r with rest, line := r.line + 1 }
      joinLines fuel
    | _ => pure ()

/-- The characters to come, behind joined lines. -/
def ahead : P (List Char) := do
  joinLines (← get).rest.length
  return (← get).rest

/-! ### Characters -/

def isNameStart (c : Char) : Bool := c.isAlpha || c == '_'

def isNameChar (c : Char) : Bool := c.isAlphanum || c == '_'

def isName : Octets → Bool
  | [] => false
  | c :: rest => isNameStart c && rest.all isNameChar

/-- Parameters with a name of one sign. -/
def isSpecialParam (c : Char) : Bool := (ascii "@*#?-$!").contains c

def isOperatorChar (c : Char) : Bool := (ascii " \t\n;&|<>()").contains c

/-! ### Contexts -/

/-- Where parts stand. -/
structure Context where
  /-- Is what stands here as between double quotes? -/
  quoted : Bool
  /-- The signs that end the parts; a word ends at every operator. -/
  ends : List Char
  isWord : Bool := false
  /-- Does a double quote begin or end something here? -/
  quotes : Bool := true
  /-- The text of a redirection: only its end ends it. -/
  isText : Bool := false
  /-- What is wrong when the script ends first. -/
  unfinished : Problem := .missingBrace
  deriving Inhabited

namespace Context

def word : Context := { quoted := false, ends := [], isWord := true }

def doubleQuotes : Context := { quoted := true, ends := ['"'], unfinished := .unterminated '"' }

def whole : Context := { quoted := true, ends := [], quotes := false, isText := true }

def endsAt (ctx : Context) (c : Char) : Bool := if ctx.isWord then isOperatorChar c else ctx.ends.contains c

/-- Does the character stand for itself here, and for nothing else? -/
def isPlain (ctx : Context) (c : Char) : Bool :=
  !ctx.endsAt c && c != '\\' && c != '$' && c != '\x60' && c != '\n' && !(c == '"' && ctx.quotes) &&
    !(c == '\'' && !ctx.quoted) && !(ctx.isWord && (c == '<' || c == '>'))

/-- Does a backslash take the meaning from the character behind it? -/
def escapes (ctx : Context) (c : Char) : Bool :=
  if ctx.quoted then
    c == '$' || c == '\x60' || c == '\\' || (c == '"' && ctx.quotes) || (c == '\x7d' && ctx.ends.contains '\x7d')
  else true

end Context

/-- How a script inside a word is read: up to the bracket that closes it, or as a text of its own. -/
structure Inner where
  bracketed : P Command
  whole : Octets → P Command

/-- The script between back quotes.  Between double quotes a backslash gives up one more character. -/
def untilBackQuote (quoted : Bool) : (fuel : Nat) → P Octets
  | 0 => fault .noBackQuote
  | fuel + 1 => do
    match ← take? with
    | none => fault .noBackQuote
    | some '\x60' => return []
    | some '\\' =>
      match ← take? with
      | none => fault .noBackQuote
      | some '\n' => untilBackQuote quoted fuel
      | some c =>
        let rest ← untilBackQuote quoted fuel
        return (if c == '$' || c == '\x60' || c == '\\' || (quoted && c == '"') then [c] else ['\\', c]) ++ rest
    | some c => return c :: (← untilBackQuote quoted fuel)

/-- The text up to a single quote. -/
def untilQuote : (fuel : Nat) → P Octets
  | 0 => fault (.unterminated '\'')
  | fuel + 1 => do
    match ← take? with
    | none => fault (.unterminated '\'')
    | some '\'' => return []
    | some c => return c :: (← untilQuote fuel)

/-- The name at the head of what stands between braces, or behind a dollar sign. -/
def paramName (braced : Bool) : P Octets := do
  match ← ahead with
  | [] => return []
  | c :: rest =>
    if isNameStart c then
      let name := c :: rest.takeWhile isNameChar
      skip name.length
      return name
    else if c.isDigit then
      let name := if braced then c :: rest.takeWhile Char.isDigit else [c]
      skip name.length
      return name
    else if isSpecialParam c then
      skip 1
      return [c]
    else return []

/-- The change that the plain shell knows, at the front of a text, and its length. -/
def plainChange? : List Char → Option (Change × Nat)
  | ':' :: '-' :: _ => some (.orElse true, 2)
  | ':' :: '=' :: _ => some (.orAssign true, 2)
  | ':' :: '+' :: _ => some (.ifSet true, 2)
  | ':' :: '?' :: _ => some (.orFail true, 2)
  | '-' :: _ => some (.orElse false, 1)
  | '=' :: _ => some (.orAssign false, 1)
  | '+' :: _ => some (.ifSet false, 1)
  | '?' :: _ => some (.orFail false, 1)
  | '#' :: '#' :: _ => some (.dropFront true, 2)
  | '#' :: _ => some (.dropFront false, 1)
  | '%' :: '%' :: _ => some (.dropBack true, 2)
  | '%' :: _ => some (.dropBack false, 1)
  | _ => none

def richChange? : List Char → Option (Change × Nat)
  | '/' :: '/' :: _ => some (.replace true false false, 2)
  | '/' :: '#' :: _ => some (.replace false true false, 2)
  | '/' :: '%' :: _ => some (.replace false false true, 2)
  | '/' :: _ => some (.replace false false false, 1)
  | ':' :: _ => some (.section false, 1)
  | '^' :: '^' :: _ => some (.recase true true, 2)
  | '^' :: _ => some (.recase true false, 1)
  | ',' :: ',' :: _ => some (.recase false true, 2)
  | ',' :: _ => some (.recase false false, 1)
  | '@' :: c :: _ => some (.rendered c, 2)
  | _ => none

/-- Are the operands of a change patterns?  Patterns have quotes of their own. -/
def Change.takesPattern : Change → Bool
  | .dropFront _ | .dropBack _ | .replace .. | .recase .. => true
  | _ => false

/-! ### Characters with a spelling -/

/-- A number of at most so many digits in a base. -/
def digitsIn (base most : Nat) (s : List Char) : Octets :=
  (s.take most).takeWhile fun c => Octets.digitValue c < base

/-- The octets of a character with a number. -/
def utf8 (n : Nat) : Octets := Octets.ofText (String.singleton (Char.ofNat n))

/-- What is between single quotes behind a dollar sign, with the characters that are spelled there. -/
def spelledText : (fuel : Nat) → List Char → Octets
  | 0, _ => []
  | _ + 1, [] => []
  | fuel + 1, '\\' :: c :: rest =>
    let number (base most : Nat) (s : List Char) (plain : Octets) (make : Nat → Octets) : Octets :=
      let digits := digitsIn base most s
      if digits.isEmpty then plain ++ spelledText fuel s
      else make (Octets.valueIn base digits) ++ spelledText fuel (s.drop digits.length)
    let byte (n : Nat) : Octets := [Char.ofNat (n % 256)]
    match c with
    | 'n' => '\n' :: spelledText fuel rest
    | 't' => '\t' :: spelledText fuel rest
    | 'r' => '\r' :: spelledText fuel rest
    | 'a' => '\x07' :: spelledText fuel rest
    | 'b' => '\x08' :: spelledText fuel rest
    | 'e' | 'E' => '\x1b' :: spelledText fuel rest
    | 'f' => '\x0c' :: spelledText fuel rest
    | 'v' => '\x0b' :: spelledText fuel rest
    | 'x' => number 16 2 rest (ascii "\\x") byte
    | 'u' => number 16 4 rest (ascii "\\u") utf8
    | 'U' => number 16 8 rest (ascii "\\U") utf8
    | 'c' =>
      match rest with
      | d :: rest => byte (d.toNat &&& 31) ++ spelledText fuel rest
      | [] => ['\\', 'c']
    | '\\' | '\'' | '"' | '?' => c :: spelledText fuel rest
    | c => if Octets.isOctal c then number 8 3 (c :: rest) [] byte else '\\' :: c :: spelledText fuel rest
  | fuel + 1, c :: rest => c :: spelledText fuel rest

/-- The text up to a single quote, where a backslash keeps a quote from ending it. -/
def untilSpelledQuote : (fuel : Nat) → P Octets
  | 0 => fault (.unterminated '\'')
  | fuel + 1 => do
    match ← take? with
    | none => fault (.unterminated '\'')
    | some '\'' => return []
    | some '\\' =>
      match ← take? with
      | none => fault (.unterminated '\'')
      | some c => return '\\' :: c :: (← untilSpelledQuote fuel)
    | some c => return c :: (← untilSpelledQuote fuel)

/-! ### Parts -/

mutual

/-- The parts up to what ends them, which is left where it is. -/
def parts (inner : Inner) : (fuel : Nat) → Context → P Word
  | 0, ctx => fault ctx.unfinished
  | fuel + 1, ctx => do
    match ← ahead with
    | [] => if ctx.isWord || ctx.isText then return [] else fault ctx.unfinished
    | c :: rest =>
      let rich ← isRich
      if ctx.isWord && rich && (c = '<' || c = '>') && rest.head? = some '(' then
        skip 2
        let script ← inner.bracketed
        return .process (c = '<') script :: (← parts inner fuel ctx)
      else if ctx.endsAt c then return []
      else
        let part ← onePart inner fuel ctx c rest
        return part ++ (← parts inner fuel ctx)

/-- The part at the front. -/
def onePart (inner : Inner) : (fuel : Nat) → Context → Char → List Char → P Word
  | 0, ctx, _, _ => fault ctx.unfinished
  | fuel + 1, ctx, c, rest => do
    if c = '\\' then
      skip 1
      match ← take? with
      | none => return [.text ['\\'] true]
      | some d => return [.text (if ctx.escapes d then [d] else ['\\', d]) true]
    else if c = '\'' && !ctx.quoted then
      skip 1
      return [.text (← enclosed (untilQuote rest.length.succ)) true]
    else if c = '"' && ctx.quotes then
      skip 1
      let own ← enclosed (parts inner fuel .doubleQuotes)
      skip 1
      return [.quotes own]
    else if c = '$' then
      skip 1
      dollar inner fuel ctx
    else if c = '\x60' then
      skip 1
      let script ← enclosed (untilBackQuote ctx.quoted rest.length.succ)
      return [.output (← inner.whole script) ctx.quoted]
    else if c = '\n' then
      let _ ← take?
      return [.text ['\n'] ctx.quoted]
    else
      let own := c :: rest.takeWhile ctx.isPlain
      skip own.length
      return [.text own ctx.quoted]

/-- The part behind a dollar sign. -/
def dollar (inner : Inner) : (fuel : Nat) → Context → P Word
  | 0, ctx => fault ctx.unfinished
  | fuel + 1, ctx => do
    let quoted := ctx.quoted
    let rich ← isRich
    match ← ahead with
    | '(' :: _ =>
      skip 1
      match ← ahead with
      | '(' :: _ =>
        let before ← get
        skip 1
        let attempt := (do
          let expression ← arithmetic inner fuel 0
          return [Part.number expression quoted] : P Word)
        if rich then
          -- two brackets may also begin a script that begins with a bracket
          match attempt.run (← get) with
          | .ok (found, after) =>
            set after
            return found
          | .error f =>
            if f.problem = .unterminated ')' then throw { f with line := before.line, isPlaced := true }
            else
              set before
              return [.output (← inner.bracketed) quoted]
        else attempt
      | _ => return [.output (← inner.bracketed) quoted]
    | '{' :: _ =>
      skip 1
      enclosed (braced inner fuel ctx)
    | '\'' :: rest =>
      if rich && !quoted then
        skip 1
        let source ← enclosed (untilSpelledQuote rest.length.succ)
        return [.text (spelledText source.length.succ source) true]
      else return [.text ['$'] quoted]
    | '"' :: _ => return if rich && !quoted then [] else [.text ['$'] quoted]
    | _ =>
      match ← paramName false with
      | [] => return [.text ['$'] quoted]
      | name => return [.param name false none none [] quoted]

/-- A parameter between braces. -/
def braced (inner : Inner) : (fuel : Nat) → Context → P Word
  | 0, ctx => fault ctx.unfinished
  | fuel + 1, ctx => do
    let quoted := ctx.quoted
    let rich ← isRich
    let closing : Context :=
      { quoted, ends := ['\x7d'], unfinished := if quoted && !rich then .unterminated '"' else .missingBrace }
    -- all up to the closing brace, where what stands there makes no sense
    let senseless (name : Octets) : P Word := do
      let own ← parts inner fuel closing
      skip 1
      return [.param name false none (some .malformed) [own] quoted]
    let index : P (Option Word) := do
      match ← ahead with
      | '[' :: _ =>
        if rich then
          skip 1
          let own ← parts inner fuel { quoted := false, ends := [']'] }
          skip 1
          return some own
        else return none
      | _ => return none
    let changed (name : Octets) (indirect : Bool) (at_ : Option Word) : P Word := do
      let s ← ahead
      match s with
      | '\x7d' :: _ =>
        skip 1
        return [.param name indirect at_ none [] quoted]
      | _ =>
        match (plainChange? s).or (if rich then richChange? s else none) with
        | none =>
          -- the plain shell takes a brace right behind a colon for what is to be done
          if !rich && s.take 2 = [':', '\x7d'] then skip 2
          senseless name
        | some (change, length) =>
          skip length
          let operand (ends : List Char) : P Word :=
            let ctx : Context := { quoted := quoted && !change.takesPattern, ends }
            parts inner fuel { ctx with unfinished := if ctx.quoted then .unterminated '"' else .missingBrace }
          match change with
          | .replace .. =>
            let pattern ← operand ['/', '\x7d']
            let other ← (do
              match ← ahead with
              | '/' :: _ =>
                skip 1
                return [← parts inner fuel { quoted, ends := ['\x7d'] }]
              | _ => return [] : P (List Word))
            skip 1
            return [.param name indirect at_ (some change) (pattern :: other) quoted]
          | .section _ =>
            let offset ← parts inner fuel { quoted := true, ends := [':', '\x7d'] }
            let other ← (do
              match ← ahead with
              | ':' :: _ =>
                skip 1
                return [← parts inner fuel { quoted := true, ends := ['\x7d'] }]
              | _ => return [] : P (List Word))
            skip 1
            return [.param name indirect at_ (some (.section (!other.isEmpty))) (offset :: other) quoted]
          | _ =>
            let own ← operand ['\x7d']
            skip 1
            return [.param name indirect at_ (some change) [own] quoted]
    match ← ahead with
    | '#' :: c :: rest =>
      -- a length, unless the sign is itself the name
      if c = '\x7d' then
        skip 2
        return [.param ['#'] false none none [] quoted]
      else if isNameStart c || c.isDigit then
        skip 1
        let name ← paramName true
        let at_ ← index
        match ← ahead with
        | '\x7d' :: _ =>
          skip 1
          return [.length name at_ quoted]
        | _ => senseless name
      else if isSpecialParam c && rest.head? = some '\x7d' then
        skip 3
        return [.length [c] none quoted]
      else
        skip 1
        changed ['#'] false none
    | '!' :: c :: rest =>
      if rich && (isNameStart c || c.isDigit || (isSpecialParam c && rest.head? ≠ none && c ≠ '\x7d')) then
        skip 1
        let name ← paramName true
        match ← ahead with
        | '*' :: '\x7d' :: _ | '@' :: '\x7d' :: _ =>
          skip 2
          return [.names name none quoted]
        | _ =>
          let at_ ← index
          match at_ with
          | some [.text ['@'] _] | some [.text ['*'] _] =>
            skip 1
            return [.names name at_ quoted]
          | _ => changed name true at_
      else
        skip 1
        changed ['!'] false none
    | _ =>
      match ← paramName true with
      | [] => senseless []
      | name =>
        let at_ ← index
        changed name false at_

/-- An expression up to the two brackets that close it. -/
def arithmetic (inner : Inner) : (fuel : Nat) → (depth : Nat) → P Word
  | 0, _ => fault .missingParens
  | fuel + 1, depth => do
    let unfinished : Problem := if ← isRich then .unterminated ')' else .missingParens
    let ctx : Context := { quoted := true, ends := ['(', ')'], quotes := false, unfinished }
    match ← ahead with
    | [] => fault unfinished
    | '(' :: _ =>
      skip 1
      return .text ['('] true :: (← arithmetic inner fuel (depth + 1))
    | ')' :: rest =>
      if depth > 0 then
        skip 1
        return .text [')'] true :: (← arithmetic inner fuel (depth - 1))
      else
        match rest with
        | ')' :: _ =>
          skip 2
          return []
        | _ =>
          if ← isRich then fault .missingParens
          else
            skip 1
            return .text [')'] true :: (← arithmetic inner fuel 0)
    | _ =>
      let own ← parts inner fuel ctx
      return own ++ (← arithmetic inner fuel depth)

end

end GrammarStudio.Shell
