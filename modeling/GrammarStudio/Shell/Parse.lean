import GrammarStudio.Shell.Reader

/-!
# Reading a script

The words of a script are read as commands.  Words such as `if` are only special where a command can begin.  A script is
read a line at a time — or as many lines as one command needs — so that what stands first has been run before what
stands behind it is looked at.

* `Reader.line` — the commands of the next complete line;
* `Reader.whole` — the commands of a whole text.

The fuel bounds how deep commands nest and how many there are in a row; a script has enough of it by its length.
-/

namespace GrammarStudio.Shell

open Machine

/-! ### Words and tokens -/

def plainReserved : List String :=
  ["!", "\x7b", "\x7d", "case", "do", "done", "elif", "else", "esac", "fi", "for", "if", "in", "then", "until", "while"]

/-- What the body of a function begins with, apart from a bracket. -/
def bodyStarts : List String := ["\x7b", "if", "case", "for", "while", "until", "[[", "select"]

def richReserved : List String := ["[[", "]]", "function", "time", "select", "coproc"]

/-- Builtins whose names no function can have. -/
def specialBuiltins : List String :=
  [".", ":", "break", "continue", "eval", "exec", "exit", "export", "readonly", "return", "set", "shift", "times", "trap",
    "unset", "local"]

/-- The text of a word that has no quotes and no parameters. -/
def bareText? : Word → Option String
  | [.text o false] => some (String.ofList o)
  | _ => none

def Token.bare? : Token → Option String
  | .word w none _ => bareText? w
  | _ => none

def Token.is (t : Token) (word : String) : Bool := t.bare? == some word

def Token.isOp (t : Token) (symbol : String) : Bool :=
  match t with
  | .operator o => o == symbol
  | _ => false

def Token.isFinish : Token → Bool
  | .finish => true
  | _ => false

/-- Does a list of commands end here? -/
def Token.endsList : Token → Bool
  | .finish => true
  | .operator o => [")", ";;", ";&", ";;&"].contains o
  | t => t.bare?.any fun w => ["\x7d", "do", "done", "elif", "else", "esac", "fi", "then"].contains w

/-- The redirection that begins with an operator: its usual descriptor and its kind. -/
def redirectOf? : String → Option (Nat × RedirectKind)
  | "<" => some (0, .read)
  | "<>" => some (0, .readWrite)
  | ">" => some (1, .write)
  | ">|" => some (1, .clobber)
  | ">>" => some (1, .append)
  | "<&" => some (0, .duplicateInput)
  | ">&" => some (1, .duplicateOutput)
  | "<<" => some (0, .here 0)
  | "<<-" => some (0, .here 0)
  | "<<<" => some (0, .hereWord)
  | "&>" => some (1, .writeBoth)
  | "&>>" => some (1, .appendBoth)
  | _ => none

/-- What a fault calls a token. -/
def Token.called (rich : Bool) (t : Token) : String :=
  let marked (s : String) : String := if rich then "\x60" ++ s ++ "'" else "\"" ++ s ++ "\""
  match t with
  | .finish => "end of file"
  | .newline => if rich then marked "newline" else "newline"
  | .operator o => if !rich && (redirectOf? o).isSome then "redirection" else marked o
  | .descriptor n => if rich then marked n.repr else "redirection"
  | .word w _ source =>
    if rich then marked (String.ofList source)
    else match bareText? w with
      | some b => if plainReserved.contains b then marked b else "word"
      | none => "word"

def unexpected {α : Type} (t : Token) (wanted : Option String) : P α := do
  let rich ← isRich
  let line := (← get).line
  -- the rich shell counts the end of a line to that line
  let line := match t with
    | .newline => if rich then line - 1 else line
    | _ => line
  throw { line, problem := .unexpected (t.called rich) wanted }

/-- The operators, longer ones first. -/
def operators (rich : Bool) : List String :=
  if rich then
    ["<<<", "<<-", ";;&", "&>>", "&&", "||", ";;", ";&", "<<", ">>", "<&", ">&", "<>", ">|", "&>", "|&", "&", ";", "|", "<",
      ">", "(", ")"]
  else ["<<-", "&&", "||", ";;", "<<", ">>", "<&", ">&", "<>", ">|", "&", ";", "|", "<", ">", "(", ")"]

/-- The number of a descriptor right before a redirection. -/
def descriptor? (rich : Bool) (s : List Char) : Option (Nat × Nat) :=
  let digits := s.takeWhile Char.isDigit
  match s.drop digits.length with
  | c :: _ =>
    if (c == '<' || c == '>') && !digits.isEmpty && (rich || digits.length = 1) then
      some (Octets.valueIn 10 digits, digits.length)
    else none
  | [] => none

/-! ### Texts for redirections -/

/-- Reads the parts of a text that stands by itself. -/
def partsOf (inner : Inner) (ctx : Context) (text : Octets) : P Word := do
  let before ← get
  set { before with rest := text, given := none, expected := [] }
  let own ← parts inner (4 * text.length + 8) ctx
  modify fun r => { before with texts := r.texts }
  return own

/-- The lines of a text up to the one that ends it. -/
def textLines (rich : Bool) (e : Expected) : (fuel : Nat) → (joined : Bool) → P Octets
  | 0, _ => return []
  | fuel + 1, joined => do
    let r ← get
    match r.rest with
    | [] => return []
    | _ =>
      let raw := r.rest.takeWhile (· ≠ '\n')
      let rest := r.rest.drop (raw.length + 1)
      let bare := if e.dropTabs && !joined then raw.dropWhile (· == '\t') else raw
      set { r with rest, line := if r.rest.length > raw.length then r.line + 1 else r.line }
      if bare = e.delimiter && !joined then return []
      else
        let complete := r.rest.length > raw.length
        let backslashes := (bare.reverse.takeWhile (· == '\\')).length
        let more ← textLines rich e fuel (!e.literal && backslashes % 2 = 1 && complete)
        return bare ++ (if complete then ['\n'] else []) ++ more

/-- Reads the texts that the line asked for. -/
def readTexts (inner : Inner) : List Expected → P Unit
  | [] => return
  | e :: rest => do
    let rich ← isRich
    let text ← textLines rich e ((← get).rest.length + 1) false
    let own ← if e.literal then pure [Part.text text true] else partsOf inner .whole text
    modify fun r => { r with texts := r.texts.setIfInBounds e.index own }
    readTexts inner rest

/-- The text that the parts of a word spell, quotes taken off. -/
def spelledParts : (fuel : Nat) → Word → Octets
  | 0, _ => []
  | fuel + 1, w => w.flatMap fun
    | .text o _ => o
    | .quotes own => spelledParts fuel own
    | .param name _ _ _ _ _ => '$' :: name
    | _ => []

def hasQuotes (w : Word) : Bool :=
  w.any fun
    | .text _ q => q
    | .quotes _ => true
    | _ => false

/-! ### Assignments -/

/-- The parts up to a closing bracket with an equals sign behind it. -/
def indexParts : Word → Word → Option (Word × Bool × Word)
  | _, [] => none
  | before, .text o false :: rest =>
    let own := o.takeWhile (· ≠ ']')
    match o.drop own.length with
    | ']' :: '=' :: value => some (before ++ [.text own false], false, if value.isEmpty then rest else .text value false :: rest)
    | ']' :: '+' :: '=' :: value =>
      some (before ++ [.text own false], true, if value.isEmpty then rest else .text value false :: rest)
    | _ => indexParts (before ++ [.text o false]) rest
  | before, part :: rest => indexParts (before ++ [part]) rest

/-- The assignment that a word is. -/
def assignment? (rich : Bool) (items : Option (List Word)) : Word → Option Assignment
  | .text o false :: rest =>
    let name := o.takeWhile isNameChar
    let value (v : Octets) : Word := if v.isEmpty then rest else .text v false :: rest
    if !isName name then none
    else
      match o.drop name.length with
      | '=' :: v => some (.mk name none false (value v) items)
      | '+' :: '=' :: v => if rich then some (.mk name none true (value v) items) else none
      | '[' :: v =>
        if rich then (indexParts [] (.text v false :: rest)).map fun (index, appends, w) => .mk name (some index) appends w none
        else none
      | _ => none
  | _ => none

/-! ### Redirections -/

/-- Cuts the parts of an expression at its semicolons. -/
def expressionParts : Word → List Word
  | [] => [[]]
  | part :: rest =>
    match part with
    | .text o q =>
      let pieces := Octets.splitOn ';' o
      match expressionParts rest with
      | [] => [[part]]
      | last :: others =>
        match pieces.reverse with
        | [] => last :: others
        | final :: before => before.reverse.map (fun p => [.text p q]) ++ (.text final q :: last) :: others
    | part =>
      match expressionParts rest with
      | [] => [[part]]
      | first :: others => (part :: first) :: others

def sequenceOf : List Command → Command
  | [] => .nothing
  | [c] => c
  | c :: rest => .sequence c (sequenceOf rest)

/-- The operators of a condition with one operand. -/
def conditionUnary : List String :=
  ["-a", "-b", "-c", "-d", "-e", "-f", "-g", "-h", "-k", "-p", "-r", "-s", "-t", "-u", "-w", "-x", "-G", "-L", "-N", "-O", "-S",
    "-z", "-n", "-o", "-v", "-R"]

def conditionBinary : List String :=
  ["=", "==", "!=", "=~", "-eq", "-ne", "-lt", "-le", "-gt", "-ge", "-nt", "-ot", "-ef"]

/-! ### Commands -/

mutual

/-- How scripts inside words are read. -/
def inner : (fuel : Nat) → Inner
  | 0 => ⟨fault .missingBrace, fun _ => fault .missingBrace⟩
  | fuel + 1 =>
    { bracketed := do
        let c ← commands fuel true
        let t ← next fuel
        if t.isOp ")" then return c
        else if ← isRich then
          match t with
          | .finish => throw { line := (← get).line, problem := .unterminated ')', isPlaced := true }
          | t => unexpected t (some "\")\"")
        else unexpected t (some "\")\"")
      whole := fun script => do
        let before ← get
        set { before with rest := script, given := none, expected := [] }
        let c ← commands fuel true
        modify fun r => { before with texts := r.texts }
        return c }

/-- The next token. -/
def next : (fuel : Nat) → P Token
  | 0 => return .finish
  | fuel + 1 => do
    match (← get).given with
    | some t =>
      modify fun r => { r with given := none }
      return t
    | none => fresh fuel

/-- The next token, which is given back at once. -/
def peek : (fuel : Nat) → P Token
  | 0 => return .finish
  | fuel + 1 => do
    let t ← next fuel
    modify fun r => { r with given := some t }
    return t

/-- Reads a token. -/
def fresh : (fuel : Nat) → P Token
  | 0 => return .finish
  | fuel + 1 => do
    let s ← ahead
    let rich ← isRich
    match s with
    | [] =>
      let r ← get
      set { r with expected := [] }
      readTexts (inner fuel) r.expected.reverse
      return .finish
    | c :: rest =>
      if c = ' ' || c = '\t' then
        skip (s.takeWhile fun c => c = ' ' || c = '\t').length
        fresh fuel
      else if c = '#' then
        skip (rest.takeWhile (· ≠ '\n')).length.succ
        fresh fuel
      else if c = '\n' then
        let _ ← take?
        let r ← get
        set { r with expected := [] }
        readTexts (inner fuel) r.expected.reverse
        return .newline
      else
        match descriptor? rich s with
        | some (n, length) =>
          skip length
          return .descriptor n
        | none =>
          match (if rich && (c = '<' || c = '>') && rest.head? = some '(' then none
            else (operators rich).find? fun o => o.toList.isPrefixOf s) with
          | some o =>
            skip o.length
            return .operator o
          | none =>
            let w ← parts (inner fuel) (4 * s.length + 8) .word
            let after ← get
            let source := s.take (s.length - after.rest.length)
            let opens := match w with
              | [.text o false] =>
                let name := o.takeWhile isNameChar
                isName name && (o.drop name.length = ['='] || o.drop name.length = ['+', '='])
              | _ => false
            match after.rest with
            | '(' :: _ =>
              if rich && opens then
                skip 1
                let items ← itemsOf fuel
                return .word w (some items) source
              else return .word w none source
            | _ => return .word w none source

/-- The items of a list, up to its closing bracket. -/
def itemsOf : (fuel : Nat) → P (List Word)
  | 0 => return []
  | fuel + 1 => do
    match ← next fuel with
    | .word w _ _ => return w :: (← itemsOf fuel)
    | .newline => itemsOf fuel
    | .operator ")" => return []
    | t => unexpected t none

def skipNewlines : (fuel : Nat) → P Unit
  | 0 => return
  | fuel + 1 => do
    match ← peek fuel with
    | .newline =>
      let _ ← next fuel
      skipNewlines fuel
    | _ => return

/-- Passes over a word that has to stand here. -/
def expectWord : (fuel : Nat) → String → P Unit
  | 0, _ => return
  | fuel + 1, word => do
    let t ← next fuel
    if t.is word then return else unexpected t (some ("\"" ++ word ++ "\""))

/-- The commands up to where a list ends; there has to be one, unless there may be none. -/
def commands : (fuel : Nat) → (mayBeEmpty : Bool) → P Command
  | 0, _ => return .nothing
  | fuel + 1, mayBeEmpty => do
    skipNewlines fuel
    let t ← peek fuel
    if (mayBeEmpty && t.endsList) || t.isFinish then return .nothing
    else
      let c ← andOr fuel
      let (c, goesOn) ← separated fuel c
      if goesOn then return sequenceOf ([c] ++ (match ← commands fuel true with
        | .nothing => []
        | rest => [rest]))
      else return c

/-- A command with what separates it from the next one, if anything does. -/
def separated : (fuel : Nat) → Command → P (Command × Bool)
  | 0, c => return (c, false)
  | fuel + 1, c => do
    match ← peek fuel with
    | .operator "&" =>
      let line := (← get).line
      let _ ← next fuel
      return (.background line c, true)
    | .operator ";" | .newline =>
      let _ ← next fuel
      return (c, true)
    | _ => return (c, false)

/-- Pipelines joined by the outcome of the one before. -/
def andOr : (fuel : Nat) → P Command
  | 0 => return .nothing
  | fuel + 1 => do
    let c ← pipeline fuel
    andOrFrom fuel c

def andOrFrom : (fuel : Nat) → Command → P Command
  | 0, c => return c
  | fuel + 1, c => do
    match ← peek fuel with
    | .operator "&&" =>
      let _ ← next fuel
      skipNewlines fuel
      andOrFrom fuel (.andThen c (← pipeline fuel))
    | .operator "||" =>
      let _ ← next fuel
      skipNewlines fuel
      andOrFrom fuel (.orElse c (← pipeline fuel))
    | _ => return c

def pipeline : (fuel : Nat) → P Command
  | 0 => return .nothing
  | fuel + 1 => do
    let t ← peek fuel
    let rich ← isRich
    if t.is "!" then
      let _ ← next fuel
      if rich then
        match ← peek fuel with
        | .newline | .finish | .operator ";" => return .not .nothing
        | _ => return .not (← pipeline fuel)
      else return .not (← stages fuel)
    else if rich && t.is "time" then
      let _ ← next fuel
      let t ← peek fuel
      if t.is "-p" then
        let _ ← next fuel
      return .timed (← pipeline fuel)
    else stages fuel

def stages : (fuel : Nat) → P Command
  | 0 => return .nothing
  | fuel + 1 => do
    let c ← command fuel
    match ← moreStages fuel c with
    | [c] => return c
    | cs => return .pipeline cs

/-- A stage with those behind it. -/
def moreStages : (fuel : Nat) → Command → P (List Command)
  | 0, c => return [c]
  | fuel + 1, c => do
    match ← peek fuel with
    | .operator "|" =>
      let _ ← next fuel
      skipNewlines fuel
      return c :: (← moreStages fuel (← command fuel))
    | .operator "|&" =>
      let _ ← next fuel
      skipNewlines fuel
      return .redirected 0 c [.mk 2 .duplicateOutput [.text ['1'] false]] :: (← moreStages fuel (← command fuel))
    | _ => return [c]

/-- What stands behind `if`. -/
def branch : (fuel : Nat) → P Command
  | 0 => return .nothing
  | fuel + 1 => do
    let condition ← commands fuel false
    expectWord fuel "then"
    let yes ← commands fuel false
    let t ← next fuel
    if t.is "elif" then return .branch condition yes (← branch fuel)
    else if t.is "else" then
      let no ← commands fuel false
      expectWord fuel "fi"
      return .branch condition yes no
    else if t.is "fi" then return .branch condition yes .nothing
    else unexpected t (some "\"fi\"")

/-- The body of a loop. -/
def loopBody : (fuel : Nat) → P Command
  | 0 => return .nothing
  | fuel + 1 => do
    expectWord fuel "do"
    let body ← commands fuel false
    expectWord fuel "done"
    return body

/-- The words of a loop up to the end of the line. -/
def wordsHere : (fuel : Nat) → P (List Word)
  | 0 => return []
  | fuel + 1 => do
    match ← next fuel with
    | .word w _ _ => return w :: (← wordsHere fuel)
    | .newline | .operator ";" => return []
    | t => unexpected t none

/-- A loop over words, behind `for`. -/
def each : (fuel : Nat) → P Command
  | 0 => return .nothing
  | fuel + 1 => do
    let rich ← isRich
    let line := (← get).line
    let s := (← ahead).dropWhile (· == ' ')
    if rich && "((".toList.isPrefixOf s then
      modify fun r => { r with rest := s.drop 2 }
      let expression ← arithmetic (inner fuel) (4 * s.length + 8) 0
      match expressionParts expression with
      | [a, b, c] =>
        let t ← peek fuel
        if t.isOp ";" then
          let _ ← next fuel
        skipNewlines fuel
        if (← peek fuel).is "\x7b" then
          let _ ← next fuel
          let body ← commands fuel false
          expectWord fuel "\x7d"
          return .counted line a b c body
        else return .counted line a b c (← loopBody fuel)
      | _ => fault (.badName "arithmetic expression required")
    else
      let t ← next fuel
      match t.bare? with
      | none =>
        if rich then
          match t with
          | .word _ _ source => fault (.badName ("\x60" ++ String.ofList source ++ "': not a valid identifier"))
          | t => unexpected t none
        else fault (.badName "Bad for loop variable")
      | some name =>
        if !isName name.toList then
          if rich then fault (.badName ("\x60" ++ name ++ "': not a valid identifier")) else fault (.badName "Bad for loop variable")
        else
          skipNewlines fuel
          let t ← peek fuel
          if t.is "in" then
            let _ ← next fuel
            let words ← wordsHere fuel
            skipNewlines fuel
            return .each line name.toList (some words) (← loopBody fuel)
          else
            if t.isOp ";" then
              let _ ← next fuel
            skipNewlines fuel
            return .each line name.toList none (← loopBody fuel)

/-- The patterns of a choice, up to their bracket. -/
def patternsHere : (fuel : Nat) → P (List Word)
  | 0 => return []
  | fuel + 1 => do
    let t ← next fuel
    match t with
    | .word w _ _ =>
      match ← next fuel with
      | .operator "|" => return w :: (← patternsHere fuel)
      | .operator ")" => return [w]
      | t => unexpected t (some "\")\"")
    | t =>
      -- the plain shell looks at what stands behind first
      if ← isRich then unexpected t none
      else
        match t with
        | .operator _ => unexpected (← next fuel) (some "\")\"")
        | t => unexpected t (some "\")\"")

/-- The choices of a case, up to `esac`. -/
def arms : (fuel : Nat) → P (List Arm)
  | 0 => return []
  | fuel + 1 => do
    skipNewlines fuel
    let t ← peek fuel
    if t.is "esac" then
      let _ ← next fuel
      return []
    else
      if t.isOp "(" then
        let _ ← next fuel
      let patterns ← patternsHere fuel
      let body ← commands fuel true
      let t ← next fuel
      match t with
      | .operator ";;" => return .mk patterns body .stop :: (← arms fuel)
      | .operator ";&" => return .mk patterns body .fallThrough :: (← arms fuel)
      | .operator ";;&" => return .mk patterns body .tryNext :: (← arms fuel)
      | t => if t.is "esac" then return [.mk patterns body .stop] else unexpected t (some "\";;\"")

/-- As many redirections as stand here. -/
def redirects : (fuel : Nat) → P (List Redirect)
  | 0 => return []
  | fuel + 1 => do
    match ← redirect? fuel with
    | some r => return r :: (← redirects fuel)
    | none => return []

/-- A redirection, if one stands here. -/
def redirect? : (fuel : Nat) → P (Option Redirect)
  | 0 => return none
  | fuel + 1 => do
    match ← peek fuel with
    | .descriptor n =>
      let _ ← next fuel
      let t ← next fuel
      match t with
      | .operator o =>
        match redirectOf? o with
        | some (_, kind) => return some (← target fuel n kind o)
        | none => unexpected t none
      | t => unexpected t none
    | .operator o =>
      match redirectOf? o with
      | some (n, kind) =>
        let _ ← next fuel
        return some (← target fuel n kind o)
      | none => return none
    | _ => return none

/-- The word behind the sign of a redirection. -/
def target : (fuel : Nat) → Nat → RedirectKind → String → P Redirect
  | 0, n, kind, _ => return .mk n kind []
  | fuel + 1, n, kind, symbol => do
    let t ← next fuel
    match t with
    | .word w _ _ =>
      match kind with
      | .here _ =>
        let index := (← get).texts.size
        let e : Expected := ⟨index, spelledParts 3 w, symbol = "<<-", hasQuotes w⟩
        modify fun r => { r with texts := r.texts.push [], expected := e :: r.expected }
        return .mk n (.here index) []
      | kind => return .mk n kind w
    | t => unexpected t none

/-- Reads a simple command behind what has been read of it, the latest first. -/
def simple : (fuel : Nat) → (line : Nat) → List Assignment → List Word → List Redirect → P Command
  | 0, line, as, ws, rs => return .simple line as.reverse ws.reverse rs.reverse
  | fuel + 1, line, as, ws, rs => do
    let rich ← isRich
    match ← redirect? fuel with
    | some r => simple fuel line as ws (r :: rs)
    | none =>
      match ← peek fuel with
      | .word w items source =>
        let _ ← next fuel
        match (if ws.isEmpty then assignment? rich items w else none) with
        | some a => simple fuel line (a :: as) ws rs
        | none =>
          match items with
          | some own =>
            -- a list where a command takes its assignments as arguments
            simple fuel line as (([.text source true] ++ own.flatMap fun w => .text [' '] true :: w) :: ws) rs
          | none => simple fuel line as (w :: ws) rs
      | .operator "(" =>
        match as, ws, rs with
        | [], [w], [] =>
          let _ ← next fuel
          let t ← next fuel
          if !t.isOp ")" then
            match t, rich with
            | .word .., false => fault (.unexpected "word" (some "\")\""))
            | t, _ => unexpected t (some "\")\"")
          else
            match bareText? w with
            | some name =>
              if !rich && (!isName name.toList || specialBuiltins.contains name) then fault (.badName "Bad function name")
              else
                skipNewlines fuel
                let t ← peek fuel
                if rich && !(t.isOp "(" || t.bare?.any bodyStarts.contains) then unexpected t none
                return .define name.toList line (← command fuel)
            | none => fault (.badName "Bad function name")
        | _, _, _ => return .simple line as.reverse ws.reverse rs.reverse
      | _ => return .simple line as.reverse ws.reverse rs.reverse

/-- A condition up to its closing brackets. -/
def conditionOr : (fuel : Nat) → P Condition
  | 0 => return default
  | fuel + 1 => do
    let a ← conditionAnd fuel
    skipNewlines fuel
    match ← peek fuel with
    | .operator "||" =>
      let _ ← next fuel
      return .or a (← conditionOr fuel)
    | _ => return a

def conditionAnd : (fuel : Nat) → P Condition
  | 0 => return default
  | fuel + 1 => do
    let a ← conditionOne fuel
    skipNewlines fuel
    match ← peek fuel with
    | .operator "&&" =>
      let _ ← next fuel
      return .and a (← conditionAnd fuel)
    | _ => return a

def conditionOne : (fuel : Nat) → P Condition
  | 0 => return default
  | fuel + 1 => do
    skipNewlines fuel
    let t ← next fuel
    match t with
    | .operator "(" =>
      let c ← conditionOr fuel
      let t ← next fuel
      if t.isOp ")" then return c else fault (.conditional (t.called true))
    | .word w _ _ =>
      if t.is "!" then return .not (← conditionOne fuel)
      else
        let after ← peek fuel
        match t.bare?, after with
        | some operator, .word v _ _ =>
          if conditionUnary.contains operator && !(after.is "]]") &&
              !(after.bare?.any conditionBinary.contains) then
            let _ ← next fuel
            return .unary operator v
          else conditionRest fuel w after
        | _, after => conditionRest fuel w after
    | t => fault (.conditional (t.called true))

/-- What stands behind the first word of a condition. -/
def conditionRest : (fuel : Nat) → Word → Token → P Condition
  | 0, w, _ => return .word w
  | fuel + 1, w, after => do
    match after with
    | .operator o =>
      if o = "<" || o = ">" then
        let _ ← next fuel
        match ← next fuel with
        | .word v _ _ => return .binary o w v
        | t => fault (.conditional (t.called true))
      else return .word w
    | t =>
      match t.bare? with
      | some operator =>
        if operator = "=~" then
          let _ ← next fuel
          modify fun r => { r with rest := r.rest.dropWhile fun c => c == ' ' || c == '\t' }
          let s ← ahead
          return .binary operator w (← parts (inner fuel) (4 * s.length + 8)
            { quoted := false, ends := [' ', '\t', '\n'], unfinished := .unexpected "end of file" none })
        else if conditionBinary.contains operator then
          let _ ← next fuel
          match ← next fuel with
          | .word v _ _ => return .binary operator w v
          | t => fault (.conditional (t.called true))
        else return .word w
      | none => return .word w

/-- A compound command, a definition or a simple command. -/
def command : (fuel : Nat) → P Command
  | 0 => return .nothing
  | fuel + 1 => do
    let t ← peek fuel
    let rich ← isRich
    let line := (← get).line
    let compound (read : P Command) : P Command := do
      let _ ← next fuel
      let c ← read
      match ← redirects fuel with
      | [] => return c
      | rs => return .redirected line c rs
    if t.isOp "(" then
      let s := (← get).rest
      let before ← get
      let asExpression : P Command := do
        modify fun r => { r with given := none, rest := s.drop 1 }
        let expression ← arithmetic (inner fuel) (4 * s.length + 8) 0
        match ← redirects fuel with
        | [] => return .arithmetic line expression
        | rs => return .redirected line (.arithmetic line expression) rs
      let asSubshell : P Command := do
        let _ ← next fuel
        let body ← commands fuel false
        let t ← next fuel
        if !t.isOp ")" then unexpected t (some "\")\"")
        else return .subshell line body (← redirects fuel)
      if rich && s.head? = some '(' then
        match asExpression.run before with
        | .ok (c, after) =>
          set after
          return c
        | .error _ => asSubshell
      else asSubshell
    else if t.is "\x7b" then compound do
      let body ← commands fuel false
      expectWord fuel "\x7d"
      return body
    else if t.is "if" then compound (branch fuel)
    else if t.is "while" || t.is "until" then compound do
      let condition ← commands fuel false
      return .loop (t.is "while") condition (← loopBody fuel)
    else if t.is "for" || (rich && t.is "select") then compound (each fuel)
    else if t.is "case" then compound do
      match ← next fuel with
      | .word subject _ _ =>
        skipNewlines fuel
        expectWord fuel "in"
        return .choose line subject (← arms fuel)
      | t => unexpected t (some "word")
    else if rich && t.is "[[" then compound do
      let c ← conditionOr fuel
      let t ← next fuel
      if t.is "]]" then return .condition line c else fault (.conditional (t.called true))
    else if rich && t.is "function" then
      let _ ← next fuel
      match ← next fuel with
      | .word _ _ source =>
        let t ← peek fuel
        if t.isOp "(" then
          let _ ← next fuel
          let t ← next fuel
          if !t.isOp ")" then unexpected t none
        skipNewlines fuel
        return .define source line (← command fuel)
      | t => unexpected t none
    else
      match t with
      | .word w none _ =>
        if (bareText? w).any plainReserved.contains then unexpected t none
        else simple fuel line [] [] []
      | .word .. | .descriptor _ => simple fuel line [] [] []
      | .operator o => if (redirectOf? o).isSome then simple fuel line [] [] [] else unexpected t none
      | t => unexpected t none

end

/-- The commands of one line, the latest first. -/
def lineFrom : (fuel : Nat) → List Command → P (Option (List Command))
  | 0, cs => return some cs
  | fuel + 1, cs => do
    let t ← peek fuel
    match t with
    | .newline =>
      let _ ← next fuel
      return some cs
    | .finish => return if cs.isEmpty then none else some cs
    | _ =>
      let c ← andOr fuel
      match ← peek fuel with
      | .operator "&" =>
        let line := (← get).line
        let _ ← next fuel
        lineFrom fuel (.background line c :: cs)
      | .operator ";" =>
        let _ ← next fuel
        lineFrom fuel (c :: cs)
      | .newline | .finish => lineFrom fuel (c :: cs)
      | t => unexpected t none

namespace Reader

def ofScript (dialect : Dialect) (texts : Array Word) (script : Octets) : Reader := { dialect, rest := script, texts }

def fuel (r : Reader) : Nat := 40 * r.rest.length + 200

/-- The commands of the next complete line, or nothing at the end.  Behind a fault the reader stands where it was, so
that its texts are known. -/
def nextLine (r : Reader) : Except SyntaxFault (Option Command × Reader) := do
  let (cs, after) ← (lineFrom r.fuel []).run r
  .ok (cs.map fun cs => sequenceOf cs.reverse, after)

/-- Has the end of the script been seen? -/
def isFinished (r : Reader) : Bool :=
  match r.given with
  | some .finish => true
  | none => r.dialect = .rich && r.rest.isEmpty
  | _ => false

end Reader

end GrammarStudio.Shell
