import GrammarStudio.LineScript.Command
import GrammarStudio.Regex.Posix

/-!
# Reading scripts of commands

A script comes in parts: texts among the arguments, and files.  What is wrong with it is told with the part and the
place.

* `Part` — a part of a script;
* `Script.read` — the script of some parts.
-/

namespace GrammarStudio.LineScript

open Machine

/-- A part of a script. -/
inductive Part where
  | text (o : Octets)
  | file (name content : Octets)

/-- What jumps and blocks still have to be told. -/
inductive Wanted where
  | jump
  | jumpIfChanged
  | jumpUnlessChanged

/-- What is known of a script that is being read. -/
structure Reading where
  /-- What is left of the part. -/
  rest : Octets
  /-- How much of it is read. -/
  count : Nat := 0
  line : Nat := 1
  /-- The name of the part. -/
  place : Octets
  isFile : Bool := false
  extended : Bool := false
  separator : Char := '\n'
  commands : Array Command := #[]
  /-- The blocks that are open, the innermost first. -/
  blocks : List Nat := []
  labels : List (Octets × Nat) := []
  jumps : List (Nat × Wanted × Octets) := []
  quiet : Bool := false
  isFirst : Bool := true
  /-- The command whose text goes on in the next part. -/
  unfinished : Option Nat := none

abbrev Read := StateT Reading (Except Octets)

/-! ### Characters -/

/-- Refuses the script, and says where. -/
def refuse {α : Type} (message : Octets) : Read α := fun s =>
  .error (if s.isFile then s.place ++ ascii " line " ++ Octets.ofNat s.line ++ ascii ": " ++ message
    else s.place ++ ascii ", char " ++ Octets.ofNat s.count ++ ascii ": " ++ message)

def refuseText {α : Type} (message : String) : Read α := refuse (ascii message)

/-- The next character. -/
def take : Read (Option Char) := do
  let s ← get
  match s.rest with
  | [] => return none
  | c :: rest =>
    set { s with rest, count := s.count + 1, line := if c = '\n' then s.line + 1 else s.line }
    return some c

/-- Puts a character back. -/
def putBack (c : Option Char) : Read Unit := do
  match c with
  | none => return
  | some c => modify fun s => { s with rest := c :: s.rest, count := s.count - 1, line := if c = '\n' then s.line - 1 else s.line }

/-- Takes characters as long as they are of a kind. -/
def takeWhile (p : Char → Bool) : Read Octets := do
  let s ← get
  let o := s.rest.takeWhile p
  set { s with rest := s.rest.drop o.length, count := s.count + o.length, line := s.line + o.count '\n' }
  return o

def isGap (c : Char) : Bool := c = ' ' || c = '\t'

/-- The next character behind blanks. -/
def takeInk : Read (Option Char) := do
  let _ ← takeWhile isGap
  take

/-- A number that begins with a character. -/
def integer (c : Option Char) : Read Nat := do
  putBack c
  return Octets.valueIn 10 (← takeWhile Char.isDigit)

/-- The end of a command. -/
def endCommand : Read Unit := do
  let c ← takeInk
  if c = some '}' || c = some '#' then putBack c
  else if c = none || c = some '\n' || c = some ';' then return
  else refuseText "extra characters after command"

/-! ### Escapes -/

/-- Where a text with escapes stands. -/
inductive Kind where
  | text
  | expression
  | replacement
  deriving DecidableEq

/-- A character that an escape gives.  In what is put in for a match it stands for itself. -/
def produced (k : Kind) (c : Char) : Octets := if k = .replacement && (c = '&' || c = '\\') then ['\\', c] else if k = .replacement && c = '\n' then ['\\', c] else [c]

/-- A text with the characters that escapes stand for; other escapes are left as they are. -/
def withEscapes (k : Kind) : (fuel : Nat) → Octets → Octets
  | 0, o => o
  | fuel + 1, '\\' :: c :: rest =>
    let digits (base most : Nat) : Octets := (rest.take most).takeWhile fun c => Octets.digitValue c < base
    let numbered (base most : Nat) : Octets :=
      let own := digits base most
      if own.isEmpty then '\\' :: c :: withEscapes k fuel rest
      else produced k (Char.ofNat (Octets.valueIn base own % 256)) ++ withEscapes k fuel (rest.drop own.length)
    match c with
    | 'a' => '\x07' :: withEscapes k fuel rest
    | 'f' => '\x0c' :: withEscapes k fuel rest
    | 'r' => '\r' :: withEscapes k fuel rest
    | 't' => '\t' :: withEscapes k fuel rest
    | 'v' => '\x0b' :: withEscapes k fuel rest
    | 'd' => numbered 10 3
    | 'o' => numbered 8 3
    | 'x' => numbered 16 2
    | 'c' =>
      match rest with
      | [] => if k = .replacement then ['\\', '\\'] else ['\\']
      | '\\' :: '\\' :: rest => produced k '\x1c' ++ withEscapes k fuel rest
      | d :: rest => produced k (Char.ofNat ((d.toUpper.toNat ^^^ 64) % 256)) ++ withEscapes k fuel rest
    | c => '\\' :: c :: withEscapes k fuel rest
  | fuel + 1, c :: rest => c :: withEscapes k fuel rest
  | _, [] => []

/-! ### Expressions -/

/-- What stands between brackets, behind the opening one and up to the closing one; nothing if there is none. -/
def bracketed : (fuel : Nat) → (isFirst : Bool) → Octets → Option Octets
  | 0, _, _ => none
  | _ + 1, _, [] => none
  | _ + 1, _, '\n' :: _ => none
  | fuel + 1, isFirst, c :: rest =>
    if c = ']' && !isFirst then some [c]
    else if c = '^' && isFirst then (bracketed fuel true rest).map (c :: ·)
    else
      match c, rest with
      | '[', mark :: more =>
        if mark = ':' || mark = '.' || mark = '=' then
          match Octets.find? [mark, ']'] 0 more with
          | some n => (bracketed fuel false (more.drop (n + 2))).map (['[', mark] ++ more.take (n + 2) ++ ·)
          | none => none
        else (bracketed fuel false rest).map (c :: ·)
      | c, rest => (bracketed fuel false rest).map (c :: ·)

/-- The text up to a mark, with what is quoted in it; nothing if the mark is not there. -/
def upTo (mark : Char) (isExpression : Bool) : (fuel : Nat) → Octets → Read (Option Octets)
  | 0, _ => return none
  | fuel + 1, found => do
    match ← take with
    | none => return none
    | some c =>
      if c = mark then return some found.reverse
      else if c = '\n' && isExpression then
        putBack (some c)
        return none
      else if c = '\n' then
        putBack (some c)
        return none
      else if c = '\\' then
        match ← take with
        | none => return none
        | some d =>
          if d = mark && !(!isExpression && d = '&') then upTo mark isExpression fuel (d :: found)
          else if d = 'n' && isExpression then upTo mark isExpression fuel ('\n' :: found)
          else if d = '\n' && isExpression then upTo mark isExpression fuel ('\n' :: found)
          else upTo mark isExpression fuel (d :: '\\' :: found)
      else if c = '[' && isExpression then
        match bracketed ((← get).rest.length + 1) true (← get).rest with
        | some inner =>
          modify fun s => { s with rest := s.rest.drop inner.length, count := s.count + inner.length }
          upTo mark isExpression fuel (inner.reverse ++ c :: found)
        | none =>
          let _ ← takeWhile (· ≠ '\n')
          return none
      else upTo mark isExpression fuel (c :: found)

def between (mark : Char) (isExpression : Bool) : Read (Option Octets) := do
  upTo mark isExpression ((← get).rest.length + 1) []

/-- In brackets an escaped letter stands for a line feed. -/
def bracketLineFeeds : (inside isFirst : Bool) → Octets → Octets
  | _, _, [] => []
  | false, _, '\\' :: c :: rest => '\\' :: c :: bracketLineFeeds false false rest
  | false, _, '[' :: rest => '[' :: bracketLineFeeds true true rest
  | true, true, '^' :: rest => '^' :: bracketLineFeeds true true rest
  | true, true, ']' :: rest => ']' :: bracketLineFeeds true false rest
  | true, _, '\\' :: 'n' :: rest => '\n' :: bracketLineFeeds true false rest
  | true, _, ']' :: rest => ']' :: bracketLineFeeds false false rest
  | inside, _, c :: rest => c :: bracketLineFeeds inside false rest

/-- The expression that a text writes. -/
def sought (text : Octets) (anyCase perLine : Bool) : Read Sought := do
  if text.isEmpty then
    if anyCase || perLine then refuseText "cannot specify modifiers on empty regexp"
    return none
  let flavour : Regex.Flavour :=
    { extended := (← get).extended, dangling := if (← get).extended then .fault else .itself, ignoresCase := anyCase, perLine
      leadingBrace := true }
  let text := bracketLineFeeds false false (withEscapes .expression (text.length + 1) text)
  match Regex.Finder.ofText flavour text with
  | .ok f => return some f
  | .error fault => refuseText fault.message

/-! ### Addresses -/

inductive AddressFound where
  | address (a : Address)
  | until_ (u : Until)

/-- The signs behind an expression. -/
def addressFlags : (fuel : Nat) → (anyCase perLine : Bool) → Read (Bool × Bool)
  | 0, i, m => return (i, m)
  | fuel + 1, i, m => do
    match ← takeInk with
    | some 'I' => addressFlags fuel true m
    | some 'M' => addressFlags fuel i true
    | c =>
      putBack c
      return (i, m)

/-- The address that begins with a character, if there is one. -/
def address (c : Option Char) : Read (Option AddressFound) := do
  match c with
  | none => return none
  | some c =>
    if c = '/' || c = '\\' then
      let mark ← (if c = '\\' then take else pure (some c) : Read (Option Char))
      match ← (match mark with
        | some mark => between mark true
        | none => pure none : Read (Option Octets)) with
      | none => refuseText "unterminated address regex"
      | some text =>
        let (i, m) ← addressFlags ((← get).rest.length + 1) false false
        return some (.address (.matching (← sought text i m)))
    else if c.isDigit then
      let n ← integer (some c)
      match ← takeInk with
      | some '~' =>
        let step ← integer (← takeInk)
        return some (.address (if step > 0 then .every n step else .number n))
      | c =>
        putBack c
        return some (.address (.number n))
    else if c = '+' then return some (.until_ (.further (← integer (← takeInk))))
    else if c = '~' then return some (.until_ (.multiple (← integer (← takeInk))))
    else if c = '$' then return some (.address .last)
    else return none

/-- The lines that a command is for, and the character behind them. -/
def selector (c : Option Char) : Read (Selector × Option Char) := do
  match ← address c with
  | none => return ({}, c)
  | some (.until_ _) => refuseText "invalid usage of +N or ~N as first address"
  | some (.address a) =>
    let next ← takeInk
    let (second, next) ← (do
      if next ≠ some ',' then return (none, next)
      match ← address (← takeInk) with
      | none => refuseText "unexpected \x60,'"
      | some found =>
        let u : Until := match found with
          | .until_ u => u
          | .address (.number n) => .number n
          | .address .last => .last
          | .address (.matching r) => .matching r
          | .address (.every first _) => .number first
        return (some u, ← takeInk) : Read (Option Until × Option Char))
    match a, second with
    | .number 0, some (.matching _) => return ({ first := a, second }, next)
    | .number 0, _ => refuseText "invalid usage of line address 0"
    | _, _ => return ({ first := a, second }, next)

/-! ### Parts of commands -/

/-- A label, up to a blank, a semicolon or the end of a block. -/
def label : Read Octets := do
  let c ← takeInk
  putBack c
  takeWhile fun c => !Octets.isSpace c && c ≠ ';' && c ≠ '}'

/-- The name of a file, up to the end of the line. -/
def fileName : Read Octets := do
  let c ← takeInk
  putBack c
  let name ← takeWhile (· ≠ '\n')
  if name.isEmpty then refuseText "missing filename in r/R/w/W commands"
  let _ ← take
  return name

/-- A text up to the end of a line; a backslash quotes what follows it.  The text keeps its backslashes.  Behind it
stands whether it goes on in the next part. -/
def textLines : (fuel : Nat) → Octets → Read (Octets × Bool)
  | 0, found => return (found.reverse, false)
  | fuel + 1, found => do
    match ← take with
    | none => return (found.reverse, false)
    | some '\n' => return (found.reverse, false)
    | some '\\' =>
      match ← take with
      | none => return (found.reverse, true)
      | some c => textLines fuel (c :: '\\' :: found)
    | some c => textLines fuel (c :: found)

/-- A text without its backslashes. -/
def plainText : Octets → Octets
  | '\\' :: c :: rest => c :: plainText rest
  | c :: rest => c :: plainText rest
  | [] => []

/-- In a text an escaped letter stands for a line feed. -/
def lineFeeds : Octets → Octets
  | '\\' :: 'n' :: rest => '\n' :: lineFeeds rest
  | '\\' :: c :: rest => '\\' :: c :: lineFeeds rest
  | c :: rest => c :: lineFeeds rest
  | [] => []

/-- Lines of text that are to be added, and whether they go on in the next part. -/
def addedLines : Read (Octets × Bool) := do
  let (text, goesOn) ← textLines ((← get).rest.length + 1) []
  return (plainText (lineFeeds (withEscapes .text (text.length + 1) text)) ++ ['\n'], goesOn)

/-- The text of a command that adds some, with the line feed behind it, and whether it goes on in the next part. -/
def addedText : Read (Octets × Bool) := do
  match ← takeInk with
  | none => refuseText "expected \\ after \x60a', \x60c' or \x60i'"
  | some '\\' =>
    let blanks ← takeWhile isGap
    match ← take with
    | none => return ([], true)
    | some '\n' => if (← get).rest.isEmpty then return ([], true) else addedLines
    | c =>
      putBack c
      let (text, goesOn) ← addedLines
      return (blanks ++ text, goesOn)
  | c =>
    putBack c
    addedLines

/-- How the parts of what is put in are to be cased. -/
structure Casings where
  whole : Casing := .asIs
  first : Casing := .asIs

/-- The pieces of what is put in for a match.  `text` is what stands before, the latest first. -/
def pieces : (fuel : Nat) → Casings → (text : Octets) → Octets → List Piece
  | 0, _, _, _ => []
  | fuel + 1, k, text, o =>
    let piece (group : Option Nat) : Piece := { text := text.reverse, group, casing := k.whole, first := k.first }
    let after : Casings := { k with first := .asIs }
    match o with
    | [] => if text.isEmpty then [] else [piece none]
    | '\\' :: c :: rest =>
      if c.isDigit then piece (some (c.toNat - 48)) :: pieces fuel after [] rest
      else
        match c with
        | 'L' => piece none :: pieces fuel { whole := .lower } [] rest
        | 'U' => piece none :: pieces fuel { whole := .upper } [] rest
        | 'E' => piece none :: pieces fuel {} [] rest
        | 'l' => piece none :: pieces fuel { after with first := .lower } [] rest
        | 'u' => piece none :: pieces fuel { after with first := .upper } [] rest
        | 'n' =>
          let own : Piece := { text := ('\n' :: text).reverse, casing := k.whole, first := k.first }
          own :: pieces fuel after [] rest
        | c =>
          let own : Piece := { text := (c :: text).reverse, casing := k.whole, first := k.first }
          own :: pieces fuel after [] rest
    | '&' :: rest => piece (some 0) :: pieces fuel after [] rest
    | c :: rest => pieces fuel k (c :: text) rest

/-- The signs behind a substitution. -/
structure Flags where
  anyCase : Bool := false
  perLine : Bool := false
  global : Bool := false
  number : Option Nat := none
  prints : Bool := false
  runs : Bool := false
  file : Option Octets := none

def flags : (fuel : Nat) → Flags → Read Flags
  | 0, f => return f
  | fuel + 1, f => do
    let c ← take
    match c with
    | none => return f
    | some c =>
      match c with
      | 'i' | 'I' => flags fuel { f with anyCase := true }
      | 'm' | 'M' => flags fuel { f with perLine := true }
      | 'e' => flags fuel { f with runs := true }
      | 'p' => if f.prints then refuseText "multiple \x60p' options to \x60s' command" else flags fuel { f with prints := true }
      | 'g' => if f.global then refuseText "multiple \x60g' options to \x60s' command" else flags fuel { f with global := true }
      | 'w' => return { f with file := some (← fileName) }
      | '}' | '#' =>
        putBack (some c)
        return f
      | '\n' | ';' => return f
      | ' ' | '\t' => flags fuel f
      | '\r' =>
        match ← take with
        | some '\n' => return f
        | _ => refuseText "unknown option to \x60s'"
      | c =>
        if c.isDigit then
          if f.number.isSome then refuseText "multiple number options to \x60s' command"
          let n ← integer (some c)
          if n = 0 then refuseText "number option to \x60s' command may not be zero"
          flags fuel { f with number := some n }
        else refuseText "unknown option to \x60s'"

def substitution : Read Substitution := do
  let unterminated {α : Type} : Read α := refuseText "unterminated \x60s' command"
  match ← take with
  | none => unterminated
  | some mark =>
    if mark = '\n' then unterminated
    match ← between mark true with
    | none => unterminated
    | some expression =>
      match ← replacement mark ((← get).rest.length + 1) [] with
      | none => unterminated
      | some text =>
        let text := withEscapes .replacement (text.length + 1) text
        let own := pieces (text.length + 2) {} [] text
        let f ← flags ((← get).rest.length + 2) {}
        let greatest := (own.filterMap Piece.group).foldl max 0
        let sought ← sought expression f.anyCase f.perLine
        match sought with
        | some finder =>
          if greatest > finder.groups then
            refuse (ascii "invalid reference \\" ++ Octets.ofNat greatest ++ ascii " on \x60s' command's RHS")
        | none => pure ()
        return { sought, pieces := own, global := f.global, number := f.number.getD 1, prints := f.prints, runs := f.runs, file := f.file, greatest }
where
  /-- What is put in, up to the mark, with its backslashes. -/
  replacement (mark : Char) : (fuel : Nat) → Octets → Read (Option Octets)
    | 0, _ => return none
    | fuel + 1, found => do
      match ← take with
      | none => return none
      | some c =>
        if c = mark then return some found.reverse
        else if c = '\\' then
          match ← take with
          | none => return none
          | some d =>
            if d = mark && d ≠ '&' then replacement mark fuel (if d.isDigit || d = 'n' then d :: found else d :: '\\' :: found)
            else replacement mark fuel (d :: '\\' :: found)
        else if c = '\n' then
          putBack (some c)
          return none
        else replacement mark fuel (c :: found)

/-- The characters of one side of a table of replacements. -/
def tableSide (isFirst : Bool) : Octets → Octets
  | '\\' :: '\\' :: rest => '\\' :: tableSide isFirst rest
  | '\\' :: 'n' :: rest => '\n' :: tableSide isFirst rest
  | '\\' :: c :: rest => c :: tableSide isFirst rest
  | c :: rest => c :: tableSide isFirst rest
  | [] => []

def table : Read (List (Char × Char)) := do
  let unterminated {α : Type} : Read α := refuseText "unterminated \x60y' command"
  match ← take with
  | none => unterminated
  | some mark =>
    match ← between mark false with
    | none => unterminated
    | some old =>
      match ← between mark false with
      | none => unterminated
      | some new =>
        let side (o : Octets) : Octets := tableSide true (withEscapes .text (o.length + 1) o)
        let old := side old
        let new := side new
        if old.length ≠ new.length then refuseText "strings for \x60y' command are different lengths"
        endCommand
        return old.zip new

/-! ### Commands -/

/-- Adds a command. -/
def push (s : Selector) (a : Action) : Read Unit := modify fun r => { r with commands := r.commands.push ⟨s, a⟩ }

/-- A command that takes one address at most. -/
def onlyOne (s : Selector) : Read Unit := do
  if s.second.isSome then refuseText "command only uses one address"

/-- A number that can stand behind a command. -/
def numberBehind : Read (Option Nat) := do
  let c ← takeInk
  if c.any Char.isDigit then return some (← integer c)
  else
    putBack c
    return none

/-- The rest of a command, behind its letter. -/
def commandBehind (s : Selector) (c : Char) : Read Unit := do
  let simple (a : Action) : Read Unit := do
    endCommand
    push s a
  let jump (w : Wanted) : Read Unit := do
    let name ← label
    let here := (← get).commands.size
    modify fun r => { r with jumps := (here, w, name) :: r.jumps }
    endOfLabel
    push s .nothing
  let adding (a : Octets → Action) : Read Unit := do
    let (text, goesOn) ← addedText
    if goesOn then modify fun r => { r with unfinished := some r.commands.size }
    push s (a text)
  match c with
  | '{' =>
    modify fun r => { r with blocks := r.commands.size :: r.blocks }
    push s (.block 0)
  | '}' =>
    match (← get).blocks with
    | [] => refuseText "unexpected \x60\x7d'"
    | start :: blocks =>
      if s.first.isSome then refuseText "\x60\x7d' doesn't want any addresses"
      endCommand
      modify fun r => { r with
        blocks
        commands := r.commands.modify start fun (c : Command) => { c with action := .block (r.commands.size + 1) } }
      push s .blockEnd
  | ':' =>
    if s.first.isSome then refuseText ": doesn't want any addresses"
    let name ← label
    if name.isEmpty then refuseText "\":\" lacks a label"
    modify fun r => { r with labels := r.labels ++ [(name, r.commands.size)] }
    push {} .nothing
  | 'a' => adding .append
  | 'i' => adding .insert
  | 'c' => adding .change
  | 'b' => jump .jump
  | 't' => jump .jumpIfChanged
  | 'T' => jump .jumpUnlessChanged
  | 'd' => simple .delete
  | 'D' => simple .deleteFirst
  | 'e' =>
    let _ ← takeWhile isGap
    let o ← takeWhile (· ≠ '\n')
    let _ ← take
    push s (.run o)
  | 'F' => simple .fileName
  | 'g' => simple (.get false)
  | 'G' => simple (.get true)
  | 'h' => simple (.hold false)
  | 'H' => simple (.hold true)
  | 'x' => simple .exchange
  | 'l' =>
    let n ← numberBehind
    simple (.list n)
  | 'n' => simple (.next false)
  | 'N' => simple (.next true)
  | 'p' => simple .print
  | 'P' => simple .printFirst
  | 'q' | 'Q' =>
    onlyOne s
    let n ← numberBehind
    simple (.quit (c = 'q') (n.getD 0))
  | 'r' => push s (.readFile (← fileName))
  | 'R' => push s (.readLine (← fileName))
  | 's' => push s (.substitute (← substitution))
  | 'w' => push s (.writeFile (← fileName) false)
  | 'W' => push s (.writeFile (← fileName) true)
  | 'y' => push s (.replace (← table))
  | 'z' => simple .empty
  | '=' => simple .number
  | 'v' =>
    let version ← label
    let parts := (Octets.splitOn '.' version).map fun p => (Octets.nat? p).getD 0
    if parts.getD 0 0 > 4 || (parts.getD 0 0 = 4 && parts.getD 1 0 > 9) then refuseText "expected newer version of sed"
    endCommand
    push s .nothing
  | c => refuse (ascii "unknown command: \x60" ++ [c] ++ ['\''])
where
  /-- What may stand behind a label. -/
  endOfLabel : Read Unit := do
    let c ← takeInk
    if c = some '}' || c = some '#' then putBack c
    else if c = none || c = some '\n' || c = some ';' then return
    else putBack c

/-- Reads the commands of a part. -/
def commands : (fuel : Nat) → Read Unit
  | 0 => return
  | fuel + 1 => do
    let _ ← takeWhile fun c => c = ';' || Octets.isSpace c
    match ← take with
    | none => return
    | some c =>
      let (s, c) ← selector (some c)
      let (s, c) ← (do
        if c ≠ some '!' then return (s, c)
        let c ← takeInk
        if c = some '!' then refuseText "multiple \x60!'s"
        return ({ s with negated := true }, c) : Read (Selector × Option Char))
      match c with
      | none => refuseText "missing command"
      | some '#' =>
        if s.first.isSome then refuseText "comments don't accept any addresses"
        let comment ← takeWhile (· ≠ '\n')
        if (← get).isFirst && (← get).count = comment.length + 1 && comment.head? = some 'n' then modify fun r => { r with quiet := true }
        commands fuel
      | some '\n' => refuseText "missing command"
      | some c =>
        commandBehind s c
        commands fuel

/-- The text of an unfinished command goes on where a part begins. -/
def goOn : Read Unit := do
  match (← get).unfinished with
  | none => return
  | some n =>
    let (text, goesOn) ← addedLines
    let more (c : Command) : Command := { c with action := match c.action with
      | .append o => .append (o ++ text)
      | .insert o => .insert (o ++ text)
      | .change o => .change (o ++ text)
      | other => other }
    modify fun r => { r with commands := r.commands.modify n more, unfinished := if goesOn then some n else none }

/-- Goes on with another part. -/
def part (number : Nat) (p : Part) : Read Unit := do
  let content : Octets := match p with
    | .text o => o
    | .file _ o => o
  match p with
  | .text o =>
    modify fun r => { r with rest := o, count := 0, line := 1, isFile := false, place := ascii "-e expression #" ++ Octets.ofNat number }
  | .file name o =>
    modify fun r => { r with rest := o, count := 0, line := 1, isFile := true, place := ascii "file " ++ name }
  goOn
  commands (content.length + 2)
  modify fun r => { r with isFirst := false }

/-- The parts one after the other, numbered. -/
def parts : (number : Nat) → List Part → Read Unit
  | _, [] => return
  | n, p :: rest => do
    match p with
    | .text _ =>
      part n p
      parts (n + 1) rest
    | .file _ _ =>
      part n p
      parts n rest

/-- Tells jumps where they lead. -/
def resolve (r : Reading) : Except Octets (Array Command) :=
  r.jumps.foldlM (fun commands (here, wanted, name) => do
    let target ← if name.isEmpty then pure none
      else
        match r.labels.lookup name with
        | some n => pure (some n)
        | none => throw (ascii "can't find label for jump to \x60" ++ name ++ ['\''])
    let action : Action := match wanted with
      | .jump => .jump target
      | .jumpIfChanged => .jumpIfChanged target
      | .jumpUnlessChanged => .jumpUnlessChanged target
    return commands.modify here fun (c : Command) => { c with action }) r.commands

/-- Why a script cannot be read, and whether only a label is missing. -/
structure Refusal where
  message : Octets
  isLabel : Bool := false

/-- The script of some parts. -/
def Script.read (extended : Bool) (ps : List Part) : Except Refusal Script :=
  let start : Reading := { rest := [], place := [], extended }
  match (parts 1 ps).run start with
  | .error message => .error { message }
  | .ok (_, r) =>
    if !r.blocks.isEmpty then
      .error { message := (if r.isFile then r.place ++ ascii " line 0" else ascii "-e expression #1, char 0") ++ ascii ": unmatched \x60\x7b'" }
    else
      match resolve r with
      | .error message => .error { message, isLabel := true }
      | .ok commands => .ok { commands, quiet := r.quiet }

end GrammarStudio.LineScript
