import GrammarStudio.ObjectScript.Reader
import GrammarStudio.ObjectScript.Functions
import GrammarStudio.ObjectScript.Sites

/-!
# What is told of an exception

* `passageText` — the lines that an exception went through, with marks under the part of the line;
* `reportText` — all that is told of an exception;
* `suggestion?` — a name that may have been meant;
* `raiseProblem` — the exception for a script that cannot be read.
-/

namespace GrammarStudio.ObjectScript

open Machine Tools

/-! ### Names that may have been meant -/

/-- What it costs to have one character in the place of another. -/
def replacementCost (a b : Nat) : Nat :=
  let lower (n : Nat) : Nat := if 65 ≤ n && n ≤ 90 then n + 32 else n
  if a = b then 0 else if lower a = lower b then 1 else 2

/-- The next row of costs: of making the first text, with one character more, into each beginning of the second. -/
def nextCosts (a : Nat) (corner left : Nat) : Glyphs → List Nat → List Nat
  | b :: bs, above :: rest =>
    let cost := min (min (above + 2) (left + 2)) (corner + replacementCost a b)
    cost :: nextCosts a above cost bs rest
  | _, _ => []

/-- What it costs to make one text into another. -/
def editCost (a b : Glyphs) : Nat :=
  let first := (List.range (b.length + 1)).map (· * 2)
  let last := (a.zipIdx).foldl (fun (row : List Nat) (n, i) =>
    let start := (i + 1) * 2
    start :: nextCosts n (row.headD 0) start b (row.drop 1)) first
  last.getLast?.getD 0

/-- The name among some that is nearest to another, and near enough. -/
def nearest? (name : String) (names : List String) : Option String :=
  let g := glyphs name
  if names.length > 750 || g.length > 40 then none
  else
    (names.foldl (fun (best : Option (String × Nat)) other =>
      let h := glyphs other
      if other == name || h.length > 40 then best
      else
        let most := (g.length + h.length + 3) * 2 / 6
        let most := match best with
          | some (_, d) => min most (d - 1)
          | none => most
        let d := editCost g h
        if d ≤ most then some (other, d) else best) none).map Prod.fst

/-- A name that may have been meant where an exception says that one is not there. -/
def suggestion? [Caller] (e : Raised) : Run (Option String) := do
  let kinds := plainKinds (← lineOf e.kind)
  match e.attributes.get? "name" with
  | some (.text g) =>
    let name := Glyphs.toString g
    if kinds.contains "NameError" && !kinds.contains "UnboundLocalError" then
      let shared := (← namesIn (← get).shared).keys
      let common ← match ← libraryScope? "builtins" with
        | some scope => pure (← namesIn scope).keys
        | none => pure []
      return (nearest? name shared).or (nearest? name common)
    else if kinds.contains "AttributeError" then
      match e.attributes.get? "obj" with
      | some v => return nearest? name (← memberNames v)
      | none => return none
    else return none
  | _ => return none

/-! ### Lines -/

def blanks (n : Nat) : List Char := List.replicate n ' '

/-- The parts of an expression in a line that are marked in another way: where the sign between two operands is, or the
brackets. -/
def markedParts? (segment : List Char) : Option (Nat × Nat) :=
  match readExpression segment with
  | .error _ => none
  | .ok e =>
    match e with
    | .binary _ a b _ =>
      let from_ := a.span.endColumn
      let until_ := b.span.column
      let middle := (segment.take until_).drop from_
      let skipped := (middle.takeWhile Char.isWhitespace).length
      match middle.drop skipped with
      | _ :: next :: _ => some (from_ + skipped, from_ + skipped + (if next.isWhitespace then 1 else 2))
      | [_] => some (from_ + skipped, from_ + skipped + 1)
      | [] => none
    | .subscript a i _ => some (a.span.endColumn, i.span.endColumn + 1)
    | _ => none

/-- A line of a script with marks under a part of it. -/
def markedLine (line : List Char) (span : Span) : List Char :=
  let bare := line.dropWhile Char.isWhitespace
  let skipped := line.length - bare.length
  let front := blanks 4 ++ bare ++ ['\n']
  if bare.isEmpty then []
  else
    let isOneLine := span.endLine = span.line
    let stop := if isOneLine then span.endColumn else (line.reverse.dropWhile Char.isWhitespace).length
    let start := span.column
    if stop ≤ start then front
    else
      let parts := if isOneLine then markedParts? ((line.take stop).drop start) else none
      match parts with
      | none =>
        if stop - start = bare.length then front
        else front ++ blanks (4 + start - skipped) ++ List.replicate (stop - start) '^' ++ ['\n']
      | some (a, b) =>
        let width := stop - start
        front ++ blanks (4 + start - skipped) ++ List.replicate a '~' ++ List.replicate (b - a) '^' ++ List.replicate (width - b) '~' ++ ['\n']

/-- How much of a text stands before a part of it; nothing where there is no such part, or it is the whole. -/
def before? (part text : List Char) : Option Nat :=
  if part.isEmpty || part = text then none
  else (List.range (text.length + 1)).find? fun n => part.isPrefixOf (text.drop n)

/-- One line that an exception went through. -/
def passageText (p : Passage) : Run (List Char) := do
  let head := ("  File \"" ++ p.file ++ "\", line " ++ p.span.line.repr ++ ", in " ++ p.name ++ "\n").toList
  match p.shown with
  | some (text, meant) =>
    let front := blanks 4 ++ text.toList ++ ['\n']
    match before? meant.toList text.toList with
    | some n => return head ++ front ++ blanks (4 + n) ++ List.replicate meant.length '^' ++ ['\n']
    | none => return head ++ front
  | none => pure ()
  match (← get).sources.lookup p.file with
  | some lines =>
    match lines[p.span.line - 1]? with
    | some line => return head ++ markedLine line p.span
    | none => return head
  | none => return head

/-- The lines that an exception went through.  Of those that repeat only three are told. -/
def passagesText : (before : Option (String × Nat × String)) → (count : Nat) → List Passage → Run (List Char)
  | _, count, [] => return more count
  | before, count, p :: rest => do
    let key := (p.file, p.span.line, p.name)
    if before = some key then
      let text ← if count < 3 then passageText p else pure []
      return text ++ (← passagesText before (count + 1) rest)
    else return more count ++ (← passageText p) ++ (← passagesText (some key) 1 rest)
where
  more (count : Nat) : List Char :=
    if count > 3 then
      ("  [Previous line repeated " ++ (count - 3).repr ++ " more time" ++ (if count - 3 = 1 then "" else "s") ++ "]\n").toList
    else []

/-! ### Exceptions -/

/-- The kind of an exception as it is told. -/
def toldKind (kind : Value) : Run String := do
  let name ← fullKindName kind
  return match name.toList with
    | '_' :: '_' :: 'm' :: 'a' :: 'i' :: 'n' :: '_' :: '_' :: '.' :: rest => String.ofList rest
    | _ => name

/-- Where a script cannot be read. -/
def problemText (e : Raised) : Glyphs :=
  let number (name : String) : Option Nat := match e.attributes.get? name with
    | some (.int n) => some n.toNat
    | _ => none
  match number "lineno" with
  | none => []
  | some line =>
    let file : Glyphs := match e.attributes.get? "filename" with
      | some (.text g) => g
      | _ => glyphs "<string>"
    let isPlain := match e.kind with
      | .kind k => k == "SyntaxError"
      | _ => false
    let head := glyphs "  File \"" ++ file ++ glyphs ("\", line " ++ line.repr ++ "\n")
    match e.attributes.get? "text" with
    | some (.text g) =>
      let source := (g.reverse.dropWhile fun n => n = 10 || n = 13).reverse
      let bare := source.dropWhile fun n => n = 32 || n = 9 || n = 12
      let skipped := source.length - bare.length
      let front := head ++ glyphs "    " ++ bare ++ [10]
      match number "offset" with
      | some offset =>
        if offset ≤ skipped then front
        else
          let endOffset := (number "end_offset").getD 0
          let endOffset := if number "end_lineno" ≠ some line && (number "end_lineno").isSome then source.length + 1 else endOffset
          let start := offset - skipped
          let count := if endOffset > offset && isPlain then endOffset - offset else 1
          let blank := (bare.take (start - 1)).map fun n => if n = 9 then 9 else 32
          let blank := blank ++ List.replicate (start - 1 - blank.length) 32
          front ++ glyphs "    " ++ blank ++ List.replicate count 94 ++ [10]
      | none => front
    | _ => head

/-- What is told of one exception, without those that it came from. -/
def ownReport [Caller] (e : Raised) (v : Value) : Run Glyphs := do
  let trace ← if e.passages.isEmpty then pure [] else do
    pure (glyphs "Traceback (most recent call last):\n" ++ (← passagesText none 0 e.passages).map Char.toNat)
  let kinds := plainKinds (← lineOf e.kind)
  let isProblem := kinds.contains "SyntaxError" && e.attributes.has "lineno"
  let text ← tryCatch (if isProblem then (match e.attributes.get? "msg" with
    | some (.text g) => pure g
    | _ => texted v) else texted v) fun _ => return glyphs "<exception str() failed>"
  let name := glyphs (← toldKind e.kind)
  let meant ← match ← suggestion? e with
    | some s => pure (glyphs (". Did you mean: '" ++ s ++ "'?"))
    | none => pure []
  let line := name ++ (if text.isEmpty then [] else glyphs ": " ++ text) ++ meant ++ [10]
  let notes ← match e.attributes.get? "__notes__" with
    | some (.thing n) =>
      match ← look n with
      | .list items => items.toList.mapM fun v => do return (← texted v) ++ [10]
      | _ => pure []
    | _ => pure []
  return trace ++ (if isProblem then problemText e else []) ++ line ++ notes.flatten

/-- All that is told of an exception. -/
def reportOn [Caller] : (fuel : Nat) → (seen : List Nat) → Value → Run Glyphs
  | 0, _, _ => return []
  | fuel + 1, seen, v => do
    match v with
    | .thing n =>
      match ← look n with
      | .exception e =>
        let seen := n :: seen
        let isNew (w : Value) : Bool := match w with
          | .thing m => !seen.contains m
          | _ => false
        let before ← if isNew e.cause then do
            pure ((← reportOn fuel seen e.cause) ++ glyphs "\nThe above exception was the direct cause of the following exception:\n\n")
          else if isNew e.context && !e.hidesContext then do
            pure ((← reportOn fuel seen e.context) ++ glyphs "\nDuring handling of the above exception, another exception occurred:\n\n")
          else pure []
        return before ++ (← ownReport e v)
      | _ => return []
    | _ => return []

def reportText [Caller] (v : Value) : Run Glyphs := reportOn 1000 [] v

/-! ### Scripts that cannot be read -/

/-- The exception for a script that cannot be read. -/
def raiseProblem {α : Type} (p : Problem) (file : String) (source : List Char) : Run α := do
  let lines := (String.ofList source).splitOn "\n"
  let s := p.span
  let text : Value ← match p.text with
    | some t => pure (textValue (t ++ "\n"))
    | none =>
      -- what is found late is shown in the file that the script is from, if there is one
      if p.isLate then
        match (← get).sources.lookup file with
        | some lines => pure ((lines[s.line - 1]?).elim .none fun cs => textValue (String.ofList cs ++ "\n"))
        | none => pure .none
      else pure ((lines[s.line - 1]?).elim .none fun line => textValue (line ++ "\n"))
  let details : List (String × Value) :=
    [("filename", textValue file), ("lineno", .ofNat s.line), ("offset", .ofNat (p.offset.getD (s.column + 1))), ("text", text),
      ("end_lineno", .ofNat s.endLine), ("end_offset", .ofNat (s.endColumn + 1))]
  let attributes : Names := Ordered.ofList (("msg", textValue p.message) :: details)
  let e ← alloc (.exception
    { kind := .kind p.kind, args := [textValue p.message, .tuple (details.map Prod.snd)], attributes })
  throwValue e

end GrammarStudio.ObjectScript
