import GrammarStudio.Regex.Posix
import GrammarStudio.Regex.Search
import GrammarStudio.Tools.Finding

/-!
# Lines that match

* `Matcher` — some patterns, one of which has to fit;
* `Selection` — which lines are chosen, and how they are shown;
* `grepTool` — the tool.
-/

namespace GrammarStudio.Tools

open Machine Files Regex

/-! ### Patterns -/

structure Matcher where
  finders : List Finder

namespace Matcher

/-- Does any pattern fit in the line? -/
def isIn (m : Matcher) (line : Octets) : Bool := m.finders.any (·.isIn line)

/-- The first place from one on where a pattern fits, as far as it does. -/
def next (m : Matcher) (s : Subject) (from_ : Nat) : Option Span :=
  m.finders.foldl (fun best f =>
    match (f.search? true s from_).bind (·.span? 0), best with
    | some (a, b), some (x, y) => if a < x || (a = x && b > y) then some (a, b) else some (x, y)
    | some span, none => some span
    | none, best => best) none

/-- All places where patterns fit; those where they fit nothing are left out. -/
def spansOn (m : Matcher) (s : Subject) : (fuel : Nat) → Nat → List Span
  | 0, _ => []
  | fuel + 1, from_ =>
    match m.next s from_ with
    | none => []
    | some (a, b) => if a = b then spansOn m s fuel (b + 1) else (a, b) :: spansOn m s fuel b

def spans (m : Matcher) (line : Octets) : List Span :=
  let text := line.toArray
  m.spansOn { text } (text.size + 1) 0

end Matcher

/-- How patterns are read. -/
structure PatternStyle where
  fixed : Bool := false
  extended : Bool := false
  anyCase : Bool := false
  words : Bool := false
  lines : Bool := false

/-- A text as an expression. -/
def literalExpr (o : Octets) : Expr := o.foldr (fun c e => .seq (.set (.single c)) e) .empty

/-- The expression of a pattern. -/
def PatternStyle.read (s : PatternStyle) (pattern : Octets) : Except Regex.Fault Finder := do
  let flavour : Flavour :=
    if s.extended then { extended := true, dangling := .nothing, looseBraces := true } else { extended := false }
  let e ← if s.fixed then pure (literalExpr pattern) else Regex.read flavour pattern
  let e : Expr := if s.lines then .seq (.border .textStart) (.seq e (.border .textEnd))
    else if s.words then .seq (.border .noWordBefore) (.seq e (.border .noWordBehind)) else e
  return e.toFinder s.anyCase

/-- Is there a class without brackets of its own? -/
def hasLooseClass : (inside : Bool) → Octets → Bool
  | _, [] => false
  | false, '\\' :: _ :: rest => hasLooseClass false rest
  | false, '[' :: ':' :: rest =>
    let body := rest.takeWhile (· ≠ ']')
    (body.getLast? = some ':' && rest.length > body.length) || hasLooseClass true rest
  | false, '[' :: rest => hasLooseClass true rest
  | true, '[' :: ':' :: rest => hasLooseClass true rest
  | true, ':' :: ']' :: rest => hasLooseClass true rest
  | true, ']' :: rest => hasLooseClass false rest
  | inside, _ :: rest => hasLooseClass inside rest

/-! ### Choosing and showing lines -/

structure Selection where
  matcher : Matcher
  inverted : Bool := false
  counts : Bool := false
  namesOnly : Bool := false
  /-- Names of those without a line. -/
  namesWithout : Bool := false
  quiet : Bool := false
  onlyParts : Bool := false
  numbers : Bool := false
  offsets : Bool := false
  named : Bool := false
  zeroNames : Bool := false
  tabs : Bool := false
  /-- How wide numbers are where they are aligned. -/
  width : Nat := 0
  most : Option Nat := none
  before : Option Nat := none
  behind : Option Nat := none
  separator : Option Octets := some (ascii "--")
  asText : Bool := false
  withoutBinary : Bool := false
  ender : Char := '\n'
  colored : Bool := false

/-- A part in a color. -/
def Selection.dyed (s : Selection) (code : String) (o : Octets) : Octets :=
  if s.colored then ascii "\x1b[" ++ ascii code ++ ascii "m\x1b[K" ++ o ++ ascii "\x1b[m\x1b[K" else o

/-- What stands before a line. -/
def Selection.head (s : Selection) (name : Octets) (mark : Char) (number offset : Nat) : Octets :=
  let separated (o : Octets) : Octets := o ++ s.dyed "36" [mark]
  let file := if s.named then
      s.dyed "35" name ++ (if s.zeroNames then ['\x00'] else s.dyed "36" [mark])
    else []
  let line := if s.numbers then
      separated (s.dyed "32" (Octets.padLeft s.width (Octets.ofNat number)))
    else []
  let place := if s.offsets then
      separated (s.dyed "32" (Octets.padLeft s.width (Octets.ofNat offset)))
    else []
  file ++ line ++ place ++ (if s.tabs && (s.named || s.numbers || s.offsets) then ['\t'] else [])

/-- Where the going through a file stands. -/
structure Going where
  number : Nat := 0
  offset : Nat := 0
  chosen : Nat := 0
  /-- Lines before, the latest first, each with its number and offset. -/
  held : List (Octets × Nat × Nat) := []
  /-- How many lines are still shown behind a chosen one. -/
  owed : Nat := 0
  lastShown : Nat := 0
  /-- The file is not text. -/
  binary : Bool := false

/-- A line with the parts that fit in a color. -/
def Selection.paint (s : Selection) (line : Octets) : Octets :=
  if !s.colored || s.inverted then line
  else
    let rec go (at_ : Nat) : List Span → Octets
      | [] => line.drop at_
      | (a, b) :: rest => (line.drop at_).take (a - at_) ++ s.dyed "01;31" ((line.drop a).take (b - a)) ++ go b rest
    go 0 (s.matcher.spans line)

/-- Shows a line that was not chosen. -/
def Selection.showBeside (s : Selection) (name line : Octets) (number offset : Nat) : Tool Unit :=
  if s.onlyParts then return
  else say (s.head name '-' number offset ++ line ++ [s.ender])

/-- Shows what stands between lines that are not neighbours. -/
def Selection.showGap (s : Selection) (g : Going) (next : Nat) : Tool Unit := do
  if (s.before.isSome || s.behind.isSome) && g.lastShown > 0 && next > g.lastShown + 1 then
    match s.separator with
    | some separator => say (s.dyed "36" separator ++ ['\n'])
    | none => return

/-- Shows a chosen line. -/
def Selection.showChosen (s : Selection) (name line : Octets) (g : Going) : Tool Going := do
  let before := (g.held.take (s.before.getD 0)).reverse
  let first := (before.head?.map (·.2.1)).getD g.number
  s.showGap g first
  for (o, number, offset) in before do s.showBeside name o number offset
  if s.onlyParts then
    if !s.inverted then
      for (a, b) in s.matcher.spans line do
        say (s.head name ':' g.number (g.offset + a) ++ s.dyed "01;31" ((line.drop a).take (b - a)) ++ [s.ender])
  else say (s.head name ':' g.number g.offset ++ s.paint line ++ [s.ender])
  return { g with lastShown := g.number, held := [], owed := s.behind.getD 0 }

/-- One line of a file, and whether to go on. -/
def Selection.line (s : Selection) (name : Octets) (g : Going) (whole : Octets) : Tool (Going × Bool) := do
  let line := bare s.ender whole
  let g := { g with number := g.number + 1 }
  let after (g : Going) : Going := { g with offset := g.offset + whole.length }
  let full := s.most.any (g.chosen ≥ ·)
  let silent := s.quiet || s.counts || s.namesOnly || s.namesWithout
  if !full && s.matcher.isIn line != s.inverted then
    let g := { g with chosen := g.chosen + 1 }
    if s.quiet || s.namesOnly || s.namesWithout then return (after g, false)
    else if s.counts then return (after g, !s.most.any (g.chosen ≥ ·))
    else if g.binary then return (after g, false)
    else
      let g ← s.showChosen name line g
      return (after g, !(s.most.any (g.chosen ≥ ·) && g.owed = 0))
  else if silent then return (after g, !full)
  else if g.owed > 0 then
    s.showBeside name line g.number g.offset
    let g := { g with owed := g.owed - 1, lastShown := g.number }
    return (after g, !(full && g.owed = 0))
  else if full then return (after g, false)
  else
    let held := if s.before.any (· > 0) then ((line, g.number, g.offset) :: g.held).take (s.before.getD 0) else []
    return (after { g with held }, true)

/-- Goes through a file; gives whether a line was chosen. -/
def Selection.file (s : Selection) (name shown : Octets) (descriptor : Nat) : Tool Bool := do
  let binary (o : Octets) : Bool := !s.asText && s.ender ≠ '\x00' && o.contains '\x00'
  if s.most = some 0 then return false
  let known ← (if s.tabs then do return (← ask (.describe descriptor)).toOption else pure none : Tool (Option Info))
  let largest := match known with
    | some info => if info.kind = .file then info.size + (if s.numbers then 1 else 0) else 2 ^ 64 - 1
    | none => 0
  let s := if s.tabs then { s with width := (Octets.ofNat largest).length } else s
  let ((g, rest, goesOn), fault) ← foldPieces descriptor (({} : Going), ([] : Octets), true) fun (g, rest, _) piece => do
    let g := { g with binary := g.binary || binary piece }
    if g.binary && s.withoutBinary then return ((g, [], false), false)
    let (lines, left) := cutLines s.ender (rest ++ piece)
    let (g, goesOn) ← foldList (s.line shown) g lines
    return ((g, left, goesOn), goesOn)
  let g ← (if goesOn && !rest.isEmpty then do return (← s.line shown g rest).1 else pure g : Tool Going)
  match fault with
  | some fault => failing (name ++ ascii ": " ++ reason fault)
  | none => pure ()
  let found := g.chosen > 0
  if s.counts && !s.quiet && !s.namesOnly && !s.namesWithout then
    say ((if s.named then s.dyed "35" shown ++ (if s.zeroNames then ['\x00'] else s.dyed "36" [':']) else []) ++
      Octets.ofNat g.chosen ++ ['\n'])
  if !s.quiet && (if s.namesWithout then !found else s.namesOnly && found) then
    say (s.dyed "35" shown ++ [if s.zeroNames then '\x00' else '\n'])
  if found && g.binary && !s.counts && !s.quiet && !s.namesOnly && !s.namesWithout then
    complain (shown ++ ascii ": binary file matches")
  return found

/-! ### Files -/

/-- Which files are looked into. -/
structure Reach where
  recursive : Bool := false
  follows : Bool := false
  skipsDirectories : Bool := false
  silent : Bool := false
  included : List Shell.Pattern := []
  excluded : List Shell.Pattern := []
  excludedDirectories : List Shell.Pattern := []

def anyFits (patterns : List Shell.Pattern) (path : Octets) : Bool :=
  patterns.any fun p => p.matches path || p.matches (lastPart path)

/-- Is a file left out by its name? -/
def Reach.leavesOut (r : Reach) (path : Octets) : Bool :=
  anyFits r.excluded path || (!r.included.isEmpty && !anyFits r.included path)

def Reach.complain (r : Reach) (message : Octets) : Tool Unit :=
  if r.silent then setStatus 2 else failing message

/-- Looks into a file or what is below a directory; gives whether a line was chosen. -/
def lookInto (r : Reach) (s : Selection) : (fuel : Nat) → (isFirst : Bool) → (path shown : Octets) → Tool Bool
  | 0, _, _, _ => return false
  | fuel + 1, isFirst, path, shown => do
    match ← ask (.inspect path (isFirst || r.follows)) with
    | .error fault =>
      r.complain (shown ++ ascii ": " ++ reason fault)
      return false
    | .ok info =>
      match info.kind with
      | .directory =>
        if !r.recursive then
          if !r.skipsDirectories then r.complain (shown ++ ascii ": Is a directory")
          return false
        else if !(isFirst && (path = ['.'] || path = ascii "..")) && anyFits r.excludedDirectories (Octets.dropEnd (· == '/') path) then return false
        else
          match ← ask (.list path) with
          | .error fault =>
            r.complain (shown ++ ascii ": " ++ reason fault)
            return false
          | .ok names =>
            let below (o : Octets) : Octets := if o.isEmpty || o.getLast? = some '/' then o else o ++ ['/']
            names.foldlM (fun found name => do
              if found && s.quiet then return true
              let more ← lookInto r s fuel false (below path ++ name) (below shown ++ name)
              return found || more) false
      | kind =>
        if !isFirst && (kind = .link || kind = .fifo || kind = .device) then return false
        else if r.leavesOut path then return false
        else
          match ← (Work.openToRead path : Work (Except Files.Fault Nat)) with
          | .error fault =>
            r.complain (shown ++ ascii ": " ++ reason fault)
            return false
          | .ok d =>
            let found ← s.file shown shown d
            (Work.close d : Work Unit)
            return found

/-! ### The tool -/

def grepOptions : Choices :=
  withUsual
    ["A|after-context=", "B|before-context=", "C|context=", "E|extended-regexp", "F|fixed-strings", "G|basic-regexp", "P|perl-regexp",
      "H|with-filename", "h|no-filename", "I", "L|files-without-match", "l|files-with-matches", "R|dereference-recursive", "r|recursive",
      "T|initial-tab", "U|binary", "V", "Z|null", "a|text", "b|byte-offset", "c|count", "D|devices=", "d|directories=", "e|regexp=",
      "f|file=", "i|y|ignore-case", "no-ignore-case", "m|max-count=", "n|line-number", "o|only-matching", "q|quiet|silent",
      "s|no-messages", "u|unix-byte-offsets", "v|invert-match", "w|word-regexp", "x|line-regexp", "z|null-data", "binary-files=",
      "color|colour=?", "exclude=", "exclude-from=", "exclude-dir=", "group-separator=", "no-group-separator", "include=", "label=",
      "line-buffered"]

def grepUsage {α : Type} : Tool α := do
  flush
  mutter (ascii "Usage: grep [OPTION]... PATTERNS [FILE]...\nTry 'grep --help' for more information.\n")
  finish 2

/-- Does an argument end with a letter whose value is the next argument? -/
def wantsNext : Octets → Bool
  | '-' :: letters =>
    match letters.dropWhile fun c => !(ascii "ABCDdefm").contains c with
    | [_] => letters.head? ≠ some '-'
    | _ => false
  | _ => false

/-- Numbers that are options by themselves. -/
def withContextNumbers : List Octets → List Octets
  | [] => []
  | [arg] => if isContextNumber arg then [['-', 'C'], arg.drop 1] else [arg]
  | arg :: next :: rest =>
    if arg = ['-', '-'] then arg :: next :: rest
    else if isContextNumber arg then ['-', 'C'] :: arg.drop 1 :: withContextNumbers (next :: rest)
    else if wantsNext arg then arg :: next :: withContextNumbers rest
    else arg :: withContextNumbers (next :: rest)
where
  isContextNumber : Octets → Bool
    | '-' :: c :: more => (c :: more).all Char.isDigit
    | _ => false

def contextLength (o : Octets) : Tool Nat := do
  match Octets.nat? o with
  | some n => return n
  | none => giveUp (o ++ ascii ": invalid context length argument")

/-- The patterns that options give. -/
def givenPatterns (given : Given) : Tool (Option (List Octets)) := do
  let mut patterns : Option (List Octets) := none
  for (option, o) in given do
    match option with
    | "e" => patterns := some (patterns.getD [] ++ Octets.splitOn '\n' o)
    | "f" =>
      match ← (if o = ['-'] then content 0 else (Work.slurp o : Work (Except Files.Fault Octets)) : Tool (Except Files.Fault Octets)) with
      | .ok text => patterns := some (patterns.getD [] ++ Octets.bareLines text)
      | .error fault => giveUp (o ++ ascii ": " ++ reason fault)
    | _ => pure ()
  return patterns

/-- The selection that options describe. -/
def selectionOf (given : Given) (matcher : Matcher) (named : Bool) : Tool Selection := do
  let length (letter : String) : Tool (Option Nat) := do
    match given.lastOf [letter] with
    | some _ => return some (← contextLength ((given.value? letter).getD []))
    | none => return none
  let around ← length "C"
  let behind ← length "A"
  let before ← length "B"
  let most ← (match given.value? "m" with
    | none => pure none
    | some o =>
      match Octets.number? o with
      | some n => pure (if n < 0 then none else some n.toNat)
      | none => giveUp (ascii "invalid max count") : Tool (Option Nat))
  let binaryFiles := given.value? "binary-files"
  if binaryFiles.any fun w => !(["binary", "text", "without-match"].contains (String.ofList w)) then
    giveUp (ascii "invalid argument " ++ quoted (binaryFiles.getD []) ++ ascii " for '--binary-files'")
  let color := given.value? "color"
  return {
    matcher, inverted := given.has "v", counts := given.has "c"
    namesOnly := given.lastOf ["l", "L"] = some "l", namesWithout := given.lastOf ["l", "L"] = some "L"
    quiet := given.has "q", onlyParts := given.has "o", numbers := given.has "n", offsets := given.has "b"
    named := given.lastOf ["H", "h"] = some "H" || (named && given.lastOf ["H", "h"] ≠ some "h")
    zeroNames := given.has "Z", tabs := given.has "T", most
    before := before.or around, behind := behind.or around
    separator := match given.lastOf ["group-separator", "no-group-separator"] with
      | some "group-separator" => given.value? "group-separator"
      | some _ => none
      | none => some (ascii "--")
    asText := given.has "a" || binaryFiles = some (ascii "text") || given.has "U" && false
    withoutBinary := given.has "I" || binaryFiles = some (ascii "without-match")
    ender := if given.has "z" then '\x00' else '\n'
    colored := color = some (ascii "always") || color = some (ascii "yes") || color = some (ascii "force") }

/-- Lines of files in which patterns fit.  `style` says how patterns are read where no option does. -/
def grepTool (style : Option String) (args : List Octets) : Tool Unit := do
  let (given, operands) ← (match grepOptions.read false (2 * args.length + 1) (withContextNumbers args) with
    | .ok found => pure found
    | .error misuse => do
      complain misuse.message
      grepUsage : Tool (Given × List Octets))
  if given.has "V" || given.has "version" then
    say (ascii "grep (GNU grep) 3.8\n")
    finish 0
  let kinds := (given.map Prod.fst).filter fun o => ["E", "F", "G", "P"].contains o
  if kinds.any fun k => kinds.any (· ≠ k) then giveUp (ascii "conflicting matchers specified")
  let kind := (kinds.getLast?.or style).getD "G"
  let patterns ← givenPatterns given
  let (patterns, operands) ← (match patterns, operands with
    | some patterns, operands => pure (patterns, operands)
    | none, first :: rest => pure (Octets.splitOn '\n' first, rest)
    | none, [] => grepUsage : Tool (List Octets × List Octets))
  let reader : PatternStyle :=
    { fixed := kind = "F", extended := kind = "E" || kind = "P", anyCase := given.lastOf ["i", "no-ignore-case"] = some "i"
      words := given.has "w", lines := given.has "x" }
  let finders ← patterns.mapM fun p => do
    match reader.read p with
    | .error fault => giveUp (ascii fault.message)
    | .ok f =>
      if !reader.fixed && hasLooseClass false p then
        giveUp (ascii "character class syntax is [[:space:]], not [:space:]")
      return f
  let directories := (given.value? "d").getD (ascii "read")
  let recursive := given.has "r" || given.has "R" || directories = ascii "recurse"
  let globs (option : String) : List Shell.Pattern := (given.filter (·.1 = option)).map fun g => rawPattern (Octets.dropEnd (· == '/') g.2)
  let reach : Reach :=
    { recursive, follows := given.has "R", skipsDirectories := directories = ascii "skip", silent := given.has "s"
      included := globs "include", excluded := globs "exclude", excludedDirectories := globs "exclude-dir" }
  let s ← selectionOf given { finders } (operands.length > 1 || recursive)
  let label := (given.value? "label").getD (ascii "(standard input)")
  let mut found := false
  for name in (if operands.isEmpty then (if recursive then [[]] else [['-']]) else operands) do
    if !(found && s.quiet) then
      let now ← (if name = ['-'] then s.file label label 0
        else if name.isEmpty && operands.isEmpty then lookInto reach s 1000 true ['.'] []
        else lookInto reach s 1000 true name name : Tool Bool)
      found := found || now
  if found && s.quiet then setStatus 0
  else if (← get).status = 0 then setStatus (if found then 0 else 1)

end GrammarStudio.Tools
