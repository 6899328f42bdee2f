import GrammarStudio.Difference.Edit
import GrammarStudio.Tools.Excerpt
import GrammarStudio.Tools.Layout
import GrammarStudio.Tools.Summing

/-!
# Comparing files

* `cmpTool` — the first octet, or all of them, in which two files differ;
* `diffTool` — the lines in which they differ.
-/

namespace GrammarStudio.Tools

open Machine Files Difference

/-- Complains about the arguments in the way of these tools, and ends. -/
def misusedHere {α : Type} (message : Octets) : Tool α := do
  complain message
  complain (ascii "Try '" ++ (← get).name ++ ascii " --help' for more information.")
  finish (← get).failure

/-- The options and operands of these tools. -/
def ownOptions (texts : List String) (args : List Octets) : Tool (Given × List Octets) := do
  match (withUsual texts).read false (args.length + 1) args with
  | .ok result => return result
  | .error misuse => misusedHere misuse.message

/-! ### Octet by octet -/

/-- Two sequences octet by octet, with the number of each pair. -/
def numberedPairs (a b : Octets) : List (Nat × Char × Char) := ((List.range a.length).map (· + 1)).zip (a.zip b)

def cmpTool (args : List Octets) : Tool Unit := do
  let (given, operands) ← ownOptions
    ["b|print-bytes", "i|ignore-initial=", "l|verbose", "n|bytes=", "s|quiet|silent"] args
  let number (option : String) (o : Octets) : Tool Nat := do
    match Amount.read true o with
    | .number n => return n
    | _ => misusedHere (ascii ("invalid --" ++ option ++ " value ") ++ quoted o)
  match operands with
  | [] => misusedHere (ascii "missing operand after " ++ quoted (← get).name)
  | first :: rest =>
    let second := rest.head?.getD ['-']
    match operands.drop 4 with
    | extra :: _ => misusedHere (ascii "extra operand " ++ quoted extra)
    | [] => pure ()
    let (skipA, skipB) ← (match given.value? "i" with
      | some o => do
        match Octets.splitOn ':' o with
        | [a, b] => return (← number "ignore-initial" a, ← number "ignore-initial" b)
        | _ => let n ← number "ignore-initial" o; return (n, n)
      | none => do
        let a ← (match operands[2]? with
          | some o => number "ignore-initial" o
          | none => pure 0 : Tool Nat)
        let b ← (match operands[3]? with
          | some o => number "ignore-initial" o
          | none => pure 0 : Tool Nat)
        return (a, b) : Tool (Nat × Nat))
    let most ← (match given.value? "n" with
      | some o => return some (← number "bytes" o)
      | none => pure none : Tool (Option Nat))
    let silent := given.has "s"
    let read (name : Octets) (skip : Nat) : Tool Octets := do
      match ← inputContent name with
      | .error fault =>
        if !silent then complain (name ++ ascii ": " ++ reason fault)
        finish 2
      | .ok o =>
        let o := o.drop skip
        return match most with
          | some n => o.take n
          | none => o
    let a ← read first skipA
    let b ← read second skipB
    let differing := (numberedPairs a b).filter fun (_, x, y) => x ≠ y
    let shorter := if a.length < b.length then some (first, a) else if b.length < a.length then some (second, b) else none
    let octal (c : Char) : Octets := Octets.padLeft 3 (Octets.inBase 8 c.toNat)
    let shownByte (c : Char) : Octets := visible c
    let endMessage (name o : Octets) : Octets :=
      if o.isEmpty then ascii "EOF on " ++ name ++ ascii " which is empty"
      else if given.has "l" then ascii "EOF on " ++ name ++ ascii " after byte " ++ Octets.ofNat o.length
      else
        let lines := o.count '\n'
        let atStart := o.getLast? = some '\n'
        ascii "EOF on " ++ name ++ ascii " after byte " ++ Octets.ofNat o.length ++
          (if atStart then ascii ", line " ++ Octets.ofNat lines else ascii ", in line " ++ Octets.ofNat (lines + 1))
    if silent then
      if !differing.isEmpty || shorter.isSome then finish 1
    else if given.has "l" then
      let width := (Octets.ofNat (min a.length b.length)).length
      match shorter with
      | some (name, o) => complain (endMessage name o)
      | none => pure ()
      for (n, x, y) in differing do
        say (Octets.padLeft width (Octets.ofNat n) ++ [' '] ++
          (if given.has "b" then octal x ++ [' '] ++ Octets.padRight 4 (shownByte x) ++ [' '] ++ octal y ++ [' '] ++ shownByte y
          else octal x ++ [' '] ++ octal y) ++ ['\n'])
      if !differing.isEmpty || shorter.isSome then setStatus 1
    else
      match differing with
      | (n, x, y) :: _ =>
        let line := (a.take (n - 1)).count '\n' + 1
        say (first ++ [' '] ++ second ++ ascii " differ: " ++ ascii (if given.has "b" then "byte " else "char ") ++ Octets.ofNat n ++
          ascii ", line " ++ Octets.ofNat line ++
          (if given.has "b" then ascii " is " ++ octal x ++ [' '] ++ shownByte x ++ [' '] ++ octal y ++ [' '] ++ shownByte y else []) ++ ['\n'])
        setStatus 1
      | [] =>
        match shorter with
        | some (name, o) =>
          complain (endMessage name o)
          setStatus 1
        | none => return

/-! ### Line by line -/

/-- How differences are shown. -/
inductive DiffStyle where
  | normal
  | unified (around : Nat)
  | context (around : Nat)
  | brief
  | ed
  | sideBySide (width : Nat)

/-- Which differences do not count, and how the others are shown. -/
structure DiffManner where
  style : DiffStyle
  folds : Bool
  allSpace : Bool
  spaceAmount : Bool
  trailing : Bool
  blankLines : Bool
  newFiles : Bool
  sameToo : Bool
  recursive : Bool
  labels : List Octets
  commonToo : Bool
  arguments : Octets

def DiffManner.reduced (m : DiffManner) (line : Octets) : Octets :=
  let o := if m.allSpace || m.spaceAmount || m.trailing then bare '\n' line else line
  let o := if m.allSpace then o.filter (!Octets.isSpace ·) else o
  let o := if m.spaceAmount then
      let words := Octets.words o
      let joined := [' '].intercalate words
      if o.head?.any Octets.isSpace then ' ' :: joined else joined
    else o
  let o := if m.trailing then Octets.trimRight o else o
  if m.folds then Octets.lower o else o

/-- Numbers for lines, equal where the lines are. -/
def numberLines (m : DiffManner) (a b : List Octets) : Array Nat × Array Nat :=
  let known := (a.map m.reduced ++ b.map m.reduced).eraseDups
  let number (line : Octets) : Nat := (known.idxOf? (m.reduced line)).getD 0
  ((a.map number).toArray, (b.map number).toArray)

def rangeText (first count : Nat) : Octets :=
  if count = 0 then Octets.ofNat first
  else if count = 1 then Octets.ofNat (first + 1)
  else Octets.ofNat (first + 1) ++ ',' :: Octets.ofNat (first + count)

/-- A line behind a mark.  One that lacks its end is told to. -/
def markedLine (mark line : Octets) : Octets :=
  mark ++ line ++ (if line.getLast? = some '\n' then [] else ascii "\n\\ No newline at end of file\n")

def hunkLetter (h : Hunk) : Char := if h.leftCount = 0 then 'a' else if h.rightCount = 0 then 'd' else 'c'

def normalHunk (a b : List Octets) (h : Hunk) : Octets :=
  rangeText h.left h.leftCount ++ hunkLetter h :: rangeText h.right h.rightCount ++ ['\n'] ++
    ((a.drop h.left).take h.leftCount).flatMap (markedLine (ascii "< ")) ++
    (if h.leftCount > 0 && h.rightCount > 0 then ascii "---\n" else []) ++
    ((b.drop h.right).take h.rightCount).flatMap (markedLine (ascii "> "))

/-- Hunks with so little between them that what is around them meets. -/
def groupHunks (around : Nat) (hunks : List Hunk) : List (List Hunk) :=
  (hunks.foldl (fun groups h =>
    match groups with
    | (last :: others) :: rest =>
      if h.left - (last.left + last.leftCount) ≤ 2 * around then (h :: last :: others) :: rest else [h] :: (last :: others) :: rest
    | rest => [h] :: rest) ([] : List (List Hunk))).reverse.map List.reverse

def slice (lines : List Octets) (first end_ : Nat) : List Octets := (lines.drop first).take (end_ - first)

/-- A group of hunks with the lines around it: where it begins and ends in both files. -/
def groupBounds (around total : Nat) (group : List Hunk) : Nat × Nat × Nat × Nat :=
  match group.head?, group.getLast? with
  | some first, some last =>
    let before := min around first.left
    let behind := min around (total - (last.left + last.leftCount))
    (first.left - before, last.left + last.leftCount + behind, first.right - before, last.right + last.rightCount + behind)
  | _, _ => (0, 0, 0, 0)

def unifiedRange (first end_ : Nat) : Octets :=
  if end_ - first = 1 then Octets.ofNat (first + 1)
  else Octets.ofNat (if end_ = first then first else first + 1) ++ ',' :: Octets.ofNat (end_ - first)

def unifiedGroup (around : Nat) (a b : List Octets) (group : List Hunk) : Octets :=
  let (x, xEnd, y, yEnd) := groupBounds around a.length group
  let (body, last) := group.foldl (fun (body, at_) h =>
    (body ++ (slice a at_ h.left).flatMap (markedLine [' ']) ++
      (slice a h.left (h.left + h.leftCount)).flatMap (markedLine ['-']) ++
      (slice b h.right (h.right + h.rightCount)).flatMap (markedLine ['+']), h.left + h.leftCount)) (([] : Octets), x)
  ascii "@@ -" ++ unifiedRange x xEnd ++ ascii " +" ++ unifiedRange y yEnd ++ ascii " @@\n" ++ body ++
    (slice a last xEnd).flatMap (markedLine [' '])

def contextRange (first end_ : Nat) : Octets :=
  if end_ ≤ first + 1 then Octets.ofNat end_ else Octets.ofNat (first + 1) ++ ',' :: Octets.ofNat end_

def contextGroup (around : Nat) (a b : List Octets) (group : List Hunk) : Octets :=
  let (x, xEnd, y, yEnd) := groupBounds around a.length group
  let side (lines : List Octets) (begin_ end_ : Nat) (place count : Hunk → Nat) (only : Char) : Octets :=
    let (body, last) := group.foldl (fun (body, at_) h =>
      (body ++ (slice lines at_ (place h)).flatMap (markedLine (ascii "  ")) ++
        (slice lines (place h) (place h + count h)).flatMap
          (markedLine [if hunkLetter h = 'c' then '!' else only, ' ']), place h + count h)) (([] : Octets), begin_)
    body ++ (slice lines last end_).flatMap (markedLine (ascii "  "))
  ascii "***************\n*** " ++ contextRange x xEnd ++ ascii " ****\n" ++
    (if group.any (·.leftCount > 0) then side a x xEnd Hunk.left Hunk.leftCount '-' else []) ++
    ascii "--- " ++ contextRange y yEnd ++ ascii " ----\n" ++
    (if group.any (·.rightCount > 0) then side b y yEnd Hunk.right Hunk.rightCount '+' else [])

/-- A script for an editor, from the last change to the first. -/
def edHunk (b : List Octets) (h : Hunk) : Octets :=
  let range := if h.leftCount = 0 then Octets.ofNat h.left else rangeText h.left h.leftCount
  range ++ hunkLetter h :: ['\n'] ++
    (if h.rightCount = 0 then [] else (slice b h.right (h.right + h.rightCount)).flatMap (fun l => bare '\n' l ++ ['\n']) ++ ascii ".\n")

/-- Lines beside each other. -/
def besideLine (half : Nat) (a : Option Octets) (mark : Char) (b : Option Octets) : Octets :=
  let cut (o : Octets) : Octets := (expandLine ⟨[], 8⟩ false (bare '\n' o)).take half
  let own := (a.map cut).getD []
  -- from one column to another with tabs where they fit
  let rec pad : (fuel : Nat) → (from_ upTo : Nat) → Octets
    | 0, _, _ => []
    | fuel + 1, from_, upTo =>
      if from_ ≥ upTo then []
      else
        let stop := from_ + 8 - from_ % 8
        if stop ≤ upTo then '\t' :: pad fuel stop upTo else List.replicate (upTo - from_) ' '
  let second := (half + 3 + 7) / 8 * 8
  match mark with
  | ' ' => own ++ pad 300 own.length second ++ (b.map cut).getD [] ++ ['\n']
  | mark =>
    own ++ pad 300 own.length (half + 1) ++ [mark] ++
      (match b with
      | some b => pad 300 (half + 2) second ++ cut b
      | none => []) ++ ['\n']

def besideLines (half : Nat) (commonToo : Bool) (a b : List Octets) (hunks : List Hunk) : Octets :=
  let common (x y x' : Nat) : Octets :=
    if commonToo then ((slice a x x').zip (b.drop y)).flatMap fun (l, r) => besideLine half (some l) ' ' (some r) else []
  let (out, x, y) := hunks.foldl (fun (out, x, y) h =>
    let left := slice a h.left (h.left + h.leftCount)
    let right := slice b h.right (h.right + h.rightCount)
    let n := max left.length right.length
    let changed := (List.range n).flatMap fun k =>
      besideLine half left[k]? (if k ≥ left.length then '>' else if k ≥ right.length then '<' else '|') right[k]?
    (out ++ common x y h.left ++ changed, h.left + h.leftCount, h.right + h.rightCount)) (([] : Octets), 0, 0)
  out ++ common x y a.length

/-- Does a hunk have nothing but blank lines? -/
def isBlankHunk (a b : List Octets) (h : Hunk) : Bool :=
  (slice a h.left (h.left + h.leftCount) ++ slice b h.right (h.right + h.rightCount)).all fun l => (bare '\n' l).isEmpty

/-- Tells how two texts differ, and whether they do. -/
def showDifference (m : DiffManner) (title : Octets) (names : Octets × Octets) (x y : Octets) : Tool Bool := do
  let a := Octets.lines x
  let b := Octets.lines y
  let (ka, kb) := numberLines m a b
  let hunks := (changes ka kb).hunks
  let counted := if m.blankLines then hunks.filter (!isBlankHunk a b ·) else hunks
  if counted.isEmpty then
    match m.style with
    | .sideBySide width => if m.commonToo then say (besideLines (width / 2 - 2) true a b []) else pure ()
    | _ => pure ()
    if m.sameToo then say (ascii "Files " ++ names.1 ++ ascii " and " ++ names.2 ++ ascii " are identical\n")
    return false
  else
    match m.style with
    | .brief => say (ascii "Files " ++ names.1 ++ ascii " and " ++ names.2 ++ ascii " differ\n")
    | style =>
      say title
      match style with
      | .unified n =>
        say (ascii "--- " ++ m.labels.head?.getD names.1 ++ ascii "\n+++ " ++ (m.labels[1]?).getD names.2 ++ ['\n'])
        for group in groupHunks n hunks do say (unifiedGroup n a b group)
      | .context n =>
        say (ascii "*** " ++ m.labels.head?.getD names.1 ++ ascii "\n--- " ++ (m.labels[1]?).getD names.2 ++ ['\n'])
        for group in groupHunks n hunks do say (contextGroup n a b group)
      | .ed => for h in hunks.reverse do say (edHunk b h)
      | .sideBySide width => say (besideLines (width / 2 - 2) m.commonToo a b hunks)
      | _ => for h in counted do say (normalHunk a b h)
    return true

/-- A name in a directory. -/
def inside (directory name : Octets) : Octets :=
  if directory.getLast? = some '/' then directory ++ name else directory ++ '/' :: name

/-- What a name stands for: a directory, or the text of a file. -/
inductive Side where
  | directory
  | text (o : Octets)
  | missing

def sideOf (newFiles : Bool) (name : Octets) : Tool (Except Fault Side) := do
  if name = ['-'] then
    match ← content 0 with
    | .ok o => return .ok (.text o)
    | .error fault => return .error fault
  else
    match ← ask (.inspect name true) with
    | .error .notFound => return if newFiles then .ok .missing else .error .notFound
    | .error fault => return .error fault
    | .ok info =>
      if info.kind = .directory then return .ok .directory
      else
        match ← inputContent name with
        | .ok o => return .ok (.text o)
        | .error fault => return .error fault

/-- Compares two files or directories, and gives the status. -/
def compareNames (m : DiffManner) : (fuel : Nat) → (top : Bool) → Octets → Octets → Tool Nat
  | 0, _, _, _ => return 2
  | fuel + 1, top, x, y => do
    let a ← sideOf m.newFiles x
    let b ← sideOf m.newFiles y
    match a, b with
    | .error fault, .error other =>
      complain (x ++ ascii ": " ++ reason fault)
      complain (y ++ ascii ": " ++ reason other)
      return 2
    | .error fault, _ =>
      complain (x ++ ascii ": " ++ reason fault)
      return 2
    | _, .error fault =>
      complain (y ++ ascii ": " ++ reason fault)
      return 2
    | .ok .directory, .ok .directory =>
      if !top && !m.recursive then
        say (ascii "Common subdirectories: " ++ x ++ ascii " and " ++ y ++ ['\n'])
        return 0
      else
        let names (d : Octets) : Tool (List Octets) := do
          return ((← ask (.list d)).toOption.getD []).mergeSort fun a b => compareOctets a b ≠ .gt
        let left ← names x
        let right ← names y
        let all := (left ++ right.filter (!left.contains ·)).mergeSort fun a b => compareOctets a b ≠ .gt
        let mut worst := 0
        for name in all do
          let status ← (do
            if !right.contains name && !m.newFiles then
              say (ascii "Only in " ++ x ++ ascii ": " ++ name ++ ['\n'])
              return 1
            else if !left.contains name && !m.newFiles then
              say (ascii "Only in " ++ y ++ ascii ": " ++ name ++ ['\n'])
              return 1
            else compareNames m fuel false (inside x name) (inside y name) : Tool Nat)
          worst := max worst status
        return worst
    | .ok .directory, .ok _ =>
      if top then compareNames m fuel false (inside x ((Octets.splitOn '/' y).getLast?.getD y)) y
      else
        say (ascii "File " ++ x ++ ascii " is a directory while file " ++ y ++ ascii " is a regular file\n")
        return 1
    | .ok _, .ok .directory =>
      if top then compareNames m fuel false x (inside y ((Octets.splitOn '/' x).getLast?.getD x))
      else
        say (ascii "File " ++ x ++ ascii " is a regular file while file " ++ y ++ ascii " is a directory\n")
        return 1
    | .ok a, .ok b =>
      let text (s : Side) : Octets := match s with
        | .text o => o
        | _ => []
      let o := text a
      let p := text b
      match a, b with
      | .missing, .missing =>
        complain (x ++ ascii ": No such file or directory")
        complain (y ++ ascii ": No such file or directory")
        return 2
      | _, _ => pure ()
      let binary := (o.take 4096).contains '\x00' || (p.take 4096).contains '\x00'
      if binary then
        if o = p then
          if m.sameToo then say (ascii "Files " ++ x ++ ascii " and " ++ y ++ ascii " are identical\n")
          return 0
        else
          say (match m.style with
            | .brief => ascii "Files " ++ x ++ ascii " and " ++ y ++ ascii " differ\n"
            | _ => ascii "Binary files " ++ x ++ ascii " and " ++ y ++ ascii " differ\n")
          return (match m.style with
            | .brief => 1
            | _ => 2)
      else
        let title := if top then [] else
          match m.style with
          | .brief => []
          | _ => m.arguments ++ shellWord x ++ [' '] ++ shellWord y ++ ['\n']
        return if ← showDifference m title (x, y) o p then 1 else 0

def diffTool (args : List Octets) : Tool Unit := do
  let (given, operands) ← ownOptions
    ["normal", "q|brief", "s|report-identical-files", "c", "C=", "context=?", "u", "U=", "unified=?", "e|ed", "y|side-by-side", "W|width=",
      "left-column", "suppress-common-lines", "L|label=", "t|expand-tabs", "T|initial-tab", "r|recursive", "N|new-file",
      "i|ignore-case", "E|ignore-tab-expansion", "Z|ignore-trailing-space", "b|ignore-space-change", "w|ignore-all-space",
      "B|ignore-blank-lines", "a|text", "d|minimal", "p|show-c-function", "color=?", "strip-trailing-cr", "H|speed-large-files",
      "no-dereference", "x|exclude=", "n|rcs"]
    args
  let number (o : Octets) : Tool Nat := do
    if o.isEmpty then return 3
    match Octets.nat? o with
    | some n => return n
    | none => misusedHere (ascii "invalid context length " ++ quoted o)
  let mut style : DiffStyle := .normal
  for (name, o) in given do
    match name with
    | "u" => style := .unified 3
    | "c" => style := .context 3
    | "U" | "unified" => style := .unified (← number o)
    | "C" | "context" => style := .context (← number o)
    | "e" => style := .ed
    | "y" => style := .sideBySide 130
    | "normal" => style := .normal
    | _ => pure ()
  match style, given.value? "W" with
  | .sideBySide _, some o => style := .sideBySide (← number o)
  | _, _ => pure ()
  if given.has "q" then style := .brief
  let has := given.has
  let optionWords := args.takeWhile fun a => a.head? = some '-' && a.length > 1
  let m : DiffManner :=
    { style, folds := has "i", allSpace := has "w", spaceAmount := has "b", trailing := has "Z", blankLines := has "B"
      newFiles := has "N", sameToo := has "s", recursive := has "r", commonToo := !has "suppress-common-lines"
      labels := (given.filter (·.1 = "L")).map Prod.snd
      arguments := (← get).name ++ [' '] ++ optionWords.flatMap fun a => shellWord a ++ [' '] }
  match operands with
  | [] => misusedHere (ascii "missing operand after " ++ quoted (args.getLast?.getD (← get).name))
  | [one] => misusedHere (ascii "missing operand after " ++ quoted one)
  | [x, y] => setStatus (← compareNames m 1000 true x y)
  | _ :: _ :: extra :: _ => misusedHere (ascii "extra operand " ++ quoted extra)

end GrammarStudio.Tools
