import GrammarStudio.Regex.Posix
import GrammarStudio.Regex.Search
import GrammarStudio.Tools.Input

/-!
# Tools that lay out lines anew

* `nlTool` — numbers before lines;
* `foldTool` — lines that are not too long;
* `expandTool`, `unexpandTool` — blanks for tabs, and tabs for blanks;
* `cutTool`, `pasteTool` — parts of lines, and lines beside each other.
-/

namespace GrammarStudio.Tools

open Machine Files

/-! ### Numbers before lines -/

/-- Which lines get a number. -/
inductive Numbering where
  | all
  | filled
  | none
  | matching (f : Regex.Finder)

def numbering (part : String) (o : Octets) : Tool Numbering := do
  match o with
  | ['a'] => return .all
  | ['t'] => return .filled
  | ['n'] => return .none
  | 'p' :: pattern =>
    match Regex.Finder.ofText { extended := false } pattern with
    | .ok f => return .matching f
    | .error fault => giveUp (ascii fault.message)
  | _ => misused (ascii "invalid " ++ ascii part ++ ascii " numbering style: " ++ quoted o)

/-- Where the numbering stands. -/
structure NumberingState where
  number : Int
  style : Numbering
  /-- How many empty lines came last. -/
  empties : Nat := 0

def integer (what : String) (o : Octets) : Tool Int := do
  match Octets.number? o with
  | some n => return n
  | none => giveUp (ascii "invalid " ++ ascii what ++ ascii ": " ++ quoted o)

def nlTool (args : List Octets) : Tool Unit := do
  let (given, operands) ← options
    ["b|body-numbering=", "d|section-delimiter=", "f|footer-numbering=", "h|header-numbering=", "i|line-increment=",
      "l|join-blank-lines=", "n|number-format=", "p|no-renumber", "s|number-separator=", "v|starting-line-number=",
      "w|number-width="] args
  let style (letter : String) (part usual : String) : Tool Numbering :=
    numbering part ((given.value? letter).getD (ascii usual))
  let header ← style "h" "header" "n"
  let body ← style "b" "body" "t"
  let footer ← style "f" "footer" "n"
  let number (letter what : String) (usual : Int) : Tool Int := do
    match given.value? letter with
    | some o => integer what o
    | none => return usual
  let step ← number "i" "line number increment" 1
  let first ← number "v" "starting line number" 1
  let joined ← (match given.value? "l" with
    | some o => amountWithin 1 largestAmount "line number of blank lines" o
    | none => pure 1 : Tool Nat)
  let width ← (match given.value? "w" with
    | some o => amountWithin 1 2147483647 "line number field width" o
    | none => pure 6 : Tool Nat)
  let format := (given.value? "n").getD (ascii "rn")
  if !([ascii "ln", ascii "rn", ascii "rz"].contains format) then
    misused (ascii "invalid line numbering format: " ++ quoted format)
  let separator := (given.value? "s").getD ['\t']
  let mark : Octets := match given.value? "d" with
    | some [c] => [c, ':']
    | some o => o
    | none => ['\\', ':']
  let written (n : Int) : Octets :=
    if format = ascii "ln" then Octets.padRight width (Octets.ofInt n)
    else if format = ascii "rz" then
      if n < 0 then '-' :: Octets.padLeftWith '0' (width - 1) (Octets.ofNat n.natAbs)
      else Octets.padLeftWith '0' width (Octets.ofNat n.natAbs)
    else Octets.padLeft width (Octets.ofInt n)
  let unnumbered (line : Octets) : Octets := List.replicate (width + separator.length) ' ' ++ line ++ ['\n']
  let mut state : NumberingState := { number := first, style := body }
  for name in inputsOf operands do
    match ← openSource name with
    | .error fault => failing (nameAndReason name fault)
    | .ok source =>
      let (now, fault) ← foldLines '\n' source.descriptor state fun s line => do
        let line := bare '\n' line
        let restart := if given.has "p" then s.number else first
        if !mark.isEmpty && line = mark ++ mark ++ mark then
          say ['\n']
          return ({ s with number := restart, style := header }, true)
        else if !mark.isEmpty && line = mark ++ mark then
          say ['\n']
          return ({ s with number := restart, style := body }, true)
        else if !mark.isEmpty && line = mark then
          say ['\n']
          return ({ s with number := restart, style := footer }, true)
        else
          let empties := if line.isEmpty then s.empties + 1 else 0
          let numbered := match s.style with
            | .all => !line.isEmpty || empties % joined = 0
            | .filled => !line.isEmpty
            | .none => false
            | .matching f => f.isIn line
          if numbered then
            say (written s.number ++ separator ++ line ++ ['\n'])
            return ({ s with number := s.number + step, empties }, true)
          else
            say (unnumbered line)
            return ({ s with empties }, true)
      state := now
      checkRead name fault

/-! ### Lines that are not too long -/

/-- The column behind an octet. -/
def columnBehind (octets : Bool) (column : Nat) (c : Char) : Nat :=
  if octets then column + 1
  else if c = '\x08' then column - 1
  else if c = '\r' then 0
  else if c = '\t' then column + 8 - column % 8
  else column + 1

/-- Folds a line.  `piece` is what was read since the last fold, the latest first. -/
def foldLine (octets spaces : Bool) (width : Nat) : (fuel : Nat) → (column : Nat) → (piece : Octets) → Octets → Octets
  | 0, _, piece, rest => piece.reverse ++ rest
  | _ + 1, _, piece, [] => piece.reverse
  | fuel + 1, column, piece, c :: rest =>
    let after := columnBehind octets column c
    if c = '\n' then (c :: piece).reverse
    else if after > width && !piece.isEmpty then
      let head := if spaces then piece.dropWhile (fun c => c ≠ ' ' && c ≠ '\t') else []
      if head.isEmpty then piece.reverse ++ '\n' :: foldLine octets spaces width fuel 0 [] (c :: rest)
      else
        let tail := (piece.take (piece.length - head.length)).reverse
        head.reverse ++ '\n' :: foldLine octets spaces width fuel 0 [] (tail ++ c :: rest)
    else foldLine octets spaces width fuel after (c :: piece) rest

def foldTool (args : List Octets) : Tool Unit := do
  let args := args.map fun a => match a with
    | '-' :: digits => if !digits.isEmpty && digits.all Char.isDigit then '-' :: 'w' :: digits else a
    | a => a
  let (given, operands) ← options ["b|bytes", "s|spaces", "w|width="] args
  let width ← (match given.value? "w" with
    | some o => amountWithin 1 (largestAmount - 9) "number of columns" o
    | none => pure 80 : Tool Nat)
  forInputs operands fun name d => do
    let (_, fault) ← foldLines '\n' d () fun _ line => do
      say (foldLine (given.has "b") (given.has "s") width (4 * line.length + 4) 0 [] line)
      return ((), true)
    checkRead name fault

/-! ### Tabs -/

/-- The columns where tabs end: some of them, and then one every so often. -/
structure TabStops where
  given : List Nat
  every : Nat

def TabStops.next (t : TabStops) (column : Nat) : Nat :=
  match t.given.find? (· > column) with
  | some stop => stop
  | none => if t.every = 0 then column + 1 else column + t.every - column % t.every

def tabStops (lists : List Octets) : Tool TabStops := do
  let mut stops : List Nat := []
  for list in lists do
    for o in Octets.fieldsBy (fun c => c = ',' || c = ' ' || c = '\t') list do
      match Octets.nat? o with
      | some 0 => giveUp (ascii "tab size cannot be 0")
      | some n =>
        if stops.getLast?.any (· ≥ n) then giveUp (ascii "tab sizes must be ascending")
        stops := stops ++ [n]
      | none => giveUp (ascii "tab size contains invalid character(s): " ++ quoted o)
  return match stops with
    | [] => ⟨[], 8⟩
    | [n] => ⟨[], n⟩
    | stops => ⟨stops, 0⟩

/-- Arguments in which numbers behind a dash are lists of tab stops. -/
def withTabArguments (args : List Octets) : List Octets :=
  args.map fun a => match a with
    | '-' :: c :: rest => if c.isDigit && rest.all (fun c => c.isDigit || c = ',') then '-' :: 't' :: c :: rest else a
    | a => a

/-- A line with blanks for its tabs. -/
def expandLine (t : TabStops) (initial : Bool) (line : Octets) : Octets :=
  (line.foldl (fun (out, column, converts) c =>
    if c = '\t' && converts then
      let stop := t.next column
      (List.replicate (stop - column) ' ' ++ out, stop, true)
    else
      (c :: out, (if c = '\x08' then column - 1 else if c = '\t' then t.next column else column + 1), converts && (!initial || c = ' ' || c = '\t')))
    (([] : Octets), 0, true)).1.reverse

def expandTool (args : List Octets) : Tool Unit := do
  let (given, operands) ← options ["i|initial", "t|tabs="] (withTabArguments args)
  let t ← tabStops ((given.filter (·.1 = "t")).map Prod.snd)
  forInputs operands fun name d => do
    let (_, fault) ← foldLines '\n' d () fun _ line => do
      say (expandLine t (given.has "i") line)
      return ((), true)
    checkRead name fault

/-- Where the unexpanding of a line stands. -/
structure Unexpanding where
  column : Nat := 0
  /-- Blanks that may become a tab, the latest first. -/
  pending : Octets := []
  converts : Bool := true
  behindBlank : Bool := false
  /-- The first of the pending blanks fills a column before a tab stop. -/
  single : Bool := false
  /-- What is written, the latest first. -/
  out : Octets := []

/-- One octet of a line whose blanks become tabs. -/
def Unexpanding.step (t : TabStops) (everywhere : Bool) (s : Unexpanding) (c : Char) : Unexpanding :=
  let written (s : Unexpanding) (c : Char) : Unexpanding :=
    let pending := if s.pending.length > 1 && s.single then s.pending.dropLast ++ ['\t'] else s.pending
    { s with out := c :: pending ++ s.out, pending := [], single := false }
  if !s.converts then { s with out := c :: s.out }
  else if c = ' ' || c = '\t' then
    let isLast := t.every = 0 && t.given.all (· ≤ s.column)
    if isLast then { written s c with converts := false }
    else
      let stop := t.next s.column
      if c = '\t' then
        let kept := if s.single then ['\t'] else []
        { written { s with pending := kept, column := stop } c with behindBlank := true }
      else if s.behindBlank && s.column + 1 = stop then
        let kept := if s.single then ['\t'] else []
        { written { s with pending := kept, column := stop } '\t' with behindBlank := true }
      else
        { s with column := s.column + 1, single := s.single || s.column + 1 = stop, pending := c :: s.pending
                 behindBlank := true }
  else
    let column := if c = '\x08' then s.column - 1 else s.column + 1
    { written { s with column } c with behindBlank := false, converts := everywhere }

/-- A line with tabs for its blanks. -/
def unexpandLine (t : TabStops) (everywhere : Bool) (line : Octets) : Octets :=
  let s := line.foldl (Unexpanding.step t everywhere) {}
  (s.pending ++ s.out).reverse

def unexpandTool (args : List Octets) : Tool Unit := do
  let (given, operands) ← options ["a|all", "first-only", "t|tabs="] (withTabArguments args)
  let t ← tabStops ((given.filter (·.1 = "t")).map Prod.snd)
  let everywhere := (given.has "a" || given.has "t") && !given.has "first-only"
  forInputs operands fun name d => do
    let (_, fault) ← foldLines '\n' d () fun _ line => do
      say (unexpandLine t everywhere line)
      return ((), true)
    checkRead name fault

/-! ### Parts of lines -/

/-- A range of positions, counted from one; without an end it goes on for ever. -/
structure Range where
  first : Nat
  last : Option Nat

def Range.has (r : Range) (n : Nat) : Bool := r.first ≤ n && r.last.all (n ≤ ·)

/-- Reads ranges with commas between them. -/
def ranges (fields : Bool) (o : Octets) : Tool (List Range) := do
  let what := ascii (if fields then "field" else "byte/character position")
  let zero {α : Type} : Tool α := misused (if fields then ascii "fields are numbered from 1" else ascii "byte/character positions are numbered from 1")
  let number (o : Octets) : Tool Nat := do
    let digits := o.takeWhile Char.isDigit
    if digits.length < o.length then
      misused (ascii "invalid " ++ what ++ ascii " value " ++ quoted (o.drop digits.length))
    else
      let n := Octets.valueIn 10 digits
      if n ≥ largestAmount then misused (if fields then ascii "field number " ++ quoted o ++ ascii " is too large" else ascii "byte/character offset " ++ quoted o ++ ascii " is too large")
      return n
  let mut found : List Range := []
  for part in (Octets.splitOn ',' (o.map fun c => if c = ' ' || c = '\t' then ',' else c)) do
    let first := part.takeWhile (· ≠ '-')
    if first.length = part.length then
      let n ← number part
      if n = 0 then zero
      found := found ++ [⟨n, some n⟩]
    else
      let last := part.drop (first.length + 1)
      if first.isEmpty && last.isEmpty then misused (ascii "invalid range with no endpoint: -")
      let a ← (if first.isEmpty then pure 1 else number first : Tool Nat)
      if a = 0 then zero
      if last.isEmpty then found := found ++ [⟨a, none⟩]
      else
        if last.contains '-' then misused (ascii "invalid " ++ what ++ ascii " range")
        let b ← number last
        if b < a then misused (ascii "invalid decreasing range")
        found := found ++ [⟨a, some b⟩]
  return found

/-- Those items whose place is chosen, with their places. -/
def chosen {α : Type} (has : Nat → Bool) (items : List α) : List (Nat × α) :=
  (((List.range items.length).map (· + 1)).zip items).filter fun x => has x.1

def cutTool (args : List Octets) : Tool Unit := do
  let (given, operands) ← options
    ["b|bytes=", "c|characters=", "f|fields=", "d|delimiter=", "n", "s|only-delimited", "z|zero-terminated", "complement",
      "output-delimiter="] args
  let lists := given.filter fun o => o.1 = "b" || o.1 = "c" || o.1 = "f"
  if lists.length > 1 then misused (ascii "only one list may be specified")
  match given.value? "d" with
  | some (_ :: _ :: _) => misused (ascii "the delimiter must be a single character")
  | _ => pure ()
  match lists with
  | [] => misused (ascii "you must specify a list of bytes, characters, or fields")
  | (kind, list) :: _ =>
    let fields := kind = "f"
    if !fields && given.has "d" then misused (ascii "an input delimiter may be specified only when operating on fields")
    if !fields && given.has "s" then
      misused (ascii "suppressing non-delimited lines makes sense\n\tonly when operating on fields")
    let rs ← ranges fields list
    let isIn (n : Nat) : Bool := rs.any (·.has n)
    let has (n : Nat) : Bool := if given.has "complement" then !isIn n else isIn n
    let ender := if given.has "z" then '\x00' else '\n'
    let delimiter := ((given.value? "d").map fun o => o.head?.getD '\x00').getD '\t'
    let out := (given.value? "output-delimiter").getD (if fields then [delimiter] else [])
    let starts (n : Nat) : Bool := rs.any (·.first = n)
    let cutLine (line : Octets) : Option Octets :=
      if fields then
        if !line.contains delimiter then (if given.has "s" then none else some line)
        else some (out.intercalate ((chosen has (Octets.splitOn delimiter line)).map Prod.snd))
      else
        -- ranges that do not touch each other have the delimiter between them
        some ((chosen has line).foldl (fun (acc, before) (n, c) =>
          (acc ++ (if before ≠ 0 && (before + 1 < n || (before + 1 = n && starts n && !(rs.any fun r => r.has n && r.has before))) then out else []) ++ [c], n))
          (([] : Octets), 0)).1
    forInputs operands fun name d => do
      if fields && delimiter = ender then
        match ← content d with
        | .error fault => checkRead name (some fault)
        | .ok o =>
          let o := bare ender o
          if o.contains ender then
            say (out.intercalate ((chosen has (Octets.splitOn ender o)).map Prod.snd) ++ [ender])
          else if !given.has "s" && !o.isEmpty then say (o ++ [ender])
      else
        let (_, fault) ← foldLines ender d () fun _ line => do
          match cutLine (bare ender line) with
          | some o => say (o ++ [ender])
          | none => pure ()
          return ((), true)
        checkRead name fault

/-! ### Lines beside each other -/

/-- The delimiters of a list, some of which may be empty. -/
def delimiters : Octets → Option (List Octets)
  | [] => some []
  | ['\\'] => none
  | '\\' :: c :: rest => do
    let others ← delimiters rest
    let own : Octets := match c with
      | '0' => []
      | 'b' => ['\x08']
      | 'f' => ['\x0c']
      | 'n' => ['\n']
      | 'r' => ['\r']
      | 't' => ['\t']
      | 'v' => ['\x0b']
      | c => [c]
    return own :: others
  | c :: rest => do return [c] :: (← delimiters rest)

/-- The next lines of all sources, each with whether it is there. -/
def nextLines (ender : Char) : List (Octets × Option Sequel) → Sequel → Tool (List (Option Octets) × List (Octets × Option Sequel) × Sequel)
  | [], input => return ([], [], input)
  | (name, source) :: rest, input => do
    let (line, source, input) ← (match source with
      | none => return (none, none, input)
      | some s =>
        if name = ['-'] then do
          let (line, fault, input) ← input.next ender
          checkRead name fault
          return (line, some s, input)
        else do
          let (line, fault, s) ← s.next ender
          checkRead name fault
          return (line, some s, input) : Tool (Option Octets × Option Sequel × Sequel))
    let (lines, sources, input) ← nextLines ender rest input
    return (line :: lines, (name, if line.isNone then none else source) :: sources, input)

def pasteTool (args : List Octets) : Tool Unit := do
  let (given, operands) ← options ["d|delimiters=", "s|serial", "z|zero-terminated"] args
  let ender := if given.has "z" then '\x00' else '\n'
  let list := (given.value? "d").getD ['\t']
  match delimiters list with
  | none => giveUp (ascii "delimiter list ends with an unescaped backslash: " ++ list)
  | some ds =>
    let ds := if ds.isEmpty then [[]] else ds
    let delimiter (n : Nat) : Octets := (ds[n % ds.length]?).getD []
    if given.has "s" then
      for name in inputsOf operands do
        withInput nameAndReason name fun d => do
          match ← content d with
          | .error fault => checkRead name (some fault)
          | .ok o =>
            let (lines, rest) := cutLines ender o
            let lines := (if rest.isEmpty then lines else lines ++ [rest]).map (bare ender)
            say ((((List.range lines.length).zip lines).flatMap fun (n, line) => (if n = 0 then [] else delimiter (n - 1)) ++ line) ++ [ender])
    else
      let mut sources : List (Octets × Option Sequel) := []
      for name in inputsOf operands do
        match ← openSource name with
        | .ok s => sources := sources ++ [(name, some s)]
        | .error fault => giveUp (nameAndReason name fault)
      let rec go : (fuel : Nat) → List (Octets × Option Sequel) → Sequel → Tool Unit
        | 0, _, _ => return
        | fuel + 1, sources, input => do
          let (lines, sources, input) ← nextLines ender sources input
          if lines.all Option.isNone then return
          say ((((List.range lines.length).zip lines).flatMap fun (n, line) =>
            (if n = 0 then [] else delimiter (n - 1)) ++ (match line with
              | some line => bare ender line
              | none => [])) ++ [ender])
          if (← get).lost.isNone then go fuel sources input
      go endless sources { descriptor := 0 }

end GrammarStudio.Tools
