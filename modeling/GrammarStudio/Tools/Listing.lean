import GrammarStudio.Calendar.Written
import GrammarStudio.Format.Directive
import GrammarStudio.Tools.Making
import GrammarStudio.Tools.Order

/-!
# Tools that tell of files

* `lsTool` — the names in directories;
* `statTool` — what is known of files, as a format says;
* `touchTool`, `dateTool` — times of files, and the time.
-/

namespace GrammarStudio.Tools

open Machine Files Calendar

/-! ### Names in directories -/

/-- A file with its name and what is known of it. -/
structure Entry where
  name : Octets
  path : Octets
  info : Info

structure Listing where
  all : Bool
  almostAll : Bool
  long : Bool
  numeric : Bool
  owner : Bool
  group : Bool
  classify : Bool
  slashes : Bool
  recursive : Bool
  reverse : Bool
  bySize : Bool
  byTime : Bool
  byVersion : Bool
  byExtension : Bool
  unsorted : Bool
  inodes : Bool
  blocks : Bool
  human : Bool
  commas : Bool
  columns : Bool
  across : Bool
  quotes : Bool
  escapes : Bool
  asFiles : Bool
  follows : Bool

/-- How many blocks of 1024 octets a file takes. -/
def blocksOf (info : Info) : Nat :=
  match info.kind with
  | .file => (info.size + 4095) / 4096 * 4
  | .directory => 4
  | _ => 0

/-- A size in units that keep it short. -/
def humanSize (n : Nat) : Octets :=
  if n < 1024 then Octets.ofNat n
  else
    let rec go : (fuel : Nat) → (power : Nat) → Octets
      | 0, power => Octets.ofNat (n / 1024 ^ power)
      | fuel + 1, power =>
        let unit := 1024 ^ power
        let tenths := (n * 10 + unit - 1) / unit
        if tenths ≥ 10240 then go fuel (power + 1)
        else if tenths < 100 then Octets.ofNat (tenths / 10) ++ '.' :: Octets.ofNat (tenths % 10) ++ [powerLetters.getD (power - 1) 'K']
        else Octets.ofNat ((n + unit - 1) / unit) ++ [powerLetters.getD (power - 1) 'K']
    go 8 1

namespace Listing

def indicator (l : Listing) (e : Entry) : Octets :=
  match e.info.kind with
  | .directory => if l.classify || l.slashes then ['/'] else []
  | .link => if l.classify then ['@'] else []
  | .fifo => if l.classify then ['|'] else []
  | .file => if l.classify && e.info.mode &&& 0o111 ≠ 0 then ['*'] else []
  | .device => []

def shownName (l : Listing) (o : Octets) : Octets :=
  if l.quotes then between '"' o
  else if l.escapes then o.flatMap fun c => if c = ' ' || c = '\\' then ['\\', c] else if Octets.isPrint c then [c] else escaped c
  else o

def sizeText (l : Listing) (n : Nat) : Octets := if l.human then humanSize n else Octets.ofNat n

/-- The order of two files, apart from their names. -/
def before (l : Listing) (a b : Entry) : Bool :=
  let byName := compareOctets a.name b.name ≠ .gt
  if l.byTime then a.info.modified > b.info.modified || (a.info.modified = b.info.modified && byName)
  else if l.bySize then a.info.size > b.info.size || (a.info.size = b.info.size && byName)
  else if l.byVersion then compareVersions a.name b.name ≠ .gt
  else if l.byExtension then
    let ending (o : Octets) : Octets := if o.contains '.' then (o.reverse.takeWhile (· ≠ '.')).reverse else []
    match compareOctets (ending a.name) (ending b.name) with
    | .lt => true
    | .gt => false
    | .eq => byName
  else byName

def sorted (l : Listing) (entries : List Entry) : List Entry :=
  let own := if l.unsorted then entries else entries.mergeSort l.before
  if l.reverse && !l.unsorted then own.reverse else own

/-- The time of a file in a long line. -/
def timeText (info : Info) (now : Nat) : Octets :=
  let m := Moment.ofSeconds (info.modified / 1000000)
  let recent := info.modified ≤ now && now - info.modified < 15778476000000
  write m 0 (ascii (if recent then "%b %e %H:%M" else "%b %e  %Y"))

/-- The columns of long lines, and the names behind them. -/
def longLines (l : Listing) (entries : List Entry) : Tool (List Octets) := do
  let now ← ask .now
  let width (f : Entry → Octets) : Nat := (entries.map fun e => (f e).length).foldl max 0
  let links (e : Entry) : Octets := Octets.ofNat e.info.names
  let size (e : Entry) : Octets := if e.info.kind = .device then ascii "1, 3" else l.sizeText e.info.size
  let inode (e : Entry) : Octets := Octets.ofNat (e.info.node + 1000)
  let blocks (e : Entry) : Octets := if l.human then humanSize (blocksOf e.info * 1024) else Octets.ofNat (blocksOf e.info)
  let person := ascii (if l.numeric then "0" else "root")
  let mut lines : List Octets := []
  for e in entries do
    let target ← (if e.info.kind = .link then do
        match ← ask (.target e.path) with
        | .ok t => return ascii " -> " ++ l.shownName t
        | .error _ => return []
      else pure [] : Tool Octets)
    lines := ((if l.inodes then Octets.padLeft (width inode) (inode e) ++ [' '] else []) ++
      (if l.blocks then Octets.padLeft (width blocks) (blocks e) ++ [' '] else []) ++
      [kindLetter e.info.kind] ++ modeLetters e.info.mode ++ [' '] ++ Octets.padLeft (width links) (links e) ++
      (if l.owner then ' ' :: person else []) ++ (if l.group then ' ' :: person else []) ++ [' '] ++
      Octets.padLeft (width size) (size e) ++ [' '] ++ timeText e.info now ++ [' '] ++ l.shownName e.name ++
      (if e.info.kind = .link then target else l.indicator e)) :: lines
  return lines.reverse

/-- Short names with what stands before and behind them. -/
def shortNames (l : Listing) (entries : List Entry) : List Octets :=
  let width (f : Entry → Octets) : Nat := if l.commas then 0 else (entries.map fun e => (f e).length).foldl max 0
  let inode (e : Entry) : Octets := Octets.ofNat (e.info.node + 1000)
  let blocks (e : Entry) : Octets := if l.human then humanSize (blocksOf e.info * 1024) else Octets.ofNat (blocksOf e.info)
  entries.map fun e =>
    (if l.inodes then Octets.padLeft (width inode) (inode e) ++ [' '] else []) ++
      (if l.blocks then Octets.padLeft (width blocks) (blocks e) ++ [' '] else []) ++ l.shownName e.name ++ l.indicator e

/-- Names in columns that fit into a line. -/
def inColumns (across : Bool) (names : List Octets) : Octets :=
  let n := names.length
  let fits (columns : Nat) : Option (Nat × List Nat) :=
    let rows := (n + columns - 1) / columns
    let used := if across then columns else (n + rows - 1) / rows
    let columnOf (k : Nat) : Nat := if across then k % columns else k / rows
    let widths := (List.range used).map fun c =>
      (((List.range n).zip names).filter fun x => columnOf x.1 = c).foldl (fun w x => max w (x.2.length + (if c + 1 = used then 0 else 2))) 0
    if widths.sum < 80 && used = columns then some (rows, widths) else none
  match ((List.range (min n 27)).map fun k => min n 27 - k).findSome? fits with
  | none => names.flatMap fun o => o ++ ['\n']
  | some (rows, widths) =>
    let columns := widths.length
    (List.range rows).flatMap fun r =>
      let places := (List.range columns).filterMap fun c =>
        let k := if across then r * columns + c else c * rows + r
        (names[k]?).map fun o => (c, o)
      let rec line : (fuel : Nat) → (from_ : Nat) → List (Nat × Octets) → Octets
        | 0, _, _ => []
        | _ + 1, _, [] => []
        | _ + 1, _, [(_, o)] => o
        | fuel + 1, from_, (c, o) :: rest =>
          let end_ := from_ + o.length
          let next := (widths.take (c + 1)).sum
          o ++ gap 100 end_ next ++ line fuel next rest
      line (columns + 1) 0 places ++ ['\n']
where
  /-- From one column to another with tabs where they fit. -/
  gap : (fuel : Nat) → (from_ upTo : Nat) → Octets
    | 0, _, _ => []
    | fuel + 1, from_, upTo =>
      if from_ ≥ upTo then []
      else if upTo / 8 > (from_ + 1) / 8 then '\t' :: gap fuel (from_ + 8 - from_ % 8) upTo
      else ' ' :: gap fuel (from_ + 1) upTo

def show_ (l : Listing) (entries : List Entry) : Tool Unit := do
  let entries := l.sorted entries
  if l.long then
    for line in ← l.longLines entries do say (line ++ ['\n'])
  else
    let names := l.shortNames entries
    if l.commas then
      -- names with commas, in lines of at most eighty columns
      let (out, _) := names.foldl (fun (out, column) o =>
        if column = 0 then (out ++ o, o.length)
        else if column + o.length + 3 > 80 then (out ++ ascii ",\n" ++ o, o.length)
        else (out ++ ascii ", " ++ o, column + o.length + 2)) (([] : Octets), 0)
      if !names.isEmpty then say (out ++ ['\n'])
    else if l.columns then say (inColumns l.across names)
    else for o in names do say (o ++ ['\n'])

end Listing

/-- Lists a directory.  The fuel bounds the depth. -/
def listDirectory (l : Listing) : (fuel : Nat) → (titled : Bool) → (isFirst : Bool) → Octets → Tool Unit
  | 0, _, _, _ => return
  | fuel + 1, titled, isFirst, path => do
    match ← ask (.list path) with
    | .error fault =>
      failing (ascii "cannot open directory " ++ always path ++ ascii ": " ++ reason fault)
    | .ok names =>
      if !isFirst then say ['\n']
      if titled then say (l.shownName path ++ ascii ":\n")
      let names := (if l.all then [['.'], ['.', '.']] else []) ++ (if l.all || l.almostAll then names else names.filter (·.head? ≠ some '.'))
      let mut entries : List Entry := []
      for name in names do
        match ← ask (.inspect (joined path name) l.follows) with
        | .ok info => entries := ⟨name, joined path name, info⟩ :: entries
        | .error _ =>
          match ← ask (.inspect (joined path name) false) with
          | .ok info => entries := ⟨name, joined path name, info⟩ :: entries
          | .error _ => pure ()
      entries := entries.reverse
      if l.long || l.blocks then
        let total := (entries.map fun e => blocksOf e.info).sum
        say (ascii "total " ++ (if l.human then humanSize (total * 1024) else Octets.ofNat total) ++ ['\n'])
      l.show_ entries
      if l.recursive then
        for e in l.sorted entries do
          if e.info.kind = .directory && e.name ≠ ['.'] && e.name ≠ ['.', '.'] then listDirectory l fuel true false e.path

def lsTool (args : List Octets) : Tool Unit := do
  let (given, operands) ← options
    ["a|all", "A|almost-all", "author", "b|escape", "block-size=", "B|ignore-backups", "c", "C", "color=?", "d|directory", "D|dired",
      "f", "F|classify=?", "file-type", "format=", "full-time", "g", "group-directories-first", "G|no-group", "h|human-readable", "si",
      "H|dereference-command-line", "hide=", "hyperlink=?", "indicator-style=", "i|inode", "I|ignore=", "k|kibibytes", "l",
      "L|dereference", "m", "n|numeric-uid-gid", "N|literal", "o", "p", "q|hide-control-chars", "show-control-chars", "Q|quote-name",
      "quoting-style=", "r|reverse", "R|recursive", "s|size", "S", "sort=", "time=", "time-style=", "t", "T|tabsize=", "u", "U", "v",
      "w|width=", "x", "X", "Z|context", "zero", "1"] args
  let has := given.has
  let format := given.lastOf ["l", "g", "o", "n", "C", "x", "m", "1", "format"]
  let sorting := given.lastOf ["S", "t", "v", "X", "U", "f", "sort"]
  let word := String.ofList ((given.value? "sort").getD [])
  let long := match format with
    | some "l" | some "g" | some "o" | some "n" => true
    | some "1" => has "l" || has "g" || has "o" || has "n"
    | _ => false
  let l : Listing :=
    { all := given.lastOf ["a", "A", "f"] = some "a" || given.lastOf ["a", "A", "f"] = some "f", almostAll := has "A", long
      numeric := has "n", owner := !has "g", group := !has "o" && !has "G", classify := has "F", slashes := has "p" || has "file-type"
      recursive := has "R", reverse := has "r"
      bySize := sorting = some "S" || (sorting = some "sort" && word = "size")
      byTime := sorting = some "t" || (sorting = some "sort" && word = "time")
      byVersion := sorting = some "v" || (sorting = some "sort" && word = "version")
      byExtension := sorting = some "X" || (sorting = some "sort" && word = "extension")
      unsorted := sorting = some "U" || sorting = some "f" || (sorting = some "sort" && word = "none")
      inodes := has "i", blocks := has "s", human := has "h", commas := format = some "m"
      columns := format = some "C" || format = some "x", across := format = some "x"
      quotes := has "Q", escapes := has "b", asFiles := has "d", follows := has "L" }
  let mut files : List Entry := []
  let mut directories : List Entry := []
  for name in (if operands.isEmpty then [['.']] else operands) do
    -- a link to a directory is listed as the directory, unless files are told at length
    let followed ← ask (.inspect name true)
    let own ← ask (.inspect name false)
    let follows := l.follows || has "H" || !(l.long || l.asFiles || l.classify)
    match (match followed, own with
      | .ok a, .ok b => if follows then (.ok a : Except Fault Info) else .ok b
      | .error _, .ok b => .ok b
      | a, .error _ => a) with
    | .error fault => failing (ascii "cannot access " ++ always name ++ ascii ": " ++ reason fault)
    | .ok info =>
      if info.kind = .directory && !l.asFiles then directories := ⟨name, name, info⟩ :: directories
      else files := ⟨name, name, info⟩ :: files
  if !files.isEmpty then l.show_ files.reverse
  let ordered := l.sorted directories.reverse
  let titled := l.recursive || operands.length > 1
  let mut isFirst := files.isEmpty
  for d in ordered do
    listDirectory l 1000 titled isFirst d.path
    isFirst := false

/-! ### What is known of files -/

def kindName (info : Info) : Octets := kindText info

/-- What a letter behind a percent sign stands for. -/
def statField (path : Octets) (info : Info) (target : Option Octets) (c : Char) : Octets :=
  let seconds : Int := info.modified / 1000000
  let m := Moment.ofSeconds seconds
  let full := write m (info.modified % 1000000) (ascii "%Y-%m-%d %H:%M:%S.%N %z")
  let kindBits : Nat := match info.kind with
    | .file => 0o100000
    | .directory => 0o040000
    | .link => 0o120000
    | .device => 0o020000
    | .fifo => 0o010000
  match c with
  | 'a' => Octets.inBase 8 info.mode
  | 'A' => kindLetter info.kind :: modeLetters info.mode
  | 'b' => Octets.ofNat (blocksOf info * 2)
  | 'B' => ascii "512"
  | 'd' => ascii "65024"
  | 'D' => ascii "fe00"
  | 'f' => Octets.inBase 16 (kindBits + info.mode)
  | 'F' => kindName info
  | 'g' | 'u' => ['0']
  | 'G' | 'U' => ascii "root"
  | 'h' => Octets.ofNat info.names
  | 'i' => Octets.ofNat (info.node + 1000)
  | 'm' => ['/']
  | 'n' => path
  | 'N' => always path ++ (match target with
    | some t => ascii " -> " ++ always t
    | none => [])
  | 'o' => ascii "4096"
  | 's' => Octets.ofNat info.size
  | 't' | 'T' => ['0']
  | 'w' => full
  | 'W' => Octets.ofInt seconds
  | 'x' | 'y' | 'z' => full
  | 'X' | 'Y' | 'Z' => Octets.ofInt seconds
  | _ => ['?']

/-- A format with its fields put in.  Escapes are read where they are asked for. -/
def statText (escapes : Bool) (path : Octets) (info : Info) (target : Option Octets) : (fuel : Nat) → Octets → Octets
  | 0, _ => []
  | _ + 1, [] => []
  | fuel + 1, '%' :: rest =>
    let (t, behind) := Format.Template.read rest
    match behind with
    | [] => ['%']
    | '%' :: more => '%' :: statText escapes path info target fuel more
    | c :: more =>
      let own := statField path info target c
      let d := t.directive none none c
      let numeric := (ascii "abBdDfghiostTuWXYZ").contains c
      let own := if d.has '#' && c = 'a' then '0' :: own else own
      let own := match d.precision with
        | some n => if numeric then own else own.take n
        | none => own
      let shown := if d.has '0' && !d.has '-' && numeric then Octets.padLeftWith '0' d.width own else d.fill own
      shown ++ statText escapes path info target fuel more
  | fuel + 1, '\\' :: rest =>
    if escapes then
      match ({ escapeMarks := ['e', 'E'], hexadecimal := true, quotes := true, stops := false } : Format.Escapes).one rest with
      | some (o, more) => o ++ statText escapes path info target fuel more
      | none => []
    else '\\' :: statText escapes path info target fuel rest
  | fuel + 1, c :: rest => c :: statText escapes path info target fuel rest

/-- The usual report. -/
def statReport : Octets :=
  ascii ("  File: %N\n  Size: %-10s\tBlocks: %-10b IO Block: %-6o %F\nDevice: 254,0\tInode: %-11i Links: %h\n" ++
    "Access: (%04a/%10.10A)  Uid: (%5u/%8U)   Gid: (%5g/%8G)\nAccess: %x\nModify: %y\nChange: %z\n Birth: %w\n")

def statTool (args : List Octets) : Tool Unit := do
  let (given, operands) ← options
    ["L|dereference", "f|file-system", "c|format=", "printf=", "t|terse", "cached="] args
  needOperand operands
  for path in operands do
    let found ← (if path = ['-'] then ask (.describe 0) else ask (.inspect path (given.has "L")) : Tool (Except Fault Info))
    match found with
    | .error fault =>
      failing (ascii (if given.has "f" then "cannot read file system information for " else "cannot statx ") ++ always path ++ ascii ": " ++ reason fault)
    | .ok info =>
      let target := (← ask (.target path)).toOption
      let target := if info.kind = .link then target else none
      match given.value? "printf", given.value? "c" with
      | some f, _ => say (statText true path info target (f.length + 1) f)
      | none, some f => say (statText false path info target (f.length + 1) f ++ ['\n'])
      | none, none =>
        let f := if given.has "t" then ascii "%n %s %b %f %u %g %D %i %h %t %T %X %Y %Z %W %o\n" else statReport
        say (statText false path info target (f.length + 1) f)

/-! ### Times -/

/-- The time that digits name: month, day, hour and minute, with a year before them and seconds behind. -/
def stampTime? (now : Int) (o : Octets) : Option Int := do
  let (digits, seconds) := match Octets.splitOn '.' o with
    | [d, s] => (d, Octets.nat? s)
    | _ => (o, some 0)
  let s ← seconds
  let two (n : Nat) : Nat := Octets.valueIn 10 ((digits.drop n).take 2)
  if !digits.all Char.isDigit || o.contains '.' && (Octets.splitOn '.' o).any (·.isEmpty) then none
  else
    let (year, at_) : Int × Nat ← match digits.length with
      | 8 => some ((Moment.ofSeconds now).year, 0)
      | 10 => some ((if two 0 < 69 then 2000 + two 0 else 1900 + two 0 : Nat), 2)
      | 12 => some ((two 0 * 100 + two 2 : Nat), 4)
      | _ => none
    if isValidDay year (two at_) (two (at_ + 2)) && two (at_ + 4) < 24 && two (at_ + 6) < 60 then
      some (daysTo year (two at_) (two (at_ + 2)) * 86400 + (two (at_ + 4) * 3600 + two (at_ + 6) * 60 + s : Nat))
    else none

def touchTool (args : List Octets) : Tool Unit := do
  let (given, operands) ← options
    ["a", "c|no-create", "d|date=", "f", "h|no-dereference", "m", "r|reference=", "t=", "time="] args
  let now ← ask .now
  let time ← (match given.value? "t", given.value? "d", given.value? "r" with
    | some o, _, _ =>
      match stampTime? (now / 1000000) o with
      | some s => return (s * 1000000).toNat
      | none => giveUp (ascii "invalid date format " ++ quoted o)
    | none, some o, _ =>
      match read? (now / 1000000) o with
      | some s => return (s * 1000000).toNat
      | none => giveUp (ascii "invalid date format " ++ quoted o)
    | none, none, some r => do
      match ← ask (.inspect r true) with
      | .ok info => return info.modified
      | .error fault => giveUp (ascii "failed to get attributes of " ++ always r ++ ascii ": " ++ reason fault)
    | none, none, none => return now : Tool Nat)
  if operands.isEmpty then misused (ascii "missing file operand")
  for path in operands do
    match ← ask (.inspect path true) with
    | .ok _ =>
      let _ ← ask (.setTime path time)
    | .error fault =>
      if path.getLast? = some '/' && path.length > 1 then
        failing (ascii "setting times of " ++ always path ++ ascii ": " ++ reason fault)
      else if !given.has "c" then
        match ← ask (.openFile path { writes := true, creates := true } 0o666) with
        | .ok d =>
          (Work.close d : Work Unit)
          let _ ← ask (.setTime path time)
        | .error fault => failing (ascii "cannot touch " ++ always path ++ ascii ": " ++ reason fault)

def dateTool (args : List Octets) : Tool Unit := do
  let (given, operands) ← options
    ["d|date=", "f|file=", "I|iso-8601=?", "R|rfc-email", "rfc-3339=", "r|reference=", "s|set=", "u|utc|universal", "debug"] args
  atMost 1 operands
  let now ← ask .now
  let time ← (match given.value? "d", given.value? "r" with
    | some o, _ =>
      match read? (now / 1000000) o with
      | some s => return s
      | none => giveUp (ascii "invalid date " ++ quoted o)
    | none, some r => do
      match ← ask (.inspect r true) with
      | .ok info => return (info.modified / 1000000 : Nat)
      | .error fault => giveUp (nameAndReason r fault)
    | none, none => return (now / 1000000 : Nat) : Tool Int)
  let part := if (given.value? "d").isSome then 0 else now % 1000000
  let format ← (match operands.head? with
    | some ('+' :: f) => pure f
    | some o => giveUp (ascii "invalid date " ++ quoted o)
    | none =>
      match given.value? "I" with
      | some o =>
        match String.ofList o with
        | "" | "date" => pure (ascii "%Y-%m-%d")
        | "hours" => pure (ascii "%Y-%m-%dT%H%:z")
        | "minutes" => pure (ascii "%Y-%m-%dT%H:%M%:z")
        | "ns" => pure (ascii "%Y-%m-%dT%H:%M:%S,%N%:z")
        | _ => pure (ascii "%Y-%m-%dT%H:%M:%S%:z")
      | none =>
        if given.has "R" then pure (ascii "%a, %d %b %Y %H:%M:%S %z")
        else if given.has "rfc-3339" then
          pure (ascii (if given.value? "rfc-3339" = some (ascii "date") then "%Y-%m-%d" else "%Y-%m-%d %H:%M:%S%:z"))
        else pure (ascii "%a %b %e %H:%M:%S %Z %Y") : Tool Octets)
  say (write (Moment.ofSeconds time) part format ++ ['\n'])

end GrammarStudio.Tools
