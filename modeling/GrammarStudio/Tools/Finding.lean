import GrammarStudio.Shell.Pattern
import GrammarStudio.Regex.Posix
import GrammarStudio.Regex.Search
import GrammarStudio.Tools.Gathering
import GrammarStudio.Tools.Listing

/-!
# Looking for files

A query is put to each file below some starting points.

* `Criterion`, `Query` — what is asked of a file, and what is done with it;
* `Query.read` — the query that arguments write;
* `Query.holds` — the answer for a file;
* `findTool` — the tool.
-/

namespace GrammarStudio.Tools

open Machine Files Calendar

/-! ### Queries -/

/-- How a number is compared. -/
inductive Compared where
  | exactly
  | more
  | less
  deriving DecidableEq, Repr

/-- A number with how it is compared. -/
structure Bound where
  how : Compared
  number : Nat

def Bound.admits (b : Bound) (n : Nat) : Bool :=
  match b.how with
  | .exactly => n = b.number
  | .more => n > b.number
  | .less => n < b.number

/-- Which rights are asked for. -/
inductive Rights where
  | exactly (mode : Nat)
  | all (mode : Nat)
  | any (mode : Nat)

/-- One question, or one thing to do. -/
inductive Criterion where
  | name (p : Shell.Pattern) (anyCase : Bool)
  | path (p : Shell.Pattern) (anyCase : Bool)
  | target (p : Shell.Pattern) (anyCase : Bool)
  | regex (f : Regex.Finder)
  | kind (letters : List Char)
  | size (b : Bound) (unit : Nat)
  | empty
  | newer (time : Nat)
  | age (b : Bound) (unit : Nat)
  | rights (r : Rights)
  | names (b : Bound)
  | node (b : Bound)
  | sameNode (n : Nat)
  | allowed
  | runnable
  | owned (yes : Bool)
  | constant (truth : Bool)
  | print (ender : Char)
  | format (f : Octets)
  | list
  | run (command : List Octets) (inside : Bool)
  /-- Runs a command with many files; the number tells such commands apart. -/
  | runAll (id : Nat) (command : List Octets)
  | delete
  | prune
  | quit

inductive Query where
  | one (c : Criterion)
  | not (q : Query)
  | and (p q : Query)
  | or (p q : Query)
  | both (p q : Query)

/-! ### Reading -/

/-- What stands in a query. -/
inductive QueryWord where
  | criterion (c : Criterion)
  | negation (given : Octets)
  | conjunction (given : Octets)
  | alternative (given : Octets)
  | sequence
  | opening
  | closing

/-- Settings that are no part of the query. -/
structure Depths where
  least : Nat := 0
  most : Option Nat := none
  insideFirst : Bool := false
  follows : Bool := false
  extended : Bool := false
  daystart : Bool := false

/-- A raw pattern, in which a backslash quotes. -/
def patternMarks : Octets → Shell.Marked
  | '\\' :: c :: rest => (c, true) :: patternMarks rest
  | c :: rest => (c, false) :: patternMarks rest
  | [] => []

def rawPattern (o : Octets) : Shell.Pattern := Shell.Pattern.ofMarked (patternMarks o)

/-- A number with its sign of comparison. -/
def bound? (o : Octets) : Option Bound :=
  let (how, digits) : Compared × Octets := match o with
    | '+' :: rest => (.more, rest)
    | '-' :: rest => (.less, rest)
    | rest => (.exactly, rest)
  (Octets.nat? digits).map fun n => ⟨how, n⟩

def badArgument {α : Type} (value option : Octets) : Tool α :=
  giveUp (ascii "invalid argument \x60" ++ value ++ ascii "' to \x60" ++ option ++ ['\''])

/-- The bounds of an option. -/
def boundOf (option value : Octets) : Tool Bound := do
  match bound? value with
  | some b => return b
  | none => badArgument value option

/-- The units of sizes. -/
def sizeUnits : List (Char × Nat) :=
  [('b', 512), ('c', 1), ('w', 2), ('k', 1024), ('M', 1024 * 1024), ('G', 1024 * 1024 * 1024)]

def sizeCriterion (o : Octets) : Tool Criterion := do
  match o.reverse with
  | [] => giveUp (ascii "invalid null argument to -size")
  | last :: others =>
    match sizeUnits.lookup last with
    | some unit =>
      match bound? others.reverse with
      | some b => return .size b unit
      | none => giveUp (ascii "Invalid argument \x60" ++ o ++ ascii "' to -size")
    | none =>
      if last.isDigit then
        match bound? o with
        | some b => return .size b 512
        | none => giveUp (ascii "Invalid argument \x60" ++ o ++ ascii "b' to -size")
      else giveUp (ascii "invalid -size type \x60" ++ [last] ++ ['\''])

/-- The letters of kinds of files, with commas between them. -/
def kindCriterion (option : Octets) : Octets → List Char → Tool Criterion
  | [], [] => giveUp (ascii "Arguments to " ++ option ++ ascii " should contain at least one letter")
  | [], found => return .kind found
  | c :: rest, found => do
    if !(ascii "bcdpflsD").contains c then giveUp (ascii "Unknown argument to " ++ option ++ ascii ": " ++ [c])
    match rest with
    | [] => return .kind (c :: found)
    | [','] => giveUp (ascii "Last file type in list argument to " ++ option ++ ascii " is missing, i.e., list is ending on: ','")
    | ',' :: more => kindCriterion option more (c :: found)
    | _ => giveUp (ascii "Must separate multiple arguments to " ++ option ++ ascii " using: ','")

def rightsCriterion (o : Octets) : Tool Criterion := do
  let bad {α : Type} : Tool α := giveUp (ascii "invalid mode " ++ quoted o)
  let mode (o : Octets) : Tool Nat := do
    match ModeChange.read o with
    | some m => return m.apply false 0 0
    | none => bad
  match o with
  | '-' :: rest => return .rights (.all (← mode rest))
  | '/' :: rest => return .rights (.any (← mode rest))
  | o => return .rights (.exactly (← mode o))

/-- The time when a file was changed. -/
def referenceInfo (name : Octets) : Tool Info := do
  match ← ask (.inspect name true) with
  | .ok info => return info
  | .error fault => giveUp (shellWordAlways name ++ ascii ": " ++ reason fault)

/-- The command behind an option that runs one, up to its end, and what is left; with whether it runs for many files
at once. -/
def commandWords (option : Octets) : (isFirst : Bool) → List Octets → List Octets → Tool (List Octets × Bool × List Octets)
  | _, _, [] => giveUp (ascii "missing argument to \x60" ++ option ++ ['\''])
  | isFirst, found, w :: rest => do
    if w = [';'] then
      if isFirst then giveUp (ascii "invalid argument \x60;' to \x60" ++ option ++ ['\''])
      else return (found.reverse, false, rest)
    else if w = ['+'] && found.head? = some ['{', '}'] then
      if (found.drop 1).any (fun w => (Octets.find? ['{', '}'] 0 w).isSome) then
        giveUp (ascii "Only one instance of \x7b\x7d is supported with " ++ option ++ ascii " ... +")
      else return ((found.drop 1).reverse, true, rest)
    else commandWords option false (w :: found) rest

/-- The words of a query: the settings that were found, and the criteria with what joins them.  What tools need to
know of files that are named is asked at once. -/
def queryWords : (fuel : Nat) → Depths → List QueryWord → List Octets → Tool (Depths × List QueryWord)
  | 0, s, found, _ => return (s, found.reverse)
  | _ + 1, s, found, [] => return (s, found.reverse)
  | fuel + 1, s, found, w :: rest => do
    let one (c : Criterion) : Tool (Depths × List QueryWord) := queryWords fuel s (.criterion c :: found) rest
    let set (s : Depths) : Tool (Depths × List QueryWord) := queryWords fuel s found rest
    let word := String.ofList w
    let valued : List String :=
      ["-name", "-iname", "-path", "-ipath", "-wholename", "-iwholename", "-lname", "-ilname", "-regex", "-iregex", "-type", "-xtype", "-size",
        "-newer", "-anewer", "-cnewer", "-mtime", "-atime", "-ctime", "-mmin", "-amin", "-cmin", "-perm", "-links", "-inum", "-samefile", "-printf",
        "-maxdepth", "-mindepth", "-user", "-group", "-uid", "-gid", "-regextype", "-fstype"]
    match word with
    | "!" | "-not" => queryWords fuel s (.negation w :: found) rest
    | "-a" | "-and" => queryWords fuel s (.conjunction w :: found) rest
    | "-o" | "-or" => queryWords fuel s (.alternative w :: found) rest
    | "," => queryWords fuel s (.sequence :: found) rest
    | "(" => queryWords fuel s (.opening :: found) rest
    | ")" => queryWords fuel s (.closing :: found) rest
    | "-empty" => one .empty
    | "-true" => one (.constant true)
    | "-false" => one (.constant false)
    | "-print" => one (.print '\n')
    | "-print0" => one (.print '\x00')
    | "-ls" => one .list
    | "-prune" => one .prune
    | "-quit" => one .quit
    | "-readable" | "-writable" => one .allowed
    | "-executable" => one .runnable
    | "-nouser" | "-nogroup" => one (.owned false)
    | "-delete" => queryWords fuel { s with insideFirst := true } (.criterion .delete :: found) rest
    | "-depth" | "-d" => set { s with insideFirst := true }
    | "-follow" => set { s with follows := true }
    | "-daystart" => set { s with daystart := true }
    | "-mount" | "-xdev" | "-noleaf" | "-warn" | "-nowarn" | "-ignore_readdir_race" | "-noignore_readdir_race" => set s
    | "-exec" | "-execdir" | "-ok" | "-okdir" =>
      let (command, many, rest) ← commandWords w true [] rest
      let c : Criterion := if many then .runAll found.length command else .run command (word = "-execdir" || word = "-okdir")
      queryWords fuel s (.criterion c :: found) rest
    | _ =>
      if !valued.contains word then
        if w.head? = some '-' then giveUp (ascii "unknown predicate \x60" ++ w ++ ['\''])
        else
          complain (ascii "paths must precede expression: \x60" ++ w ++ ['\''])
          giveUp' w found
      else
        match rest with
        | [] => giveUp (ascii "missing argument to \x60" ++ w ++ ['\''])
        | value :: rest =>
          let one (c : Criterion) : Tool (Depths × List QueryWord) := queryWords fuel s (.criterion c :: found) rest
          let depth : Tool Nat := do
            match Octets.nat? value with
            | some n => return n
            | none => giveUp (ascii "Expected a positive decimal integer argument to " ++ w ++ ascii ", but got " ++ quoted value)
          match word with
          | "-name" | "-iname" => one (.name (rawPattern (if word = "-iname" then Octets.lower value else value)) (word = "-iname"))
          | "-path" | "-ipath" | "-wholename" | "-iwholename" =>
            let anyCase := w.contains 'i' && w.getD 1 'p' = 'i'
            one (.path (rawPattern (if anyCase then Octets.lower value else value)) anyCase)
          | "-lname" | "-ilname" => one (.target (rawPattern (if word = "-ilname" then Octets.lower value else value)) (word = "-ilname"))
          | "-regex" | "-iregex" =>
            match Regex.Finder.ofText { extended := s.extended, ignoresCase := word = "-iregex" } value with
            | .ok f => one (.regex f)
            | .error fault => giveUp (ascii "failed to compile regular expression " ++ shellWordAlways value ++ ascii ": " ++ ascii fault.message)
          | "-regextype" => queryWords fuel { s with extended := (Octets.find? (ascii "extended") 0 value).isSome || (Octets.find? (ascii "egrep") 0 value).isSome || (Octets.find? (ascii "awk") 0 value).isSome } found rest
          | "-type" | "-xtype" => one (← kindCriterion w value [])
          | "-size" => one (← sizeCriterion value)
          | "-newer" | "-anewer" | "-cnewer" => one (.newer (← referenceInfo value).modified)
          | "-mtime" | "-atime" | "-ctime" => one (.age (← boundOf w value) 86400)
          | "-mmin" | "-amin" | "-cmin" => one (.age (← boundOf w value) 60)
          | "-perm" => one (← rightsCriterion value)
          | "-links" => one (.names (← boundOf w value))
          | "-inum" => one (.node (← boundOf w value))
          | "-samefile" => one (.sameNode (← referenceInfo value).node)
          | "-printf" =>
            if value.getLast? = some '%' && (value.reverse.takeWhile (· = '%')).length % 2 = 1 then
              giveUp (ascii "error: % at end of format string")
            one (.format value)
          | "-maxdepth" => queryWords fuel { s with most := some (← depth) } found rest
          | "-mindepth" => queryWords fuel { s with least := ← depth } found rest
          | "-user" | "-group" =>
            if value = ascii "root" || value = ['0'] then one (.owned true)
            else if (Octets.nat? value).isSome then one (.owned false)
            else giveUp (quoted value ++ ascii (if word = "-user" then " is not the name of a known user" else " is not the name of an existing group"))
          | "-uid" | "-gid" => one (.owned (((bound? value).map (Bound.admits · 0)).getD false))
          | _ => one (.constant true)
where
  /-- Ends, behind a hint where the word is the name of a file. -/
  giveUp' (w : Octets) (found : List QueryWord) : Tool (Depths × List QueryWord) := do
    if (← ask (.inspect w true)).toOption.isSome && !found.isEmpty then
      complain (ascii "possible unquoted pattern after predicate \x60" ++ (← lastPredicate found) ++ ascii "'?")
    finish 1
  lastPredicate (found : List QueryWord) : Tool Octets := do
    match found.head? with
    | some (.criterion (.name ..)) => return ascii "-name"
    | some (.criterion (.path ..)) => return ascii "-path"
    | some (.criterion (.kind _)) => return ascii "-type"
    | some (.criterion .quit) => return ascii "-quit"
    | some (.criterion .delete) => return ascii "-delete"
    | some (.criterion (.print '\n')) => return ascii "-print"
    | _ => return ascii "-name"

/-- Does a criterion do something that stands for the printing of names? -/
def Criterion.acts : Criterion → Bool
  | .print _ | .format _ | .list | .run .. | .runAll .. | .delete => true
  | _ => false

/-- How strongly a word joins. -/
inductive Binding where
  | sequence
  | alternative
  | conjunction
  deriving DecidableEq

mutual

/-- A query that is joined at least this strongly. -/
def readQuery (fuel : Nat) (level : Binding) (words : List QueryWord) : Except String (Query × List QueryWord) :=
  match fuel with
  | 0 => .error "arguments are too deep"
  | fuel + 1 => do
    let (q, rest) ← match level with
      | .sequence => readQuery fuel .alternative words
      | .alternative => readQuery fuel .conjunction words
      | .conjunction => readTerm fuel words
    joinedQuery fuel level q rest
termination_by (fuel, 1)

/-- What is joined to a query. -/
def joinedQuery (fuel : Nat) (level : Binding) (q : Query) (words : List QueryWord) : Except String (Query × List QueryWord) :=
  match fuel with
  | 0 => .ok (q, words)
  | fuel + 1 =>
    let behind (given : Octets) (rest : List QueryWord) : Except String Unit :=
      if rest.isEmpty then .error ("expected an expression after '" ++ String.ofList given ++ "'") else .ok ()
    match level, words with
    | .sequence, .sequence :: rest => do
      behind [','] rest
      let (p, rest) ← readQuery fuel .alternative rest
      joinedQuery fuel level (.both q p) rest
    | .alternative, .alternative given :: rest => do
      behind given rest
      let (p, rest) ← readQuery fuel .conjunction rest
      joinedQuery fuel level (.or q p) rest
    | .conjunction, .conjunction given :: rest => do
      behind given rest
      let (p, rest) ← readTerm fuel rest
      joinedQuery fuel level (.and q p) rest
    | .conjunction, w :: rest =>
      match w with
      | .criterion _ | .negation _ | .opening => do
        let (p, rest) ← readTerm fuel (w :: rest)
        joinedQuery fuel level (.and q p) rest
      | _ => .ok (q, w :: rest)
    | _, words => .ok (q, words)
termination_by (fuel, 0)

/-- One criterion, or a query between parentheses. -/
def readTerm (fuel : Nat) (words : List QueryWord) : Except String (Query × List QueryWord) :=
  match fuel with
  | 0 => .error "arguments are too deep"
  | fuel + 1 =>
    let nothingBefore (given : Octets) : String :=
      "invalid expression; you have used a binary operator '" ++ String.ofList given ++ "' with nothing before it."
    match words with
    | [] => .error "invalid expression"
    | .criterion c :: rest => .ok (.one c, rest)
    | [.negation given] => .error ("expected an expression after '" ++ String.ofList given ++ "'")
    | .negation _ :: rest => do
      let (q, rest) ← readTerm fuel rest
      .ok (.not q, rest)
    | .conjunction given :: _ | .alternative given :: _ => .error (nothingBefore given)
    | .sequence :: _ => .error (nothingBefore [','])
    | .closing :: _ => .error "invalid expression; you have too many ')'"
    | .opening :: .closing :: _ => .error "invalid expression; empty parentheses are not allowed."
    | [.opening] => .error "invalid expression; expected to find a ')' but didn't see one. Perhaps you need an extra predicate after '('"
    | .opening :: rest => do
      match ← readQuery fuel .sequence rest with
      | (q, .closing :: rest) => .ok (q, rest)
      | _ => .error "invalid expression; I was expecting to find a ')' somewhere but did not see one."
termination_by (fuel, 0)

end

/-- The query that words make.  Names are printed when nothing else is done with files. -/
def Query.ofWords (words : List QueryWord) : Except String Query := do
  let printing : Query := .one (.print '\n')
  if words.isEmpty then return printing
  let (q, rest) ← readQuery (4 * words.length + 8) .sequence words
  match rest with
  | [] => pure ()
  | .closing :: _ => throw "you have too many ')'"
  | _ => throw "invalid expression"
  let acts := words.any fun w => match w with
    | .criterion c => c.acts
    | _ => false
  return if acts then q else .and q printing

/-! ### Answering -/

/-- A file that a query is put to. -/
structure Candidate where
  path : Octets
  /-- The starting point that led to it. -/
  start : Octets
  depth : Nat
  info : Info

/-- What a search has done. -/
structure Searching where
  /-- Is the directory at hand left out? -/
  pruned : Bool := false
  stopped : Bool := false
  /-- The files gathered for commands, the latest first. -/
  gathered : List (Nat × List Octets × List Octets) := []

def lettersOfKind (info : Info) : Char := match info.kind with
  | .file => 'f'
  | .directory => 'd'
  | .link => 'l'
  | .fifo => 'p'
  | .device => 'c'

/-- The file that is behind a link, where links are followed. -/
def inspected (follows : Bool) (path : Octets) : Tool (Except Fault Info) := do
  let own ← ask (.inspect path false)
  match own with
  | .ok info =>
    if follows && info.kind = .link then
      match ← ask (.inspect path true) with
      | .ok behind => return .ok behind
      | .error _ => return own
    else return own
  | .error _ => return own

/-- The path below its starting point. -/
def belowStart (c : Candidate) : Octets := (c.path.drop c.start.length).dropWhile (· = '/')

/-- The directory part of a path. -/
def directoryPart (path : Octets) : Octets :=
  let trimmed := Octets.dropEnd (· == '/') path
  if trimmed.contains '/' then (trimmed.reverse.dropWhile (· ≠ '/')).reverse.dropLast else ['.']

/-- What a letter behind a percent sign stands for. -/
def candidateField (c : Candidate) (target : Option Octets) (letter : Char) : Option Octets :=
  let field (x : Char) : Option Octets := some (statField c.path c.info none x)
  match letter with
  | 'p' => some c.path
  | 'f' => some (lastPart c.path)
  | 'h' => some (directoryPart c.path)
  | 'P' => some (belowStart c)
  | 'H' => some c.start
  | 'd' => some (Octets.ofNat c.depth)
  | 's' => field 's'
  | 'm' => field 'a'
  | 'M' => field 'A'
  | 'n' => field 'h'
  | 'i' => field 'i'
  | 'l' => some (target.getD [])
  | 'y' | 'Y' => some [lettersOfKind c.info]
  | 'u' | 'g' => some (ascii "root")
  | 'U' | 'G' => some ['0']
  | 'b' => field 'b'
  | 'k' => some (Octets.ofNat ((c.info.size + 4095) / 4096 * 4))
  | 't' | 'a' | 'c' =>
    some (write (Moment.ofSeconds (c.info.modified / 1000000 : Nat)) (c.info.modified % 1000000) (ascii "%a %b %e %H:%M:%S.%N0 %Y"))
  | 'F' => some (ascii "overlay")
  | 'D' => some (ascii "65024")
  | 'S' => some ['1']
  | _ => none

/-- A format with its fields put in. -/
def candidateText (c : Candidate) (target : Option Octets) : (fuel : Nat) → Octets → Octets
  | 0, _ => []
  | _ + 1, [] => []
  | fuel + 1, '%' :: rest =>
    let (t, behind) := Format.Template.read rest
    match behind with
    | [] => ['%']
    | '%' :: more => '%' :: candidateText c target fuel more
    | x :: more =>
      let d := t.directive none none x
      let timed := (ascii "TACB").contains x
      match (if timed then more else []) with
      | letter :: more' =>
        let moment := Moment.ofSeconds (c.info.modified / 1000000 : Nat)
        let part := c.info.modified % 1000000
        let fraction := '.' :: Octets.padLeftWith '0' 9 (Octets.ofNat (part * 1000)) ++ ['0']
        let shown := match letter with
          | '@' => Octets.ofInt moment.seconds ++ fraction
          | '+' => write moment part (ascii "%Y-%m-%d+%H:%M:%S") ++ fraction
          | 'S' => write moment part (ascii "%S") ++ fraction
          | 'T' => write moment part (ascii "%H:%M:%S") ++ fraction
          | other => write moment part ['%', other]
        d.fill shown ++ candidateText c target fuel more'
      | [] =>
        match candidateField c target x with
        | some own =>
          let own := match d.precision with
            | some n => own.take n
            | none => own
          let numeric := (ascii "dsmniUGbk").contains x
          (if d.has '0' && !d.has '-' && numeric then Octets.padLeftWith '0' d.width own else d.fill own) ++
            candidateText c target fuel more
        | none => '%' :: x :: candidateText c target fuel more
  | fuel + 1, '\\' :: 'c' :: _ => if fuel = 0 then [] else []
  | fuel + 1, '\\' :: rest =>
    match ({ stops := false } : Format.Escapes).one rest with
    | some (o, more) => o ++ candidateText c target fuel more
    | none => []
  | fuel + 1, x :: rest => x :: candidateText c target fuel rest

/-- A command with the path in each of its places. -/
def commandFor (path : Octets) (command : List Octets) : List Octets :=
  command.map fun w => putInto ['{', '}'] path (w.length + 1) w

/-- Runs a command, in a directory of its own if there is one, and gives its ending. -/
def runCommand (inside : Option Octets) (command : List Octets) : Tool Ending := do
  match command with
  | [] => return .status 0
  | name :: arguments =>
    flush
    let c ← get
    let body : Work Nat := do
      match inside with
      | some directory => let _ ← Work.ask (.enter directory)
      | none => pure ()
      let fault ← Work.executeByName c.environment name arguments
      Work.put 2 (c.name ++ ascii ": " ++ quoted name ++ ascii ": " ++ reason fault ++ ['\n'])
      return 1
    let child ← (Work.fork body : Work Nat)
    match ← ask (.wait (some child) true false) with
    | .ended _ ending => return ending
    | _ => return .status 1

/-- Adds a path to those gathered for a command. -/
def gatherPath (id : Nat) (command : List Octets) (path : Octets) :
    List (Nat × List Octets × List Octets) → List (Nat × List Octets × List Octets)
  | [] => [(id, command, [path])]
  | (n, c, paths) :: rest => if n = id then (n, c, path :: paths) :: rest else (n, c, paths) :: gatherPath id command path rest

/-- Answers one question, or does one thing. -/
def Criterion.holds (s : Depths) (c : Candidate) (state : Searching) (q : Criterion) : Tool (Bool × Searching) := do
  let answer (truth : Bool) : Tool (Bool × Searching) := return (truth, state)
  let cased (anyCase : Bool) (o : Octets) : Octets := if anyCase then Octets.lower o else o
  match q with
  | .name p anyCase => answer (p.matches (cased anyCase (lastPart c.path)))
  | .path p anyCase => answer (p.matches (cased anyCase c.path))
  | .target p anyCase =>
    match ← ask (.target c.path) with
    | .ok pointed => answer (c.info.kind = .link && p.matches (cased anyCase pointed))
    | .error _ => answer false
  | .regex f =>
    let text := c.path.toArray
    answer ((f.fit? true { text } 0).any fun g => g.span? 0 = some (0, text.size))
  | .kind letters => answer (letters.contains (lettersOfKind c.info))
  | .size b unit => answer (b.admits ((c.info.size + unit - 1) / unit))
  | .empty =>
    match c.info.kind with
    | .file => answer (c.info.size = 0)
    | .directory => answer (((← ask (.list c.path)).toOption.map List.isEmpty).getD false)
    | _ => answer false
  | .newer time => answer (c.info.modified > time)
  | .age b unit =>
    let now ← ask .now
    let seconds := (now - c.info.modified) / 1000000
    let n := seconds / unit
    answer (match b.how with
      | .less => n < b.number
      | _ => b.admits n)
  | .rights r =>
    answer (match r with
      | .exactly m => c.info.mode = m
      | .all m => c.info.mode &&& m = m
      | .any m => m = 0 || c.info.mode &&& m ≠ 0)
  | .names b => answer (b.admits c.info.names)
  | .node b => answer (b.admits (c.info.node + 1000))
  | .sameNode n => answer (c.info.node = n)
  | .allowed => answer true
  | .runnable => answer (c.info.kind = .directory || c.info.mode &&& 0o111 ≠ 0)
  | .owned yes => answer yes
  | .constant truth => answer truth
  | .print ender => do
    say (c.path ++ [ender])
    answer true
  | .format f =>
    let pointed ← (if c.info.kind = .link then do return (← ask (.target c.path)).toOption else pure none : Tool (Option Octets))
    say (candidateText c pointed (f.length + 1) f)
    answer true
  | .list =>
    let field (x : Char) : Octets := statField c.path c.info none x
    let time := write (Moment.ofSeconds (c.info.modified / 1000000 : Nat)) 0 (ascii "%b %e %H:%M")
    let pointed ← (if c.info.kind = .link then do return (← ask (.target c.path)).toOption else pure none : Tool (Option Octets))
    say (Octets.padLeft 9 (field 'i') ++ [' '] ++ Octets.padLeft 6 (Octets.ofNat ((c.info.size + 4095) / 4096 * 4)) ++ [' '] ++
      field 'A' ++ [' '] ++ Octets.padLeft 3 (field 'h') ++ ascii " root     root     " ++ Octets.padLeft 8 (field 's') ++ [' '] ++
      time ++ [' '] ++ c.path ++ (match pointed with
        | some t => ascii " -> " ++ t
        | none => []) ++ ['\n'])
    answer true
  | .run command inside =>
    let path := if inside then ascii "./" ++ lastPart c.path else c.path
    let ending ← runCommand (if inside then some (directoryPart c.path) else none) (commandFor path command)
    answer ending.isSuccess
  | .runAll id command => return (true, { state with gathered := gatherPath id command c.path state.gathered })
  | .delete =>
    if c.path = ['.'] then answer true
    else
      let removed ← (if c.info.kind = .directory && !s.follows then ask (.removeDirectory c.path) else ask (.remove c.path) :
        Tool (Except Fault Unit))
      match removed with
      | .ok _ => answer true
      | .error fault =>
        failing (ascii "cannot delete " ++ shellWordAlways c.path ++ ascii ": " ++ reason fault)
        answer false
  | .prune => return (true, { state with pruned := true })
  | .quit => return (true, { state with stopped := true })

/-- The answer to a query.  Nothing more is asked once the search is to stop. -/
def Query.holds (s : Depths) (c : Candidate) (state : Searching) : Query → Tool (Bool × Searching)
  | .one q => if state.stopped then return (false, state) else q.holds s c state
  | .not q => do
    let (truth, state) ← q.holds s c state
    return (!truth, state)
  | .and p q => do
    let (truth, state) ← p.holds s c state
    if truth then q.holds s c state else return (false, state)
  | .or p q => do
    let (truth, state) ← p.holds s c state
    if truth then return (true, state) else q.holds s c state
  | .both p q => do
    let (_, state) ← p.holds s c state
    q.holds s c state

/-! ### Searching -/

/-- Searches a file and what is below it. -/
def search (s : Depths) (q : Query) (start : Octets) : (fuel : Nat) → (depth : Nat) → Searching → Octets → Tool Searching
  | 0, _, state, _ => return state
  | fuel + 1, depth, state, path => do
    if state.stopped then return state
    match ← inspected s.follows path with
    | .error fault =>
      failing (shellWordAlways path ++ ascii ": " ++ reason fault)
      return state
    | .ok info =>
      let c : Candidate := { path, start, depth, info }
      let put (state : Searching) : Tool Searching := do
        if depth < s.least then return state
        let (_, state) ← q.holds s c { state with pruned := false }
        return state
      let state ← if s.insideFirst then pure { state with pruned := false } else put { state with pruned := false }
      let state ← (if info.kind = .directory && !(state.pruned && !s.insideFirst) && !state.stopped && s.most.all (depth < ·) then do
          match ← ask (.list path) with
          | .ok names =>
            let head := if path.getLast? = some '/' then path else path ++ ['/']
            names.foldlM (fun state name => search s q start fuel (depth + 1) state (head ++ name)) state
          | .error fault => do
            failing (shellWordAlways path ++ ascii ": " ++ reason fault)
            return state
        else pure state : Tool Searching)
      if s.insideFirst && !state.stopped then put state else return state

/-- Leading options, and the rest. -/
def leadingOptions : Depths → List Octets → Depths × List Octets
  | s, [] => (s, [])
  | s, w :: rest =>
    if w = ['-', 'L'] then leadingOptions { s with follows := true } rest
    else if w = ['-', 'P'] || w = ['-', 'H'] then leadingOptions { s with follows := false } rest
    else if w = ['-', '-'] then (s, rest)
    else if ['-', 'O'].isPrefixOf w && w.length > 2 then leadingOptions s rest
    else (s, w :: rest)

/-- Does a word belong to the query, where starting points stand? -/
def beginsQuery (isFirst : Bool) (w : Octets) : Bool :=
  match w with
  | '-' :: _ :: _ => true
  | [c] => c = '(' || c = '!' || (!isFirst && (c = ')' || c = ','))
  | _ => false

def startingPoints : (isFirst : Bool) → List Octets → List Octets × List Octets
  | _, [] => ([], [])
  | isFirst, w :: rest =>
    if beginsQuery isFirst w then ([], w :: rest)
    else
      let (points, query) := startingPoints false rest
      (w :: points, query)

def findTool (args : List Octets) : Tool Unit := do
  let (settings, args) := leadingOptions {} args
  let (points, words) := startingPoints true args
  let (settings, words) ← queryWords (words.length + 1) settings [] words
  let q ← (match Query.ofWords words with
    | .ok q => pure q
    | .error message => giveUp (ascii message) : Tool Query)
  let mut state : Searching := {}
  for start in (if points.isEmpty then [['.']] else points) do
    state ← search settings q start 4096 0 state start
  for (_, command, paths) in state.gathered do
    let ending ← runCommand none (command ++ paths.reverse)
    if !ending.isSuccess then setStatus 1

end GrammarStudio.Tools
