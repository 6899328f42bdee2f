import GrammarStudio.LineScript.Reader
import GrammarStudio.Tools.Launching
import GrammarStudio.Tools.Moving

/-!
# Working through lines

* `Editing` — what is held while a script works through its input;
* `Editing.selects` — is a command for the line at hand?
* `Substitution.apply` — a line with its matches replaced;
* `cycle`, `workThrough` — the commands for one line, and for all of them.
-/

namespace GrammarStudio.LineScript

open Machine Files Tools Regex

/-! ### State -/

/-- Where a command that is for a range of lines stands. -/
inductive RangeState where
  | outside
  | inside (until_ : Nat)
  deriving DecidableEq

/-- What is written behind a line. -/
inductive Queued where
  | text (o : Octets)
  | file (name : Octets)

/-- A line of the input, with where it comes from. -/
structure InputLine where
  text : Octets
  ended : Bool
  name : Octets
  /-- Which of the inputs it is in. -/
  input : Nat

structure Manner where
  quiet : Bool := false
  separate : Bool := false
  /-- Files are changed; the word behind the names of those that are kept as they were. -/
  inPlace : Option Octets := none
  separator : Char := '\n'
  lineLength : Nat := 70

structure Editing where
  settings : Manner
  commands : Array Command
  pattern : Octets := []
  hold : Octets := []
  /-- Did the line that is kept end as lines do? -/
  holdEnded : Bool := true
  number : Nat := 0
  /-- Has anything been replaced since the last line was read? -/
  changed : Bool := false
  /-- Did the line end as lines do? -/
  ended : Bool := true
  name : Octets := ['-']
  input : Nat := 0
  ranges : Array RangeState
  /-- The latest first. -/
  queue : List Queued := []
  lastSought : Option Finder := none
  /-- The inputs that are still to be read. -/
  inputs : List Octets := []
  opened : Nat := 0
  source : Option (Octets × Sequel) := none
  ahead : Option InputLine := none
  /-- The output lacks the end of its last line. -/
  lacksEnd : Bool := false
  /-- What is to become of the file that is changed. -/
  written : List Octets := []
  /-- The files that are written, with whether the end of a line is lacking. -/
  outputs : List (Octets × Nat × Bool) := []
  readers : List (Octets × Sequel) := []
  status : Nat := 0

abbrev Edit := StateT Editing Tool

/-- What comes of the commands for a line. -/
inductive Outcome where
  | done
  | deleted
  /-- Begins again with what is left. -/
  | again
  | quit (status : Nat)
  | noMore

/-! ### Output -/

def emit (o : Octets) : Edit Unit := do
  let s ← get
  if s.settings.inPlace.isSome then set { s with written := o :: s.written } else say o

/-- Writes the end that the last line lacks. -/
def endLine : Edit Unit := do
  let s ← get
  if s.lacksEnd then
    emit [s.settings.separator]
    modify fun s => { s with lacksEnd := false }

/-- Writes a line of the input, which ends as it did there. -/
def printLine (o : Octets) : Edit Unit := do
  endLine
  let s ← get
  if s.ended then emit (o ++ [s.settings.separator])
  else
    emit o
    modify fun s => { s with lacksEnd := true }

/-- Writes a text as it is. -/
def printText (o : Octets) : Edit Unit := do
  endLine
  emit o

/-- Writes a line to a file. -/
def writeTo (name o : Octets) : Edit Unit := do
  let s ← get
  match s.outputs.lookup name with
  | none => return
  | some (d, lacks) =>
    let text := (if lacks then [s.settings.separator] else []) ++ o ++ (if s.ended then [s.settings.separator] else [])
    if d = 1 then say text else (Work.put d text : Work Unit)
    set { s with outputs := s.outputs.map fun (x : Octets × Nat × Bool) => if x.1 = name then (name, d, !s.ended) else x }

/-- Writes what was put off. -/
def flushQueue : Edit Unit := do
  let queue := (← get).queue.reverse
  modify fun s => { s with queue := [] }
  for q in queue do
    match q with
    | .text o => printText o
    | .file name =>
      let found ← (if name = ascii "/dev/stdin" then content 0 else (Work.slurp name : Work (Except Files.Fault Octets)) :
        Tool (Except Files.Fault Octets))
      match found with
      | .ok o => if !o.isEmpty then printText o
      | .error _ => pure ()

/-- Ends with a fault in the script. -/
def stopWith {α : Type} (message : Octets) : Edit α := do
  flush
  (giveUp message : Tool α)

/-! ### Input -/

/-- Writes back a file that is changed. -/
def closeFile : Edit Unit := do
  let s ← get
  match s.settings.inPlace, s.source with
  | some suffix, some (name, _) =>
    if name ≠ ['-'] then
      if !suffix.isEmpty then
        let kept := if suffix.contains '*' then suffix.flatMap fun c => if c = '*' then lastPart name else [c] else name ++ suffix
        let mode := ((← ask (.inspect name true)).toOption.map Info.mode).getD 0o644
        let _ ← ask (.rename name kept)
        match ← ask (.openFile name { writes := true, creates := true, truncates := true } mode) with
        | .ok d =>
          (Work.put d s.written.reverse.flatten : Work Unit)
          (Work.close d : Work Unit)
        | .error _ => pure ()
      else
        match ← (Work.openToWrite name : Work (Except Files.Fault Nat)) with
        | .ok d =>
          (Work.put d s.written.reverse.flatten : Work Unit)
          (Work.close d : Work Unit)
        | .error _ => pure ()
    modify fun s => { s with written := [], lacksEnd := false }
  | _, _ => pure ()

/-- Looks for the next line, in the input at hand and those behind it.  Where each file is worked through by itself, a
line of another file is only looked for when the one at hand is done with. -/
def lookAhead : (fuel : Nat) → (crosses : Bool) → Edit Unit
  | 0, _ => return
  | fuel + 1, crosses => do
    let s ← get
    if s.ahead.isSome then return
    match s.source with
    | some (name, source) =>
      let (line, fault, source) ← (source.next s.settings.separator : Tool (Option Octets × Option Files.Fault × Sequel))
      match line with
      | some o =>
        let ended := o.getLast? = some s.settings.separator
        let line : InputLine := { text := if ended then o.dropLast else o, ended, name, input := s.opened }
        set { s with source := some (name, source), ahead := some line }
      | none =>
        match fault with
        | some fault =>
          (complain (ascii "read error on " ++ name ++ ascii ": " ++ reason fault) : Tool Unit)
          (finish 4 : Tool Unit)
        | none =>
          if s.settings.separate && !crosses then set { s with source := some (name, source) }
          else
            closeFile
            if source.descriptor ≠ 0 then (Work.close source.descriptor : Work Unit)
            modify fun s => { s with source := none }
            lookAhead fuel crosses
    | none =>
      match s.inputs with
      | [] => return
      | name :: rest =>
        set { s with inputs := rest, opened := s.opened + 1 }
        match ← (openSource name : Tool (Except Files.Fault Sequel)) with
        | .ok source =>
          let known ← ask (.inspect name true)
          if s.settings.inPlace.isSome && (known.toOption.any (·.kind ≠ .file) || name = ['-']) then
            (complain (ascii "couldn't edit " ++ name ++ ascii ": not a regular file") : Tool Unit)
            modify fun s => { s with status := 4 }
          else modify fun s => { s with source := some (name, source) }
        | .error fault =>
          (complain (ascii "can't read " ++ name ++ ascii ": " ++ reason fault) : Tool Unit)
          modify fun s => { s with status := 2 }
        lookAhead fuel crosses

def isLast : Edit Bool := do
  lookAhead endless false
  return (← get).ahead.isNone

/-- Takes the next line, if there is one. -/
def nextLine : Edit (Option InputLine) := do
  flushQueue
  lookAhead endless true
  let s ← get
  match s.ahead with
  | none => return none
  | some line =>
    let isNew := line.input ≠ s.input && s.settings.separate
    if isNew then endLine
    modify fun s => { s with
      ahead := none
      number := if isNew then 1 else s.number + 1
      ranges := if isNew then s.ranges.map fun _ => .outside else s.ranges
      ended := line.ended
      name := line.name
      input := line.input
      changed := false }
    return some line

/-! ### Selecting -/

/-- The finder of an expression, which becomes the one that was looked for last. -/
def finder (r : Sought) : Edit Finder := do
  match r with
  | some f =>
    modify fun s => { s with lastSought := some f }
    return f
  | none =>
    match (← get).lastSought with
    | some f => return f
    | none => stopWith (ascii "-e expression #1, char 0: no previous regular expression")

def fits (r : Sought) : Edit Bool := do
  let f ← finder r
  return f.isIn (← get).pattern

def addressFits (a : Address) : Edit Bool := do
  let n := (← get).number
  match a with
  | .number m => return n = m
  | .last => isLast
  | .matching r => fits r
  | .every first step => return n ≥ first && (n - first) % step = 0

def setRange (at_ : Nat) (r : RangeState) : Edit Unit := modify fun s => { s with ranges := s.ranges.setIfInBounds at_ r }

/-- Is the line in the range of a command, without its negation? -/
def inRange (at_ : Nat) (s : Selector) : Edit Bool := do
  match s.first, s.second with
  | none, _ => return true
  | some a, none => addressFits a
  | some a, some u =>
    let n := (← get).number
    let begins : Edit Bool := do
      match u with
      | .number m =>
        if m > n then setRange at_ (.inside m)
        return true
      | .further m =>
        if m > 0 then setRange at_ (.inside (n + m))
        return true
      | .multiple m =>
        if m > 0 then setRange at_ (.inside ((n / m + 1) * m))
        return true
      | .last | .matching _ =>
        setRange at_ (.inside 0)
        return true
    let state := (← get).ranges.getD at_ .outside
    match state with
    | .outside => if ← addressFits a then begins else return false
    | .inside m =>
      match u with
      | .last =>
        if ← isLast then setRange at_ .outside
        return true
      | .matching r =>
        if ← fits r then setRange at_ .outside
        return true
      | _ =>
        if n ≥ m then setRange at_ .outside
        if n > m then
          match a with
          | .number _ => return false
          | _ => if ← addressFits a then begins else return false
        else return true

def selects (at_ : Nat) (s : Selector) : Edit Bool := do
  let inside ← inRange at_ s
  return inside != s.negated

/-! ### Substitution -/

def cased (k : Casing) (o : Octets) : Octets :=
  match k with
  | .asIs => o
  | .upper => Octets.upper o
  | .lower => Octets.lower o

/-- A text with its letters changed, and the first letter by itself. -/
def casedWith (whole first : Casing) (o : Octets) : Octets :=
  match o with
  | [] => []
  | c :: rest => cased (if first = .asIs then whole else first) [c] ++ cased whole rest

/-- What is put in for a match.  A change of the first letter goes on to the next part when the part is empty. -/
def pieced (text : Array Char) (groups : Groups) : (carried : Casing) → List Piece → Octets
  | _, [] => []
  | carried, p :: rest =>
    let first := if p.first = .asIs then carried else p.first
    let own := casedWith p.casing first p.text
    let left : Casing := if p.text.isEmpty then first else .asIs
    match p.group with
    | none => own ++ pieced text groups .asIs rest
    | some n =>
      let part := match groups.span? n with
        | some (a, b) => (text.extract a b).toList
        | none => []
      if part.isEmpty then own ++ pieced text groups (if p.first = .asIs then .asIs else left) rest
      else own ++ casedWith p.casing left part ++ pieced text groups .asIs rest

/-- A line with its matches replaced, if there are any.  `done` is the new line, the latest part first; `count` is how
many matches there were. -/
def replaceOn (s : Substitution) (f : Finder) (text : Array Char) :
    (fuel : Nat) → (from_ : Nat) → (ended : Option Nat) → (count : Nat) → (found : Bool) → List Octets → Option Octets
  | 0, _, _, _, found, done => if found then some done.reverse.flatten else none
  | fuel + 1, from_, ended, count, found, done =>
    let part (a b : Nat) : Octets := (text.extract a b).toList
    let finish : Option Octets := if found then some (part from_ text.size :: done).reverse.flatten else none
    match (f.search? true { text } from_).bind fun g => (g.span? 0).map (g, ·) with
    | none => finish
    | some (groups, a, b) =>
      if a = b && ended = some a then
        -- nothing, right behind a match
        if a < text.size then replaceOn s f text fuel (a + 1) none count found (part from_ (a + 1) :: done) else finish
      else
        let count := count + 1
        let before := part from_ a :: done
        let (own, replaced) : Octets × Bool := if count < s.number then (part a b, false) else (pieced text groups .asIs s.pieces, true)
        let done := own :: before
        let found := found || replaced
        if replaced && !s.global then some (part b text.size :: done).reverse.flatten
        else if a = b then
          if b < text.size then replaceOn s f text fuel (b + 1) none count found (part b (b + 1) :: done)
          else if found then some done.reverse.flatten else none
        else replaceOn s f text fuel b (some b) count found done

def Substitution.apply (s : Substitution) (f : Finder) (line : Octets) : Option Octets :=
  let text := line.toArray
  replaceOn s f text (text.size + 2) 0 none 0 false []

/-! ### Commands -/

/-- What a command of the shell writes. -/
def outputOf (command : Octets) : Tool Octets := do
  flush
  let environment := (← get).environment
  let (source, sink) ← ask .makePipe
  let body : Work Nat := do
    Work.close source
    let _ ← Work.ask (.replace sink 1)
    Work.close sink
    let fault ← Work.execute environment (ascii "/bin/sh") (ascii "sh") [ascii "-c", command]
    return launchStatus fault
  let child ← (Work.fork body : Work Nat)
  (Work.close sink : Work Unit)
  let output ← content source
  (Work.close source : Work Unit)
  let _ ← ask (.wait (some child) true false)
  return output.toOption.getD []

/-- A line as it is listed: with escapes, and folded. -/
def listed (length : Nat) (o : Octets) : Octets :=
  let shown (c : Char) : Octets :=
    if c = '\\' then ['\\', '\\'] else if Octets.isPrint c then [c] else escaped c
  let (out, _) := o.foldl (fun (out, width) c =>
    let own := shown c
    if length > 0 && width + own.length > length - 1 then (own.reverse ++ '\n' :: '\\' :: out, own.length)
    else (own.reverse ++ out, width + own.length)) (([] : Octets), 0)
  out.reverse ++ ['$', '\n']

/-- The first line of a text. -/
def firstLine (separator : Char) (o : Octets) : Octets := o.takeWhile (· ≠ separator)

/-- One more line of a file that is read line by line. -/
def lineOf (name : Octets) : Edit (Option Octets) := do
  let s ← get
  let source ← (match s.readers.lookup name with
    | some source => pure (some source)
    | none => do return (← openSource (if name = ascii "/dev/stdin" then ['-'] else name)).toOption : Tool (Option Sequel))
  match source with
  | none => return none
  | some source =>
    let (line, _, source) ← (source.next s.settings.separator : Tool (Option Octets × Option Files.Fault × Sequel))
    modify fun s => { s with readers := (name, source) :: s.readers.filter (·.1 ≠ name) }
    return line

/-- Does what a command says.  Gives the place of the next command, or what comes of the line. -/
def act (at_ : Nat) (c : Command) : Edit (Nat ⊕ Outcome) := do
  let go : Edit (Nat ⊕ Outcome) := return .inl (at_ + 1)
  let jump (target : Option Nat) : Edit (Nat ⊕ Outcome) := do
    match target with
    | some n => return .inl n
    | none => return .inr .done
  let s ← get
  match c.action with
  | .block _ | .blockEnd | .nothing => go
  | .append o =>
    modify fun s => { s with queue := .text o :: s.queue }
    go
  | .insert o =>
    printText o
    go
  | .change o =>
    if c.selector.second.isNone || (s.ranges.getD at_ .outside) = .outside then printText o
    return .inr .deleted
  | .jump target => jump target
  | .jumpIfChanged target =>
    if s.changed then
      modify fun s => { s with changed := false }
      jump target
    else go
  | .jumpUnlessChanged target =>
    if s.changed then
      modify fun s => { s with changed := false }
      go
    else jump target
  | .delete => return .inr .deleted
  | .deleteFirst =>
    if s.pattern.contains s.settings.separator then
      set { s with pattern := (s.pattern.dropWhile (· ≠ s.settings.separator)).drop 1 }
      return .inr .again
    else return .inr .deleted
  | .run command =>
    if command.isEmpty then
      let o ← (outputOf s.pattern : Tool Octets)
      modify fun s => { s with pattern := if o.getLast? = some s.settings.separator then o.dropLast else o }
    else
      let o ← (outputOf command : Tool Octets)
      if !o.isEmpty then printText o
    go
  | .fileName =>
    printText (s.name ++ ['\n'])
    go
  | .get adds =>
    set { s with pattern := if adds then s.pattern ++ s.settings.separator :: s.hold else s.hold, ended := s.holdEnded }
    go
  | .hold adds =>
    set { s with hold := if adds then s.hold ++ s.settings.separator :: s.pattern else s.pattern, holdEnded := s.ended }
    go
  | .exchange =>
    set { s with pattern := s.hold, hold := s.pattern, ended := s.holdEnded, holdEnded := s.ended }
    go
  | .list width =>
    printText (listed (width.getD s.settings.lineLength) s.pattern)
    go
  | .next adds =>
    if ← isLast then
      if s.settings.separate then
        -- the end of one file is not that of all
        lookAhead endless true
        if (← get).ahead.isNone then return .inr .noMore
      else return .inr .noMore
    if adds then
      let before := s.pattern
      match ← nextLine with
      | some line =>
        modify fun t => { t with pattern := before ++ t.settings.separator :: line.text, changed := s.changed }
        go
      | none => return .inr .noMore
    else
      if !s.settings.quiet then printLine s.pattern
      match ← nextLine with
      | some line =>
        modify fun t => { t with pattern := line.text, changed := s.changed }
        go
      | none => return .inr .noMore
  | .print =>
    printLine s.pattern
    go
  | .printFirst =>
    let first := firstLine s.settings.separator s.pattern
    if first.length < s.pattern.length then printText (first ++ [s.settings.separator]) else printLine first
    go
  | .quit prints status =>
    if prints then
      if !s.settings.quiet then printLine s.pattern
      endLine
      flushQueue
    return .inr (.quit status)
  | .readFile name =>
    modify fun s => { s with queue := .file name :: s.queue }
    go
  | .readLine name =>
    match ← lineOf name with
    | some o => modify fun s => { s with queue := .text o :: s.queue }
    | none => pure ()
    go
  | .substitute u =>
    let f ← finder u.sought
    if u.greatest > f.groups then
      stopWith (ascii "-e expression #1, char 0: invalid reference \\" ++ Octets.ofNat u.greatest ++ ascii " on \x60s' command's RHS")
    match u.apply f s.pattern with
    | none => go
    | some o =>
      modify fun s => { s with pattern := o, changed := true }
      if u.runs then
        let o ← (outputOf o : Tool Octets)
        modify fun s => { s with pattern := if o.getLast? = some s.settings.separator then o.dropLast else o }
      let now := (← get).pattern
      if u.prints then printLine now
      match u.file with
      | some name => writeTo name now
      | none => pure ()
      go
  | .writeFile name firstOnly =>
    writeTo name (if firstOnly then firstLine s.settings.separator s.pattern else s.pattern)
    go
  | .replace table =>
    set { s with pattern := s.pattern.map fun c => (table.lookup c).getD c }
    go
  | .empty =>
    set { s with pattern := [] }
    go
  | .number =>
    printText (Octets.ofNat s.number ++ ['\n'])
    go

/-- The commands for the line at hand, from one on. -/
def perform : (fuel : Nat) → (at_ : Nat) → Edit Outcome
  | 0, _ => return .done
  | fuel + 1, at_ => do
    match (← get).commands[at_]? with
    | none => return .done
    | some c =>
      if ← selects at_ c.selector then
        match ← act at_ c with
        | .inl next => perform fuel next
        | .inr outcome => return outcome
      else
        match c.action with
        | .block behind => perform fuel behind
        | _ => perform fuel (at_ + 1)

/-- Works through one line after the other.  Gives the status to end with. -/
def cycle : (fuel : Nat) → (reads : Bool) → Edit Nat
  | 0, _ => return 0
  | fuel + 1, reads => do
    if reads then
      match ← nextLine with
      | none =>
        flushQueue
        return (← get).status
      | some line => modify fun s => { s with pattern := line.text }
    match ← perform endless 0 with
    | .done =>
      if !(← get).settings.quiet then printLine (← get).pattern
      cycle fuel true
    | .noMore =>
      if !(← get).settings.quiet then printLine (← get).pattern
      flushQueue
      return (← get).status
    | .deleted => cycle fuel true
    | .again => cycle fuel false
    | .quit status =>
      let s ← get
      return if status = 0 then s.status else status

/-- The files that a script writes. -/
def writtenFiles (s : Script) : List Octets :=
  (s.commands.toList.filterMap fun c => match c.action with
    | .writeFile name _ => some name
    | .substitute u => u.file
    | _ => none).eraseDups

/-- A range that begins with the line before the first is open from the start. -/
def startingRange (c : Command) : RangeState :=
  match c.selector.first, c.selector.second with
  | some (.number 0), some (.matching _) => .inside 0
  | _, _ => .outside

/-- Works through inputs with a script.  Gives the status to end with. -/
def workThrough (script : Script) (settings : Manner) (inputs : List Octets) : Tool Nat := do
  let mut outputs : List (Octets × Nat × Bool) := []
  for name in writtenFiles script do
    if name = ascii "/dev/stdout" then outputs := (name, 1, false) :: outputs
    else if name = ascii "/dev/stderr" then outputs := (name, 2, false) :: outputs
    else
      match ← (Work.openToWrite name : Work (Except Files.Fault Nat)) with
      | .ok d => outputs := (name, d, false) :: outputs
      | .error fault =>
        complain (ascii "couldn't open file " ++ name ++ ascii ": " ++ reason fault)
        finish 4
  let start : Editing :=
    { settings := { settings with quiet := settings.quiet || script.quiet }, commands := script.commands
      ranges := script.commands.map startingRange, inputs, outputs }
  let body : Edit Nat := do
    let status ← cycle endless true
    closeFile
    return status
  let (status, _) ← body.run start
  return status

end GrammarStudio.LineScript
