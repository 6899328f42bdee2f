import GrammarStudio.Regex.Posix
import GrammarStudio.Regex.Search
import GrammarStudio.Shell.Builtin

/-!
# Running commands

One step of a command is given by how the commands inside it are run (`Runner`).  A script is run by taking that step
again and again, as long as there is fuel.

* `runProgram`, `callFunction` — the ends of a simple command;
* `runSimple` — a simple command;
* `step` — any command;
* `runLines` — a script, line by line.
-/

namespace GrammarStudio.Shell

open Machine Files

/-! ### Surroundings -/

/-- Does something, and gives the jump by which it was left. -/
def attempted (act : Sh Unit) : Sh (Option Jump) := do
  let result ← (ExceptT.lift act.run : Sh (Except Jump Unit))
  return match result with
    | .ok () => none
    | .error jump => some jump

/-- Does something whose outcome is looked at. -/
def looked (act : Sh Unit) : Sh Unit := do
  let before := (← get).isTested
  modify fun s => { s with isTested := true }
  andFinally act (modify fun s => { s with isTested := before })

/-- Runs the traps of the signals that have come. -/
def runTraps (r : Runner) : Sh Unit := do
  let s ← get
  if s.traps.any (·.1 ≠ 0) && !s.isTrapping then
    let caught ← ask .caught
    for signal in caught do
      match (← get).traps.lookup signal with
      | some script =>
        let status := (← get).status
        modify fun s => { s with isTrapping := true }
        andFinally (r.script false script) (modify fun s => { s with isTrapping := false })
        setStatus status
      | none => pure ()

/-- Ends the script when a command has failed and nothing looks at its outcome. -/
def checkFailure (r : Runner) : Sh Unit := do
  let s ← get
  if s.status ≠ 0 && !s.isTested then
    match s.traps.lookup 100 with
    | some script =>
      r.script false script
      setStatus s.status
    | none => pure ()
    if s.isOn 'e' then throw (.leave s.status)

/-! ### Programs -/

/-- Where a name leads. -/
inductive Place where
  | path (p : Octets)
  | denied (p : Octets)
  | missing

def findIn (name : Octets) : List Octets → (denied : Option Octets) → Work Place
  | [], denied => return match denied with
    | some p => .denied p
    | none => .missing
  | directory :: rest, denied => do
    let path := if directory.isEmpty then name else directory ++ '/' :: name
    match ← Work.ask (.inspect path true) with
    | .ok info =>
      if info.kind = .file && info.mode &&& 0o111 ≠ 0 then return .path path
      else findIn name rest (if info.kind = .file then denied.or (some path) else denied)
    | .error _ => findIn name rest denied

/-- Looks for a program on the search path. -/
def findProgram (name : Octets) : Sh Place := do
  let s ← get
  if name.contains '/' then return .path name
  else if name.isEmpty then return .missing
  else (findIn name (Octets.splitOn ':' s.searchPath) none : Work Place)

/-- Counts one more run of a name. -/
def countRun (name : Octets) : List (Octets × Nat) → List (Octets × Nat)
  | [] => [(name, 1)]
  | (other, n) :: rest => if other = name then (name, n + 1) :: rest else (other, n) :: countRun name rest

/-- Remembers that a program has been looked for by its name. -/
def track (name : Octets) : Sh Unit := do
  if !name.contains '/' then modify fun s => { s with tracked := countRun name s.tracked }

/-- Complains that a program cannot be run, and gives the status for that. -/
def cannotRun (name path : Octets) (fault : Fault) : Sh Nat := do
  let rich ← isRichShell
  let isMissing := match fault with
    | .system 2 | .system 20 | .system 36 | .system 40 => true
    | _ => false
  if rich then
    let what ← (match fault with
      | .system 13 => do
        match ← ask (.inspect path true) with
        | .ok info => return if info.kind = .directory then ascii "Is a directory" else ascii "Permission denied"
        | .error _ => return ascii "Permission denied"
      | .system 2 => do
        match ← ask (.inspect path true) with
        | .ok _ => return ascii "cannot execute: required file not found"
        | .error _ => return reason fault
      | fault => return reason fault : Sh Octets)
    complain (name ++ ascii ": " ++ what)
  else
    complain (name ++ ascii ": " ++ (match fault with
      | .system 2 | .system 20 => ascii "not found"
      | fault => reason fault))
  return if isMissing then 127 else 126

/-- Gives the place of the shell to a program; it only comes back when that fails, with the status. -/
def becomeProgram (environment : List (Octets × Octets)) (path name : Octets) (args : List Octets) : Sh Nat := do
  let fault ← (Work.execute environment path name args : Work Fault)
  let fault ← (match fault with
    | .system 8 => do
      -- a file that is no program is a script
      let shell := if (← get).dialect = .rich then ascii "/bin/bash" else ascii "/bin/sh"
      (Work.execute environment shell (if (← get).dialect = .rich then path else shell) (path :: args) : Work Fault)
    | fault => pure fault : Sh Fault)
  cannotRun name path fault

/-- Runs a program, in the place of the shell when nothing comes after it. -/
def runProgram (r : Runner) (last : Bool) (environment : List (Octets × Octets)) (name : Octets) (args : List Octets) :
    Sh Unit := do
  let s ← get
  let path ← (do
    match ← findProgram name with
    | .path p => return some p
    | .denied p => if s.dialect = .rich then return some p else
        complain (name ++ ascii ": Permission denied")
        setStatus 126
        return none
    | .missing =>
      if name.isEmpty && s.dialect = .plain then
        complain (ascii ": Permission denied")
        setStatus 127
        return none
      else if s.dialect = .rich then
        if name.contains '/' then return some name
        else
          complain (name ++ ascii ": command not found")
          setStatus 127
          return none
      else
        complain (name ++ ascii ": not found")
        setStatus 127
        return none : Sh (Option Octets))
  match path with
  | none => return
  | some path =>
    track name
    if last && !(s.traps.any fun t => t.1 = 0 || !t.2.isEmpty) && s.kept.isEmpty then
      let status ← becomeProgram environment path name args
      throw (.leave status)
    else
      let number ← fork r do
        let status ← becomeProgram environment path name args
        throw (.leave status)
      setStatus (← foreground number)

/-! ### Functions -/

/-- Brings back the variables that a function hid. -/
def unhide : List (Octets × Option Variable) → State → State
  | [], s => s
  | (name, before) :: rest, s =>
    let s := { s with named := s.named.filter (·.name ≠ name) }
    unhide rest (match before with
      | some v => { s with named := s.named ++ [v] }
      | none => s)

def callFunction (r : Runner) (name : Octets) (body : Command) (args : List Octets) : Sh Unit := do
  let before ← get
  if before.calls.length > 5000 then
    -- the stack is full
    let _ ← ask (.kill before.own 11)
  set { before with args, hidden := [] :: before.hidden, calls := name :: before.calls, loops := 0
                    origin := (before.origins.lookup name).getD before.origin }
  let jump ← attempted (r.run false body)
  modify fun s =>
    let s := unhide (s.hidden.head?.getD []) s
    { s with args := before.args, hidden := before.hidden, calls := before.calls, loops := before.loops,
             origin := before.origin, isTested := before.isTested }
  match jump with
  | none | some .returning => return
  | some (.breaking _) | some (.continuing _) => return
  | some other => throw other

/-! ### Assignments -/

/-- Puts an item under an index of a variable. -/
def assignItem (r : Runner) (name : Octets) (index : Word) (appends : Bool) (value : Octets) : Sh Unit := do
  let key ← joined r index
  let s ← get
  match s.value? name with
  | some (.map items) =>
    let before := if appends then (items.lookup key).getD [] else []
    let others := items.map fun i => if i.1 = key then (key, before ++ value) else i
    assignValue name (.map (if (items.lookup key).isSome then others else items ++ [(key, value)]))
  | other =>
    let items : List (Nat × Octets) := match other with
      | some (.list items) => items
      | some (.text o) => [(0, o)]
      | _ => []
    let n ← evaluateText key
    let n := if n < 0 then n + 1 + ((items.getLast?.map Prod.fst).getD 0 : Nat) else n
    if n < 0 then failWith (name ++ '[' :: key ++ ascii "]: bad array subscript")
    let before := if appends then (items.lookup n.toNat).getD [] else []
    assignValue name (.list (putItem n.toNat (before ++ value) items))

/-- The index and the value of an item such as `[3]=x`. -/
def indexedItem? : Word → Option (Word × Word)
  | .text ('[' :: o) false :: rest =>
    (indexParts [] (.text o false :: rest)).map fun (index, _, value) => (index, value)
  | _ => none

/-- Gives a variable a list of items. -/
def assignItems (r : Runner) (name : Octets) (appends : Bool) (words : List Word) : Sh Unit := do
  checkReadonly name
  let s ← get
  let isMap := match s.value? name with
    | some (.map _) => true
    | _ => false
  if !appends then
    modify fun s => s.alter name fun v => { v with value := some (if isMap then .map [] else .list []) }
  else if !isMap then
    modify fun s => s.alter name fun v => { v with value := some (match v.value with
      | some (.text o) => .list [(0, o)]
      | some other => other
      | none => .list []) }
  for w in words do
    match indexedItem? w with
    | some (index, value) => assignItem r name index false (← assignedText r value)
    | none =>
      for o in (← expand r w) do
        modify fun s => s.alter name fun v => { v with value := some (match v.value with
          | some (.list items) => .list (items ++ [((items.getLast?.map fun i => i.1 + 1).getD 0, o)])
          | some (.map items) => .map (items ++ [(o, [])])
          | _ => .list [(0, o)]) }

/-- Carries out an assignment, and gives what is told of it. -/
def carryOut (r : Runner) : Assignment → Sh Octets
  | .mk name index appends value items => do
    match items with
    | some words =>
      assignItems r name appends words
      return name ++ ascii "=(" ++ [' '].intercalate (words.map fun w => spelledParts 3 w) ++ [')']
    | none =>
      let o ← assignedText r value
      match index with
      | some i =>
        assignItem r name i appends o
        return name ++ ascii "[]=" ++ o
      | none =>
        let s ← get
        let isNumber := (s.find? name).any Variable.integer
        let before := if appends then (s.lookUp name).getD [] else []
        let whole ← (if isNumber then
            do return Octets.ofInt (← evaluateText (if appends && !before.isEmpty then before ++ ['+'] ++ o else o))
          else pure (before ++ o) : Sh Octets)
        assignText name whole
        return name ++ (if appends then ['+', '='] else ['=']) ++ o

def assignmentName : Assignment → Octets
  | .mk name .. => name

/-- Carries out assignments, and gives what is told of them. -/
def carryOutAll (r : Runner) : List Assignment → Sh (List Octets)
  | [] => return []
  | a :: rest => do
    let told ← carryOut r a
    return told :: (← carryOutAll r rest)

/-- Tells a command before it is run. -/
def trace (r : Runner) (told : List Octets) : Sh Unit := do
  let s ← get
  if s.isOn 'x' then
    let mark ← (match s.lookUp (ascii "PS4") with
      | some o => do
        match (partsOf (inner 100) .whole o).run (Reader.ofScript s.dialect s.texts []) with
        | .ok (w, _) =>
          modify fun s => { s with options := s.options.filter (· ≠ 'x') }
          let text ← joined r w
          modify fun s => { s with options := 'x' :: s.options }
          return text
        | .error _ => return o
      | none => return [] : Sh Octets)
    report (mark ++ [' '].intercalate told ++ ['\n'])

/-- A word as the rich shell tells it. -/
def toldWord (o : Octets) : Octets :=
  if o.isEmpty then ascii "''"
  else if o.any fun c => c < ' ' || c ≥ '\x7f' || (ascii " '\"\\|&;()<>!\x7b\x7d*[]?^$\x60").contains c then quotedText o
  else if o.head? = some '~' || o.head? = some '#' then quotedText o
  else o

/-! ### Simple commands -/

/-- Builtins whose arguments can be assignments. -/
def declaringBuiltins (rich : Bool) : List String :=
  if rich then ["export", "readonly", "local", "declare", "typeset"] else ["export", "readonly", "local"]

/-- The arguments of a simple command. -/
def arguments (r : Runner) : List Word → Sh (List Octets)
  | [] => return []
  | w :: rest => do
    let first ← expand r w
    let rich ← isRichShell
    match first with
    | name :: _ =>
      if (declaringBuiltins rich).contains (String.ofList name) then
        return first ++ (← declared rest)
      else return first ++ (← expandAllWords rest)
    | [] => arguments r rest
where
  expandAllWords : List Word → Sh (List Octets)
    | [] => return []
    | w :: rest => do
      let own ← expand r w
      return own ++ (← expandAllWords rest)
  declared : List Word → Sh (List Octets)
    | [] => return []
    | w :: rest => do
      match assignment? (← isRichShell) none w with
      | some (.mk name none appends value _) =>
        let o ← assignedText r value
        return (name ++ (if appends then ['+', '='] else ['=']) ++ o) :: (← declared rest)
      | _ =>
        let own ← expand r w
        return own ++ (← declared rest)

/-- A builtin that runs other commands, or looks at all of the shell. -/
abbrev RunningBuiltin := Runner → (last : Bool) → List Octets → Sh Unit

/-- How a name is found. -/
inductive Found where
  | function (body : Command)
  | builtin (b : Builtin)
  | running (b : RunningBuiltin)
  | program

/-- Runs a builtin.  When it gives up, only a special one takes the script with it. -/
def runBuiltin (name : Octets) (special : Bool) (act : Sh Unit) : Sh Unit := do
  let before ← get
  set { before with command := some name }
  let jump ← attempted act
  modify fun s => { s with command := before.command }
  match jump with
  | none => return
  | some (.failed n) =>
    setStatus n
    if special && before.dialect = .plain then throw (.leave n)
  | some other => throw other

/-- Does something with variables that are only set for it. -/
def withVariables (r : Runner) (assignments : List Assignment) (act : Sh Unit) : Sh Unit := do
  let before := assignments.map fun a => (assignmentName a, a)
  let saved := before.map fun (name, _) => name
  let s ← get
  let old := saved.map fun name => (name, s.find? name)
  let _ ← carryOutAll r assignments
  for name in saved do
    modify fun s => s.alter name fun v => { v with exported := true }
  andFinally act (modify fun s => unhide old.reverse s)

/-- The environment with some values for one program only. -/
def environmentWith (r : Runner) (assignments : List Assignment) : Sh (List (Octets × Octets)) := do
  let before ← get
  let _ ← carryOutAll r assignments
  for a in assignments do
    modify fun s => s.alter (assignmentName a) fun v => { v with exported := true }
  let environment := (← get).environment
  modify fun s => { s with named := before.named }
  return environment

/-- Runs a simple command.  `find` says what its name stands for. -/
def runSimple (r : Runner) (find : Octets → Sh Found) (last : Bool) (line : Nat) (assignments : List Assignment)
    (words : List Word) (redirects : List Redirect) : Sh Unit := do
  let isCaptured := (← get).isCaptured
  modify fun s => { s with line, substituted := none, isCaptured := false }
  let args ← arguments r words
  let rich ← isRichShell
  let told (values : List Octets) : List Octets := values ++ (if rich then args.map toldWord else args)
  match args with
  | [] =>
    let act : Sh Unit := do
      let values ← carryOutAll r assignments
      setStatus (((← get).substituted).getD 0)
      if !values.isEmpty then trace r values
      -- a substitution that only reads a file stands for what is in it
      match redirects with
      | [.mk 0 .read _] =>
        if isCaptured then
          let content ← (Work.readAll 0 : Work (Except Fault Octets))
          say (content.toOption.getD [])
      | _ => pure ()
    withRedirects r redirects act (setStatus (if rich then 1 else 2))
  | name :: rest =>
    let found ← find name
    let special := specialBuiltins.contains (String.ofList name)
    let failed : Sh Unit := do
      setStatus (if rich then 1 else 2)
      if special && !rich then throw (.leave 2)
    if name = ascii "exec" && (match found with
        | .running _ => true
        | _ => false) then
      let (_, done) ← redirectAll r false redirects []
      if done then
        let values ← carryOutAll r assignments
        for a in assignments do
          modify fun s => s.alter (assignmentName a) fun v => { v with exported := true }
        trace r (told values)
        match found with
        | .running b => runBuiltin name special (b r last rest)
        | _ => return
      else failed
    else
      let act : Sh Unit := do
        match found with
        | .function body =>
          let call := do
            trace r (told [])
            callFunction r name body rest
          if assignments.isEmpty then call else withVariables r assignments call
        | .builtin b =>
          if special && !rich then
            let values ← carryOutAll r assignments
            trace r (told values)
            runBuiltin name special (b rest)
          else
            let call := do
              trace r (told [])
              runBuiltin name special (b rest)
            if assignments.isEmpty then call else withVariables r assignments call
        | .running b =>
          let call := do
            trace r (told [])
            runBuiltin name special (b r (last && redirects.isEmpty && assignments.isEmpty) rest)
          if special && !rich then
            let values ← carryOutAll r assignments
            trace r (told values)
            runBuiltin name special (b r (last && redirects.isEmpty) rest)
          else if assignments.isEmpty then call else withVariables r assignments call
        | .program =>
          let environment ← environmentWith r assignments
          let s ← get
          trace r ((if s.isOn 'x' then assignments.map (fun a => assignmentName a ++ '=' :: ((environment.lookup (assignmentName a)).getD [])) else [])
            ++ (if rich then args.map toldWord else args))
          runProgram r last environment name rest
      withRedirects r redirects act failed
  let s ← get
  for n in s.kept do
    closeDescriptor n
  modify fun s => { s with kept := [] }

/-! ### Conditions between double brackets -/

/-- The truth of a condition. -/
def evaluateCondition (r : Runner) : Condition → Sh Bool
  | .word w => do return !(← joined r w).isEmpty
  | .not c => do return !(← evaluateCondition r c)
  | .and a b => do if ← evaluateCondition r a then evaluateCondition r b else return false
  | .or a b => do if ← evaluateCondition r a then return true else evaluateCondition r b
  | .unary operator w => do
    let o ← joined r w
    match operator with
    | "-v" => return ((← get).lookUp o).isSome || (((← get).value? o).isSome)
    | "-o" =>
      let s ← get
      return ((letterOf richOptionTable o).any s.isOn)
    | "-a" => (Machine.Condition.fileTest 'e' o : Work Bool)
    | operator =>
      match ← ((Machine.Condition.unaryTest operator.toList o).run : Work (Except Machine.Condition.Fault Bool)) with
      | .ok b => return b
      | .error _ => return false
  | .binary operator a b => do
    let left ← joined r a
    let pattern : Sh Bool := do return (← patternOf r b).matches left
    let numbers (test : Int → Int → Bool) : Sh Bool := do
      let x ← evaluateText left
      let y ← evaluateText (← joined r b)
      return test x y
    match operator with
    | "=" | "==" => pattern
    | "!=" => return !(← pattern)
    | "<" => return left < (← joined r b)
    | ">" => return (← joined r b) < left
    | "-eq" => numbers (· = ·)
    | "-ne" => numbers (· ≠ ·)
    | "-lt" => numbers (· < ·)
    | "-le" => numbers (· ≤ ·)
    | "-gt" => numbers (· > ·)
    | "-ge" => numbers (· ≥ ·)
    | "=~" =>
      let m ← marked r wordFuel b
      let source := m.flatMap fun (c, q) => if q && (ascii "\\.[]()*+?\x7b\x7d|^$").contains c then ['\\', c] else [c]
      match Regex.Finder.ofText { extended := true, dangling := .fault } source with
      | .error _ => throw (.failed 2)
      | .ok finder =>
        let subject : Regex.Subject := { text := left.toArray }
        match finder.search? true subject 0 with
        | some groups =>
          let texts := (List.range (finder.groups + 1)).map fun n =>
            match groups.span? n with
            | some (x, y) => (left.drop x).take (y - x)
            | none => []
          assignValue (ascii "BASH_REMATCH") (.list ((List.range texts.length).zip texts))
          return true
        | none =>
          assignValue (ascii "BASH_REMATCH") (.list [])
          return false
    | operator => (Machine.Condition.compareFiles true left operator (← joined r b) : Work Bool)

/-! ### Compound commands -/

/-- One round of a loop: whether to go on. -/
def round (r : Runner) (body : Sh Unit) : Sh Bool := do
  let _ ← ask .pause
  let before := (← get).isTested
  modify fun s => { s with loops := s.loops + 1 }
  let jump ← attempted body
  modify fun s => { s with loops := s.loops - 1, isTested := before }
  runTraps r
  match jump with
  | none => return true
  | some (.breaking n) => if n > 1 then throw (.breaking (n - 1)) else return false
  | some (.continuing n) => if n > 1 then throw (.continuing (n - 1)) else return true
  | some other => throw other

/-- Goes round a loop while its test holds.  `status` is what the loop ends with when it does not. -/
def loopRounds (r : Runner) (whileTrue : Bool) (test body : Sh Unit) : (fuel : Nat) → (status : Nat) → Sh Unit
  | 0, status => setStatus status
  | fuel + 1, status => do
    let goesOn ← round r do
      -- the test belongs to the round: the loop can be left from there
      looked test
      if ((← get).status = 0) == whileTrue then body
      else
        setStatus status
        throw (.breaking 1)
    if goesOn then loopRounds r whileTrue test body fuel (← get).status else return

/-- Goes round a loop of expressions. -/
def countedRounds (r : Runner) (test : Sh Bool) (body next : Sh Unit) : (fuel : Nat) → Sh Unit
  | 0 => return
  | fuel + 1 => do
    if ← test then
      if ← round r body then
        next
        countedRounds r test body next fuel

/-- Runs a body for each value.  `told` is what is told of the loop before each round. -/
def eachValue (r : Runner) (told : List Octets) (name : Octets) (body : Command) : List Octets → Sh Unit
  | [] => return
  | value :: rest => do
    let goesOn ← round r do
      if ← isRichShell then trace r told
      assignText name value
      r.run false body
    if goesOn then eachValue r told name body rest else return

/-- Runs the body of the first choice that fits. -/
def chooseArm (r : Runner) (last : Bool) (o : Octets) : (falls : Bool) → List Arm → Sh Unit
  | _, [] => setStatus 0
  | falls, .mk patterns body ending :: rest => do
    let fits ← (if falls then pure true else anyFits patterns : Sh Bool)
    if fits then
      r.run (last && ending = .stop) body
      match ending with
      | .stop => return
      | .fallThrough => if rest.isEmpty then return else chooseArm r last o true rest
      | .tryNext => if rest.isEmpty then return else chooseArm r last o false rest
    else chooseArm r last o false rest
where
  anyFits : List Word → Sh Bool
    | [] => return false
    | w :: rest => do if (← patternOf r w).matches o then return true else anyFits rest

/-- Starts the stages of a pipeline, and gives their numbers. -/
def startStages (r : Runner) : List Command → (source : Option Nat) → Sh (List Nat)
  | [], _ => return []
  | c :: rest, source => do
    let own (act : Sh Unit) : Sh Nat := fork r do
      match source with
      | some n => moveDescriptor n 0
      | none => pure ()
      act
    match rest with
    | [] =>
      let number ← own (r.run true c)
      match source with
      | some n => closeDescriptor n
      | none => pure ()
      return [number]
    | _ =>
      let (next, sink) ← ask .makePipe
      let number ← own do
        closeDescriptor next
        moveDescriptor sink 1
        r.run true c
      match source with
      | some n => closeDescriptor n
      | none => pure ()
      closeDescriptor sink
      return number :: (← startStages r rest (some next))

def waitAll : List Nat → Sh (List Nat)
  | [] => return []
  | n :: rest => do
    -- the rich shell only tells of the end of the last stage
    let own ← (if rest.isEmpty || !(← isRichShell) then foreground n else Ending.code <$> waitFor n : Sh Nat)
    return own :: (← waitAll rest)

/-- Starts a command in the background. -/
def inBackground (r : Runner) (c : Command) : Sh Unit := do
  let number ← fork r do
    ask (.respond 2 .ignored)
    ask (.respond 3 .ignored)
    match ← ask (.openFile (ascii "/dev/null") { reads := true } 0) with
    | .ok d => moveDescriptor d 0
    | .error _ => pure ()
    r.run true c
  modify fun s => { s with lastBackground := some number, jobs := number :: s.jobs, status := 0 }

/-- Runs a command. -/
def step (r : Runner) (find : Octets → Sh Found) (last : Bool) (c : Command) : Sh Unit := do
  if (← get).isOn 'n' then return
  match c with
  | .simple .. => pure ()
  | _ => if (← get).isCaptured then modify fun s => { s with isCaptured := false }
  match c with
  | .nothing => setStatus 0
  | .simple line assignments words redirects =>
    runSimple r find last line assignments words redirects
    runTraps r
    checkFailure r
  | .pipeline stages =>
    let numbers ← startStages r stages none
    let statuses ← waitAll numbers
    modify fun s => { s with stages := statuses }
    let s ← get
    let failing := (statuses.filter (· ≠ 0)).getLast?
    setStatus (if s.isOn '1' then failing.getD 0 else statuses.getLast?.getD 0)
    runTraps r
    checkFailure r
  | .not command =>
    looked (r.run false command)
    modify fun s => { s with status := if s.status = 0 then 1 else 0 }
  | .andThen first second =>
    looked (r.run false first)
    if (← get).status = 0 then r.run last second
  | .orElse first second =>
    looked (r.run false first)
    if (← get).status ≠ 0 then r.run last second
  | .sequence first second =>
    r.run false first
    r.run last second
  | .background line command =>
    modify fun s => { s with line }
    inBackground r command
  | .subshell line body redirects =>
    modify fun s => { s with line }
    let rich ← isRichShell
    if last && (← get).traps.isEmpty then
      modify fun s => { s with isSubshell := true }
      withRedirects r redirects (r.run true body) (setStatus (if rich then 1 else 2))
      throw (.leave (← get).status)
    else
      let act : Sh Unit := do
        let number ← fork r (r.run true body)
        setStatus (← foreground number)
      withRedirects r redirects act (setStatus (if rich then 1 else 2))
      runTraps r
      checkFailure r
  | .branch condition yes no =>
    looked (r.run false condition)
    if (← get).status = 0 then r.run last yes
    else
      setStatus 0
      r.run last no
  | .loop whileTrue condition body => loopRounds r whileTrue (r.run false condition) (r.run false body) endless 0
  | .each line name words body =>
    modify fun s => { s with line }
    let values ← (match words with
      | some ws => arguments.expandAllWords r ws
      | none => do return (← get).args : Sh (List Octets))
    setStatus 0
    eachValue r ([ascii "for", name, ascii "in"] ++ values.map toldWord) name body values
  | .counted line first test next body =>
    modify fun s => { s with line }
    let value (w : Word) (usual : Int) : Sh Int := do
      let text ← joined r w
      if text.all Octets.isBlank then return usual else evaluateText text
    let _ ← value first 0
    setStatus 0
    countedRounds r (do return (← value test 1) ≠ 0) (r.run false body) (do let _ ← value next 0) endless
  | .choose line subject arms =>
    modify fun s => { s with line }
    let o ← joined r subject
    if ← isRichShell then trace r [ascii "case", toldWord o, ascii "in"]
    chooseArm r last o false arms
  | .define name _ body => modify fun s =>
    let origin := if !s.calls.isEmpty then s.origin else if s.isGiven then ascii "environment"
      else if s.isOn 's' then ascii "main" else s.origin
    { s with functions := (name, body) :: s.functions.filter (·.1 ≠ name)
             origins := (name, origin) :: s.origins.filter (·.1 ≠ name), status := 0 }
  | .redirected line body redirects =>
    modify fun s => { s with line := if line = 0 then s.line else line }
    let rich ← isRichShell
    withRedirects r redirects (r.run false body) do
      setStatus (if rich then 1 else 2)
      if rich then checkFailure r
  | .condition line c =>
    modify fun s => { s with line }
    let truth ← evaluateCondition r c
    setStatus (if truth then 0 else 1)
    checkFailure r
  | .arithmetic line expression =>
    modify fun s => { s with line, command := some (ascii "((") }
    let text ← joined r expression
    let n ← evaluateText text
    modify fun s => { s with command := none }
    setStatus (if n = 0 then 1 else 0)
    checkFailure r
  | .timed command =>
    r.run false command
    report (ascii "\nreal\t0m0.001s\nuser\t0m0.000s\nsys\t0m0.000s\n")

/-! ### Scripts -/

/-- Tells that a script cannot be read. -/
def reportSyntax (fault : SyntaxFault) : Sh Unit := do
  let s ← get
  match s.dialect with
  | .plain =>
    let problem := match fault.problem with
      | .unexpected found wanted =>
        found ++ " unexpected" ++ (match wanted with
          | some w => " (expecting " ++ w ++ ")"
          | none => "")
      | .unterminated _ => "Unterminated quoted string"
      | .missingBrace => "Missing '\x7d'"
      | .missingParens => "Missing '))'"
      | .noBackQuote => "EOF in backquote substitution"
      | .badName what => what
      | .conditional found => found ++ " unexpected"
    modify fun s => { s with line := fault.line }
    complain (ascii ("Syntax error: " ++ problem))
  | .rich =>
    let head := s.origin ++ ascii ": " ++ (match s.reading with
      | some what => ascii what ++ ascii ": "
      | none => []) ++ ascii "line "
    let text := ((Octets.bareLines s.source)[fault.line - 1]?).getD []
    let tell (line : Nat) (message : String) : Sh Unit := report (head ++ Octets.ofNat line ++ ascii ": " ++ ascii message ++ ['\n'])
    let shown : Sh Unit := report (head ++ Octets.ofNat fault.line ++ ascii ": \x60" ++ text ++ ascii "'\n")
    match fault.problem with
    | .unexpected "end of file" _ => tell fault.line "syntax error: unexpected end of file"
    | .unexpected found _ =>
      tell fault.line ("syntax error near unexpected token " ++ found)
      shown
    | .unterminated quote => tell fault.line ("unexpected EOF while looking for matching \x60" ++ String.singleton quote ++ "'")
    | .missingBrace => tell fault.line "unexpected EOF while looking for matching \x60\x7d'"
    | .missingParens => tell fault.line "unexpected EOF while looking for matching \x60)'"
    | .noBackQuote => tell fault.line "unexpected EOF while looking for matching \x60\x60'"
    | .badName what => tell fault.line what
    | .conditional found =>
      tell fault.line ("syntax error in conditional expression")
      tell fault.line ("syntax error near " ++ found)
      shown

/-- Runs a script line by line, so that what stands first is run before what stands behind it is looked at. -/
def runLines (r : Runner) (last : Bool) : (fuel : Nat) → Reader → Sh Unit
  | 0, _ => return
  | fuel + 1, reader => do
    let _ ← ask .pause
    match { reader with texts := (← get).texts }.nextLine with
    | .error fault =>
      reportSyntax fault
      throw (.failed 2)
    | .ok (none, _) => return
    | .ok (some c, reader) =>
      modify fun s => { s with texts := reader.texts }
      match c with
      | .nothing => pure ()
      | c => if !(← get).isOn 'n' then r.run (last && reader.isFinished) c
      runLines r last fuel reader

/-- Runs a text as a script. -/
def runText (r : Runner) (last : Bool) (script : Octets) : Sh Unit := do
  let s ← get
  -- for the rich shell, the last line is as complete as the others
  let script := if s.dialect = .rich && !script.isEmpty && script.getLast? ≠ some '\n' && script.getLast? ≠ some '\\' then script ++ ['\n'] else script
  let reader := Reader.ofScript s.dialect s.texts script
  let reader := if s.dialect = .rich then { reader with line := max s.line 1 } else reader
  runLines r last endless reader

end GrammarStudio.Shell
