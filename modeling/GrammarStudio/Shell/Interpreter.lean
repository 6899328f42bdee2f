import GrammarStudio.Shell.Run

/-!
# The shell as a program

* `runningBuiltins` — the builtins that run commands;
* `richBuiltins` — those that only the rich shell has;
* `findCommand` — what the name of a command stands for;
* `runner` — how commands are run;
* `shell` — the program, from its arguments to its end.
-/

namespace GrammarStudio.Shell

open Machine Files

/-! ### What names stand for -/

def richReservedWords : List String := plainReserved ++ richReserved

/-- Names of commands that the shell itself carries out. -/
def builtinNames (rich : Bool) : List String :=
  (simpleBuiltins.map Prod.fst).filter (fun n => !(rich && n = "chdir")) ++ ["eval", ".", "command", "exec", "type", "hash"] ++
    (if rich then ["source", "builtin", "declare", "typeset", "let", "mapfile", "readarray", "shopt", "enable", "pushd", "popd",
      "dirs", "caller", "disown", "suspend", "logout", "history", "help", "compgen", "complete", "fc", "bind"]
    else [])

/-- Tells what a name stands for: in one word, in a sentence, or by its kind. -/
inductive Telling where
  | short
  | long
  | kind

def tellName (how : Telling) (name : Octets) : Sh Bool := do
  let s ← get
  let rich := s.dialect = .rich
  let word := String.ofList name
  let line (short long kind : Octets) : Sh Bool := do
    say ((match how with
      | .short => short
      | .long => long
      | .kind => kind) ++ ['\n'])
    return true
  match s.aliases.lookup name with
  | some value =>
    line (ascii "alias " ++ name ++ '=' :: singleQuoted value)
      (name ++ (if rich then ascii " is aliased to \x60" ++ value ++ ['\''] else ascii " is an alias for " ++ value)) (ascii "alias")
  | none =>
    if (if rich then richReservedWords else plainReserved).contains word then
      line name (name ++ ascii " is a shell keyword") (ascii "keyword")
    else if s.functions.any (·.1 = name) then
      line name (name ++ ascii (if rich then " is a function" else " is a shell function")) (ascii "function")
    else if (builtinNames rich).contains word then
      line name (name ++ ascii (if !rich && specialBuiltins.contains word then " is a special shell builtin" else " is a shell builtin"))
        (ascii "builtin")
    else
      match ← findProgram name with
      | .path p =>
        if name.contains '/' then
          match ← ask (.inspect p true) with
          | .ok info =>
            if rich && (info.kind ≠ .file || info.mode &&& 0o111 = 0) then return false
            else line p (name ++ ascii " is " ++ p) (ascii "file")
          | .error _ => return false
        else if s.tracked.any (·.1 = name) then
          line p (name ++ (if rich then ascii " is hashed (" ++ p ++ [')'] else ascii " is a tracked alias for " ++ p)) (ascii "file")
        else
          if !rich then modify fun s => { s with tracked := s.tracked ++ [(name, 0)] }
          line p (name ++ ascii " is " ++ p) (ascii "file")
      | _ => return false

/-- Tells of the names of programs that are remembered, forgets them, or looks for some. -/
def hashCommand : Builtin := fun args => do
  let rich ← isRichShell
  let (os, names) ← withLetters (if rich then "dlrt" else "r") (if rich then "p" else "") args
  setStatus 0
  if os.any (·.1 = 'r') then modify fun s => { s with tracked := [] }
  else if names.isEmpty then
    let tracked := (← get).tracked
    if rich then say (ascii (if tracked.isEmpty then "hash: hash table empty\n" else "hits\tcommand\n"))
    for (name, count) in tracked do
      match ← findProgram name with
      | .path p => say ((if rich then Octets.padLeft 4 (Octets.ofNat count) ++ ['\t'] else []) ++ p ++ ['\n'])
      | _ => pure ()
  for name in names do
    modify fun s => { s with tracked := s.tracked.filter (·.1 ≠ name) }
    if !name.contains '/' && !(builtinNames rich).contains (String.ofList name) then
      match ← findProgram name with
      | .path _ => modify fun s => { s with tracked := s.tracked ++ [(name, 0)] }
      | _ =>
        complain (name ++ ascii ": not found")
        setStatus 1

def typeCommand : Builtin := fun args => do
  setStatus 0
  let rich ← isRichShell
  let (os, names) ← withLetters (if rich then "tpPaf" else "") "" args
  for name in names do
    let kind := os.any (·.1 = 't')
    let path := os.any fun o => o.1 = 'p' || o.1 = 'P'
    let found ← tellName (if kind then .kind else if path then .short else .long) name
    if !found then
      if rich then
        if !kind && !path then complain (name ++ ascii ": not found")
        setStatus 1
      else
        say (name ++ ascii ": not found\n")
        setStatus 127

/-! ### Builtins that run commands -/

def evalCommand : RunningBuiltin := fun r last args => do
  let args := if args.head? = some ['-', '-'] then args.drop 1 else args
  modify fun s => { s with command := if s.dialect = .rich then none else s.command
                           status := if args.all List.isEmpty then 0 else s.status }
  let before ← get
  if !args.isEmpty then
    modify fun s => { s with reading := some "eval" }
    andFinally (r.script last ([' '].intercalate args)) (modify fun s => { s with line := before.line, reading := before.reading })

/-- Runs the commands of a file in the shell itself. -/
def sourceCommand : RunningBuiltin := fun r _ args => do
  let rich ← isRichShell
  match args with
  | [] =>
    if rich then
      complain (ascii "filename argument required")
      report ((← get).command.getD [] ++ ascii ": usage: " ++ (← get).command.getD [] ++ ascii " filename [arguments]\n")
      setStatus 2
    else pure ()
  | name :: rest =>
    let s ← get
    let path ← (do
      if name.contains '/' then return some name
      else
        let directories := (Octets.splitOn ':' s.searchPath).map fun d => if d.isEmpty then name else d ++ '/' :: name
        let rec go : List Octets → Work (Option Octets)
          | [] => return none
          | p :: others => do
            match ← Work.ask (.inspect p true) with
            | .ok info => if info.kind = .file then return some p else go others
            | .error _ => go others
        match ← (go directories : Work (Option Octets)) with
        | some p => return some p
        | none => return if rich then some name else none : Sh (Option Octets))
    match path with
    | none => failWith (name ++ ascii ": not found")
    | some path =>
      match ← (Work.slurp path : Work (Except Fault Octets)) with
      | .error fault =>
        if rich then
          match fault with
          | .isADirectory => complain (path ++ ascii ": is a directory")
          | fault =>
            modify fun s => { s with command := none }
            complain (path ++ ascii ": " ++ reason fault)
          setStatus 1
        else failWith (ascii "cannot open " ++ path ++ ascii ": " ++ openReason false false fault)
      | .ok content =>
        let before ← get
        modify fun s => { s with command := if rich then none else some path
                                 line := 1, status := 0
                                 args := if rich && !rest.isEmpty then rest else s.args
                                 calls := ascii "source" :: s.calls
                                 origin := path, reading := none
                                 source := content }
        let jump ← attempted (r.script false content)
        modify fun s => { s with line := before.line, calls := before.calls, source := before.source
                                 origin := before.origin, reading := before.reading
                                 args := if rich && !rest.isEmpty then before.args else s.args }
        match jump with
        | none | some .returning => return
        | some other => throw other

/-- Gives the place of the shell to a program. -/
def execCommand : RunningBuiltin := fun r _ args => do
  let rich ← isRichShell
  let (os, args) ← (if rich then withLetters "cl" "a" args
    else pure ([], if args.head? = some ['-', '-'] then args.drop 1 else args) : Sh (List (Char × Octets) × List Octets))
  let _ := r
  match args with
  | [] => setStatus 0
  | name :: rest =>
    let s ← get
    let own := (os.lookup 'a').getD name
    match ← findProgram name with
    | .path p =>
      modify fun s => { s with command := if s.dialect = .rich then s.command else some (ascii "exec") }
      let status ← becomeProgram (if os.any (·.1 = 'c') then [] else s.environment) p own rest
      throw (.leave status)
    | .denied p =>
      let status ← cannotRun name p .permissionDenied
      throw (.leave status)
    | .missing =>
      complain (name ++ ascii ": not found")
      throw (.leave 127)

/-- Runs a command, but no function. -/
def commandCommand (find : Octets → Sh Found) : RunningBuiltin := fun r last args => do
  let (os, args) ← withLetters "pvV" "" args
  match args with
  | [] => setStatus 0
  | name :: rest =>
    let rich ← isRichShell
    if os.any (·.1 = 'v') then
      if ← tellName .short name then setStatus 0 else setStatus (if rich then 1 else 127)
    else if os.any (·.1 = 'V') then
      if ← tellName .long name then setStatus 0
      else
        if rich then complain (name ++ ascii ": not found") else say (name ++ ascii ": not found\n")
        setStatus (if rich then 1 else 127)
    else
      modify fun s => { s with command := none }
      let functions := (← get).functions
      modify fun s => { s with functions := s.functions.filter (·.1 ≠ name) }
      let found ← find name
      modify fun s => { s with functions }
      match found with
      | .function _ => return
      | .builtin b => runBuiltin name false (b rest)
      | .running b => runBuiltin name false (b r last rest)
      | .program => runProgram r last (← get).environment name rest

/-! ### Builtins of the rich shell -/

def declareText (v : Variable) : Octets :=
  let letters : Octets := (match v.value with
    | some (.list _) => ['a']
    | some (.map _) => ['A']
    | _ => []) ++ (if v.integer then ['i'] else []) ++ (match v.recase with
    | some true => ['u']
    | some false => ['l']
    | none => []) ++ (if v.readonly then ['r'] else []) ++ (if v.exported then ['x'] else [])
  ascii "declare -" ++ (if letters.isEmpty then ['-'] else letters) ++ ' ' :: v.name ++ (match v.value with
    | some o => '=' :: itemsText o
    | none => []) ++ ['\n']

/-- Cuts the text of a list, such as `(a b)`, that was read as an argument. -/
def declareCommand : Builtin := fun args => do
  setStatus 0
  let isPlus (o : Octets) : Bool := o.head? = some '+'
  let removed := (args.filter isPlus).flatMap (·.drop 1)
  let (os, names) ← withLetters "aAirxplugFft" "" (args.filter (!isPlus ·))
  let on (c : Char) : Bool := os.any (·.1 = c)
  let s ← get
  if on 'f' || on 'F' then
    if names.isEmpty then
      say ((s.functions.map Prod.fst).mergeSort (fun a b => !(b < a)) |>.flatMap fun n => ascii "declare -f " ++ n ++ ['\n'])
    else
      for n in names do
        if !s.functions.any (·.1 = n) then setStatus 1
        else if on 'F' then say (n ++ ['\n'])
  else if names.isEmpty then
    say (((sortedVariables s.named).filter fun v =>
      (!on 'x' || v.exported) && (!on 'r' || v.readonly) && (!on 'i' || v.integer) && (!on 'a' || (match v.value with
        | some (.list _) => true
        | _ => false)) && (!on 'A' || (match v.value with
        | some (.map _) => true
        | _ => false))).flatMap declareText)
  else if on 'p' then
    for n in names do
      match s.find? n with
      | some v => say (declareText v)
      | none =>
        complain (n ++ ascii ": not found")
        setStatus 1
  else
    for o in names do
      let (name, value) := cutAssignment o
      let (name, appends) := if value.isSome && name.getLast? = some '+' then (name.dropLast, true) else (name, false)
      let name := name.takeWhile (· ≠ '[')
      checkName name o
      if !(← get).hidden.isEmpty && !on 'g' then
        hide name
      modify fun s => s.alter name fun v =>
        { v with
          integer := (v.integer || on 'i') && !removed.contains 'i'
          recase := if on 'u' then some true else if on 'l' then some false else v.recase
          value := if on 'A' then some (match v.value with
              | some (.map items) => .map items
              | _ => .map [])
            else if on 'a' then (match v.value with
              | some (.text o) => some (.list [(0, o)])
              | none => some (.list [])
              | other => other)
            else v.value }
      match value with
      | some text =>
        let now ← get
        let isNumber := (now.find? name).any Variable.integer
        let before := if appends then (now.lookUp name).getD [] else []
        let text ← (if isNumber then Octets.ofInt <$> evaluateText text else pure (before ++ text) : Sh Octets)
        assignText name text
      | none => pure ()
      modify fun s => s.alter name fun v =>
        { v with
          readonly := v.readonly || on 'r'
          exported := (v.exported || on 'x') && !removed.contains 'x' }

def letCommand : Builtin := fun args => do
  if args.isEmpty then
    complain (ascii "expression expected")
    setStatus 1
  else
    let mut last : Int := 0
    for o in args do
      last ← evaluateText o
    setStatus (if last = 0 then 1 else 0)

def mapfileCommand : Builtin := fun args => do
  let (os, names) ← withLetters "t" "dnOsuCc" args
  setStatus 0
  let name := names.head?.getD (ascii "MAPFILE")
  let content ← (Work.readAll 0 : Work (Except Fault Octets))
  let lines := Octets.lines ((content.toOption).getD [])
  let lines := lines.drop (((os.lookup 's').bind Octets.nat?).getD 0)
  let lines := match (os.lookup 'n').bind Octets.nat? with
    | some (n + 1) => lines.take (n + 1)
    | _ => lines
  let lines := if os.any (·.1 = 't') then lines.map Octets.chomp else lines
  assignValue name (.list ((List.range lines.length).zip lines))

def shoptCommand : Builtin := fun args => do
  let (os, names) ← withLetters "supqo" "" args
  setStatus 0
  let on (c : Char) : Bool := os.any (·.1 = c)
  for o in names do
    let word := String.ofList o
    if on 's' then modify fun s => { s with switches := word :: s.switches.filter (· ≠ word) }
    else if on 'u' then modify fun s => { s with switches := s.switches.filter (· ≠ word) }
    else
      let active := (← get).switches.contains word
      if !on 'q' then say (Octets.padRight 15 o ++ ['\t'] ++ ascii (if active then "on" else "off") ++ ['\n'])
      if !active then setStatus 1

def builtinCommand (find : Octets → Sh Found) : RunningBuiltin := fun r last args => do
  match args with
  | [] => setStatus 0
  | name :: rest =>
    modify fun s => { s with command := none }
    match ← find name with
    | .builtin b => runBuiltin name false (b rest)
    | .running b => runBuiltin name false (b r last rest)
    | _ =>
      modify fun s => { s with command := some (ascii "builtin") }
      complain (name ++ ascii ": not a shell builtin")
      setStatus 1

/-- The builtins that only the rich shell has. -/
def richBuiltins : List (String × Builtin) :=
  [("declare", declareCommand), ("typeset", declareCommand), ("let", letCommand), ("mapfile", mapfileCommand),
    ("readarray", mapfileCommand), ("shopt", shoptCommand), ("enable", fun _ => setStatus 0), ("disown", fun _ => setStatus 0),
    ("caller", fun _ => setStatus 1), ("history", fun _ => setStatus 0), ("help", fun _ => setStatus 0)]

/-- What the name of a command stands for, apart from functions.  The depth bounds how often a builtin that runs
builtins may name another. -/
def findBuiltin : (depth : Nat) → Octets → Sh Found
  | 0, _ => return .program
  | depth + 1, name => do
    let word := String.ofList name
    let rich ← isRichShell
    if word = "eval" then return .running evalCommand
    else if word = "." || (rich && word = "source") then return .running sourceCommand
    else if word = "exec" then return .running execCommand
    else if word = "command" then return .running (commandCommand (findBuiltin depth))
    else if rich && word = "builtin" then return .running (builtinCommand (findBuiltin depth))
    else if word = "type" then return .builtin typeCommand
    else if word = "hash" then return .builtin hashCommand
    else
      match (if rich then richBuiltins.lookup word else none) with
      | some b => return .builtin b
      | none =>
        match (if rich && word = "chdir" then none else simpleBuiltins.lookup word) with
        | some b => return .builtin b
        | none => return .program

/-- What the name of a command stands for.  Special builtins come before functions, and all others behind. -/
def findCommand (name : Octets) : Sh Found := do
  let s ← get
  let found ← findBuiltin 8 name
  if s.dialect = .plain && specialBuiltins.contains (String.ofList name) then return found
  else
    match s.functions.lookup name with
    | some body => return .function body
    | none => return found

/-! ### The runner -/

/-- What is done when a shell ends: the trap for it is run once. -/
def atEnd (script : (last : Bool) → Octets → Sh Unit) : Sh Unit := do
  match (← get).traps.lookup 0 with
  | none => return
  | some text =>
    modify fun s => { s with traps := s.traps.filter (·.1 ≠ 0), isTrapping := true, isTested := false }
    let status := (← get).status
    script false text
    setStatus status

/-- How commands are run.  The fuel bounds how deep they nest. -/
def runner : (fuel : Nat) → Runner
  | 0 => ⟨fun _ _ => throw (.leave 2), fun _ _ => throw (.leave 2), pure ()⟩
  | fuel + 1 =>
    { run := fun last c => step (runner fuel) findCommand last c
      script := fun last text => runText (runner fuel) last text
      atEnd := atEnd fun last text => runText (runner fuel) last text }

/-- How deep commands nest at most. -/
def depth : Nat := 1000000

/-! ### The program -/

/-- Where programs are looked for when the environment does not say it. -/
def usualSearchPath : String := "/usr/local/sbin:/usr/local/bin:/usr/sbin:/usr/bin:/sbin:/bin"

/-- The variables of a shell at its beginning. -/
def firstVariables (dialect : Dialect) (environment : List (Octets × Octets)) (here : Octets) (parent : Nat) : List Variable :=
  let given := (environment.filter fun v => isName v.1).map fun (name, o) => ({ name, value := some (.text o), exported := true } : Variable)
  let own (name value : String) : Variable := { name := ascii name, value := some (.text (ascii value)) }
  let number (name : String) (n : Nat) : Variable := { name := ascii name, value := some (.text (Octets.ofNat n)) }
  let fresh : List Variable := match dialect with
    | .plain => [own "PATH" usualSearchPath, own "IFS" " \t\n", own "OPTIND" "1", own "PS1" "# ", own "PS2" "> ", own "PS4" "+ ", number "PPID" parent]
    | .rich =>
      [own "PATH" usualSearchPath, own "TERM" "dumb", own "SHELL" "/bin/bash", own "IFS" " \t\n", own "OPTIND" "1", own "OPTERR" "1", own "PS4" "+ ", number "PPID" parent, own "BASH" "/usr/bin/bash",
        own "BASH_VERSION" "5.2.15(1)-release", own "UID" "0", own "EUID" "0", own "OSTYPE" "linux-gnu",
        own "MACHTYPE" "x86_64-pc-linux-gnu", own "HOSTTYPE" "x86_64"]
  let pwd : Variable := { name := ascii "PWD", value := some (.text here), exported := true }
  let kept := given.filter fun v => v.name ≠ ascii "IFS" && v.name ≠ ascii "PWD" && v.name ≠ ascii "OPTIND" && v.name ≠ ascii "PPID"
  let kept := if dialect = .rich then
      kept.filter (·.name ≠ ascii "SHLVL") ++
        [{ name := ascii "SHLVL", exported := true
           value := some (.text (Octets.ofNat ((((given.find? (·.name = ascii "SHLVL")).bind Variable.value).bind Value.plain?).bind Octets.nat? |>.getD 0 |>.succ))) }]
    else kept
  kept ++ [pwd] ++ fresh.filter fun v => !(kept.any (·.name = v.name))

/-- What the rich shell says of options that it does not know. -/
def richUsage : Octets :=
  ascii ("Usage:\tbash [GNU long option] [option] ...\n\tbash [GNU long option] [option] script-file ...\nGNU long options:\n" ++
    "\t--debug\n\t--debugger\n\t--dump-po-strings\n\t--dump-strings\n\t--help\n\t--init-file\n\t--login\n\t--noediting\n" ++
    "\t--noprofile\n\t--norc\n\t--posix\n\t--pretty-print\n\t--rcfile\n\t--restricted\n\t--verbose\n\t--version\n" ++
    "Shell options:\n\t-ilrsD or -c command or -O shopt_option\t\t(invocation only)\n\t-abefhkmnptuvxBCEHPT or -o option\n")

/-- The long options of the rich shell that change nothing here. -/
def quietLongOptions : List String :=
  ["--norc", "--noprofile", "--posix", "--login", "--noediting", "--restricted", "--verbose", "--debug", "--debugger"]

/-- Reads the arguments of a shell and runs its script. -/
def runShell (args : List Octets) : Sh Unit := do
  let r := runner depth
  let dialect := (← get).dialect
  modify fun s => { s with line := 0 }
  let args := if dialect = .rich then args.dropWhile (fun a => quietLongOptions.contains (String.ofList a)) else args
  match args with
  | first :: _ =>
    if dialect = .rich && "--".toList.isPrefixOf first && first.length > 2 then
      report ((← get).called ++ ascii ": " ++ first ++ ascii ": invalid option\n" ++ richUsage)
      throw (.leave 2)
  | [] => pure ()
  let (operands, _) ← readOptions false 1000 args
  let s ← get
  if s.isGiven then
    match operands with
    | [] =>
      if dialect = .rich then
        report (s.called ++ ascii ": -c: option requires an argument\n")
        throw (.leave 2)
      else failWith (ascii "-c requires an argument")
    | script :: rest =>
      modify fun s =>
        let name := rest.head?.getD s.name
        { s with name, origin := name, args := rest.tail, line := 1, source := script, reading := some "-c" }
      r.script (!s.isOn 's') script
  else
    match (if s.isOn 's' then [] else operands) with
    | [] =>
      modify fun s => { s with args := operands, line := 1, options := if s.isOn 's' then s.options else 's' :: s.options }
      let content ← (Work.readAll 0 : Work (Except Fault Octets))
      r.script false ((content.toOption).getD [])
    | name :: rest =>
      let opened ← (Work.slurp name : Work (Except Fault Octets))
      match opened with
      | .ok content =>
        modify fun s => { s with name, origin := name, args := rest, line := 1, source := content }
        r.script false content
      | .error .isADirectory =>
        if dialect = .rich then
          report (name ++ ascii ": " ++ name ++ ascii ": Is a directory\n")
          throw (.leave 126)
        else setStatus 0
      | .error fault =>
        if dialect = .rich then
          report (s.called ++ ascii ": " ++ name ++ ascii ": " ++ reason fault ++ ['\n'])
          throw (.leave (match fault with
            | .system 2 => 127
            | _ => 126))
        else
          complain (ascii "cannot open " ++ name ++ ascii ": " ++ openReason false false fault)
          throw (.leave 2)

/-- The shell as a program. -/
def shell (dialect : Dialect) (image : Image) : Work Nat := do
  let (own, parent) ← Work.ask .self
  let physical ← Work.ask .here
  let here := match image.environment.lookup (ascii "PWD") with
    | some o => if o = physical then o else physical
    | none => physical
  let s : State :=
    { dialect
      name := image.name
      called := image.name
      origin := image.name
      switches := if dialect = .rich then ["globskipdots"] else []
      named := firstVariables dialect image.environment here parent
      options := if dialect = .rich then ['h', 'B', '7'] else []
      number := own
      parent
      own
      here }
  let r := runner depth
  toEnd r.atEnd s do
    runShell image.arguments

end GrammarStudio.Shell
