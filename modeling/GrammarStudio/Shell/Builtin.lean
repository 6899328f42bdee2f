import GrammarStudio.Shell.Output
import GrammarStudio.Shell.Redirection

/-!
# Builtins

The commands that change the shell itself.  Each works on its arguments and sets the status.

* `Builtin` — such a command;
* `readCommand`, `killCommand`, `trapCommand`, … — one after the other;
* `simpleBuiltins` — those that run no other command, by name.
-/

namespace GrammarStudio.Shell

open Machine Files

abbrev Builtin := List Octets → Sh Unit

/-! ### Arguments -/

/-- A natural number as an argument. -/
def naturalArgument (o : Octets) : Sh Nat := do
  match Octets.nat? o with
  | some n =>
    if n ≤ 2147483647 then return n else failWith (ascii "Illegal number: " ++ o)
  | none => failWith (ascii "Illegal number: " ++ o)

/-- The number of an argument that may be missing, for the rich shell: anything else ends the shell, or is refused. -/
def numericArgument (ends : Bool) (o : Octets) : Sh Int := do
  match Octets.number? o with
  | some n => return n
  | none =>
    complain (o ++ ascii ": numeric argument required")
    if ends then throw (.leave 2) else throw (.failed 1)

/-- How the builtins of the rich shell are used. -/
def usageTable : List (String × String) :=
  [("alias", "[-p] [name[=value] ... ]"), ("builtin", "[shell-builtin [arg ...]]"), ("cd", "[-L|[-P [-e]] [-@]] [dir]"),
    ("command", "[-pVv] command [arg ...]"),
    ("declare", "[-aAfFgiIlnrtux] [name[=value] ...] or declare -p [-aAfFilnrtux] [name ...]"),
    ("eval", "[arg ...]"), ("exec", "[-cl] [-a name] [command [argument ...]] [redirection ...]"),
    ("export", "[-fn] [name[=value] ...] or export -p"), ("getopts", "optstring name [arg ...]"),
    ("hash", "[-lr] [-p pathname] [-dt] [name ...]"), ("jobs", "[-lnprs] [jobspec ...] or jobs -x command [args]"),
    ("mapfile", "[-d delim] [-n count] [-O origin] [-s count] [-t] [-u fd] [-C callback] [-c quantum] [array]"),
    ("printf", "[-v var] format [arguments]"), ("pwd", "[-LP]"),
    ("read", "[-ers] [-a array] [-d delim] [-i text] [-n nchars] [-N nchars] [-p prompt] [-t timeout] [-u fd] [name ...]"),
    ("readarray", "[-d delim] [-n count] [-O origin] [-s count] [-t] [-u fd] [-C callback] [-c quantum] [array]"),
    ("readonly", "[-aAf] [name[=value] ...] or readonly -p"),
    ("set", "[-abefhkmnptuvxBCEHPT] [-o option-name] [--] [-] [arg ...]"), ("shopt", "[-pqsu] [-o] [optname ...]"),
    ("times", ""), ("trap", "[-lp] [[arg] signal_spec ...]"), ("type", "[-afptP] name [name ...]"),
    ("typeset", "[-aAfFgiIlnrtux] name[=value] ... or typeset -p [-aAfFilnrtux] [name ...]"),
    ("ulimit", "[-SHabcdefiklmnpqrstuvxPRT] [limit]"), ("umask", "[-p] [-S] [mode]"), ("unalias", "[-a] name [name ...]"),
    ("unset", "[-f] [-v] [-n] [name ...]"), ("wait", "[-fn] [-p var] [id ...]")]

/-- Tells how the builtin that runs is used. -/
def tellUsage : Sh Unit := do
  let command := (← get).command.getD []
  match usageTable.lookup (String.ofList command) with
  | some how => report (command ++ ascii ": usage: " ++ command ++ (if how.isEmpty then [] else ' ' :: ascii how) ++ ['\n'])
  | none => return

/-- Options of single letters before the operands: the letters, with their values where they take one.  A letter that
is none of them is refused. -/
def options (letters withValue : List Char) : (fuel : Nat) → List Octets → Sh (List (Char × Octets) × List Octets)
  | 0, args => return ([], args)
  | _ + 1, [] => return ([], [])
  | fuel + 1, arg :: rest => do
    match arg with
    | ['-', '-'] => return ([], rest)
    | '-' :: c :: more =>
      if withValue.contains c then
        if !more.isEmpty then
          let (os, operands) ← options letters withValue fuel rest
          return ((c, more) :: os, operands)
        else
          match rest with
          | value :: rest =>
            let (os, operands) ← options letters withValue fuel rest
            return ((c, value) :: os, operands)
          | [] =>
            if ← isRichShell then
              complain ('-' :: c :: ascii ": option requires an argument")
              tellUsage
              throw (.failed 2)
            else failWith (ascii "No arg for -" ++ [c] ++ ascii " option")
      else if letters.contains c then
        let (os, operands) ← options letters withValue fuel ((if more.isEmpty then [] else ['-' :: more]) ++ rest)
        return ((c, []) :: os, operands)
      else if ← isRichShell then
        complain ('-' :: c :: ascii ": invalid option")
        tellUsage
        throw (.failed 2)
      else failWith (ascii "Illegal option -" ++ [c])
    | _ => return ([], arg :: rest)

def withLetters (letters withValue : String) (args : List Octets) : Sh (List (Char × Octets) × List Octets) :=
  options letters.toList withValue.toList 1000 args

/-! ### Leaving -/

def exitCommand : Builtin := fun args => do
  let usual := (← get).status
  match args with
  | [] => throw (.leave usual)
  | o :: _ =>
    if ← isRichShell then throw (.leave ((← numericArgument true o) % 256).toNat)
    else throw (.leave ((← naturalArgument o) % 256))

def returnCommand : Builtin := fun args => do
  let rich ← isRichShell
  match args with
  | [] => pure ()
  | o :: _ =>
    if rich then
      match Octets.number? o with
      | some n => setStatus (n % 256).toNat
      | none =>
        complain (o ++ ascii ": numeric argument required")
        setStatus 2
    else setStatus (← naturalArgument o)
  if rich && (← get).calls.isEmpty then
    complain (ascii "can only \x60return' from a function or sourced script")
    setStatus 2
  else throw .returning

/-- Leaves so many loops, or begins their next round. -/
def leaveLoops (jump : Nat → Jump) : Builtin := fun args => do
  let loops := (← get).loops
  if ← isRichShell then
    let n ← (match args with
      | [] => pure 1
      | o :: _ => numericArgument true o : Sh Int)
    if loops = 0 then
      complain (ascii "only meaningful in a \x60for', \x60while', or \x60until' loop")
      setStatus 0
    else if n ≤ 0 then
      complain (Octets.ofInt n ++ ascii ": loop count out of range")
      setStatus 1
      throw (.breaking loops)
    else
      setStatus 0
      throw (jump (min n.toNat loops))
  else
    let n ← (match args with
      | [] => pure 1
      | o :: _ => naturalArgument o : Sh Nat)
    if n = 0 then failWith (ascii "Illegal number: " ++ args.head?.getD [])
    setStatus 0
    if loops > 0 then throw (jump (min n loops))

/-! ### Variables and options -/

/-- A text between single quotes, as the plain shell writes it. -/
def singleQuoted (o : Octets) : Octets :=
  -- quotes stand between double quotes, all else between single ones
  let rec go : (fuel : Nat) → Octets → Octets
    | 0, _ => []
    | fuel + 1, s =>
      let plain := s.takeWhile (· ≠ '\'')
      let rest := s.drop plain.length
      let quotes := rest.takeWhile (· == '\'')
      let after := rest.drop quotes.length
      (if plain.isEmpty && !s.isEmpty then [] else '\'' :: plain ++ ['\'']) ++
        (if quotes.isEmpty then [] else '"' :: quotes ++ ['"']) ++ (if after.isEmpty then [] else go fuel after)
  go (o.length + 1) o

/-- A value as the rich shell tells it: between quotes where it needs them. -/
def richQuoted (o : Octets) : Octets :=
  if o.isEmpty then []
  else if o.all fun c => c.isAlphanum || (ascii "_-./:=@%+,").contains c then o
  else quotedText o

/-- A value between double quotes. -/
def doubleQuoted (o : Octets) : Octets :=
  if o.any fun c => c < ' ' || c ≥ '\x7f' then quotedText o
  else '"' :: o.flatMap (fun c => if (ascii "\"\\$\x60").contains c then ['\\', c] else [c]) ++ ['"']

def itemsText : Value → Octets
  | .text o => doubleQuoted o
  | .list items => '(' :: [' '].intercalate (items.map fun (n, o) => '[' :: Octets.ofNat n ++ ascii "]=" ++ doubleQuoted o) ++ [')']
  | .map items => '(' :: (items.flatMap fun (n, o) => '[' :: n ++ ascii "]=" ++ doubleQuoted o ++ [' ']) ++ [')']

def sortedVariables (vs : List Variable) : List Variable := vs.mergeSort fun a b => !(b.name < a.name)

/-- Tells all variables. -/
def tellVariables : Sh Unit := do
  let s ← get
  let lines := (sortedVariables s.named).filterMap fun v =>
    match v.value with
    | some (.text o) => some (v.name ++ ['='] ++ (if s.dialect = .rich then richQuoted o else singleQuoted o) ++ ['\n'])
    | some other => some (v.name ++ ['='] ++ itemsText other ++ ['\n'])
    | none => none
  say lines.flatten

def letterOf (table : List (Char × String)) (name : Octets) : Option Char :=
  (table.find? fun o => o.2.toList = name).map Prod.fst

def optionsOf (s : State) : List (Char × String) := if s.dialect = .rich then richOptionTable else optionTable

def switchOption (on : Bool) (letter : Char) : Sh Unit :=
  modify fun s => { s with options := if on then letter :: s.options.filter (· ≠ letter) else s.options.filter (· ≠ letter) }

/-- Tells which options are on. -/
def tellOptions (asCommands : Bool) : Sh Unit := do
  let s ← get
  let table := (optionsOf s).mergeSort fun a b => if s.dialect = .rich then a.2 ≤ b.2 else true
  if asCommands then
    say (table.flatMap fun (c, name) => ascii (if s.isOn c then "set -o " else "set +o ") ++ ascii name ++ ['\n'])
  else
    let head := if s.dialect = .rich then [] else ascii "Current option settings\n"
    let width := if s.dialect = .rich then 15 else 16
    say (head ++ table.flatMap fun (c, name) =>
      Octets.padRight width (ascii name) ++ (if s.dialect = .rich then ['\t'] else []) ++ ascii (if s.isOn c then "on\n" else "off\n"))

/-- Reads options before arguments, for the shell itself and for `set`.  Gives the operands, and whether there was a
mark that they follow. -/
def readOptions (started : Bool) : (fuel : Nat) → List Octets → Sh (List Octets × Bool)
  | 0, args => return (args, false)
  | _ + 1, [] => return ([], false)
  | fuel + 1, arg :: rest => do
    let s ← get
    let switch (on : Bool) (letters : List Char) (rest : List Octets) : Sh (List Octets × Bool) := do
      let mut rest := rest
      for letter in letters do
        if letter = 'o' then
          match rest with
          | [] => tellOptions !on
          | name :: more =>
            match letterOf (optionsOf s) name with
            | some c => switchOption on c
            | none =>
              if s.dialect = .rich then
                complain (name ++ ascii ": invalid option name")
                throw (if started then .failed 2 else .leave 2)
              else failWith (ascii (if on then "Illegal option -o " else "Illegal option +o ") ++ name)
            rest := more
        else if letter = 'c' && !started then modify fun s => { s with isGiven := true }
        else if (!letter.isDigit && (optionsOf s).any (·.1 = letter)) || (s.dialect = .rich && !started && (ascii "lrD").contains letter) ||
            (s.dialect = .plain && !started && letter = 'l') then
          switchOption on letter
        else if s.dialect = .rich then
          complain ((if on then '-' else '+') :: letter :: ascii ": invalid option")
          tellUsage
          throw (if started then .failed 2 else .leave 2)
        else failWith (ascii "Illegal option " ++ [if on then '-' else '+', letter])
      readOptions started fuel rest
    match arg with
    | ['-'] =>
      if started then
        switchOption false 'x'
        switchOption false 'v'
      return (rest, started && !rest.isEmpty)
    | ['-', '-'] => return (rest, true)
    | '-' :: letters => switch true letters rest
    | ['+'] => return (rest, false)
    | '+' :: letters => switch false letters rest
    | _ => return (arg :: rest, false)

def setCommand : Builtin := fun args => do
  if args.isEmpty then
    setStatus 0
    tellVariables
  else
    setStatus 0
    let (operands, marked) ← readOptions true 1000 args
    if marked || !operands.isEmpty then modify fun s => { s with args := operands }

/-- The name and the value of `name=value`. -/
def cutAssignment (o : Octets) : Octets × Option Octets :=
  let name := o.takeWhile (· ≠ '=')
  (name, if name.length < o.length then some (o.drop (name.length + 1)) else none)

def checkName (o : Octets) (whole : Octets) : Sh Unit := do
  if !isName o then
    if ← isRichShell then
      complain ('\x60' :: whole ++ ascii "': not a valid identifier")
      throw (.failed 1)
    else failWith (o ++ ascii ": bad variable name")

/-- Marks variables, and sets those that have a value. -/
def markVariables (word : String) (isMarked : Variable → Bool) (mark : Variable → Variable) : Builtin := fun args => do
  setStatus 0
  let (os, names) ← withLetters (if ← isRichShell then "pnf" else "p") "" args
  let s ← get
  if names.isEmpty then
    say (((sortedVariables s.named).filter isMarked).flatMap fun v =>
      if s.dialect = .rich then
        ascii (if word = "export" then "declare -x " else "declare -r ") ++ v.name ++
          (match v.value with
          | some o => '=' :: itemsText o
          | none => []) ++ ['\n']
      else
        ascii word ++ ' ' :: v.name ++ (match v.value.bind Value.plain? with
          | some o => '=' :: singleQuoted o
          | none => []) ++ ['\n'])
  else
    for o in names do
      let (name, value) := cutAssignment o
      checkName name o
      if os.any (·.1 = 'n') then modify fun s => s.alter name fun v => { v with exported := false }
      else
        match value with
        | some v => assignText name v
        | none => pure ()
        modify fun s => s.alter name mark

/-- Gives a function a variable of its own. -/
def hide (name : Octets) : Sh Unit := do
  let s ← get
  match s.hidden with
  | [] => pure ()
  | innermost :: around =>
    if innermost.any (·.1 = name) then pure ()
    else set { s with hidden := ((name, s.find? name) :: innermost) :: around }

def localCommand : Builtin := fun args => do
  setStatus 0
  if (← get).hidden.isEmpty then
    if ← isRichShell then
      complain (ascii "can only be used in a function")
      setStatus 1
    else failWith (ascii "not in a function")
  else
    for o in args do
      if o = ['-'] then pure ()
      else
        let (name, value) := cutAssignment o
        checkName name o
        checkReadonly name
        hide name
        match value with
        | some v => assignText name v
        | none =>
          if ← isRichShell then modify fun s => s.alter name fun v => { v with value := none, exported := false }

def unsetCommand : Builtin := fun args => do
  setStatus 0
  let (os, names) ← withLetters (if ← isRichShell then "vfn" else "vf") "" args
  for o in names do
    let functions := os.any (·.1 = 'f')
    let rich ← isRichShell
    let name := o.takeWhile (· ≠ '[')
    if functions then modify fun s => { s with functions := s.functions.filter (·.1 ≠ o) }
    else if !isName name then
      if !rich then failWith (o ++ ascii ": bad variable name")
    else if rich && name.length < o.length then
      let inner := (o.drop (name.length + 1)).dropLast
      let s ← get
      match s.value? name with
      | some (.map items) => assignValue name (.map (items.filter (·.1 ≠ inner)))
      | some (.list items) =>
        let n ← evaluateText inner
        assignValue name (.list (items.filter fun i => (i.1 : Int) ≠ n))
      | _ => pure ()
    else if rich && (← isReadonly o) then
      complain (o ++ ascii ": cannot unset: readonly variable")
      setStatus 1
    else
      let known := ((← get).find? o).isSome
      unassign o
      if rich && !known && !(os.any (·.1 = 'v')) then
        modify fun s => { s with functions := s.functions.filter (·.1 ≠ o) }

def shiftCommand : Builtin := fun args => do
  let rich ← isRichShell
  let n ← (match args with
    | [] => pure 1
    | o :: _ => if rich then numericArgument false o else do return (← naturalArgument o : Nat) : Sh Int)
  setStatus 0
  if n < 0 || n > (← get).args.length then
    if rich then
      if n < 0 then complain (Octets.ofInt n ++ ascii ": shift count out of range")
      setStatus 1
    else failWith (ascii "can't shift that many")
  else modify fun s => { s with args := s.args.drop n.toNat }

/-! ### Directories -/

/-- A path without empty steps and steps in place, where a step up takes the step before away. -/
def plainPath (path : Octets) : Octets :=
  let steps := (Octets.splitOn '/' path).filter fun p => !p.isEmpty && p ≠ ['.']
  let kept := steps.foldl (fun done p => if p = ['.', '.'] then done.drop 1 else p :: done) ([] : List Octets)
  '/' :: ['/'].intercalate kept.reverse

def changeDirectory : Builtin := fun args => do
  setStatus 0
  let (os, operands) ← withLetters "LP" "" args
  let s ← get
  let rich := s.dialect = .rich
  let physical := os.getLast?.any (·.1 = 'P')
  let (goal, tells) : Option Octets × Bool := match operands with
    | [] => (s.lookUp (ascii "HOME"), false)
    | ['-'] :: _ => (s.lookUp (ascii "OLDPWD"), true)
    | o :: _ => (some o, false)
  if rich && operands.length > 1 then
    complain (ascii "too many arguments")
    setStatus 1
  else
    match goal with
    | none =>
      if rich then
        complain (ascii (if tells then "OLDPWD not set" else "HOME not set"))
        setStatus 1
      else pure ()
    | some goal =>
      let goal := if goal.isEmpty then ['.'] else goal
      let tries : List (Octets × Bool) :=
        if goal.head? = some '/' || goal.head? = some '.' then [(goal, false)]
        else ((match s.lookUp (ascii "CDPATH") with
          | some path => (Octets.splitOn ':' path).map fun d => if d.isEmpty then (goal, false) else (d ++ '/' :: goal, true)
          | none => []) ++ [(goal, false)])
      let rec go : List (Octets × Bool) → Fault → Sh (Except Fault (Octets × Bool))
        | [], fault => return .error fault
        | (path, shown) :: rest, _ => do
          let whole := if path.head? = some '/' then path else s.here ++ '/' :: path
          let target := if physical then path else plainPath whole
          match ← ask (.enter target) with
          | .ok () => return .ok (if physical then whole else target, shown)
          | .error fault => go rest fault
      match ← go tries .notFound with
      | .error fault =>
        if rich then
          complain (goal ++ ascii ": " ++ reason fault)
          setStatus 1
        else failWith (ascii "can't cd to " ++ goal)
      | .ok (path, shown) =>
        let here ← (if physical then ask .here else pure path : Sh Octets)
        modify fun s => { (s.put (ascii "OLDPWD") s.here).put (ascii "PWD") here with here }
        if rich then modify fun s => (s.alter (ascii "OLDPWD") fun v => { v with exported := true })
        if tells || shown then say (here ++ ['\n'])

def tellDirectory : Builtin := fun args => do
  let (os, _) ← withLetters "LP" "" args
  setStatus 0
  if os.getLast?.any (·.1 = 'P') then say ((← ask .here) ++ ['\n'])
  else say ((← get).here ++ ['\n'])

/-! ### Reading a line -/

/-- Reads a line into marked octets: a backslash takes the meaning from what is behind it, unless it has none itself.
Behind it stands whether the line was complete. -/
def readMarked (descriptor : Nat) (raw : Bool) (stop : Char) (most : Option Nat) : (fuel : Nat) → Marked → Sh (Marked × Bool)
  | 0, read => return (read.reverse, false)
  | fuel + 1, read => do
    if most = some read.length then return (read.reverse, true)
    else
      match ← ask (.read descriptor 1) with
      | .ok (c :: _) =>
        if c = stop then return (read.reverse, true)
        else if c = '\\' && !raw then
          match ← ask (.read descriptor 1) with
          | .ok (d :: _) =>
            if d = '\n' then readMarked descriptor raw stop most fuel read
            else readMarked descriptor raw stop most fuel ((d, true) :: read)
          | _ => return (read.reverse, false)
        else if c = '\x00' then readMarked descriptor raw stop most fuel read
        else readMarked descriptor raw stop most fuel ((c, false) :: read)
      | _ => return (read.reverse, false)

def isSeparator (separators : Octets) (x : Char × Bool) : Bool := !x.2 && separators.contains x.1

def isBlankSeparator (separators : Octets) (x : Char × Bool) : Bool := isSeparator separators x && Octets.isBlank x.1

/-- Takes a field off a line, with what separates it from the rest. -/
def takeField (separators : Octets) (line : Marked) : Marked × Marked :=
  let field := line.takeWhile (!isSeparator separators ·)
  let rest := (line.drop field.length).dropWhile (isBlankSeparator separators)
  match rest with
  | x :: more =>
    if isSeparator separators x then (field, more.dropWhile (isBlankSeparator separators)) else (field, rest)
  | [] => (field, [])

/-- What is left for the last variable: without blanks at the end, and without a separator that only ends a field. -/
def lastField (separators : Octets) (line : Marked) : Marked :=
  let (field, rest) := takeField separators line
  if rest.isEmpty then field else (line.reverse.dropWhile (isBlankSeparator separators)).reverse

/-- Gives the fields of a line to variables; the last gets all that is left. -/
def giveFields (separators : Octets) : List Octets → Marked → Sh Unit
  | [], _ => return
  | [name], line => assignText name (lastField separators line).octets
  | name :: names, line => do
    let (field, rest) := takeField separators line
    assignText name field.octets
    giveFields separators names rest

def allFields (separators : Octets) : (fuel : Nat) → Marked → List Octets
  | 0, _ => []
  | fuel + 1, line =>
    if line.isEmpty then []
    else
      let (field, rest) := takeField separators line
      field.octets :: allFields separators fuel rest

def readCommand : Builtin := fun args => do
  let rich ← isRichShell
  let (os, names) ← withLetters (if rich then "rse" else "r") (if rich then "adinNptu" else "p") args
  let value (c : Char) : Option Octets := os.lookup c
  let raw := os.any (·.1 = 'r')
  if names.isEmpty && !rich then failWith (ascii "arg count")
  let names := if names.isEmpty && (value 'a').isNone then [ascii "REPLY"] else names
  for name in names do
    checkName name name
  let descriptor := ((value 'u').bind Octets.nat?).getD 0
  let stop := match value 'd' with
    | some (c :: _) => c
    | some [] => '\x00'
    | none => '\n'
  let most := ((value 'n').or (value 'N')).bind Octets.nat?
  let (line, complete) ← readMarked descriptor raw stop most endless []
  let separators := (← get).separators
  let trimmed := line.dropWhile (isBlankSeparator separators)
  match value 'a' with
  | some name =>
    let fields := allFields separators (line.length + 1) trimmed
    assignValue name (.list ((List.range fields.length).zip fields))
  | none =>
    if rich && os.isEmpty && args.isEmpty then assignText (ascii "REPLY") line.octets
    else if rich && names = [ascii "REPLY"] && !(args.contains (ascii "REPLY")) then assignText (ascii "REPLY") line.octets
    else if (value 'N').isSome then giveFields [] names line
    else giveFields separators names trimmed
  setStatus (if complete then 0 else 1)

/-! ### Signals -/

/-- The number of a signal by its name or number.  Only the rich shell knows the long names. -/
def signal? (rich : Bool) (o : Octets) : Option Nat :=
  match Octets.nat? o with
  | some n => if n ≤ lastSignal then some n else none
  | none =>
    let name := String.ofList (Octets.upper o)
    let name := if rich && name.startsWith "SIG" then (name.drop 3).toString else name
    if name = "EXIT" then some 0 else (signalNames.find? (·.2 = name)).map Prod.fst

def signalName (n : Nat) : Octets :=
  match signalNames.lookup n with
  | some name => ascii name
  | none =>
    if n = 0 then ascii "EXIT"
    else if n = 34 then ascii "RTMIN"
    else if n = 64 then ascii "RTMAX"
    else if n ≤ 49 then ascii "RTMIN+" ++ Octets.ofNat (n - 34)
    else ascii "RTMAX-" ++ Octets.ofNat (64 - n)

def killTargets (signal : Nat) : List Octets → Sh Unit
  | [] => return
  | o :: rest => do
    let rich ← isRichShell
    let number : Option Int := match o with
      | '%' :: _ => none
      | '-' :: more => if rich then Octets.number? o else (Octets.nat? more).map fun n => -(n : Int)
      | o => Octets.number? o
    match number with
    | none =>
      match o with
      | '%' :: _ =>
        match (← get).jobs.head? with
        | some n => let _ ← ask (.kill n signal)
        | none =>
          if rich then
            complain (o ++ ascii ": no such job")
            setStatus 1
          else failWith (ascii "No such job: " ++ o)
      | _ =>
        if rich then
          complain (o ++ ascii ": arguments must be process or job IDs")
          setStatus 1
        else failWith (ascii "Illegal number: " ++ (if o.head? = some '-' then o.drop 1 else o))
    | some n =>
      match ← ask (.kill n.natAbs signal) with
      | .ok () => pure ()
      | .error fault =>
        if rich then complain ('(' :: Octets.ofInt n ++ ascii ") - " ++ reason fault)
        else complain (reason fault ++ ['\n'])
        setStatus 1
    killTargets signal rest

def killCommand : Builtin := fun args => do
  let rich ← isRichShell
  setStatus 0
  let misused : Sh Unit :=
    failWith (ascii "Usage: kill [-s sigspec | -signum | -sigspec] [pid | job]... or\nkill -l [exitstatus]")
  let send (byOption : Bool) (name : Octets) (targets : List Octets) : Sh Unit := do
    match signal? rich name with
    | some n =>
      if targets.isEmpty then
        if rich then
          report (ascii "kill: usage: kill [-s sigspec | -n signum | -sigspec] pid | jobspec ... or kill -l [sigspec]\n")
          setStatus 2
        else misused
      else killTargets n targets
    | none =>
      if rich then
        complain (name ++ ascii ": invalid signal specification")
        setStatus 1
      else if byOption then failWith (ascii "invalid signal number or name: " ++ name)
      else failWith (ascii "Illegal option -" ++ name.take 1)
  match args with
  | [] => send true ['1', '5'] []
  | ['-', 'l'] :: rest =>
    match rest with
    | [] =>
      if rich then
        say ((List.range 64).flatMap fun i =>
          let n := i + 1
          if n = 32 || n = 33 then []
          else Octets.padLeft 2 (Octets.ofNat n) ++ ascii ") SIG" ++ signalName n ++
            (if n % 5 = 0 && n < 32 || n = 64 || (n > 34 && (n - 2) % 5 = 0) then ['\n'] else ['\t']))
      else say ((List.range 65).flatMap fun n => if n = 32 || n = 33 then Octets.ofNat n ++ ['\n'] else (if n = 0 then ['0'] else signalName n) ++ ['\n'])
    | o :: _ =>
      match Octets.nat? o with
      | some n =>
        let signal := if n > 128 then n - 128 else n
        if signal ≤ lastSignal then say (signalName signal ++ ['\n'])
        else if rich then
          complain (o ++ ascii ": invalid signal specification")
          setStatus 1
        else failWith (ascii "invalid signal number or exit status: " ++ o)
      | none =>
        match (if rich then signal? true o else none) with
        | some n => say (Octets.ofNat n ++ ['\n'])
        | none =>
          if rich then
            complain (o ++ ascii ": invalid signal specification")
            setStatus 1
          else failWith (ascii "Illegal number: " ++ o)
  | ['-', 's'] :: name :: rest => send true name rest
  | ['-', 'n'] :: name :: rest => if rich then send true name rest else failWith (ascii "Illegal option -n")
  | ['-', '-'] :: rest => send true ['1', '5'] rest
  | ('-' :: name) :: rest =>
    send false name (if rich && rest.head? = some ['-', '-'] then rest.drop 1 else rest)
  | rest => send true ['1', '5'] rest

/-- What the machine is to do with a signal that has a trap. -/
def respondTo (signal : Nat) (script : Option Octets) : Sh Unit := do
  if signal ≠ 0 then
    ask (.respond signal (match script with
      | none => .usual
      | some [] => .ignored
      | some _ => .caught))

def trapCommand : Builtin := fun args => do
  let rich ← isRichShell
  setStatus 0
  let (_, args) ← withLetters (if rich then "lp" else "") "" args
  match args with
  | [] =>
    let s ← get
    say (((s.traps.mergeSort fun a b => a.1 ≤ b.1)).flatMap fun (n, script) =>
      ascii "trap -- " ++ (if rich then quotedText script else singleQuoted script) ++ ' ' ::
        (if rich && n ≠ 0 && n < 32 then ascii "SIG" else []) ++ signalName n ++ ['\n'])
  | first :: rest =>
    let (script, names) : Option Octets × List Octets :=
      if rest.isEmpty then (none, args)
      else if (Octets.nat? first).isSome then (none, args)
      else if first = ['-'] then (none, rest) else (some first, rest)
    for name in names do
      match signal? rich name with
      | none =>
        if rich && ["ERR", "DEBUG", "RETURN"].contains (String.ofList (Octets.upper name)) then
          let n := if Octets.upper name = ascii "ERR" then 100 else if Octets.upper name = ascii "DEBUG" then 101 else 102
          modify fun s => { s with traps := (match script with
            | some text => [(n, text)]
            | none => []) ++ s.traps.filter (·.1 ≠ n) }
        else if rich then
          complain (name ++ ascii ": invalid signal specification")
          setStatus 1
        else
          report (ascii "trap: " ++ name ++ ascii ": bad trap\n")
          setStatus 1
          return
      | some n =>
        modify fun s => { s with traps := (match script with
          | some text => [(n, text)]
          | none => []) ++ s.traps.filter (·.1 ≠ n) }
        respondTo n script

def waitCommand : Builtin := fun args => do
  setStatus 0
  let (os, args) ← withLetters (if ← isRichShell then "nf" else "") "p" args
  let finished (named : Bool) (number : Nat) : Sh Ending := do
    let s ← get
    match s.outcomes.lookup number with
    | some ending =>
      set { s with outcomes := s.outcomes.filter (·.1 ≠ number) }
      return ending
    | none =>
      match ← ask (.wait (some number) true true) with
      | .ended _ ending =>
        -- an outcome can be asked for again
        modify fun s => { s with outcomes := (number, ending) :: s.outcomes, jobs := s.jobs.filter (· ≠ number) }
        if named && (← get).dialect = .plain then tellSignal number ending
        return ending
      | .interrupted => return .status (128 + ((← get).traps.find? (·.1 ≠ 0)).elim 2 Prod.fst)
      | _ => return .status 127
  match args with
  | [] =>
    if os.any (·.1 = 'n') then
      match ← ask (.wait none true true) with
      | .ended number ending =>
        modify fun s => { s with jobs := s.jobs.filter (· ≠ number) }
        setStatus ending.code
      | _ => setStatus 127
    else
      for number in (← get).jobs do
        let _ ← finished false number
      setStatus 0
  | _ =>
    for o in args do
      match o with
      | '%' :: _ =>
        match (← get).jobs.head? with
        | some n => setStatus (← finished true n).code
        | none =>
          if ← isRichShell then
            complain (o ++ ascii ": no such job")
            setStatus 127
          else failWith (ascii "No such job: " ++ o)
      | o =>
        match Octets.nat? o with
        | some n =>
          if (← get).jobs.contains n || ((← get).outcomes.lookup n).isSome then setStatus (← finished true n).code
          else
            if ← isRichShell then complain (ascii "pid " ++ o ++ ascii " is not a child of this shell")
            setStatus 127
        | none =>
          if ← isRichShell then
            complain ('\x60' :: o ++ ascii "': not a pid or valid job spec")
            setStatus 1
          else failWith (ascii "Illegal number: " ++ o)

/-! ### Other settings -/

def octalText (width n : Nat) : Octets := Octets.padLeftWith '0' width (Octets.inBase 8 n)

/-- A change of permissions in letters, such as `u=rwx,go-w`. -/
def changedMode (now : Nat) (isDirectory : Bool) (masked : Nat) (o : Octets) : Option Nat :=
  (Octets.splitOn ',' o).foldl (fun mode clause => do
    let mode ← mode
    let who := clause.takeWhile fun c => (ascii "ugoa").contains c
    let who' : Octets := if who.isEmpty then ['a'] else who
    let allowed : Nat := if who.isEmpty then 0o7777 - masked else 0o7777
    let rec go : (fuel : Nat) → Nat → Octets → Option Nat
      | 0, _, _ => none
      | _ + 1, mode, [] => some mode
      | fuel + 1, mode, sign :: rest =>
        if sign ≠ '+' && sign ≠ '-' && sign ≠ '=' then none
        else
          let letters := rest.takeWhile fun c => c ≠ '+' && c ≠ '-' && c ≠ '='
          if letters.any fun c => !(ascii "rwxXstugo").contains c then none
          else
            let has (c : Char) : Bool := letters.contains c
            let ownBits : Nat :=
              (if has 'r' then 4 else 0) + (if has 'w' then 2 else 0) +
              (if has 'x' || (has 'X' && (isDirectory || mode &&& 0o111 ≠ 0)) then 1 else 0)
            let copied : Nat := (if has 'u' then mode / 64 % 8 else 0) ||| (if has 'g' then mode / 8 % 8 else 0) |||
              (if has 'o' then mode % 8 else 0)
            let perm := ownBits ||| copied
            let isFor (c : Char) : Bool := who'.contains c || who'.contains 'a'
            let bits : Nat := ((if isFor 'u' then perm * 64 else 0) + (if isFor 'g' then perm * 8 else 0) +
              (if isFor 'o' then perm else 0) + (if has 's' && isFor 'u' then 0o4000 else 0) +
              (if has 's' && isFor 'g' then 0o2000 else 0) + (if has 't' then 0o1000 else 0)) &&& allowed
            let reach : Nat := ((if isFor 'u' then 0o4700 else 0) ||| (if isFor 'g' then 0o2070 else 0) |||
              (if isFor 'o' then 0o1007 else 0)) &&& allowed
            let mode := match sign with
              | '+' => mode ||| bits
              | '-' => mode - (mode &&& bits)
              | _ => (mode - (mode &&& reach)) ||| bits
            go fuel mode (rest.drop letters.length)
    go (clause.length + 1) mode (clause.drop who.length)) (some now)

def umaskCommand : Builtin := fun args => do
  let (os, operands) ← withLetters (if ← isRichShell then "Sp" else "S") "" args
  setStatus 0
  let mask ← ask (.mask none)
  match operands with
  | [] =>
    if os.any (·.1 = 'S') then
      let rights (n : Nat) : Octets := (if n &&& 4 = 0 then ['r'] else []) ++ (if n &&& 2 = 0 then ['w'] else []) ++
        (if n &&& 1 = 0 then ['x'] else [])
      say (ascii "u=" ++ rights (mask / 64 % 8) ++ ascii ",g=" ++ rights (mask / 8 % 8) ++ ascii ",o=" ++ rights (mask % 8) ++ ['\n'])
    else say (octalText 4 mask ++ ['\n'])
  | o :: _ =>
    let rich ← isRichShell
    if o.head?.any Char.isDigit then
      if o.all Octets.isOctal then let _ ← ask (.mask (some (Octets.valueIn 8 o % 0o1000)))
      else if rich then
        complain (o ++ ascii ": octal number out of range")
        setStatus 1
      else failWith (ascii "Illegal number: " ++ o)
    else
      match changedMode (0o777 - mask) false 0 o with
      | some mode => let _ ← ask (.mask (some (0o777 - mode % 0o1000)))
      | none =>
        if rich then
          complain ('\x60' :: o.take 1 ++ ascii "': invalid symbolic mode operator")
          setStatus 1
        else failWith (ascii "Illegal mode: " ++ o)

/-- Takes the next option of the arguments. -/
def getoptsCommand : Builtin := fun args => do
  let rich ← isRichShell
  match args with
  | spec :: name :: own =>
    let s ← get
    let words := if own.isEmpty then s.args else own
    let index := match (s.lookUp (ascii "OPTIND")).bind Octets.nat? with
      | some n => if n = 0 then 1 else n
      | none => 1
    let silent := spec.head? = some ':'
    let letter := if s.letter = 0 then 1 else s.letter
    let finish (index : Nat) (letter : Nat) : Sh Unit := do
      assignText (ascii "OPTIND") (Octets.ofNat index)
      modify fun s => { s with letter }
    let ended : Sh Unit := do
      finish index 0
      assignText name ['?']
      unassign (ascii "OPTARG")
      setStatus 1
    setStatus 0
    match words[index - 1]? with
    | none => ended
    | some word =>
      if word = ['-', '-'] then
        finish (index + 1) 0
        assignText name ['?']
        setStatus 1
      else if word.head? ≠ some '-' || word.length < 2 then ended
      else
        match word[letter]? with
        | none => ended
        | some c =>
          let more := letter + 1 < word.length
          let next : Sh Unit := if more then finish index (letter + 1) else finish (index + 1) 0
          let behind := (spec.dropWhile (· ≠ c)).drop 1
          if c = ':' || !spec.contains c then
            next
            assignText name ['?']
            if silent then assignText (ascii "OPTARG") [c]
            else
              unassign (ascii "OPTARG")
              report ((if rich then s.name ++ ascii ": illegal option -- " ++ [c]
                else ascii "Illegal option -" ++ [c]) ++ ['\n'])
          else if behind.head? = some ':' then
            if more then
              finish (index + 1) 0
              assignText name [c]
              assignText (ascii "OPTARG") (word.drop (letter + 1))
            else
              match words[index]? with
              | some value =>
                finish (index + 2) 0
                assignText name [c]
                assignText (ascii "OPTARG") value
              | none =>
                finish (index + 1) 0
                if silent then
                  assignText name [':']
                  assignText (ascii "OPTARG") [c]
                else
                  assignText name ['?']
                  unassign (ascii "OPTARG")
                  report ((if rich then s.name ++ ascii ": option requires an argument -- " ++ [c]
                    else ascii "No arg for -" ++ [c] ++ ascii " option") ++ ['\n'])
          else
            next
            assignText name [c]
            unassign (ascii "OPTARG")
  | _ =>
    if rich then
      report (ascii "getopts: usage: getopts optstring name [arg ...]\n")
      setStatus 2
    else failWith (ascii "Usage: getopts optstring var [arg...]")

def timesCommand : Builtin := fun _ => do
  setStatus 0
  say (ascii (if ← isRichShell then "0m0.000s 0m0.000s\n0m0.000s 0m0.000s\n" else "0m0.000000s 0m0.000000s\n0m0.000000s 0m0.000000s\n"))

def ulimitCommand : Builtin := fun args => do
  let (os, operands) ← withLetters "HSatfdscmlpnvwr" "" args
  setStatus 0
  if operands.isEmpty then
    say (match (os.filter fun o => o.1 ≠ 'H' && o.1 ≠ 'S').getLast?.map Prod.fst with
      | some 'n' => ascii "1048576\n"
      | some 's' => ascii "8192\n"
      | some 'w' => ascii "unlimited\n"
      | some 'r' => ascii "0\n"
      | _ => ascii "unlimited\n")

/-- There is no job control: nothing is brought to the front, or sent to the back. -/
def jobControl : Builtin := fun args => do
  if ← isRichShell then
    complain (ascii "no job control")
    setStatus 1
  else
    match args, (← get).jobs with
    | o :: _, [] => failWith (ascii "No such job: " ++ o)
    | [], [] => failWith (ascii "No current job")
    | _, _ :: _ => failWith (ascii "job %" ++ Octets.ofNat (← get).jobs.length ++ ascii " not created under job control")

def aliasCommand : Builtin := fun args => do
  setStatus 0
  let rich ← isRichShell
  let line (name value : Octets) : Octets := (if rich then ascii "alias " else []) ++ name ++ '=' :: singleQuoted value ++ ['\n']
  if args.isEmpty then say ((← get).aliases.flatMap fun (n, v) => line n v)
  else
    for o in args do
      let (name, value) := cutAssignment o
      match value with
      | some v => modify fun s => { s with aliases := (name, v) :: s.aliases.filter (·.1 ≠ name) }
      | none =>
        match (← get).aliases.lookup name with
        | some v => say (line name v)
        | none =>
          if rich then complain (name ++ ascii ": not found") else report (ascii "alias: " ++ name ++ ascii " not found\n")
          setStatus 1

def unaliasCommand : Builtin := fun args => do
  setStatus 0
  let (os, names) ← withLetters "a" "" args
  if os.any (·.1 = 'a') then modify fun s => { s with aliases := [] }
  for name in names do
    if ((← get).aliases.lookup name).isSome then
      modify fun s => { s with aliases := s.aliases.filter (·.1 ≠ name) }
    else
      if ← isRichShell then complain (name ++ ascii ": not found") else report (ascii "unalias: " ++ name ++ ascii " not found\n")
      setStatus 1

/-- The builtins that run no other command. -/
def simpleBuiltins : List (String × Builtin) :=
  [(":", fun _ => setStatus 0), ("true", fun _ => setStatus 0), ("false", fun _ => setStatus 1), ("echo", echo),
    ("printf", printf), ("test", test false), ("[", test true), ("exit", exitCommand), ("return", returnCommand),
    ("break", leaveLoops .breaking), ("continue", leaveLoops .continuing), ("shift", shiftCommand), ("set", setCommand),
    ("export", markVariables "export" Variable.exported fun v => { v with exported := true }),
    ("readonly", markVariables "readonly" Variable.readonly fun v => { v with readonly := true }),
    ("local", localCommand), ("unset", unsetCommand), ("cd", changeDirectory), ("chdir", changeDirectory),
    ("pwd", tellDirectory), ("read", readCommand), ("kill", killCommand), ("trap", trapCommand), ("wait", waitCommand),
    ("umask", umaskCommand), ("getopts", getoptsCommand), ("times", timesCommand), ("ulimit", ulimitCommand),
    ("alias", aliasCommand), ("unalias", unaliasCommand), ("bg", jobControl), ("fg", jobControl),
    ("jobs", fun args => do
      let _ ← withLetters (if ← isRichShell then "lnprsx" else "lp") "" args
      setStatus 0)]

end GrammarStudio.Shell
