import GrammarStudio.LineScript.Run
import GrammarStudio.ObjectScript.Run
import GrammarStudio.RecordScript.Run
import GrammarStudio.Tools.Input

/-!
# The tools that work by a script

* `awkTool` — a script for records, with the inputs it is for;
* `sedTool` — a script that edits lines;
* `scriptTool` — a script of objects that is an argument, a file or the input, with its arguments.
-/

namespace GrammarStudio.Tools

open Machine Files RecordScript

/-- What the options of the tool say. -/
structure RecordOptions where
  assignments : List (String × Octets) := []
  /-- The texts of the script, in files. -/
  scripts : List Octets := []
  tellsVersion : Bool := false

def recordVersion : Octets :=
  ascii "mawk 1.3.4 20200120\nCopyright 2008-2019,2020, Thomas E. Dickey\nCopyright 1991-1996,2014, Michael D. Brennan\n\n"
    ++ ascii "random-funcs:       srandom/random\nregex-funcs:        internal\ncompiled limits:\nsprintf buffer      8192\n"
    ++ ascii "maximum-integer     2147483647\n"

/-- Ends the tool with a complaint about how it is used. -/
def misuseOfRecords {α : Type} (message : Octets) : Tool α := do
  complain message
  finish 2

/-- Reads the options, up to the first operand. -/
def recordOptions : (fuel : Nat) → List Octets → RecordOptions → Tool (RecordOptions × List Octets)
  | 0, args, o => return (o, args)
  | _ + 1, [], o => return (o, [])
  | fuel + 1, arg :: rest, o => do
    match arg with
    | ['-', '-'] => return (o, rest)
    | '-' :: '-' :: name =>
      if name = ascii "version" then return ({ o with tellsVersion := true }, [])
      else misuseOfRecords (ascii "not an option: " ++ arg)
    | '-' :: letter :: own =>
      if !(ascii "FvfW").contains letter then misuseOfRecords (ascii "not an option: " ++ arg)
      else
        let (value, rest) ← (match own, rest with
          | [], [] => misuseOfRecords (ascii "option " ++ arg ++ ascii " lacks argument")
          | [], value :: rest => pure (value, rest)
          | own, rest => pure (own, rest) : Tool (Octets × List Octets))
        match letter with
        | 'F' => recordOptions fuel rest { o with assignments := o.assignments ++ [("FS", unquoted (value.length + 1) value)] }
        | 'v' =>
          match assignment? value with
          | some a => recordOptions fuel rest { o with assignments := o.assignments ++ [a] }
          | none => misuseOfRecords (ascii "improper assignment: -v " ++ value)
        | 'f' => recordOptions fuel rest { o with scripts := o.scripts ++ [value] }
        | _ =>
          if (ascii "version").take value.length = value then return ({ o with tellsVersion := true }, [])
          else recordOptions fuel rest o
    | _ => return (o, arg :: rest)

/-- Works through records by a script. -/
def awkTool (args : List Octets) : Tool Unit := do
  let (given, operands) ← recordOptions (args.length + 1) args {}
  if given.tellsVersion then
    say recordVersion
    finish 0
  let (script, operands) ← (match given.scripts, operands with
    | [], [] => do
      mutter (ascii "Usage: mawk [Options] [Program] [file ...]\n")
      finish 2
    | [], script :: operands => pure (script, operands)
    | files, operands => do
      let mut parts : List Octets := []
      for name in files do
        let found ← (if name = ['-'] then content 0 else (Work.slurp name : Work (Except Fault Octets)) : Tool (Except Fault Octets))
        match found with
        | .ok o => parts := parts ++ [o]
        | .error fault => misuseOfRecords (ascii "cannot open \"" ++ name ++ ascii "\" (" ++ reason fault ++ [')'])
      return ((parts.intersperse ['\n']).flatten, operands) : Tool (Octets × List Octets))
  match Script.read script with
  | .error message =>
    let place := match given.scripts.getLast? with
      | some name => name ++ ascii ": "
      | none => []
    misuseOfRecords (place ++ message)
  | .ok script => finish (← workThroughRecords script given.assignments operands)

end GrammarStudio.Tools

namespace GrammarStudio.Tools

open Machine Files LineScript

def sedOptions : Choices :=
  withUsual
    ["n|quiet|silent", "e|expression=", "f|file=", "E|r|regexp-extended", "i|in-place=?", "l|line-length=", "s|separate", "u|unbuffered",
      "z|null-data|zero-terminated", "b|binary", "posix", "sandbox", "debug", "follow-symlinks"]

/-- How the tool is used. -/
def sedUsage : Octets :=
  let choices : List (String × List String) :=
    [(" -n, --quiet, --silent", ["suppress automatic printing of pattern space"]),
      ("     --debug", ["annotate program execution"]),
      (" -e script, --expression=script", ["add the script to the commands to be executed"]),
      (" -f script-file, --file=script-file", ["add the contents of script-file to the commands to be executed"]),
      (" --follow-symlinks", ["follow symlinks when processing in place"]),
      (" -i[SUFFIX], --in-place[=SUFFIX]", ["edit files in place (makes backup if SUFFIX supplied)"]),
      (" -l N, --line-length=N", ["specify the desired line-wrap length for the \x60l' command"]),
      (" --posix", ["disable all GNU extensions."]),
      (" -E, -r, --regexp-extended",
        ["use extended regular expressions in the script", "(for portability use POSIX -E)."]),
      (" -s, --separate", ["consider files as separate rather than as a single,", "continuous long stream."]),
      ("     --sandbox", ["operate in sandbox mode (disable e/r/w commands)."]),
      (" -u, --unbuffered",
        ["load minimal amounts of data from the input files and flush", "the output buffers more often"]),
      (" -z, --null-data", ["separate lines by NUL characters"]),
      ("     --help     display this help and exit", []),
      ("     --version  output version information and exit", [])]
  let line (indent : Nat) (text : String) : Octets := List.replicate indent ' ' ++ ascii text ++ ['\n']
  ascii "Usage: sed [OPTION]... \x7bscript-only-if-no-other-script\x7d [input-file]...\n\n"
    ++ choices.flatMap (fun c => line 1 c.1 ++ c.2.flatMap (line 17))
    ++ ascii "\nIf no -e, --expression, -f, or --file option is given, then the first\n"
    ++ ascii "non-option argument is taken as the sed script to interpret.  All\n"
    ++ ascii "remaining arguments are names of input files; if no input files are\n"
    ++ ascii "specified, then the standard input is read.\n\n"

def showSedUsage {α : Type} : Tool α := do
  flush
  mutter sedUsage
  finish 1

/-- The parts of the script among the options. -/
def scriptParts : Given → Tool (List Part)
  | [] => return []
  | ("e", o) :: rest => do return .text o :: (← scriptParts rest)
  | ("f", name) :: rest => do
    match ← (if name = ['-'] then content 0 else (Work.slurp name : Work (Except Fault Octets)) : Tool (Except Fault Octets)) with
    | .ok o => return .file name o :: (← scriptParts rest)
    | .error fault =>
      complain (ascii "couldn't open file " ++ name ++ ascii ": " ++ reason fault)
      finish 4
  | _ :: rest => scriptParts rest

/-- Works through lines by a script. -/
def sedTool (args : List Octets) : Tool Unit := do
  let (given, operands) ← (match sedOptions.read false (args.length + 1) args with
    | .ok found => pure found
    | .error misuse => do
      complain misuse.message
      showSedUsage : Tool (Given × List Octets))
  if given.has "version" then
    say (ascii "sed (GNU sed) 4.9\n")
    finish 0
  if given.has "help" then
    say sedUsage
    finish 0
  let parts ← scriptParts given
  let (parts, inputs) ← (match parts, operands with
    | [], [] => showSedUsage
    | [], script :: inputs => pure ([.text script], inputs)
    | parts, inputs => pure (parts, inputs) : Tool (List Part × List Octets))
  match Script.read (given.has "E") parts with
  | .error refusal =>
    complain refusal.message
    finish (if refusal.isLabel then 4 else 1)
  | .ok script =>
    let settings : LineScript.Manner :=
      { quiet := given.has "n", separate := given.has "s" || given.has "i", inPlace := given.value? "i"
        separator := if given.has "z" then '\x00' else '\n'
        lineLength := match given.value? "l" with
          | some o => Octets.valueIn 10 (o.takeWhile Char.isDigit)
          | none => 70 }
    finish (← workThrough script settings (inputsOf inputs))

end GrammarStudio.Tools

namespace GrammarStudio.Tools

open Machine Files ObjectScript

/-- What the options of the tool say. -/
structure ScriptOptions where
  /-- The script is an argument. -/
  command : Option Octets := none
  /-- The script is a library. -/
  library : Option Octets := none
  isRaw : Bool := false
  tellsVersion : Bool := false
  tellsUse : Bool := false
  rest : List Octets := []

def scriptUse (name : Octets) : Octets := ascii "usage: " ++ name ++ ascii " [option] ... [-c cmd | -m mod | file | -] [arg] ...\n"

/-- Ends the tool with a complaint about how it is used. -/
def misuseOfScripts {α : Type} (message : Octets) : Tool α := do
  let name := (← get).name
  mutter (message ++ ['\n'] ++ scriptUse name ++ ascii "Try `python -h' for more information.\n")
  finish 2

/-- The letters of one option, and what is left of the arguments; nothing is left where a script begins. -/
def scriptLetters : (letters : Octets) → (rest : List Octets) → ScriptOptions → Tool (ScriptOptions × Option (List Octets))
  | [], rest, o => return (o, some rest)
  | letter :: own, rest, o => do
    let value : Tool (Octets × List Octets) := do
      match own, rest with
      | [], [] => misuseOfScripts (ascii "Argument expected for the -" ++ letter :: ascii " option")
      | [], v :: rest => return (v, rest)
      | own, rest => return (own, rest)
    match letter with
    | 'c' =>
      let (v, rest) ← value
      return ({ o with command := some v, rest }, none)
    | 'm' =>
      let (v, rest) ← value
      return ({ o with library := some v, rest }, none)
    | 'W' | 'X' =>
      let (_, rest) ← value
      return (o, some rest)
    | 'u' => scriptLetters own rest { o with isRaw := true }
    | 'V' => scriptLetters own rest { o with tellsVersion := true }
    | 'h' | '?' => scriptLetters own rest { o with tellsUse := true }
    | letter =>
      if (ascii "bBdEiIOPqsStvx").contains letter then scriptLetters own rest o
      else misuseOfScripts (ascii "Unknown option: -" ++ [letter])

/-- Reads the options, up to the script. -/
def scriptOptions : (fuel : Nat) → List Octets → ScriptOptions → Tool ScriptOptions
  | 0, args, o => return { o with rest := args }
  | _ + 1, [], o => return o
  | fuel + 1, arg :: rest, o => do
    if arg = ascii "--version" then return { o with tellsVersion := true }
    else if arg = ascii "--help" then return { o with tellsUse := true }
    else if arg = ascii "--" then return { o with rest }
    else if arg = ascii "--check-hash-based-pycs" then scriptOptions fuel (rest.drop 1) o
    else
      match arg with
      | '-' :: '-' :: _ => misuseOfScripts (ascii "unknown option " ++ arg)
      | ['-'] => return { o with rest := arg :: rest }
      | '-' :: letters =>
        match ← scriptLetters letters rest o with
        | (o, some rest) => scriptOptions fuel rest o
        | (o, none) => return o
      | _ => return { o with rest := arg :: rest }

/-- Runs a script, and sets the status that it ends with. -/
def startScript (start : Start) : Tool Unit := do
  let state : Running := { file := start.file, shared := 0, heap := { things := #[.scope {}] }, arguments := start.arguments }
  let (r, _) ← ((@runScript doer start).run).run state
  match r with
  | .ok status => setStatus status
  | .error _ => setStatus 1

/-- The environment in which the characters of texts are known. -/
def knowCharacters : Tool Unit := do
  let environment := (← get).environment
  let value (name : String) : Option Octets := (environment.lookup (ascii name)).filter fun v => !v.isEmpty
  let isPlain := match (value "LC_ALL").or ((value "LC_CTYPE").or (value "LANG")) with
    | none => true
    | some v => v = ascii "C" || v = ascii "POSIX"
  if isPlain && (value "LC_ALL").isNone then
    modify fun c => { c with environment := (c.environment.filter (·.1 ≠ ascii "LC_CTYPE")) ++ [(ascii "LC_CTYPE", ascii "C.UTF-8")] }

/-- The directory of a path. -/
def placeOfScript (path : Octets) : Octets :=
  let (head, _) := splitPath (Glyphs.ofSystem path)
  Glyphs.toSystem head

/-- Runs a script that is an argument, a file or the input. -/
def scriptTool (args : List Octets) : Tool Unit := do
  let o ← scriptOptions (args.length + 1) args {}
  if o.tellsVersion then
    say (ascii "Python 3.11.2\n")
    finish 0
  if o.tellsUse then
    say (scriptUse (← get).name)
    finish 0
  knowCharacters
  let isRaw := o.isRaw || ((← environmentValue? "PYTHONUNBUFFERED").any fun v => !v.isEmpty)
  match o.command, o.library, o.rest with
  | some source, _, rest =>
    startScript { file := "<string>", source := source ++ ['\n'], showsLines := false, arguments := ascii "-c" :: rest, place := [], isRaw }
  | none, some name, _ =>
    mutter (ascii "/usr/bin/python3: No module named " ++ name ++ ['\n'])
    setStatus 1
  | none, none, path :: rest =>
    if path = ['-'] then
      match ← content 0 with
      | .ok source => startScript { file := "<stdin>", source, showsLines := false, arguments := path :: rest, place := [], isRaw }
      | .error _ => setStatus 1
    else
      let here ← ask .here
      let whole := if path.head? = some '/' then path else here ++ '/' :: path
      match ← (Work.slurp path : Work (Except Fault Octets)) with
      | .ok source =>
        let file := Octets.text whole
        startScript { file, source, showsLines := true, arguments := path :: rest, place := placeOfScript whole, isRaw }
      | .error fault =>
        let n := match fault with
          | .system n => n
          | _ => 2
        mutter ((← get).name ++ ascii ": can't open file '" ++ whole ++ ascii "': [Errno " ++ Octets.ofNat n ++ ascii "] " ++ reason fault ++ ['\n'])
        setStatus 2
  | none, none, [] =>
    match ← content 0 with
    | .ok source => startScript { file := "<stdin>", source, showsLines := false, arguments := [[]], place := [], isRaw }
    | .error _ => setStatus 1

end GrammarStudio.Tools
