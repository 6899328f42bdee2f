import GrammarStudio.Engine.Request
import GrammarStudio.Files.Tree
import GrammarStudio.Machine.Call
import GrammarStudio.Machine.Run
import GrammarStudio.Shell.Interpreter
import GrammarStudio.Text.Blank
import GrammarStudio.Text.Utf8
import GrammarStudio.Tools.Table

/-!
# A program as an engine

An engine can be a program.  Grammar and text are put into two files that nobody else has; the program is called with
its own arguments, the options of the request and the names of the two files, and its standard output is the answer.
The system that it runs on has programs, directories and devices of its own.

* `systemPrograms`, `programs` — the programs there are;
* `systemDisk` — the directories and devices that every system has;
* `diskOf` — a disk with the files of a tree;
* `Ended` — a program that has ended, with what it wrote;
* `Ended.answer` — the answer that it gives: its standard output, unless it failed and wrote nothing there;
* `Program` — a program with its own arguments;
* `Program.arguments` — the arguments of one request;
* `Program.start` — what is run under a program's name, or why nothing is;
* `Program.call`, `Program.engine` — a request put to a program.
-/

namespace GrammarStudio.Engine

open Files Machine

/-! ### The programs there are -/

/-- The programs of the system, by their names. -/
def systemPrograms : List (String × (Image → Work Nat)) :=
  [("sh", Shell.shell .plain), ("dash", Shell.shell .plain), ("bash", Shell.shell .rich)] ++ Tools.allTools

/-- What a program does.  One that is not there ends at once. -/
def programs (image : Image) : Work Nat :=
  match systemPrograms.lookup image.program with
  | some program => program image
  | none => pure 127

/-! ### Files -/

/-- Where programs are looked for. -/
def searchPath : String := "/usr/local/sbin:/usr/local/bin:/usr/sbin:/usr/bin:/sbin:/bin"

/-- The directories that every system has. -/
def systemDirectories : List String :=
  ["dev", "etc", "home", "opt", "proc", "root", "run", "srv", "sys", "tmp", "usr/bin", "usr/lib", "usr/local/bin",
    "usr/local/sbin", "usr/sbin", "usr/share", "var/tmp"]

/-- The devices that every system has. -/
def devices : List (String × Content) :=
  [("dev/null", .void), ("dev/zero", .zeros), ("dev/full", .full), ("dev/random", .noise), ("dev/urandom", .noise),
    ("dev/tty", .terminal), ("dev/stdin", .opened 0), ("dev/stdout", .opened 1), ("dev/stderr", .opened 2)] ++
    (List.range 70).map fun n => ("dev/fd/" ++ n.repr, .opened n)

/-- The directories that are also known by shorter names. -/
def shortcuts : List (String × String) :=
  [("bin", "usr/bin"), ("sbin", "usr/sbin"), ("lib", "usr/lib"), ("proc/self/fd", "/dev/fd")]

/-- The disk of a system without anyone's files. -/
def systemDisk (now : Nat) : Disk :=
  let path (name : String) : List Octets := Disk.steps name.toList
  let d := systemDirectories.foldl (fun d name => (d.ensure now Disk.root (path name)).1) (Disk.empty now)
  let d := d.change ((d.find Disk.root (ascii "/tmp")).toOption.getD Disk.root) fun n => { n with mode := 0o1777 }
  let d := systemPrograms.foldl (fun d p => d.install now (path ("usr/bin/" ++ p.1)) (.program p.1) 0o755) d
  let d := devices.foldl (fun d x => d.install now (path x.1) x.2 0o666) d
  shortcuts.foldl (fun d x => d.install now (path x.1) (.link x.2.toList) 0o777) d

/-- A disk with the files of a tree, and the directory that relative names start from. -/
def diskOf (now : Nat) (tree : Tree) : Disk × Nat :=
  let octets (place : Place) : List Octets := place.map Octets.ofText
  let d := tree.nodes.reverse.foldl (fun d (place, node) =>
    match node with
    | .directory => (d.ensure now Disk.root (octets place)).1
    | .file content => d.install now (octets place) (.file content) 0o644) (systemDisk now)
  d.ensure now Disk.root (octets tree.here)

/-! ### Looking for programs -/

/-- The program that a path leads to. -/
def programAt (d : Disk) (place : Nat) (path : Octets) : Except Fault String := do
  match d.at? (← d.find place path) with
  | some ⟨.program name, _, _, _⟩ => .ok name
  | some ⟨.file _, mode, _, _⟩ => .error (if mode &&& 0o111 = 0 then .permissionDenied else .system 8)
  | _ => .error .permissionDenied

/-- Looks in one directory after the other. -/
def programIn (d : Disk) (place : Nat) (name : Octets) : List Octets → Fault → Except Fault String
  | [], fault => .error fault
  | directory :: rest, fault =>
    match programAt d place (directory ++ '/' :: name) with
    | .ok program => .ok program
    | .error .notFound | .error .notADirectory => programIn d place name rest fault
    | .error .permissionDenied => programIn d place name rest .permissionDenied
    | .error fault => .error fault

/-- The program that a name stands for.  A name with a slash is a path. -/
def findProgram (d : Disk) (place : Nat) (name : Octets) : Except Fault String :=
  if name.contains '\x00' then .error .zeroInArgument
  else if name.contains '/' then programAt d place name
  else if name.isEmpty then .error .notFound
  else if name.length > Machine.longestStep then .error .nameTooLong
  else programIn d place name (Octets.splitOn ':' searchPath.toList) .notFound

/-! ### What a program has answered -/

/-- A program that has ended. -/
structure Ended where
  ending : Machine.Ending
  output : ByteArray
  errors : ByteArray

namespace Ended

/-- The answer of a program.  One that fails may still have written a report. -/
def answer (e : Ended) : Except Failure String :=
  match String.fromUTF8? e.output with
  | none => .error .notText
  | some report =>
    if !e.ending.isSuccess && Text.allBlank report then
      .error (.ended e.ending.text (Text.trim (Text.readLenient e.errors)))
    else .ok report

end Ended

/-! ### Programs -/

/-- A program with the arguments that come first in every call. -/
structure Program where
  name : String
  args : List String
  deriving DecidableEq, Repr

namespace Program

/-! ### Staging -/

/-- The file a text is staged in.  Its name only has to be one that nobody else has. -/
def stagedFile (letters ending : String) : String := "/tmp/peg-playground-" ++ letters ++ ending

def grammarFile : String := stagedFile "aQ4mZt" ".peg"
def codeFile : String := stagedFile "x7Lc0v" ".txt"

/-- The disk a program finds: with the request in the two staged files, which nobody else may read. -/
def staged (d : Disk) (now : Nat) (r : Request) : Disk :=
  let put (d : Disk) (name text : String) : Disk := d.install now (Disk.steps name.toList) (.file text.toUTF8) 0o600
  put (put d grammarFile r.grammar) codeFile r.code

/-- The options of a request. -/
def options (r : Request) : List String :=
  (if r.optimize then "--opt=all" else "--opt=none") :: (if r.packrat then ["--packrat"] else [])

/-- All arguments of a call. -/
def arguments (p : Program) (r : Request) : List String := p.args ++ options r ++ [grammarFile, codeFile]

/-! ### Starting -/

/-- The longest single argument the system takes, in bytes. -/
def longestArgument : Nat := 131071

/-- How long all arguments together may be, in bytes. -/
def longestArguments : Nat := 2000000

/-- What a program is started with, or why it is not. -/
def start (d : Disk) (place : Nat) (environment : List (String × String)) (p : Program) (args : List String) :
    Except Fault Image :=
  if args.any (·.contains '\x00') then .error .zeroInArgument
  else do
    let name := Octets.ofText p.name
    let program ← findProgram d place name
    if args.any (·.utf8ByteSize > longestArgument) || (args.map fun a => a.utf8ByteSize + 9).sum > longestArguments then
      .error .argumentListTooLong
    else
      .ok { program, name, arguments := args.map Octets.ofText
            environment := environment.map fun (x, o) => (Octets.ofText x, Octets.ofText o) }

/-! ### Calling -/

/-- What every program finds in its environment, behind what it is given. -/
def usualEnvironment : List (String × String) := [("HOME", "/root"), ("PATH", searchPath)]

/-- When programs are run, in millionths of a second: some time after files with a date. -/
def now : Nat := 1735689600000000

/-- Puts a request to a program. -/
def call (p : Program) (tree : Tree) (environment : List (String × String)) (r : Request) : Except Failure Ended :=
  let environment := environment ++ usualEnvironment.filter fun v => (environment.lookup v.1).isNone
  let (d, place) := diskOf now tree
  match start d place environment p (p.arguments r) with
  | .error cause => .error (.starting p.name cause)
  | .ok image =>
    let outcome := runProgram programs (staged d now r) place now image
    .ok { ending := outcome.ending, output := Octets.bytes outcome.output, errors := Octets.bytes outcome.errors }

/-- A program as an engine. -/
def engine (p : Program) (tree : Tree) (environment : List (String × String)) : Engine := fun r => do
  (← p.call tree environment r).answer

end Program

end GrammarStudio.Engine
