import GrammarStudio.Machine.Call

/-!
# Reading and writing

* `Work.put`, `Work.readAll`, `Work.readLine` — the plain uses of a descriptor;
* `Work.slurp` — the content of a file;
* `Work.execute` — a program by its path, or a script by the program that reads it.
-/

namespace GrammarStudio.Machine

open Files

/-- The system's text for a fault, without its number. -/
def reason : Fault → Octets
  | .system n => ascii (Fault.systemText n)
  | other => ascii other.message

/-- More turns than any loop takes. -/
def endless : Nat := 1000000000000

/-- How much is read at a time. -/
def blockSize : Nat := 65536

namespace Work

def write (descriptor : Nat) (o : Octets) : Work (Except Fault Unit) :=
  if o.isEmpty then pure (.ok ()) else ask (.write descriptor o)

/-- Writes, whether or not it can be written. -/
def put (descriptor : Nat) (o : Octets) : Work Unit := do
  let _ ← write descriptor o

/-- Reads up to the end, behind pieces that were read, the latest first. -/
def readOn (descriptor : Nat) : (fuel : Nat) → List Octets → Work (Except Fault Octets)
  | 0, pieces => pure (.ok pieces.reverse.flatten)
  | fuel + 1, pieces => do
    match ← ask (.read descriptor blockSize) with
    | .error fault => pure (.error fault)
    | .ok [] => pure (.ok pieces.reverse.flatten)
    | .ok o => readOn descriptor fuel (o :: pieces)

/-- All that can be read. -/
def readAll (descriptor : Nat) : Work (Except Fault Octets) := readOn descriptor endless []

def openToRead (path : Octets) : Work (Except Fault Nat) := ask (.openFile path { reads := true } 0)

/-- Opens a file to be written from its beginning. -/
def openToWrite (path : Octets) : Work (Except Fault Nat) :=
  ask (.openFile path { writes := true, creates := true, truncates := true } 0o666)

def close (descriptor : Nat) : Work Unit := do
  let _ ← ask (.close descriptor)

/-- The content of a file. -/
def slurp (path : Octets) : Work (Except Fault Octets) := do
  match ← openToRead path with
  | .error fault => pure (.error fault)
  | .ok d => do
    let content ← readAll d
    close d
    pure content

/-- Reads one octet after the other up to a line feed, so that nothing behind it is taken from those who read next.
Behind the octets stands whether there was a line feed. -/
def readLineOn (descriptor : Nat) : (fuel : Nat) → Octets → Work (Octets × Bool)
  | 0, read => pure (read.reverse, false)
  | fuel + 1, read => do
    match ← ask (.read descriptor 1) with
    | .ok ['\n'] => pure (read.reverse, true)
    | .ok (c :: _) => readLineOn descriptor fuel (c :: read)
    | _ => pure (read.reverse, false)

def readLine (descriptor : Nat) : Work (Octets × Bool) := readLineOn descriptor endless []

/-- The program and the argument that the first line of a script names. -/
def interpreter? (script : Octets) : Option (Octets × List Octets) :=
  match script with
  | '#' :: '!' :: rest =>
    let line := Octets.dropEnd Octets.isBlank ((rest.takeWhile (· ≠ '\n')).dropWhile Octets.isBlank)
    let program := line.takeWhile (!Octets.isBlank ·)
    let argument := (line.dropWhile (!Octets.isBlank ·)).dropWhile Octets.isBlank
    if program.isEmpty then none else some (program, if argument.isEmpty then [] else [argument])
  | _ => none

/-- Gives the place of this program to what a path leads to.  It only comes back when that fails.  Scripts can name
scripts as what reads them, a few times over. -/
def executeOn (environment : List (Octets × Octets)) : (fuel : Nat) → (path name : Octets) → List Octets → Work Fault
  | 0, _, _, _ => pure (.system 40)
  | fuel + 1, path, name, arguments => do
    match ← ask (.findRunnable path) with
    | .error fault => pure fault
    | .ok (.program program) => become { program, name, arguments, environment }
    | .ok (.script content) =>
      match interpreter? content with
      | some (program, extra) => executeOn environment fuel program program (extra ++ path :: arguments)
      | none => pure (.system 8)

def execute (environment : List (Octets × Octets)) (path name : Octets) (arguments : List Octets) : Work Fault :=
  executeOn environment 5 path name arguments

/-- Looks for a program in the directories of a search path and gives the place of this program to it.  A file that is
no program and names none is a script of the plain shell. -/
def searchOn (environment : List (Octets × Octets)) (name : Octets) (arguments : List Octets) :
    List Octets → Fault → Work Fault
  | [], fault => pure fault
  | directory :: rest, fault => do
    let path := if directory.isEmpty then name else directory ++ '/' :: name
    match ← execute environment path name arguments with
    | .system 2 | .system 20 => searchOn environment name arguments rest fault
    | .system 13 => searchOn environment name arguments rest (.system 13)
    | .system 8 => execute environment (ascii "/bin/sh") (ascii "/bin/sh") (path :: arguments)
    | other => pure other

/-- Where programs are looked for when nothing says so. -/
def usualPath : Octets := ascii "/bin:/usr/bin"

/-- Runs a program by its name, with or without a slash, in the place of this one. -/
def executeByName (environment : List (Octets × Octets)) (name : Octets) (arguments : List Octets) : Work Fault :=
  if name.isEmpty then pure .notFound
  else if name.contains '/' then searchOn environment name arguments [[]] .notFound
  else
    let path := (environment.lookup (ascii "PATH")).getD usualPath
    searchOn environment name arguments (Octets.splitOn ':' path) .notFound

end Work

end GrammarStudio.Machine
