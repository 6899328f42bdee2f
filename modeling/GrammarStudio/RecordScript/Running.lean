import GrammarStudio.RecordScript.Value
import GrammarStudio.RecordScript.Parts
import GrammarStudio.RecordScript.Reader
import GrammarStudio.RecordScript.Table
import GrammarStudio.Tools.Launching

/-!
# What a running script holds

* `Running`, `Run` — variables, the record at hand, the inputs and outputs; and what is done with them;
* `getVariable`, `setVariable`, `useTable` — variables;
* `getField`, `setField`, `setRecord` — the record and its fields;
* `nextMain`, `Feed` — inputs;
* `emit`, `closeNamed`, `closeAll` — outputs.
-/

namespace GrammarStudio.RecordScript

open Machine Files Tools Regex

inductive Cell where
  | value (v : Value)
  | table (t : Table)
  deriving Inhabited

/-- An input that is read record by record. -/
structure Feed where
  descriptor : Nat
  pending : Octets := []
  ended : Bool := false
  /-- The command that writes it. -/
  child : Option Nat := none

inductive OutletKind where
  | file
  | command
  deriving DecidableEq

/-- An output that is open. -/
structure Opened where
  name : Octets
  kind : OutletKind
  descriptor : Nat
  child : Option Nat := none
  /-- What is not yet written, the latest first. -/
  pending : List Octets := []
  size : Nat := 0

/-- Numbers that seem to come at random: each is the sum of two earlier ones. -/
structure Chance where
  seed : Value
  ring : Array UInt32
  at_ : Nat

structure Running where
  script : Script
  cells : Array Cell
  /-- Where the arguments of the function at hand are held. -/
  frame : Array Nat := #[]
  record : Octets := []
  fields : Array Value := #[]
  /-- A field has changed, and the record has not followed yet. -/
  stale : Bool := false
  fieldsBy : Separator := .blanks
  recordsBy : Separator := .char '\n'
  feed : Option Feed := none
  nextArgument : Nat := 1
  hadFile : Bool := false
  outlets : List Opened := []
  readers : List (Octets × Bool × Feed) := []
  /-- Which ranges of records have begun. -/
  ranges : Array Bool
  finders : Std.HashMap Octets Finder := {}
  chance : Chance

/-- Why a script goes no further with what it does. -/
inductive Stop where
  | nextRecord
  | nextFile
  | quit (status : Option Nat)
  /-- Something went wrong, and nothing more is done. -/
  | broken

abbrev Run := ExceptT Stop (StateT Running Tool)

def tool {α : Type} (t : Tool α) : Run α := (t : StateT Running Tool α)

/-! ### Variables -/

/-- The cell of a place. -/
def slot (p : Place) : Run Nat := do
  match p with
  | .shared n => return n
  | .own n => return (← get).frame.getD n 0

def cellText (s : Running) (n : Nat) (format : Octets) : Octets :=
  match s.cells[n]? with
  | some (.value v) => v.toText format
  | _ => []

/-- The format by which numbers become texts. -/
def Running.format (s : Running) : Octets := cellText s conversionFormat (ascii "%.6g")

def textOfShared (n : Nat) : Run Octets := do
  let s ← get
  return cellText s n s.format

def text (v : Value) : Run Octets := do
  match v with
  | .number _ => return v.toText (← get).format
  | v => return v.toText []

/-- Ends everything with a complaint. -/
def broken {α : Type} (message : Octets) : Run α := do
  let name := (← tool get).name
  let file ← textOfShared fileName
  let fnr ← textOfShared fileRecordNumber
  let nr ← textOfShared recordNumber
  tool (mutter (name ++ ascii ": run time error: " ++ message ++ ascii "\n\tFILENAME=\"" ++ file ++ ascii "\" FNR=" ++ fnr
    ++ ascii " NR=" ++ nr ++ ['\n']))
  throw .broken

/-- The finder of a regular expression that is a value. -/
def finderFor (o : Octets) : Run Finder := do
  match (← get).finders[o]? with
  | some f => return f
  | none =>
    match Finder.ofText flavour o with
    | .ok f =>
      modify fun s => { s with finders := s.finders.insert o f }
      return f
    | .error fault => broken (patternFault o fault)

/-- What a value says of how fields are separated. -/
def separatorOf (o : Octets) : Run Separator := do
  match o with
  | [] => return .nothing
  | [' '] => return .blanks
  | [c] => return .char c
  | o => return .fitting (← finderFor o)

/-- The same where records end at empty lines: a line feed separates fields, whatever else does. -/
def withLines (o : Octets) : Run Separator := do
  let lineFeed : Regex.Expr := .set (.single '\n')
  match o with
  | [] | [' '] => separatorOf o
  | [c] => return .fitting ((Regex.Expr.either (.set (.single c)) lineFeed).toFinder false)
  | o =>
    match Regex.read flavour o with
    | .ok e => return .fitting ((Regex.Expr.either e lineFeed).toFinder false)
    | .error fault => broken (patternFault o fault)

/-- Takes over what the separators are. -/
def updateSeparators : Run Unit := do
  let records ← textOfShared recordSeparator
  let fields ← textOfShared fieldSeparator
  let recordsBy ← (match records with
    | [] => pure .emptyLines
    | [c] => pure (.char c)
    | o => do return .fitting (← finderFor o) : Run Separator)
  let fieldsBy ← if records.isEmpty then withLines fields else separatorOf fields
  modify fun s => { s with recordsBy, fieldsBy }

/-! ### The record -/

def setCell (n : Nat) (v : Value) : Run Unit := modify fun s => { s with cells := s.cells.setIfInBounds n (.value v) }

/-- Makes a text the record. -/
def setRecord (o : Octets) : Run Unit := do
  modify fun s =>
    let fields := (s.fieldsBy.parts o).map Value.given |>.toArray
    { s with
      record := o, fields, stale := false
      cells := s.cells.setIfInBounds fieldCount (.value (.ofNat fields.size)) }

/-- The record, as its fields have made it. -/
def theRecord : Run Octets := do
  let s ← get
  if !s.stale then return s.record
  else
    let between ← textOfShared outputFieldSeparator
    let texts := s.fields.toList.map fun v => v.toText s.format
    let record := (texts.intersperse between).flatten
    set { s with record, stale := false }
    return record

def getField (n : Nat) : Run Value := do
  if n = 0 then return .given (← theRecord)
  else return (← get).fields.getD (n - 1) .unset

/-- So many fields, with empty ones behind those that are there. -/
def resized (fields : Array Value) (n : Nat) : Array Value :=
  if n ≤ fields.size then fields.extract 0 n else fields ++ Array.replicate (n - fields.size) (.text [])

def setField (n : Nat) (v : Value) : Run Unit := do
  if n = 0 then setRecord (← text v)
  else
    modify fun s =>
      let fields := (if n ≤ s.fields.size then s.fields else resized s.fields n).setIfInBounds (n - 1) v
      { s with
        fields, stale := true
        cells := s.cells.setIfInBounds fieldCount (.value (.ofNat fields.size)) }

def getVariable (p : Place) : Run Value := do
  let n ← slot p
  match (← get).cells[n]? with
  | some (.value v) => return v
  | _ => return .unset

/-- Puts a value into a variable of the script, some of which mean something to what follows. -/
def setShared (n : Nat) (v : Value) : Run Unit := do
  setCell n v
  if n = fieldCount then
    let count := (integerPart v.toNumber).toNat
    modify fun s => { s with fields := resized s.fields count, stale := true }
    let _ ← theRecord
  else if n = fieldSeparator || n = recordSeparator then updateSeparators

def setVariable (p : Place) (v : Value) : Run Unit := do
  match p with
  | .shared n => if n ≤ argumentTable then setShared n v else setCell n v
  | .own _ => setCell (← slot p) v

/-- Does something with a table, which is made if there is none. -/
def useTable {α : Type} (p : Place) (f : Table → α × Table) : Run α := do
  let n ← slot p
  modifyGet fun s =>
    let cell := s.cells.getD n (.value .unset)
    let cells := s.cells.setIfInBounds n (.value .unset)
    let (a, t) := f (match cell with
      | .table t => t
      | .value _ => {})
    (a, { s with cells := cells.setIfInBounds n (.table t) })

/-! ### Commands -/

/-- Begins a command of the shell, with its input or its output joined to this program; gives the joint and the
command's number. -/
def startCommand (environment : List (Octets × Octets)) (command : Octets) (writes : Bool) (others : List Nat) :
    Work (Nat × Nat) := do
  let (source, sink) ← Work.ask .makePipe
  let (mine, theirs) := if writes then (source, sink) else (sink, source)
  let body : Work Nat := do
    for d in mine :: others do Work.close d
    let _ ← Work.ask (.replace theirs (if writes then 1 else 0))
    Work.close theirs
    let fault ← Work.execute environment (ascii "/bin/sh") (ascii "/bin/sh") [ascii "-c", command]
    return launchStatus fault
  let child ← Work.fork body
  Work.close theirs
  return (mine, child)

/-- Waits for a command, and gives the number its end is told by. -/
def awaited (child : Nat) : Tool Nat := do
  match ← ask (.wait (some child) true false) with
  | .ended _ (.status n) => return n
  | .ended _ (.signal n) => return 256 + n
  | _ => return 0

/-! ### Outputs -/

def flushOpened (o : Opened) : Tool Opened := do
  if o.size = 0 then return o
  else
    (Work.put o.descriptor o.pending.reverse.flatten : Work Unit)
    return { o with pending := [], size := 0 }

/-- Writes all that is held back. -/
def flushAll : Run Unit := do
  let s ← get
  let mut outlets : List Opened := []
  for o in s.outlets do outlets := outlets ++ [← tool (flushOpened o)]
  modify fun s => { s with outlets }
  tool flush

/-- The descriptors of all that is open. -/
def Running.descriptors (s : Running) : List Nat :=
  s.outlets.map Opened.descriptor ++ s.readers.map (fun r => r.2.2.descriptor)

/-- Opens an output, or says why that cannot be done. -/
def openOutlet (name : Octets) (kind : OutletKind) (appends : Bool) : Run Opened := do
  match kind with
  | .command =>
    flushAll
    let environment := (← tool get).environment
    let others := (← get).descriptors
    let (descriptor, child) ← tool (startCommand environment name false others : Work (Nat × Nat))
    return { name, kind, descriptor, child := some child }
  | .file =>
    match ← tool (ask (.openFile name { writes := true, creates := true, truncates := !appends, appends } 0o666)) with
    | .ok descriptor => return { name, kind, descriptor }
    | .error fault =>
      let own := (← tool get).name
      tool (mutter (own ++ ascii ": cannot open \"" ++ name ++ ascii "\" for output (" ++ reason fault ++ ascii ")\n"))
      throw .broken

def isStandardOutput (name : Octets) : Bool := name = ['-'] || name = ascii "/dev/stdout"

/-- Writes to an output that has a name; the one that was written to last comes first. -/
def emitTo (name : Octets) (kind : OutletKind) (appends : Bool) (o : Octets) : Run Unit := do
  if kind = .file && isStandardOutput name then tool (say o)
  else if kind = .file && name = ascii "/dev/stderr" then tool (mutter o)
  else
    let known := (← get).outlets.find? fun x => x.name = name && x.kind = kind
    let opened ← match known with
      | some x => pure x
      | none => openOutlet name kind appends
    let opened := { opened with pending := o :: opened.pending, size := opened.size + o.length }
    let opened ← if opened.size ≥ heldBack then tool (flushOpened opened) else pure opened
    modify fun s => { s with outlets := opened :: s.outlets.filter fun x => !(x.name = name && x.kind = kind) }

/-- Closes an output, and gives the number its end is told by. -/
def closeOpened (o : Opened) : Tool Nat := do
  let o ← flushOpened o
  (Work.close o.descriptor : Work Unit)
  match o.child with
  | some child => awaited child
  | none => return 0

/-- Closes all outputs, the latest first. -/
def closeAll : StateT Running Tool Unit := do
  let outlets := (← get).outlets
  modify fun s => { s with outlets := [] }
  for o in outlets do
    let _ ← (closeOpened o : Tool Nat)

/-- Closes all that has a name; gives the number by which the end of the last is told, or less than zero if there is
nothing of that name. -/
def closeNamed (name : Octets) : Run Int := do
  let s ← get
  let mut result : Int := -1
  for o in s.outlets.filter (·.name = name) do result := ← tool (closeOpened o)
  for (_, _, feed) in s.readers.filter (·.1 = name) do
    tool (Work.close feed.descriptor : Work Unit)
    result := ← match feed.child with
      | some child => (fun n => (n : Int)) <$> tool (awaited child)
      | none => pure 0
  modify fun s => { s with outlets := s.outlets.filter (·.name ≠ name), readers := s.readers.filter (·.1 ≠ name) }
  return result

/-! ### Inputs -/

/-- The next record of an input. -/
def Feed.next (by_ : Separator) : (fuel : Nat) → Feed → Tool (Except Files.Fault (Option Octets) × Feed)
  | 0, feed => return (.ok none, feed)
  | fuel + 1, feed => do
    match by_.record? feed.ended feed.pending with
    | some (record, pending) => return (.ok (some record), { feed with pending })
    | none =>
      if feed.ended then return (.ok none, feed)
      else
        match ← ask (.read feed.descriptor blockSize) with
        | .error fault => return (.error fault, { feed with ended := true })
        | .ok [] => Feed.next by_ fuel { feed with ended := true }
        | .ok o => Feed.next by_ fuel { feed with pending := feed.pending ++ o }

/-- An assignment among the operands: a name, and a value. -/
def assignment? (o : Octets) : Option (String × Octets) :=
  let name := o.takeWhile isNamePart
  match o.drop name.length with
  | '=' :: value => if name.head?.any isNameStart then some (String.ofList name, unquoted (value.length + 1) value) else none
  | _ => none

/-- Carries out an assignment to a name, which the script may not know. -/
def assignByName (name : String) (value : Octets) : Run Unit := do
  match (← get).script.names.findIdx? (· == name) with
  | some n => setVariable (.shared n) (.given value)
  | none => return

def addOne (n : Nat) : Run Unit := do
  let v ← getVariable (.shared n)
  setCell n (.number (v.toNumber + 1))

/-- Opens the next of the inputs that the operands name; there is the standard input if they name none. -/
def openNext : (fuel : Nat) → Run Bool
  | 0 => return false
  | fuel + 1 => do
    let s ← get
    let count := (integerPart (← getVariable (.shared argumentCount)).toNumber).toNat
    if s.nextArgument ≥ count then
      if s.hadFile then return false
      else
        set { s with hadFile := true, feed := some { descriptor := 0 } }
        setCell fileRecordNumber (.number 0)
        return true
    else
      set { s with nextArgument := s.nextArgument + 1 }
      let value ← useTable (.shared argumentTable) fun t => let (t, v) := t.find (.number s.nextArgument); (v, t)
      let o ← text (value.getD .unset)
      if o.isEmpty then openNext fuel
      else
        match assignment? o with
        | some (name, value) =>
          assignByName name value
          openNext fuel
        | none =>
          modify fun s => { s with hadFile := true }
          setCell fileName (.given o)
          setCell fileRecordNumber (.number 0)
          if o = ['-'] || o = ascii "/dev/stdin" then
            modify fun s => { s with feed := some { descriptor := 0 } }
            return true
          else
            match ← tool (Work.openToRead o : Work (Except Files.Fault Nat)) with
            | .ok descriptor =>
              modify fun s => { s with feed := some { descriptor } }
              return true
            | .error fault =>
              let own := (← tool get).name
              tool (mutter (own ++ ascii ": cannot open \"" ++ o ++ ascii "\" (" ++ reason fault ++ ascii ")\n"))
              throw .broken

/-- Ends everything, since an input cannot be read on. -/
def unreadable {α : Type} (fault : Files.Fault) : Run α := do
  let own := (← tool get).name
  tool (mutter (own ++ ascii ": read error (" ++ reason fault ++ ascii ")\n"))
  throw .broken

def closeFeed : Run Unit := do
  match (← get).feed with
  | some feed =>
    if feed.descriptor ≠ 0 then tool (Work.close feed.descriptor : Work Unit)
    modify fun s => { s with feed := none }
  | none => return

/-- The next record of the inputs together. -/
def nextMain : (fuel : Nat) → Run (Option Octets)
  | 0 => return none
  | fuel + 1 => do
    match (← get).feed with
    | some feed =>
      let by_ := (← get).recordsBy
      let (found, feed) ← tool (feed.next by_ endless)
      match found with
      | .ok (some record) =>
        modify fun s => { s with feed := some feed }
        addOne recordNumber
        addOne fileRecordNumber
        return some record
      | .ok none =>
        closeFeed
        nextMain fuel
      | .error fault => unreadable fault
    | none => if ← openNext endless then nextMain fuel else return none

/-- The next record of an input that has a name, and what reading it is told by: one, zero at the end, or less if it
cannot be read. -/
def nextOf (name : Octets) (isCommand : Bool) : Run (Option Octets × Int) := do
  let s ← get
  let known := s.readers.find? fun r => r.1 = name && r.2.1 == isCommand
  let feed ← (match known with
    | some (_, _, feed) => return some feed
    | none =>
      if isCommand then do
        flushAll
        let environment := (← tool get).environment
        let (descriptor, child) ← tool (startCommand environment name true s.descriptors : Work (Nat × Nat))
        return some { descriptor, child := some child }
      else if name = ['-'] || name = ascii "/dev/stdin" then return some { descriptor := 0 }
      else do
        match ← tool (Work.openToRead name : Work (Except Files.Fault Nat)) with
        | .ok descriptor => return some { descriptor }
        | .error _ => return none : Run (Option Feed))
  match feed with
  | none => return (none, -1)
  | some feed =>
    let (found, feed) ← tool (feed.next s.recordsBy endless)
    modify fun s => { s with readers := (name, isCommand, feed) :: s.readers.filter fun r => !(r.1 = name && r.2.1 == isCommand) }
    match found with
    | .ok (some record) => return (some record, 1)
    | .ok none => return (none, 0)
    | .error fault => unreadable fault

/-! ### Chance -/

/-- One number further. -/
def Chance.turned (c : Chance) : Chance :=
  let n := c.ring.getD c.at_ 0 + c.ring.getD ((c.at_ + 28) % 31) 0
  { c with ring := c.ring.setIfInBounds c.at_ n, at_ := (c.at_ + 1) % 31 }

/-- The numbers that follow from a seed.  The first ones are passed over. -/
def Chance.ofSeed (seed : Value) : Chance :=
  let n := integerPart seed.toNumber % 4294967296
  let n := if n = 0 then 1 else if n ≥ 2147483648 then n - 4294967296 else n
  let first : Array Int := (List.range 30).foldl (fun a _ =>
    let w := Int.tmod (16807 * a.getD (a.size - 1) 1) 2147483647
    a.push (if w < 0 then w + 2147483647 else w)) #[n]
  let start : Chance := { seed, ring := first.map fun w => UInt32.ofNat (w % 4294967296).toNat, at_ := 3 }
  (List.range 310).foldl (fun c _ => c.turned) start

/-- The number drawn last, between zero and one. -/
def Chance.number (c : Chance) : Float :=
  let n := c.ring.getD ((c.at_ + 30) % 31) 0
  (n.toNat / 2).toFloat / 2147483647

end GrammarStudio.RecordScript
