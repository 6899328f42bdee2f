import GrammarStudio.Calendar.Written
import GrammarStudio.RecordScript.Running

/-!
# Running a script for records

* `eval`, `exec` — the value of an expression, and what comes of a statement;
* `Flow` — how a statement ends;
* `workThroughRecords` — a script with all its input.

The fuel bounds how deep calls nest and how long loops run; there is more of it than any run uses up.
-/

namespace GrammarStudio.RecordScript

open Machine Files Tools Regex Number

/-- How a statement ends. -/
inductive Flow where
  | goesOn
  | leavesLoop
  | nextRound
  | givesBack (v : Value)

/-- What is assigned to, when all that says so is known. -/
inductive Spot where
  | variable (p : Place)
  | field (n : Nat)
  | element (table : Place) (key : Key)

def Spot.get : Spot → Run Value
  | .variable p => getVariable p
  | .field n => getField n
  | .element table key => useTable table fun t => let (t, v) := t.reach key; (v, t)

def Spot.set (v : Value) : Spot → Run Unit
  | .variable p => setVariable p v
  | .field n => setField n v
  | .element table key => useTable table fun t => ((), t.put key v)

/-! ### Reckoning -/

def Arith.apply (op : Arith) (x y : Float) : Float :=
  match op with
  | .add => x + y
  | .subtract => x - y
  | .multiply => x * y
  | .divide => x / y
  | .remainder => RecordScript.remainder x y
  | .power => x ^ y

/-- The key that a value is. -/
def keyOf (v : Value) : Run Key := do
  match v with
  | .number x =>
    let n := integerPart x
    if Float.ofInt n == x then return .number n else return .text (← text v)
  | v => return .text (← text v)

/-- The key that several values make together. -/
def keyOfAll (vs : List Value) : Run Key := do
  match vs with
  | [v] => keyOf v
  | vs =>
    let between ← textOfShared keySeparator
    let texts ← vs.mapM text
    return .text (texts.intersperse between).flatten

/-- The part of a text from a place on, counted from one, with so many characters. -/
def partOf (o : Octets) (start : Float) (count : Option Float) : Octets :=
  let from_ := integerPart start
  let until_ : Int := match count with
    | some n => from_ + integerPart n
    | none => o.length + 1
  let from_ := max from_ 1
  (o.drop (from_ - 1).toNat).take (until_ - from_).toNat

/-- The finder that a value is, or that stands in the script. -/
def finderIn (v : Value ⊕ Finder) : Run Finder := do
  match v with
  | .inl v => finderFor (← text v)
  | .inr f => return f

/-- Where a finder fits a text first. -/
def fitsIn (f : Finder) (o : Octets) : Bool := f.isIn o

/-- The seconds of a time that is written as numbers. -/
def secondsOf (o : Octets) : Int :=
  match (Octets.words o).mapM Octets.number? with
  | some (year :: month :: day :: hour :: minute :: second :: _) =>
    let months := year * 12 + (month - 1)
    Calendar.daysTo (months.fdiv 12) ((months % 12).toNat + 1) 1 * 86400 + (day - 1) * 86400 + hour * 3600 + minute * 60 + second
  | _ => -1

/-- Sends a command to the shell and waits for it. -/
def runCommand (command : Octets) : Run Nat := do
  flushAll
  let environment := (← tool get).environment
  let body : Work Nat := do
    let fault ← Work.execute environment (ascii "/bin/sh") (ascii "/bin/sh") [ascii "-c", command]
    return launchStatus fault
  let child ← tool (Work.fork body : Work Nat)
  tool (awaited child)

/-- The functions that need nothing but values. -/
def callBuiltin (b : Builtin) (args : List Value) : Run Value := do
  let first := args.headD .unset
  let x := first.toNumber
  let ofFloat (y : Float) : Run Value := return .number y
  match b, args with
  | .length, [] => return .ofNat (← theRecord).length
  | .length, _ => return .ofNat (← text first).length
  | .substr, [v, start] => return .text (partOf (← text v) start.toNumber none)
  | .substr, [v, start, count] => return .text (partOf (← text v) start.toNumber (some count.toNumber))
  | .index, [a, b] =>
    match Octets.find? (← text b) 1 (← text a) with
    | some n => return .ofNat n
    | none => return .ofNat 0
  | .sprintf, format :: values =>
    let format ← text format
    match write (← get).format format values with
    | (o, none) => return .text o
    | (_, some fault) => broken (fault.message "sprintf" format)
  | .lower, _ => return .text (Octets.lower (← text first))
  | .upper, _ => return .text (Octets.upper (← text first))
  | .sine, _ => ofFloat x.sin
  | .cosine, _ => ofFloat x.cos
  | .arcTangent, [a, b] => ofFloat (Float.atan2 a.toNumber b.toNumber)
  | .exponential, _ => ofFloat x.exp
  | .logarithm, _ => ofFloat x.log
  | .root, _ => ofFloat x.sqrt
  | .integer, _ => ofFloat (truncated x)
  | .random, _ =>
    modify fun s => { s with chance := s.chance.turned }
    ofFloat (← get).chance.number
  | .seed, _ =>
    let before := (← get).chance.seed
    let seed ← match args with
      | [] => (fun now => .ofNat (now / 1000000)) <$> tool (ask .now)
      | v :: _ => pure v
    modify fun s => { s with chance := .ofSeed seed }
    return before
  | .close, _ => return .ofInt (← closeNamed (← text first))
  | .flush, [] =>
    flushAll
    return .number 0
  | .flush, _ =>
    let name ← text first
    let known := (← get).outlets.any (·.name = name)
    flushAll
    return .number (if known || isStandardOutput name then 0 else -1)
  | .system, _ => return .ofNat (← runCommand (← text first))
  | .time, _ => return .ofNat ((← tool (ask .now)) / 1000000)
  | .timeText, args =>
    let now ← tool (ask .now)
    let format ← match args with
      | [] => pure (ascii "%c")
      | v :: _ => text v
    let seconds : Int := match args with
      | _ :: v :: _ => integerPart v.toNumber
      | _ => now / 1000000
    return .text (Calendar.write (Calendar.Moment.ofSeconds seconds) 0 format)
  | .timeOf, _ => return .ofInt (secondsOf (← text first))
  | _, _ => return .unset

/-- Makes the parts of a text the elements of a table, and counts them. -/
def splitInto (table : Place) (by_ : Separator) (o : Octets) : Run Value := do
  let parts := by_.parts o
  useTable table fun _ => ((), Table.ofParts (parts.map Value.given))
  return .ofNat parts.length

/-- Writes values in a row. -/
def printText (vs : List Value) : Run Octets := do
  let s ← get
  let end_ ← textOfShared outputRecordSeparator
  match vs with
  | [] => return (← theRecord) ++ end_
  | vs =>
    let format := cellText s outputFormat []
    let between ← textOfShared outputFieldSeparator
    return ((vs.map (·.toText format)).intersperse between).flatten ++ end_

/-- Takes over a record that was read, as the record or as the value of something. -/
def takeOver (spot : Option Spot) (record : Octets) : Run Unit := do
  match spot with
  | some spot => spot.set (.given record)
  | none => setRecord record

/-- Lets others go on, now and then. -/
def rest (fuel : Nat) : Run Unit := if fuel % 128 = 0 then tool (Work.pause : Work Unit) else return

/-- Moves a new frame in, with the cells of a function's arguments, for as long as something runs. -/
def withFrame (slots : List (Nat ⊕ Cell)) (body : Run Flow) : Run Value := do
  let (size, before) ← (modifyGet fun s =>
    let cells := s.cells
    let size := cells.size
    let before := s.frame
    -- taken out, so that nobody else holds the cells while they grow
    let s := { s with cells := #[], frame := #[] }
    let (cells, frame) := slots.foldl (fun (cells, frame) x =>
      match x with
      | .inl n => (cells, frame.push n)
      | .inr cell => (cells.push cell, frame.push cells.size)) (cells, (#[] : Array Nat))
    ((size, before), { s with cells, frame }) : Run (Nat × Array Nat))
  let flow ← body
  modify fun s =>
    let cells := s.cells
    let s := { s with cells := #[], frame := before }
    { s with cells := cells.shrink size }
  match flow with
  | .givesBack v => return v
  | _ => return .unset

mutual

/-- The value of an expression. -/
def eval : (fuel : Nat) → Expr → Run Value
  | 0, _ => return .unset
  | fuel + 1, e => do
    match e with
    | .number x => return .number x
    | .text o => return .text o
    | .sought f => return .ofBool (fitsIn f (← theRecord))
    | .value t =>
      match t with
      | .variable p => getVariable p
      | t => (← spot fuel t).get
    | .assign t op e =>
      let place ← spot fuel t
      let v ← eval fuel e
      let v ← match op with
        | none => pure v
        | some op => (fun before => .number (op.apply before.toNumber v.toNumber)) <$> place.get
      place.set v
      return v
    | .step t up givesNew =>
      let place ← spot fuel t
      let x := (← place.get).toNumber
      let y := if up then x + 1 else x - 1
      place.set (.number y)
      return .number (if givesNew then y else x)
    | .choose test yes no => if (← eval fuel test).holds then eval fuel yes else eval fuel no
    | .either a b => if (← eval fuel a).holds then return .ofBool true else return .ofBool (← eval fuel b).holds
    | .both a b => if (← eval fuel a).holds then return .ofBool (← eval fuel b).holds else return .ofBool false
    | .isIn keys table =>
      let key ← keyOfAll (← evalAll fuel keys)
      useTable table fun t => let (t, v) := t.find key; (.ofBool v.isSome, t)
    | .fits negated e pattern =>
      let o ← text (← eval fuel e)
      let f ← finderIn (← soughtOf fuel pattern)
      return .ofBool (fitsIn f o != negated)
    | .compare r a b =>
      let x ← eval fuel a
      let y ← eval fuel b
      return .ofBool (r.holds (Value.order (← get).format x y))
    | .join a b =>
      let x ← text (← eval fuel a)
      let y ← text (← eval fuel b)
      return .text (x ++ y)
    | .reckon op a b =>
      let x ← eval fuel a
      let y ← eval fuel b
      return .number (op.apply x.toNumber y.toNumber)
    | .negation e => return .ofBool !(← eval fuel e).holds
    | .minus e => return .number (-(← eval fuel e).toNumber)
    | .plus e => return .number (← eval fuel e).toNumber
    | .call n args =>
      let f := (← get).script.functions.getD n default
      rest fuel
      let slots ← handOver fuel f 0 args
      withFrame slots (exec fuel f.body)
    | .builtin b args =>
      match b, args with
      | .length, [.value (.variable p)] =>
        let n ← slot p
        match (← get).cells[n]? with
        | some (.table t) => return .ofNat t.size
        | some (.value v) => return .ofNat (← text v).length
        | none => return .ofNat 0
      | .split, whole :: .value (.variable table) :: separator =>
        let o ← text (← eval fuel whole)
        let by_ ← match separator with
          | [] => (·.fieldsBy) <$> get
          | .sought f :: _ => pure (.fitting f)
          | e :: _ => separatorOf (← text (← eval fuel e))
        splitInto table by_ o
      | .sub, pattern :: replacement :: more => replaceIn fuel false pattern replacement more
      | .gsub, pattern :: replacement :: more => replaceIn fuel true pattern replacement more
      | .matchText, [whole, pattern] =>
        let o ← text (← eval fuel whole)
        let f ← finderIn (← soughtOf fuel pattern)
        let (start, length) : Nat × Int := match firstMatch f o.toArray 0 with
          | some (a, b) => (a + 1, b - a)
          | none => (0, -1)
        setCell matchStart (.ofNat start)
        setCell matchLength (.ofInt length)
        return .ofNat start
      | b, args => callBuiltin b (← evalAll fuel args)
    | .getline t =>
      let place ← spot? fuel t
      match ← nextMain endless with
      | some record =>
        takeOver place record
        return .number 1
      | none => return .number 0
    | .getlineFrom file t =>
      let place ← spot? fuel t
      let name ← text (← eval fuel file)
      let (record, result) ← nextOf name false
      match record with
      | some record => takeOver place record
      | none => pure ()
      return .ofInt result
    | .getlineOf command t =>
      let name ← text (← eval fuel command)
      let place ← spot? fuel t
      let (record, result) ← nextOf name true
      match record with
      | some record => takeOver place record
      | none => pure ()
      return .ofInt result

def evalAll : (fuel : Nat) → List Expr → Run (List Value)
  | 0, _ => return []
  | _ + 1, [] => return []
  | fuel + 1, e :: es => do
    let v ← eval fuel e
    return v :: (← evalAll fuel es)

/-- What is looked for: an expression of the script, or one that is a value. -/
def soughtOf : (fuel : Nat) → Expr → Run (Value ⊕ Finder)
  | 0, _ => return .inl .unset
  | fuel + 1, e => do
    match e with
    | .sought f => return .inr f
    | e => return .inl (← eval fuel e)

def spot : (fuel : Nat) → Target → Run Spot
  | 0, _ => return .field 0
  | fuel + 1, t => do
    match t with
    | .variable p => return .variable p
    | .field e =>
      let v ← eval fuel e
      let n := integerPart v.toNumber
      if n < 0 then broken (ascii "negative field index $" ++ Octets.ofInt n)
      return .field n.toNat
    | .element table keys => return .element table (← keyOfAll (← evalAll fuel keys))

def spot? : (fuel : Nat) → Option Target → Run (Option Spot)
  | 0, _ => return none
  | _ + 1, none => return none
  | fuel + 1, some t => some <$> spot fuel t

/-- What a function gets as its arguments: the cells of tables, and new cells for all others. -/
def handOver : (fuel : Nat) → Function → (position : Nat) → List Expr → Run (List (Nat ⊕ Cell))
  | 0, _, _, _ => return []
  | fuel + 1, f, position, args => do
    if position ≥ f.arguments then return []
    else
      let isTable := f.tables.contains position
      let first : Nat ⊕ Cell ← match args, isTable with
        | .value (.variable p) :: _, true => .inl <$> slot p
        | _, true => pure (.inr (.table {}))
        | e :: _, false => (fun v => .inr (.value v)) <$> eval fuel e
        | [], false => pure (.inr (.value .unset))
      return first :: (← handOver fuel f (position + 1) args.tail)

/-- Replaces matches in what the last argument names, or in the record. -/
def replaceIn : (fuel : Nat) → (all : Bool) → (pattern replacement : Expr) → List Expr → Run Value
  | 0, _, _, _, _ => return .unset
  | fuel + 1, all, pattern, replacement, more => do
    let f ← finderIn (← soughtOf fuel pattern)
    let by_ ← text (← eval fuel replacement)
    let place ← match more with
      | .value t :: _ => some <$> spot fuel t
      | [] => pure (some (.field 0))
      | _ => pure none
    let o ← match place, more with
      | some place, _ => text (← place.get)
      | none, e :: _ => text (← eval fuel e)
      | none, [] => pure []
    let (count, result) := replaced f all by_ o
    match place with
    | some place => if count > 0 then place.set (.text result)
    | none => pure ()
    return .ofNat count

/-- Writes to where the output of a statement goes. -/
def emit : (fuel : Nat) → Option Outlet → Octets → Run Unit
  | 0, _, _ => return
  | fuel + 1, outlet, o => do
    match outlet with
    | none => tool (say o)
    | some (.file e) => emitTo (← text (← eval fuel e)) .file false o
    | some (.append e) => emitTo (← text (← eval fuel e)) .file true o
    | some (.command e) => emitTo (← text (← eval fuel e)) .command false o

/-- Carries out a statement. -/
def exec : (fuel : Nat) → Statement → Run Flow
  | 0, _ => return .goesOn
  | fuel + 1, s => do
    match s with
    | .nothing => return .goesOn
    | .eval e =>
      let _ ← eval fuel e
      return .goesOn
    | .print args outlet =>
      let vs ← evalAll fuel args
      emit fuel outlet (← printText vs)
      return .goesOn
    | .printf args outlet =>
      match ← evalAll fuel args with
      | [] => return .goesOn
      | format :: values =>
        let format ← text format
        let (o, fault) := write (← get).format format values
        emit fuel outlet o
        match fault with
        | some fault => broken (fault.message "printf" format)
        | none => return .goesOn
    | .delete table keys =>
      let key ← keyOfAll (← evalAll fuel keys)
      useTable table fun t => ((), t.erase key)
      return .goesOn
    | .clear table =>
      useTable table fun _ => ((), {})
      return .goesOn
    | .block body => execAll fuel body
    | .branch test yes no => if (← eval fuel test).holds then exec fuel yes else exec fuel no
    | .whileTrue test body => rounds fuel (some test) .nothing body
    | .untilFalse body test =>
      match ← exec fuel body with
      | .leavesLoop => return .goesOn
      | .givesBack v => return .givesBack v
      | _ => rounds fuel (some test) .nothing body
    | .counted start test step body =>
      let _ ← exec fuel start
      rounds fuel test step body
    | .forKeys t table body =>
      let keys ← useTable table Table.keys
      forEach fuel t keys body
    | .leaveLoop => return .leavesLoop
    | .nextRound => return .nextRound
    | .nextRecord => throw .nextRecord
    | .nextFile => throw .nextFile
    | .quit status =>
      match status with
      | some e =>
        let n := integerPart (← eval fuel e).toNumber
        throw (.quit (some (n % 256).toNat))
      | none => throw (.quit none)
    | .giveBack e =>
      match e with
      | some e => return .givesBack (← eval fuel e)
      | none => return .givesBack .unset

def execAll : (fuel : Nat) → List Statement → Run Flow
  | 0, _ => return .goesOn
  | _ + 1, [] => return .goesOn
  | fuel + 1, s :: rest => do
    match ← exec fuel s with
    | .goesOn => execAll fuel rest
    | flow => return flow

/-- The rounds of a loop, as long as its test holds. -/
def rounds : (fuel : Nat) → (test : Option Expr) → (step body : Statement) → Run Flow
  | 0, _, _, _ => return .goesOn
  | fuel + 1, test, step, body => do
    rest fuel
    let goesOn ← match test with
      | some e => Value.holds <$> eval fuel e
      | none => pure true
    if !goesOn then return .goesOn
    else
      match ← exec fuel body with
      | .leavesLoop => return .goesOn
      | .givesBack v => return .givesBack v
      | _ =>
        let _ ← exec fuel step
        rounds fuel test step body

/-- The rounds of a loop for keys. -/
def forEach : (fuel : Nat) → Place → List Octets → Statement → Run Flow
  | 0, _, _, _ => return .goesOn
  | _ + 1, _, [], _ => return .goesOn
  | fuel + 1, t, key :: keys, body => do
    rest fuel
    setVariable t (.text key)
    match ← exec fuel body with
    | .leavesLoop => return .goesOn
    | .givesBack v => return .givesBack v
    | _ => forEach fuel t keys body

end

/-! ### Rules -/

/-- Is a rule for the record at hand? -/
def selects (p : Pattern) : Run Bool := do
  match p with
  | .start | .finish => return false
  | .every => return true
  | .when e => return (← eval endless e).holds
  | .range n first last =>
    let begun := (← get).ranges.getD n false
    let begins ← if begun then pure true else Value.holds <$> eval endless first
    if !begins then return false
    else
      let ends := (← eval endless last).holds
      modify fun s => { s with ranges := s.ranges.setIfInBounds n !ends }
      return true

/-- Carries out what a rule says. -/
def carryOut (r : Rule) : Run Unit := do
  match r.body with
  | some body => let _ ← exec endless body
  | none => tool (say (← printText []))

/-- Carries out the rules for the record at hand. -/
def forRecord : List Rule → Run Unit
  | [] => return
  | r :: rest => do
    if ← selects r.pattern then carryOut r
    forRecord rest

/-- Works through all records. -/
def forRecords (rules : List Rule) : (fuel : Nat) → Run Unit
  | 0 => return
  | fuel + 1 => do
    match ← nextMain endless with
    | none => return
    | some record =>
      setRecord record
      let stop ← (tryCatch (do
        forRecord rules
        return none) fun stop => return some stop : Run (Option Stop))
      match stop with
      | none | some .nextRecord => pure ()
      | some .nextFile => closeFeed
      | some stop => throw stop
      forRecords rules fuel

/-- A part of a run: whether the next parts are to be run, with the status so far. -/
def part (body : Run Unit) (status : Nat) : StateT Running Tool (Bool × Nat × Bool) := do
  match ← body.run with
  | .ok _ => return (true, status, false)
  | .error (.quit n) => return (false, n.getD status, false)
  | .error .broken => return (false, 2, true)
  | .error _ => return (true, status, false)

/-- Works through the records of all inputs.  Gives the status to end with. -/
def workThroughRecords (script : Script) (assignments : List (String × Octets)) (operands : List Octets) : Tool Nat := do
  let c ← get
  let now ← ask .now
  let names := c.name :: operands
  let environment : Table := c.environment.foldl (fun t (name, value) => t.put (.text name) (.given value)) {}
  let arguments : Table := names.zipIdx.foldl (fun t (o, i) => t.put (.number i) (.given o)) {}
  let number (x : Float) : Cell := Cell.value (.number x)
  let word (s : String) : Cell := Cell.value (.text (ascii s))
  let known : List Cell :=
    [number 0, number 0, number 0, word " ", word " ", word "\n", word "\n", word "\x1c", word "%.6g", word "%.6g", .value .unset,
      number 0, number (-1), .table environment, number names.length.toFloat, .table arguments]
  let cells := (known ++ List.replicate (script.names.size - known.length) (Cell.value .unset)).toArray
  let start : Running :=
    { script, cells, ranges := Array.replicate script.ranges false, chance := .ofSeed (.ofNat (now / 1000000)) }
  let bodies (isWanted : Pattern → Bool) : List Rule := script.rules.filter fun r => isWanted r.pattern
  let isStart : Pattern → Bool := fun p => p matches .start
  let isFinish : Pattern → Bool := fun p => p matches .finish
  let work : StateT Running Tool Nat := do
    let (goesOn, status, broke) ← part (do
      for (name, value) in assignments do assignByName name value
      for r in bodies isStart do carryOut r) 0
    let forAll := bodies fun p => !isStart p && !isFinish p
    let last := bodies isFinish
    let (status, broke) ← (do
      if goesOn && !(forAll.isEmpty && last.isEmpty) then
        let (_, status, broke) ← part (forRecords forAll endless) status
        return (status, broke)
      else return (status, broke) : StateT Running Tool (Nat × Bool))
    let status ← (do
      if broke then return status
      else
        let (_, status, _) ← part (do for r in last do carryOut r) status
        return status : StateT Running Tool Nat)
    closeAll
    return status
  let (status, _) ← work.run start
  return status

end GrammarStudio.RecordScript
