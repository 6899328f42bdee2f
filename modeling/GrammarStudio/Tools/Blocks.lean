import GrammarStudio.Tools.Input

/-!
# Copying in blocks

* `BlockPlan` — what is copied, how it is cut, and what is done to it;
* `BlockCount` — the blocks that went in and out;
* `ddTool` — the tool.
-/

namespace GrammarStudio.Tools

open Machine Files

structure BlockPlan where
  input : Option Octets := none
  output : Option Octets := none
  inputSize : Nat := 512
  outputSize : Nat := 512
  /-- One size for both, so that each block goes out as it came in. -/
  common : Option Nat := none
  skip : Nat := 0
  seek : Nat := 0
  count : Option Nat := none
  countsBytes : Bool := false
  skipsBytes : Bool := false
  seeksBytes : Bool := false
  conversions : List Octets := []
  inputFlags : List Octets := []
  outputFlags : List Octets := []
  status : Octets := []

/-- How many blocks went in and out, whole ones and others. -/
structure BlockCount where
  wholeIn : Nat := 0
  partIn : Nat := 0
  wholeOut : Nat := 0
  partOut : Nat := 0
  bytes : Nat := 0
  /-- What is not yet written. -/
  held : Octets := []

def conversionWords : List String :=
  ["ascii", "ebcdic", "ibm", "block", "unblock", "lcase", "ucase", "sparse", "swab", "sync", "excl", "nocreat", "notrunc", "noerror",
    "fdatasync", "fsync"]

def flagWords : List String :=
  ["append", "binary", "cio", "direct", "directory", "dsync", "noatime", "nocache", "noctty", "nofollow", "nolinks", "nonblock", "sync",
    "text", "fullblock", "count_bytes", "skip_bytes", "seek_bytes"]

/-- A factor of a number of blocks. -/
def blockFactor? (o : Octets) : Option Nat :=
  let digits := o.takeWhile Char.isDigit
  let suffix := o.drop digits.length
  if digits.isEmpty then none
  else
    let times : Option Nat := match suffix with
      | ['c'] => some 1
      | ['w'] => some 2
      | ['B'] => some 1
      | _ => multiple? suffix
    times.map (Octets.valueIn 10 digits * ·)

/-- A number of blocks or octets, as a product. -/
def blockNumber (o : Octets) : Tool Nat := do
  match (Octets.splitOn 'x' o).mapM blockFactor? with
  | some factors => return factors.foldl (· * ·) 1
  | none => giveUp (ascii "invalid number: " ++ quoted o)

def knownWords (what : String) (known : List String) (o : Octets) : Tool (List Octets) := do
  let words := Octets.splitOn ',' o
  for w in words do
    if !known.contains (String.ofList w) then misused (ascii "invalid " ++ ascii what ++ ascii ": " ++ quoted w)
  return words

/-- Takes in one operand. -/
def BlockPlan.with (p : BlockPlan) (operand : Octets) : Tool BlockPlan := do
  let name := operand.takeWhile (· ≠ '=')
  let value := operand.drop (name.length + 1)
  let unknown : Tool BlockPlan := misused (ascii "unrecognized operand " ++ quoted operand)
  if !operand.contains '=' then unknown
  else
    let size : Tool Nat := do
      let n ← blockNumber value
      if n = 0 then giveUp (ascii "invalid number: " ++ quoted value) else return n
    let inBytes := value.getLast? = some 'B' && (value.dropLast.getLast?).any Char.isDigit
    match String.ofList name with
    | "if" => return { p with input := some value }
    | "of" => return { p with output := some value }
    | "bs" => return { p with common := some (← size) }
    | "ibs" => return { p with inputSize := ← size }
    | "obs" => return { p with outputSize := ← size }
    | "cbs" =>
      let _ ← size
      return p
    | "count" => return { p with count := some (← blockNumber value), countsBytes := p.countsBytes || inBytes }
    | "skip" | "iseek" => return { p with skip := ← blockNumber value, skipsBytes := p.skipsBytes || inBytes }
    | "seek" | "oseek" => return { p with seek := ← blockNumber value, seeksBytes := p.seeksBytes || inBytes }
    | "conv" => return { p with conversions := p.conversions ++ (← knownWords "conversion" conversionWords value) }
    | "iflag" => return { p with inputFlags := p.inputFlags ++ (← knownWords "input flag" flagWords value) }
    | "oflag" => return { p with outputFlags := p.outputFlags ++ (← knownWords "output flag" flagWords value) }
    | "status" =>
      if ["none", "noxfer", "progress"].contains (String.ofList value) then return { p with status := value }
      else misused (ascii "invalid status level: " ++ quoted value)
    | _ => unknown

def BlockPlan.converts (p : BlockPlan) (word : String) : Bool := p.conversions.contains (ascii word)

/-- Neighbours in each other's places. -/
def swapped : Octets → Octets
  | a :: b :: rest => b :: a :: swapped rest
  | o => o

/-- What becomes of a block. -/
def BlockPlan.convert (p : BlockPlan) (o : Octets) : Octets :=
  let o := if p.converts "swab" then swapped o else o
  let o := if p.converts "lcase" then Octets.lower o else o
  if p.converts "ucase" then Octets.upper o else o

def failedToOpen {α : Type} (name : Octets) (fault : Fault) : Tool α :=
  giveUp (ascii "failed to open " ++ shellWordAlways name ++ ascii ": " ++ reason fault)

/-- Writes whole blocks of what is held. -/
def BlockPlan.write (p : BlockPlan) (size : Nat) : (fuel : Nat) → BlockCount → Tool BlockCount
  | 0, c => return c
  | fuel + 1, c =>
    if c.held.length < size then return c
    else do
      put (c.held.take size)
      p.write size fuel { c with held := c.held.drop size, wholeOut := c.wholeOut + 1, bytes := c.bytes + size }
where
  put (o : Octets) : Tool Unit := do
    match ← (Work.write 1 o : Work (Except Fault Unit)) with
    | .ok _ => return
    | .error fault => giveUp (ascii "error writing " ++ shellWordAlways (p.output.getD (ascii "standard output")) ++ ascii ": " ++ reason fault)

/-- Reads one block; a whole one where that is asked for. -/
def readBlock (whole : Bool) (size : Nat) : (fuel : Nat) → Octets → Tool (Except Fault Octets)
  | 0, read => return .ok read
  | fuel + 1, read => do
    match ← ask (.read 0 (size - read.length)) with
    | .error fault => return .error fault
    | .ok [] => return .ok read
    | .ok o =>
      let read := read ++ o
      if whole && read.length < size then readBlock whole size fuel read else return .ok read

/-- Copies block after block. -/
def BlockPlan.copy (p : BlockPlan) : (fuel : Nat) → (left : Option Nat) → BlockCount → Tool BlockCount
  | 0, _, c => return c
  | fuel + 1, left, c => do
    if left = some 0 then return c
    let inputSize := p.common.getD p.inputSize
    let size := if p.countsBytes then min inputSize (left.getD inputSize) else inputSize
    match ← readBlock (p.inputFlags.contains (ascii "fullblock")) size fuel [] with
    | .error fault =>
      failing (ascii "error reading " ++ shellWordAlways (p.input.getD (ascii "standard input")) ++ ascii ": " ++ reason fault)
      return c
    | .ok [] => return c
    | .ok o =>
      let c := if o.length = inputSize then { c with wholeIn := c.wholeIn + 1 } else { c with partIn := c.partIn + 1 }
      let left := left.map (· - if p.countsBytes then o.length else 1)
      let padded := if p.converts "sync" && o.length < inputSize then
        o ++ List.replicate (inputSize - o.length) (if p.converts "block" || p.converts "unblock" then ' ' else '\x00') else o
      let data := p.convert padded
      if p.common.isSome && !(p.conversions.any fun w => ["swab", "lcase", "ucase", "block", "unblock"].contains (String.ofList w)) then
        BlockPlan.write.put p data
        let c := if data.length = inputSize then { c with wholeOut := c.wholeOut + 1 } else { c with partOut := c.partOut + 1 }
        p.copy fuel left { c with bytes := c.bytes + data.length }
      else
        let c ← p.write (p.common.getD p.outputSize) (data.length + 2) { c with held := c.held ++ data }
        p.copy fuel left c

/-- A size with a unit of powers of a base, to one place. -/
def roughSize (base : Nat) (units : List String) (n : Nat) : Octets :=
  let power := ((List.range units.length).reverse.find? fun k => n ≥ base ^ k).getD 0
  let tenths := (n * 10 + base ^ power / 2) / base ^ power
  (if tenths < 100 && power > 0 then Octets.ofNat (tenths / 10) ++ '.' :: Octets.ofNat (tenths % 10)
    else Octets.ofNat ((n + base ^ power / 2) / base ^ power)) ++ [' '] ++ ascii (units.getD power "")

/-- What is told of the blocks in the end. -/
def BlockCount.report (c : BlockCount) (brief : Bool) (began now : Nat) : Octets :=
  let records (whole part : Nat) : Octets := Octets.ofNat whole ++ '+' :: Octets.ofNat part ++ ascii " records "
  let bytes := Octets.ofNat c.bytes ++ ascii (if c.bytes = 1 then " byte" else " bytes")
  let rough := if c.bytes ≥ 1024 then
      ascii " (" ++ roughSize 1000 ["B", "kB", "MB", "GB", "TB"] c.bytes ++ ascii ", " ++ roughSize 1024 ["B", "KiB", "MiB", "GiB", "TiB"] c.bytes ++ [')']
    else if c.bytes ≥ 1000 then ascii " (" ++ roughSize 1000 ["B", "kB"] c.bytes ++ [')']
    else []
  let took := now - began + 1
  records c.wholeIn c.partIn ++ ascii "in\n" ++ records c.wholeOut c.partOut ++ ascii "out\n" ++
    if brief then []
    else
      bytes ++ rough ++ ascii " copied, 0." ++ Octets.padLeftWith '0' 6 (Octets.ofNat (took % 1000000)) ++ ascii " s, " ++
        roughSize 1000 ["B", "kB", "MB", "GB", "TB"] (c.bytes * 1000000 / took) ++ ascii "/s\n"

def ddTool (args : List Octets) : Tool Unit := do
  let (_, operands) ← options [] args
  let mut plan : BlockPlan := {}
  for o in operands do plan ← plan.with o
  let p := plan
  if p.converts "lcase" && p.converts "ucase" then giveUp (ascii "cannot combine lcase and ucase")
  if p.converts "block" && p.converts "unblock" then giveUp (ascii "cannot combine block and unblock")
  if p.converts "excl" && p.converts "nocreat" then giveUp (ascii "cannot combine excl and nocreat")
  let flagged (flags : List Octets) (word : String) : Bool := flags.contains (ascii word)
  let p := { p with countsBytes := p.countsBytes || flagged p.inputFlags "count_bytes"
                    skipsBytes := p.skipsBytes || flagged p.inputFlags "skip_bytes"
                    seeksBytes := p.seeksBytes || flagged p.outputFlags "seek_bytes" }
  match p.input with
  | some name =>
    match ← (Work.openToRead name : Work (Except Fault Nat)) with
    | .ok d =>
      let _ ← ask (.replace d 0)
      (Work.close d : Work Unit)
    | .error fault => failedToOpen name fault
  | none => pure ()
  let seek : Nat := if p.seeksBytes then p.seek else p.seek * p.common.getD p.outputSize
  match p.output with
  | some name =>
    let how : Opening :=
      { writes := true, creates := !p.converts "nocreat", truncates := p.seek = 0 && !p.converts "notrunc"
        exclusive := p.converts "excl", appends := flagged p.outputFlags "append" }
    match ← ask (.openFile name how 0o666) with
    | .ok d =>
      let _ ← ask (.replace d 1)
      (Work.close d : Work Unit)
      if seek > 0 && !p.converts "notrunc" then
        let _ ← ask (.resize 1 seek)
    | .error fault => failedToOpen name fault
  | none => pure ()
  let began ← ask .now
  if seek > 0 then
    match ← ask (.seek 1 .current seek) with
    | .ok _ => pure ()
    | .error fault =>
      giveUp (shellWordAlways (p.output.getD (ascii "standard output")) ++ ascii ": cannot seek: " ++ reason fault)
  if p.skip > 0 then
    let size := p.common.getD p.inputSize
    let skip : Nat := if p.skipsBytes then p.skip else p.skip * size
    let name := shellWord (p.input.getD (ascii "standard input"))
    match ← ask (.seek 0 .current skip) with
    | .ok target =>
      let end_ := ((← ask (.describe 0)).toOption.map Info.size).getD 0
      if target > end_ && ((← ask (.describe 0)).toOption.any (·.kind = .file)) then
        complain (name ++ ascii ": cannot skip to specified offset")
    | .error _ =>
      match ← readBlock true skip endless [] with
      | .ok o => if o.length < skip then complain (name ++ ascii ": cannot skip to specified offset")
      | .error _ => pure ()
  let c ← p.copy endless p.count {}
  let c ← (if c.held.isEmpty then pure c
    else do
      BlockPlan.write.put p c.held
      return { c with partOut := c.partOut + 1, bytes := c.bytes + c.held.length } : Tool BlockCount)
  if p.status ≠ ascii "none" then mutter (c.report (p.status = ascii "noxfer") began (← ask .now))

end GrammarStudio.Tools
