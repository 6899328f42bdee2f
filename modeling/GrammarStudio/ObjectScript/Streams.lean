import GrammarStudio.ObjectScript.Operators

/-!
# Streams

A stream of text stands on one of octets.  What is written waits in both until there is enough of it.

* `writeText`, `writeOctets`, `flushChannel` — writing;
* `readText`, `readTextLine`, `readOctets`, `readOctetLine` — reading;
* `openChannel`, `closeChannel` — files.
-/

namespace GrammarStudio.ObjectScript

open Machine Files Tools

/-- So much text waits at most. -/
def textChunk : Nat := 8192

/-- So many octets wait at most. -/
def octetChunk : Nat := 4096

def channelAt (n : Nat) : Run Channel := do
  match ← look n with
  | .channel c => return c
  | _ => valueError "I/O operation on closed file."

def changeChannel (n : Nat) (f : Channel → Channel) : Run Unit :=
  change n fun
    | .channel c => .channel (f c)
    | t => t

/-- An open stream. -/
def openedChannel (n : Nat) : Run Channel := do
  let c ← channelAt n
  if !c.isOpen then valueError "I/O operation on closed file."
  return c

/-- An exception that says what does not fit into a coding. -/
def raiseUnfit {α : Type} (kind : String) (coding : Glyphs.Coding) (object : Value) (start stop : Nat) (reason : String) : Run α := do
  let args : List Value := [textValue coding.name, object, .ofNat start, .ofNat stop, textValue reason]
  let e ← newException kind args
  match e with
  | .thing n =>
    change n fun
      | .exception x =>
        let names := ["encoding", "object", "start", "end", "reason"]
        .exception { x with attributes := Ordered.ofList (names.zip args) }
      | t => t
  | _ => pure ()
  throwValue e

/-- The ways of dealing with what codes cannot stand for. -/
def handlings : List String :=
  ["strict", "ignore", "replace", "xmlcharrefreplace", "backslashreplace", "namereplace", "surrogateescape", "surrogatepass"]

def encoded (coding : Glyphs.Coding) (handling : String) (g : Glyphs) : Run Octets := do
  match Glyphs.encode coding handling g with
  | .ok o => return o
  | .error f =>
    if !handlings.contains handling then raise "LookupError" ("unknown error handler name '" ++ handling ++ "'")
    raiseUnfit "UnicodeEncodeError" coding (.text g) f.start f.stop f.reason

def decoded (coding : Glyphs.Coding) (handling : String) (o : Octets) : Run Glyphs := do
  match Glyphs.decode coding handling o with
  | .ok g => return g
  | .error f =>
    if !handlings.contains handling then raise "LookupError" ("unknown error handler name '" ++ handling ++ "'")
    raiseUnfit "UnicodeDecodeError" coding (.octets o) f.start f.stop f.reason

def unsupportedOperation {α : Type} (message : String) : Run α := raise "io.UnsupportedOperation" message

/-! ### Writing -/

/-- Writes octets without delay. -/
def writeRaw (descriptor : Nat) (o : Octets) : Run Unit := do
  if !o.isEmpty then answered [] (← system (.write descriptor o))

/-- Writes what waits in a stream of octets. -/
def flushOctets (n : Nat) : Run Unit := do
  let c ← channelAt n
  if c.pendingSize > 0 then
    let waiting := c.pending
    changeChannel n fun c => { c with pending := [], pendingSize := 0 }
    writeRaw c.descriptor waiting.reverse.flatten

/-- Puts octets into memory, in the place of what was there. -/
def putInMemory (c : Channel) (new : List Nat) : Channel :=
  let old := c.memory.getD []
  let front := old.take c.at_
  let front := front ++ List.replicate (c.at_ - front.length) 0
  { c with memory := some (front ++ new ++ old.drop (c.at_ + new.length)), at_ := c.at_ + new.length }

def writeOctets (n : Nat) (o : Octets) : Run Unit := do
  let c ← openedChannel n
  if !c.canWrite then unsupportedOperation "write"
  if c.memory.isSome then changeChannel n fun c => putInMemory c (o.map Char.toNat)
  else if c.isRaw then writeRaw c.descriptor o
  else
    let size := o.length
    if c.pendingSize + size ≤ octetChunk then
      changeChannel n fun c => { c with pending := o :: c.pending, pendingSize := c.pendingSize + size }
    else
      flushOctets n
      if size > octetChunk then writeRaw c.descriptor o
      else changeChannel n fun c => { c with pending := [o], pendingSize := size }

/-- Hands the text that waits to the stream of octets below. -/
def sinkText (n : Nat) : Run Unit := do
  let c ← channelAt n
  match c.below with
  | some b =>
    if c.textSize > 0 then
      changeChannel n fun c => { c with texts := [], textSize := 0 }
      writeOctets b c.texts.reverse.flatten
  | none => return

def flushChannel (n : Nat) : Run Unit := do
  let c ← openedChannel n
  if c.isText then
    sinkText n
    match c.below with
    | some b => flushOctets b
    | none => return
  else flushOctets n

def writeText (n : Nat) (g : Glyphs) : Run Unit := do
  let c ← openedChannel n
  if !c.canWrite then unsupportedOperation "not writable"
  if c.memory.isSome then changeChannel n fun c => putInMemory c g
  else
    let g' := match c.newline with
      | some [13, 10] => g.flatMap fun x => if x = 10 then [13, 10] else [x]
      | some [13] => g.map fun x => if x = 10 then 13 else x
      | _ => g
    let o ← encoded c.coding c.handling g'
    let size := o.length
    if c.textSize + size > textChunk then sinkText n
    changeChannel n fun c => { c with texts := o :: c.texts, textSize := c.textSize + size }
    if c.isRaw || (c.byLine && (g.contains 10 || g.contains 13)) then flushChannel n
    else if (← channelAt n).textSize ≥ textChunk then sinkText n

/-- Writes what waits in all files, but not in the streams that every script has. -/
def flushFiles : Run Unit := do
  let count := (← get).heap.things.size
  let waiting := (List.range count).foldlM (fun (_ : Unit) n => do
    match ← look n with
    | .channel c =>
      if c.isOpen && c.memory.isNone && c.descriptor > 2 && (c.textSize > 0 || c.pendingSize > 0) then flushChannel n
    | _ => return) ()
  waiting

/-! ### Reading octets -/

/-- Reads once more; tells whether something came. -/
def readMore (n : Nat) (count : Nat) : Run Bool := do
  let c ← openedChannel n
  let o ← answered [] (← system (.read c.descriptor count))
  if o.isEmpty then
    changeChannel n fun c => { c with atEnd := true }
    return false
  else
    changeChannel n fun c => { c with read := c.read ++ o }
    return true

def needReading (c : Channel) : Run Unit := do
  if !c.canRead then unsupportedOperation (if c.isText then "not readable" else "read")

/-- All octets up to the end. -/
def readAllOctets (n : Nat) : Run Octets := do
  let c ← openedChannel n
  needReading c
  match c.memory with
  | some content =>
    changeChannel n fun c => { c with at_ := max c.at_ content.length }
    return (content.drop c.at_).map Char.ofNat
  | none =>
    let more ← answered [] (← tool (Work.readAll c.descriptor : Work (Except Fault Octets)))
    changeChannel n fun c => { c with read := [] }
    return c.read ++ more

/-- Reads on until a stream has so many octets. -/
def fillOctets (n count : Nat) : (fuel : Nat) → Run Unit
  | 0 => return
  | fuel + 1 => do
    let c ← channelAt n
    if c.read.length < count then
      if ← readMore n (max octetChunk (count - c.read.length)) then fillOctets n count fuel

/-- So many octets, or all that there are. -/
def readOctets (n : Nat) (count : Option Nat) : Run Octets := do
  match count with
  | none => readAllOctets n
  | some count =>
    let c ← openedChannel n
    needReading c
    match c.memory with
    | some content =>
      let o := (content.drop c.at_).take count
      changeChannel n fun c => { c with at_ := c.at_ + o.length }
      return o.map Char.ofNat
    | none =>
      if c.isRaw then answered [] (← system (.read c.descriptor count))
      else
        fillOctets n count endless
        let c ← channelAt n
        changeChannel n fun c => { c with read := c.read.drop count }
        return c.read.take count

/-- What comes with one question, at most. -/
def readOnce (n : Nat) (count : Nat) : Run Octets := do
  let c ← openedChannel n
  needReading c
  if c.memory.isSome then readOctets n (some count)
  else
    if c.read.isEmpty then
      let _ ← readMore n octetChunk
    let c ← channelAt n
    changeChannel n fun c => { c with read := c.read.drop count }
    return c.read.take count

/-- Reads on until a line ends. -/
def fillLine (n : Nat) : (fuel : Nat) → Run Unit
  | 0 => return
  | fuel + 1 => do
    let c ← channelAt n
    if !c.read.contains '\n' then
      if ← readMore n octetChunk then fillLine n fuel

/-- A line of octets with its end; nothing behind the last. -/
def readOctetLine (n : Nat) : Run Octets := do
  let c ← openedChannel n
  needReading c
  let lineOf (o : Octets) : Octets := o.takeWhile (· ≠ '\n') ++ ((o.dropWhile (· ≠ '\n')).take 1)
  match c.memory with
  | some content =>
    let o := lineOf ((content.drop c.at_).map Char.ofNat)
    changeChannel n fun c => { c with at_ := c.at_ + o.length }
    return o
  | none =>
    fillLine n endless
    let c ← channelAt n
    let line := lineOf c.read
    changeChannel n fun c => { c with read := c.read.drop line.length }
    return line

/-! ### Reading text -/

/-- A text with one kind of line ends. -/
def withLineFeeds : Glyphs → Glyphs
  | 13 :: 10 :: rest => 10 :: withLineFeeds rest
  | 13 :: rest => 10 :: withLineFeeds rest
  | n :: rest => n :: withLineFeeds rest
  | [] => []

/-- Octets up to where a character is cut off. -/
def wholeCharacters (coding : Glyphs.Coding) (o : Octets) : Octets × Octets :=
  match Glyphs.decode coding "strict" o with
  | .ok _ => (o, [])
  | .error f =>
    if f.reason == "unexpected end of data" && f.stop = o.length && o.length < f.start + 4 then (o.take f.start, o.drop f.start)
    else (o, [])

/-- Reads text once more; tells whether something came. -/
def readMoreText (n : Nat) : Run Bool := do
  let c ← openedChannel n
  match c.below with
  | none => return false
  | some b =>
    let o ← readOnce b textChunk
    let ended := o.isEmpty
    let (now, later) := if ended then (c.tail, []) else wholeCharacters c.coding (c.tail ++ o)
    let g ← decoded c.coding c.handling now
    let (g, later) := match c.newline, ended with
      | none, false => if g.getLast? = some 13 then (g.dropLast, '\r' :: later) else (g, later)
      | _, _ => (g, later)
    let g := if c.newline.isNone then withLineFeeds g else g
    changeChannel n fun c => { c with decoded := c.decoded ++ g, tail := later }
    return !ended

/-- All text up to the end. -/
def readAllText (n : Nat) : Run Glyphs := do
  let c ← openedChannel n
  needReading c
  match c.memory with
  | some content =>
    changeChannel n fun c => { c with at_ := max c.at_ content.length }
    return content.drop c.at_
  | none =>
    match c.below with
    | none => return []
    | some b =>
      let o ← readAllOctets b
      let g ← decoded c.coding c.handling (c.tail ++ o)
      changeChannel n fun c => { c with decoded := [], tail := [] }
      return c.decoded ++ (if c.newline.isNone then withLineFeeds g else g)

def fillText (n count : Nat) : (fuel : Nat) → Run Unit
  | 0 => return
  | fuel + 1 => do
    let c ← channelAt n
    if c.decoded.length < count then
      if ← readMoreText n then fillText n count fuel

/-- So many characters, or all that there are. -/
def readText (n : Nat) (count : Option Nat) : Run Glyphs := do
  match count with
  | none => readAllText n
  | some count =>
    let c ← openedChannel n
    needReading c
    match c.memory with
    | some content =>
      let g := (content.drop c.at_).take count
      changeChannel n fun c => { c with at_ := c.at_ + g.length }
      return g
    | none =>
      fillText n count endless
      let c ← channelAt n
      changeChannel n fun c => { c with decoded := c.decoded.drop count }
      return c.decoded.take count

/-- The first line of a text, with its end, where lines end as is said. -/
def firstLine (newline : Option Glyphs) : Glyphs → Glyphs
  | [] => []
  | 10 :: rest => if newline = some [13] || newline = some [13, 10] then 10 :: firstLine newline rest else [10]
  | 13 :: 10 :: rest => if newline = some [] || newline = some [13, 10] then [13, 10]
    else if newline = some [13] then [13] else 13 :: firstLine newline (10 :: rest)
  | 13 :: rest => if newline = some [] || newline = some [13] then [13] else 13 :: firstLine newline rest
  | n :: rest => n :: firstLine newline rest

def endsLine (newline : Option Glyphs) (g : Glyphs) : Bool :=
  match newline with
  | none | some [10] => g.contains 10
  | some [13] => g.contains 13
  | some _ => g.contains 10 || (g.dropLast.contains 13)

def fillTextLine (n : Nat) : (fuel : Nat) → Run Unit
  | 0 => return
  | fuel + 1 => do
    let c ← channelAt n
    if !endsLine c.newline c.decoded then
      if ← readMoreText n then fillTextLine n fuel

/-- A line of text with its end; nothing behind the last. -/
def readTextLine (n : Nat) : Run Glyphs := do
  let c ← openedChannel n
  needReading c
  match c.memory with
  | some content =>
    let g := firstLine c.newline (content.drop c.at_)
    changeChannel n fun c => { c with at_ := c.at_ + g.length }
    return g
  | none =>
    fillTextLine n endless
    let c ← channelAt n
    let line := firstLine c.newline c.decoded
    changeChannel n fun c => { c with decoded := c.decoded.drop line.length }
    return line

/-! ### Places in a stream -/

/-- Forgets what was read ahead. -/
def forgetRead (n : Nat) : Run Unit := changeChannel n fun c => { c with read := [], decoded := [], tail := [], atEnd := false }

def seekChannel (n : Nat) (offset : Int) (whence : Nat) : Run Int := do
  let c ← openedChannel n
  match c.memory with
  | some content =>
    let base : Int := match whence with
      | 0 => 0
      | 1 => c.at_
      | _ => content.length
    if base + offset < 0 then valueError ("negative seek value " ++ toString (base + offset))
    changeChannel n fun c => { c with at_ := (base + offset).toNat }
    return base + offset
  | none =>
    if c.isText && whence ≠ 0 && offset ≠ 0 then
      unsupportedOperation (if whence = 1 then "can't do nonzero cur-relative seeks" else "can't do nonzero end-relative seeks")
    flushChannel n
    let ahead : Nat := c.read.length + c.tail.length + (match Glyphs.encode c.coding "surrogatepass" c.decoded with
      | .ok o => o.length
      | .error _ => 0)
    let below ← match c.below with
      | some b => pure (← channelAt b).read.length
      | none => pure 0
    let offset := if whence = 1 then offset - ahead - below else offset
    let place ← answered [] (← system (.seek c.descriptor (if whence = 0 then .start else if whence = 1 then .current else .finish) offset))
    forgetRead n
    match c.below with
    | some b => forgetRead b
    | none => pure ()
    return place

def tellChannel (n : Nat) : Run Int := do
  let c ← openedChannel n
  match c.memory with
  | some _ => return c.at_
  | none =>
    if c.canWrite then flushChannel n
    let below ← match c.below with
      | some b => pure (← channelAt b).read.length
      | none => pure 0
    let ahead : Nat := c.read.length + c.tail.length + (match Glyphs.encode c.coding "surrogatepass" c.decoded with
      | .ok o => o.length
      | .error _ => 0)
    let place ← answered [] (← system (.seek c.descriptor .current 0))
    return place - ahead - below

/-! ### Files -/

def closeChannel (n : Nat) : Run Unit := do
  let c ← channelAt n
  if c.isOpen then
    if c.memory.isNone && c.canWrite then flushChannel n
    changeChannel n fun c => { c with isOpen := false }
    match c.below with
    | some b => changeChannel b fun c => { c with isOpen := false }
    | none => pure ()
    if c.memory.isNone && c.isClosing then
      let _ ← system (.close c.descriptor)

/-- What a mode says: reading, writing, appending, a new file, octets, and reading and writing. -/
structure OpenMode where
  reads : Bool
  writes : Bool
  appends : Bool
  creates : Bool
  isBinary : Bool
  updates : Bool

def openMode? (mode : String) : Except String OpenMode :=
  let cs := mode.toList
  let has (c : Char) : Bool := cs.contains c
  let main := (cs.filter fun c => "rwax".toList.contains c).length
  if cs.any (fun c => !"rwaxbt+".toList.contains c) || (cs.eraseDups.length ≠ cs.length) then .error ("invalid mode: '" ++ mode ++ "'")
  else if has 'b' && has 't' then .error "can't have text and binary mode at once"
  else if main ≠ 1 then .error (if main = 0 then "Must have exactly one of create/read/write/append mode and at most one plus" else "must have exactly one of create/read/write/append mode")
  else
    .ok {
      reads := has 'r', writes := has 'w', appends := has 'a', creates := has 'x', isBinary := has 'b', updates := has '+' }

/-- Makes streams for a descriptor. -/
def newChannel (descriptor : Nat) (name : Value) (m : OpenMode) (mode : String) (coding : Glyphs.Coding) (handling : String)
    (newline : Option Glyphs) (isRaw byLine isClosing : Bool) : Run Value := do
  let canRead := m.reads || m.updates
  let canWrite := !m.reads || m.updates
  let below : Channel :=
    { descriptor, name, mode := if m.isBinary then mode else mode ++ "b", isText := false, canRead, canWrite
      isRaw := isRaw, isClosing }
  let b ← allocNumber (.channel below)
  if m.isBinary then return .thing b
  else
    alloc (.channel
      { descriptor, name, mode, isText := true, coding, handling, canRead, canWrite, newline, below := some b, byLine, isClosing })

/-- Opens a file. -/
def openChannel (path : Octets) (name : Value) (mode : String) (coding : Glyphs.Coding) (handling : String) (newline : Option Glyphs)
    (isRaw byLine : Bool) : Run Value := do
  match openMode? mode with
  | .error message => valueError message
  | .ok m =>
    flushFiles
    if path.contains '\x00' then valueError "embedded null byte"
    match ← system (.inspect path true) with
    | .ok info =>
      if info.kind = .directory then raiseFault (.system (if m.creates then 17 else 21)) [name]
    | .error _ => pure ()
    let how : Opening :=
      { reads := m.reads || m.updates, writes := !m.reads || m.updates, appends := m.appends
        creates := !m.reads, truncates := m.writes, exclusive := m.creates }
    let d ← answered [name] (← system (.openFile path how 0o666))
    newChannel d name m mode coding handling newline isRaw byLine true

end GrammarStudio.ObjectScript
