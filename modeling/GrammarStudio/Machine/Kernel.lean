import GrammarStudio.Machine.Call
import GrammarStudio.Machine.Octets

/-!
# The state of a machine

The machine holds the disk, what its programs have open, and the programs themselves.  What one program writes to a
pipe another reads, first come, first served.

* `Pipe.put`, `Pipe.take` — the two ends of a pipe, with what is between them;
* `Pipe.content_put`, `Pipe.content_take` — nothing is lost on the way, and nothing comes out of order;
* `Description`, `Process`, `Kernel` — the state;
* `Kernel.signalled` — what a signal does to a program;
* `Kernel.openPath` — what opening a file does.
-/

namespace GrammarStudio.Machine

open Files

/-! ### Pipes -/

/-- What was written to a pipe and not yet read. -/
structure Pipe where
  front : List Octets := []
  /-- The pieces written last, the latest first. -/
  back : List Octets := []
  size : Nat := 0
  /-- How much fits in; a pipe to the outside takes everything. -/
  limit : Option Nat := some 65536

namespace Pipe

/-- All that is in a pipe. -/
def content (x : Pipe) : Octets := (x.front ++ x.back.reverse).flatten

def put (x : Pipe) (o : Octets) : Pipe := { x with back := o :: x.back, size := x.size + o.length }

/-- Takes up to so many octets off pieces. -/
def takePieces : Nat → List Octets → Octets × List Octets
  | _, [] => ([], [])
  | n, piece :: rest =>
    if n = 0 then ([], piece :: rest)
    else if piece.length ≤ n then
      let (o, rest) := takePieces (n - piece.length) rest
      (piece ++ o, rest)
    else (piece.take n, piece.drop n :: rest)

def take (x : Pipe) (count : Nat) : Octets × Pipe :=
  let (o, front) := takePieces count (x.front ++ x.back.reverse)
  (o, { x with front, back := [], size := x.size - o.length })

theorem content_put (x : Pipe) (o : Octets) : (x.put o).content = x.content ++ o := by
  simp [content, put, List.flatten_append]

theorem takePieces_flatten (n : Nat) (pieces : List Octets) :
    (takePieces n pieces).1 ++ (takePieces n pieces).2.flatten = pieces.flatten := by
  induction pieces generalizing n with
  | nil => rfl
  | cons piece rest ih =>
    simp only [takePieces]
    split
    · simp
    · split
      · simp [← ih (n - piece.length)]
      · simp [← List.append_assoc]

theorem content_take (x : Pipe) (n : Nat) : (x.take n).1 ++ (x.take n).2.content = x.content := by
  simpa [take, content] using takePieces_flatten n (x.front ++ x.back.reverse)

end Pipe

/-! ### State -/

/-- What a descriptor stands for. -/
inductive Source where
  | node (n : Nat)
  | readEnd (pipe : Nat)
  | writeEnd (pipe : Nat)
  deriving DecidableEq, Repr

/-- An opened file, with the place where it is read and written next.  Several descriptors can share it. -/
structure Description where
  source : Source
  reads : Bool
  writes : Bool
  appends : Bool := false
  offset : Nat := 0

/-- A program that runs, with what it holds. -/
structure Process where
  number : Nat
  parent : Nat
  activity : Activity
  /-- The numbers of what is open, each with the number of the description. -/
  descriptors : List (Nat × Nat)
  place : Nat
  mask : Nat := 0o022
  /-- Programs that get signals together have the same group. -/
  group : Nat := 0
  /-- How much the program gives way to others. -/
  niceness : Int := 0
  /-- The responses to signals that are not the usual ones. -/
  responses : List (Nat × Response) := []
  caught : List Nat := []
  /-- The signal that ends the program. -/
  fate : Option Nat := none
  deriving Inhabited

/-- A program that has ended, for its parent to ask. -/
structure Remains where
  number : Nat
  parent : Nat
  ending : Ending

structure Kernel where
  disk : Disk
  descriptions : List (Nat × Description)
  pipes : List (Nat × Pipe)
  /-- The programs that go on, the next one first; without the one whose turn it is. -/
  processes : List Process
  ended : List Remains := []
  clock : Nat
  /-- The next unused number, of programs, descriptions and pipes alike. -/
  next : Nat

/-- Under these numbers a program keeps what it does not give to others. -/
def isPrivate (descriptor : Nat) : Bool := 10 ≤ descriptor && descriptor < 60

namespace Kernel

/-! ### Looking -/

def description? (k : Kernel) (p : Process) (descriptor : Nat) : Option (Nat × Description) := do
  let id ← p.descriptors.lookup descriptor
  return (id, ← k.descriptions.lookup id)

/-- Has some program this end of a pipe? -/
def isHeld (k : Kernel) (p : Process) (source : Source) : Bool :=
  (p :: k.processes).any fun q => q.descriptors.any fun d =>
    (k.descriptions.lookup d.2).any fun x => x.source = source

def changeDescription (k : Kernel) (id : Nat) (f : Description → Description) : Kernel :=
  { k with descriptions := k.descriptions.map fun d => if d.1 = id then (id, f d.2) else d }

def changePipe (k : Kernel) (id : Nat) (f : Pipe → Pipe) : Kernel :=
  { k with pipes := k.pipes.map fun x => if x.1 = id then (id, f x.2) else x }

/-- The least number from `least` on that a program has not in use. -/
def freeNumber (p : Process) : (fuel : Nat) → (least : Nat) → Nat
  | 0, least => least
  | fuel + 1, least => if (p.descriptors.lookup least).isSome then freeNumber p fuel (least + 1) else least

/-- Opens a description under the least free number. -/
def install (k : Kernel) (p : Process) (d : Description) : Nat × Process × Kernel :=
  let n := freeNumber p 1024 0
  (n, { p with descriptors := (n, k.next) :: p.descriptors },
    { k with descriptions := (k.next, d) :: k.descriptions, next := k.next + 1 })

/-- Forgets the descriptions that nobody has open. -/
def tidy (k : Kernel) (p : Process) : Kernel :=
  { k with descriptions := k.descriptions.filter fun d =>
      (p :: k.processes).any fun q => q.descriptors.any fun x => x.2 = d.1 }

/-! ### Signals -/

/-- Signals that do nothing when a program has not asked for them. -/
def isHarmless (signal : Nat) : Bool := [17, 18, 19, 20, 21, 22, 23, 28].contains signal

/-- A program that has got a signal. -/
def signalled (p : Process) (signal : Nat) : Process :=
  if signal = 0 then p
  else
    match (if signal = 9 then none else p.responses.lookup signal) with
    | some .ignored => p
    | some .caught => { p with caught := p.caught ++ [signal] }
    | _ => if isHarmless signal || p.fate.isSome then p else { p with fate := some signal }

/-! ### Nodes -/

def info (d : Disk) (n : Nat) : Info :=
  let node := (d.at? n).getD default
  let kind := match node.content with
    | .file _ | .program _ => Kind.file
    | .directory _ => .directory
    | .link _ => .link
    | .fifo _ => .fifo
    | _ => .device
  { node := n, kind, mode := node.mode, size := d.size n
    names := if kind = .directory then 2 + d.subdirectories n else d.names n
    modified := node.modified }

/-- Some octets without a pattern. -/
def noise : Nat → Nat → Octets
  | 0, _ => []
  | n + 1, seed => Char.ofNat (seed / 65536 % 256) :: noise n ((seed * 1103515245 + 12345) % 2147483648)

/-- Reads from a node, and says how far. -/
def readNode (k : Kernel) (n offset count : Nat) : Except Fault Octets :=
  match k.disk.content? n with
  | some (.file bytes) => .ok (Octets.ofBytes (bytes.extract offset (offset + count)))
  | some (.directory _) => .error .isADirectory
  | some .zeros | some .full => .ok (List.replicate count '\x00')
  | some .noise => .ok (noise count (k.clock * 7919 + 104729 + offset))
  | some (.program _) => .ok (((ascii "\x7fELF").drop offset).take count)
  | _ => .ok []

/-- Bytes with some of them written over from an offset on. -/
def overwrite (bytes : ByteArray) (offset : Nat) (data : ByteArray) : ByteArray :=
  if offset = bytes.size then bytes ++ data
  else if offset < bytes.size then
    bytes.extract 0 offset ++ data ++ bytes.extract (offset + data.size) bytes.size
  else bytes ++ ⟨Array.replicate (offset - bytes.size) 0⟩ ++ data

/-- Opens a node that there is. -/
def openNode (k : Kernel) (p : Process) (n : Nat) (how : Opening) : Option (Except Fault Nat × Process × Kernel) :=
  let installed (source : Source) : Option (Except Fault Nat × Process × Kernel) :=
    let (number, p, k) := k.install p { source, reads := how.reads, writes := how.writes, appends := how.appends }
    some (.ok number, p, k)
  match k.disk.content? n with
  | some (.directory _) =>
    if how.writes || how.creates then some (.error .isADirectory, p, k) else installed (.node n)
  | some (.opened descriptor) =>
    match k.description? p descriptor with
    | none => some (.error .notFound, p, k)
    | some (_, d) =>
      match d.source with
      | .node m =>
        let k := if how.truncates then { k with disk := k.disk.rewrite m k.clock fun _ => .empty } else k
        let (number, p, k) := k.install p
          { source := .node m, reads := how.reads, writes := how.writes, appends := how.appends }
        some (.ok number, p, k)
      | source => installed source
  | some (.fifo pipe) =>
    if how.reads && how.writes then installed (.readEnd pipe)
    else if how.reads then
      if k.isHeld p (.writeEnd pipe) || (k.pipes.lookup pipe).any (·.size > 0) then installed (.readEnd pipe)
      else none
    else installed (.writeEnd pipe)
  | some (.file _) =>
    let k := if how.truncates then { k with disk := k.disk.rewrite n k.clock fun _ => .empty } else k
    let (number, p, k) := k.install p
      { source := .node n, reads := how.reads, writes := how.writes, appends := how.appends }
    some (.ok number, p, k)
  | some (.program _) => if how.writes then some (.error (.system 26), p, k) else installed (.node n)
  | some .terminal => some (.error (.system 6), p, k)
  | _ => installed (.node n)

/-- Opens a file. -/
def openPath (k : Kernel) (p : Process) (path : Octets) (how : Opening) (mode : Nat) :
    Option (Except Fault Nat × Process × Kernel) :=
  let slashed := path.getLast? == some '/'
  if how.creates && slashed && path.length ≤ longestPath then
    -- a name for a directory is refused without a look at its last step
    match k.disk.locate p.place (Octets.dropEnd (· ≠ '/') (Octets.dropEnd (· == '/') path) ++ ['.']) with
    | .error fault => some (.error fault, p, k)
    | .ok _ => some (.error .isADirectory, p, k)
  else
    match k.disk.locate p.place path with
    | .error fault => some (.error fault, p, k)
    | .ok found =>
      match found.node with
      | some n => if how.creates && how.exclusive then some (.error .alreadyExists, p, k) else k.openNode p n how
      | none =>
        if how.creates then
          let (disk, n) := k.disk.add
            ⟨.file .empty, mode - (mode &&& p.mask), k.clock, found.directory⟩
          let k := { k with disk := disk.enter found.directory found.name n k.clock }
          k.openNode p n how
        else some (.error .notFound, p, k)

/-- A program in the place of another: it keeps the open files that are meant to be given on, and goes on to ignore
what was ignored. -/
def handOver (k : Kernel) (p : Process) (activity : Activity) : Process × Kernel :=
  let p := { p with
    activity
    descriptors := p.descriptors.filter (!isPrivate ·.1)
    responses := p.responses.filter (·.2 = .ignored)
    caught := [] }
  (p, k.tidy p)

end Kernel

end GrammarStudio.Machine
