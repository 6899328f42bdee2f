import GrammarStudio.Files.Fault
import GrammarStudio.Machine.Octets

/-!
# A disk

The files of a machine are nodes with numbers.  A directory gives names to nodes, and a node can have several names; a
node without a name lives on while a program has it open.  Paths are followed step by step, and through symbolic links.

* `Content`, `Node`, `Disk` — the nodes;
* `Disk.locate` — where a path leads: a directory, a name in it, and perhaps a node;
* `Disk.makeDirectory`, `Disk.remove`, `Disk.rename`, … — the changes.

Whoever runs the programs may read and write everything; of a node's mode only the right to be run is looked at.
-/

namespace GrammarStudio.Machine

open Files

/-- What is in a node. -/
inductive Content where
  | file (bytes : ByteArray)
  | directory (entries : List (Octets × Nat))
  | link (target : Octets)
  /-- A program of the system, under the name it is known by. -/
  | program (name : String)
  /-- Nothing can be read, and all that is written is lost. -/
  | void
  /-- Zeros without end. -/
  | zeros
  /-- Zeros without end, and no room for what is written. -/
  | full
  /-- A terminal, where there is none. -/
  | terminal
  /-- Octets without end and without a pattern. -/
  | noise
  /-- Whatever the reading program has open under a number. -/
  | opened (descriptor : Nat)
  /-- A pipe with a name. -/
  | fifo (pipe : Nat)

structure Node where
  content : Content
  /-- The nine bits of who may do what, and the three above them. -/
  mode : Nat
  /-- When the content was last changed. -/
  modified : Nat
  /-- The directory around, of a directory. -/
  around : Nat

instance : Inhabited Node := ⟨⟨.void, 0, 0, 0⟩⟩

structure Disk where
  nodes : Array Node

/-- What a path leads to. -/
structure Located where
  directory : Nat
  name : Octets
  node : Option Nat

/-- The longest step of a path. -/
def longestStep : Nat := 255

/-- The longest path. -/
def longestPath : Nat := 4095

namespace Disk

def root : Nat := 0

def at? (d : Disk) (n : Nat) : Option Node := d.nodes[n]?

def content? (d : Disk) (n : Nat) : Option Content := (d.at? n).map Node.content

def entries? (d : Disk) (n : Nat) : Option (List (Octets × Nat)) :=
  match d.content? n with
  | some (.directory entries) => some entries
  | _ => none

def isDirectory (d : Disk) (n : Nat) : Bool := (d.entries? n).isSome

def change (d : Disk) (n : Nat) (f : Node → Node) : Disk := { d with nodes := d.nodes.modify n f }

/-- A disk with one more node, and its number. -/
def add (d : Disk) (node : Node) : Disk × Nat := ({ d with nodes := d.nodes.push node }, d.nodes.size)

/-- Gives a name to a node. -/
def enter (d : Disk) (directory : Nat) (name : Octets) (node : Nat) (now : Nat) : Disk :=
  d.change directory fun n =>
    match n.content with
    | .directory entries =>
      { n with content := .directory (entries.filter (·.1 ≠ name) ++ [(name, node)]), modified := now }
    | _ => n

/-- Takes a name away. -/
def forget (d : Disk) (directory : Nat) (name : Octets) (now : Nat) : Disk :=
  d.change directory fun n =>
    match n.content with
    | .directory entries => { n with content := .directory (entries.filter (·.1 ≠ name)), modified := now }
    | _ => n

/-- How many names a node has. -/
def names (d : Disk) (n : Nat) : Nat :=
  d.nodes.foldl (fun count node =>
    match node.content with
    | .directory entries => count + entries.countP (·.2 = n)
    | _ => count) 0

/-- How many directories are in a directory. -/
def subdirectories (d : Disk) (n : Nat) : Nat := ((d.entries? n).getD []).countP fun e => d.isDirectory e.2

/-! ### Paths -/

/-- The steps of a path. -/
def steps (path : Octets) : List Octets := (Octets.splitOn '/' path).filter (!·.isEmpty)

def isAbsolute (path : Octets) : Bool := path.head? == some '/'

/-- Follows steps from a directory.  The fuel bounds the number of steps, and `links` how many links are followed. -/
def walk (d : Disk) (followsLast : Bool) : (fuel links : Nat) → Nat → List Octets → Except Fault Located
  | 0, _, _, _ => .error (.system 40)
  | _ + 1, _, place, [] => .ok ⟨((d.at? place).map Node.around).getD root, ['.'], some place⟩
  | fuel + 1, links, place, step :: rest =>
    match d.entries? place with
    | none => .error .notADirectory
    | some entries =>
      if step = ['.'] then
        if rest.isEmpty then .ok ⟨place, ['.'], some place⟩ else walk d followsLast fuel links place rest
      else if step = ['.', '.'] then
        let around := ((d.at? place).map Node.around).getD root
        if rest.isEmpty then .ok ⟨around, ['.', '.'], some around⟩ else walk d followsLast fuel links around rest
      else if step.length > longestStep then .error .nameTooLong
      else
        match entries.lookup step with
        | none => if rest.isEmpty then .ok ⟨place, step, none⟩ else .error .notFound
        | some node =>
          match d.content? node with
          | some (.link target) =>
            if rest.isEmpty && !followsLast then .ok ⟨place, step, some node⟩
            else
              match links with
              | 0 => .error (.system 40)
              | links + 1 =>
                walk d followsLast fuel links (if isAbsolute target then root else place) (steps target ++ rest)
          | _ => if rest.isEmpty then .ok ⟨place, step, some node⟩ else walk d followsLast fuel links node rest

/-- Where a path leads, from a directory on; there need not be a node.  A path with a slash at its end leads to a
directory or fails. -/
def locate (d : Disk) (here : Nat) (path : Octets) (follows : Bool := true) : Except Fault Located := do
  if path.contains '\x00' then .error .zeroInName
  else if path.isEmpty then .error .notFound
  else if path.length > longestPath then .error .nameTooLong
  else
    let slashed := path.getLast? == some '/'
    let found ← walk d (follows || slashed) 100000 40 (if isAbsolute path then root else here) (steps path)
    match found.node with
    | some n => if slashed && !d.isDirectory n then .error .notADirectory else .ok found
    | none => .ok found

/-- The node a path leads to. -/
def find (d : Disk) (here : Nat) (path : Octets) (follows : Bool := true) : Except Fault Nat := do
  match (← d.locate here path follows).node with
  | some n => .ok n
  | none => .error .notFound

/-- The path from the root to a directory.  The fuel bounds its length. -/
def pathOf (d : Disk) : (fuel : Nat) → Nat → Octets
  | 0, _ => []
  | fuel + 1, n =>
    if n = root then []
    else
      let around := ((d.at? n).map Node.around).getD root
      let name := (((d.entries? around).getD []).find? (·.2 = n)).map Prod.fst
      match name with
      | some name => pathOf d fuel around ++ '/' :: name
      | none => []

/-! ### Making and removing -/

/-- The directory and the name for something new. -/
def room (d : Disk) (here : Nat) (path : Octets) (follows : Bool := false) : Except Fault Located := do
  let found ← d.locate here path follows
  if found.node.isSome then .error .alreadyExists else .ok found

/-- Puts a new node where a path leads. -/
def create (d : Disk) (here : Nat) (path : Octets) (content : Content) (mode now : Nat) : Except Fault (Disk × Nat) := do
  let found ← d.room here path
  let (d, n) := d.add ⟨content, mode, now, found.directory⟩
  .ok (d.enter found.directory found.name n now, n)

def makeDirectory (d : Disk) (here : Nat) (path : Octets) (mode now : Nat) : Except Fault Disk := do
  .ok (← d.create here path (.directory []) mode now).1

/-- Makes a symbolic link. -/
def makeLink (d : Disk) (here : Nat) (target path : Octets) (now : Nat) : Except Fault Disk := do
  if target.isEmpty then .error .notFound
  else if path.getLast? = some '/' && (d.locate here path).toOption.all (·.node.isNone) then .error .notFound
  else .ok (← d.create here path (.link target) 0o777 now).1

/-- Gives a file one more name. -/
def nameToo (d : Disk) (here : Nat) (old new : Octets) (now : Nat) : Except Fault Disk := do
  let n ← d.find here old false
  let found ← d.room here new
  if d.isDirectory n then .error .permissionDenied
  else .ok (d.enter found.directory found.name n now)

/-- Takes the name of a file away. -/
def remove (d : Disk) (here : Nat) (path : Octets) (now : Nat) : Except Fault Disk := do
  let found ← d.locate here path false
  match found.node with
  | none => .error .notFound
  | some n =>
    if d.isDirectory n then .error .isADirectory
    else .ok (d.forget found.directory found.name now)

def removeDirectory (d : Disk) (here : Nat) (path : Octets) (now : Nat) : Except Fault Disk := do
  let found ← d.locate here path false
  match found.node with
  | none => .error .notFound
  | some n =>
    match d.entries? n with
    | none => .error .notADirectory
    | some entries =>
      if found.name = ['.'] then .error (.system 22)
      else if !entries.isEmpty || found.name = ['.', '.'] then .error (.system 39)
      else .ok (d.forget found.directory found.name now)

/-- Is a directory inside another, or the same? -/
def isInside (d : Disk) (outer : Nat) : (fuel : Nat) → Nat → Bool
  | 0, _ => false
  | fuel + 1, n => n = outer || (n ≠ root && isInside d outer fuel (((d.at? n).map Node.around).getD root))

/-- Gives a node another name, in the place of what had it. -/
def rename (d : Disk) (here : Nat) (old new : Octets) (now : Nat) : Except Fault Disk := do
  let a ← d.locate here old false
  match a.node with
  | none => .error .notFound
  | some n =>
    if a.name = ['.'] || a.name = ['.', '.'] then .error (.system 16)
    else
      let b ← d.locate here new false
      let move : Disk :=
        let d := (d.forget a.directory a.name now).enter b.directory b.name n now
        d.change n fun node => { node with around := b.directory }
      if d.isDirectory n && d.isInside n 1000 b.directory then .error (.system 22)
      else
        match b.node with
        | none => if new.getLast? = some '/' && !d.isDirectory n then .error .notADirectory else .ok move
        | some m =>
          if m = n then .ok d
          else
            match d.isDirectory n, d.entries? m with
            | true, none => .error .notADirectory
            | false, some _ => .error .isADirectory
            | true, some entries => if entries.isEmpty then .ok move else .error (.system 39)
            | false, none => .ok move

/-- Changes the content of a file. -/
def rewrite (d : Disk) (n : Nat) (now : Nat) (f : ByteArray → ByteArray) : Disk :=
  d.change n fun node =>
    match node with
    | ⟨.file bytes, mode, _, around⟩ => ⟨.file (f bytes), mode, now, around⟩
    | node => node

/-- The size of a node's content. -/
def size (d : Disk) (n : Nat) : Nat :=
  match d.content? n with
  | some (.file bytes) => bytes.size
  | some (.directory _) => 4096
  | some (.link target) => target.length
  | some (.program _) => 100000
  | _ => 0

/-! ### Beginning -/

/-- A disk with nothing but its root. -/
def empty (now : Nat) : Disk := ⟨#[⟨.directory [], 0o755, now, root⟩]⟩

/-- The directory that steps lead to; what is missing is made. -/
def ensure (d : Disk) (now : Nat) : Nat → List Octets → Disk × Nat
  | place, [] => (d, place)
  | place, step :: rest =>
    match ((d.entries? place).getD []).lookup step with
    | some n => ensure d now n rest
    | none =>
      let (d, n) := d.add ⟨.directory [], 0o755, now, place⟩
      ensure (d.enter place step n now) now n rest

/-- Puts a node where steps lead, with the directories around it. -/
def install (d : Disk) (now : Nat) (path : List Octets) (content : Content) (mode : Nat) : Disk :=
  match path.reverse with
  | [] => d
  | name :: around =>
    let (d, place) := d.ensure now root around.reverse
    let (d, n) := d.add ⟨content, mode, now, place⟩
    d.enter place name n now

end Disk

end GrammarStudio.Machine
