import GrammarStudio.Files.Fault
import GrammarStudio.Instances

/-!
# A tree of files

The files a program can see: a finite set of places, each a file or a directory, and the directory that relative names
start from.  A name is a text with slashes; it is resolved step by step, so that `a/..` is only a name when `a` is a
directory.

* `Tree`, `Node`, `Place` — the files;
* `Tree.resolve` — the place a name stands for;
* `Tree.read`, `Tree.readText`, `Tree.write` — whole files;
* `Tree.makeDirectory`, `Tree.makeDirectories`, `Tree.remove`, `Tree.removeAll` — the tree itself.

An operation that fails half way keeps what it has done, so each gives back the tree together with its result.
-/

namespace GrammarStudio.Files

/-- A file with its bytes, or a directory. -/
inductive Node where
  | file (content : ByteArray)
  | directory
  deriving DecidableEq

/-- The names that lead from the root to a file, outermost first. -/
abbrev Place := List String

/-- All files, and the directory that relative names start from. -/
structure Tree where
  nodes : List (Place × Node)
  here : Place
  deriving DecidableEq

/-- The longest name a directory can hold, in bytes. -/
def longestName : Nat := 255

/-- The longest name with slashes that the system takes, in bytes. -/
def longestPath : Nat := 4095

/-- A name, taken apart. -/
structure Name where
  absolute : Bool
  steps : List String
  /-- The name ends in a slash, so it can only stand for a directory. -/
  wantsDirectory : Bool
  /-- How long the name is as it was given, in bytes. -/
  size : Nat
  deriving DecidableEq, Repr

namespace Name

/-- Takes a name apart; doubled slashes count once. -/
def ofText (text : String) : Name :=
  { absolute := text.startsWith "/"
    steps := (text.splitOn "/").filter (· ≠ "")
    wantsDirectory := text.endsWith "/"
    size := text.utf8ByteSize }

/-- The characters of a name, last first, without slashes and steps in place at its end.  A leading step in place
stays. -/
def withoutEnd : List Char → List Char
  | ['/'] => ['/']
  | '/' :: rest => withoutEnd rest
  | '.' :: '/' :: rest => withoutEnd ('/' :: rest)
  | rest => rest

/-- The name of the directory around, if there is a step to take away. -/
def around? (text : String) : Option String :=
  match withoutEnd text.toList.reverse with
  | [] | ['/'] => none
  | chars => some (String.ofList (withoutEnd (chars.dropWhile (· ≠ '/'))).reverse)

/-- A relative name without a step. -/
def isEmpty (n : Name) : Bool := !n.absolute && n.steps.isEmpty

end Name

namespace Tree

/-- A tree with nothing in it but the directory to start from, and the directories around that one. -/
def starting (here : Place) : Tree :=
  ⟨((List.range here.length).map fun n => (here.take (n + 1), .directory)), here⟩

/-- What is at a place.  The root is a directory. -/
def at? (t : Tree) (p : Place) : Option Node := if p = [] then some .directory else t.nodes.lookup p

/-- Puts a node at a place, over what was there. -/
def put (t : Tree) (p : Place) (n : Node) : Tree := { t with nodes := (p, n) :: t.nodes.filter (·.1 ≠ p) }

/-- The tree without a place. -/
def drop (t : Tree) (p : Place) : Tree := { t with nodes := t.nodes.filter (·.1 ≠ p) }

/-- The tree without a place and everything below it. -/
def dropBelow (t : Tree) (p : Place) : Tree := { t with nodes := t.nodes.filter fun n => !p.isPrefixOf n.1 }

/-! ### Names -/

/-- Follows the steps of a name from a place.  Each step starts from a directory. -/
def walk (t : Tree) : Place → List String → Except Fault Place
  | p, [] => .ok p
  | p, step :: rest =>
    match t.at? p with
    | none => .error .notFound
    | some (.file _) => .error .notADirectory
    | some .directory =>
      if step = "." then walk t p rest
      else if step = ".." then walk t p.dropLast rest
      else if step.utf8ByteSize > longestName then .error .nameTooLong
      else walk t (p ++ [step]) rest

/-- The place a name stands for; there need not be anything. -/
def resolve (t : Tree) (n : Name) : Except Fault Place :=
  if n.steps.any (·.contains '\x00') then .error .zeroInName
  else if n.isEmpty then .error .notFound
  else if n.size > longestPath then .error .nameTooLong
  else t.walk (if n.absolute then [] else t.here) n.steps

/-- Does the name stand for a directory? -/
def isDirectory (t : Tree) (n : Name) : Bool :=
  match t.resolve n with
  | .ok p => t.at? p == some .directory
  | .error _ => false

/-! ### Files -/

/-- The bytes of a file. -/
def read (t : Tree) (name : String) : Except Fault ByteArray := do
  let n := Name.ofText name
  let p ← t.resolve n
  match t.at? p with
  | none => .error .notFound
  | some .directory => .error .isADirectory
  | some (.file content) => if n.wantsDirectory then .error .notADirectory else .ok content

/-- The text of a file. -/
def readText (t : Tree) (name : String) : Except Fault String := do
  match String.fromUTF8? (← t.read name) with
  | some text => .ok text
  | none => .error .notText

/-- Writes a file, whether there is one or not.  A name that can only stand for a directory is refused without a look
at its last step. -/
def write (t : Tree) (name : String) (content : ByteArray) : Tree × Except Fault Unit :=
  let n := Name.ofText name
  match t.resolve (if n.wantsDirectory then { n with steps := n.steps.dropLast ++ ["."] } else n) with
  | .error e => (t, .error e)
  | .ok p =>
    if n.wantsDirectory || t.at? p == some .directory then (t, .error .isADirectory)
    else (t.put p (.file content), .ok ())

/-- Makes one directory. -/
def makeDirectory (t : Tree) (n : Name) : Tree × Except Fault Unit :=
  match t.resolve n with
  | .error e => (t, .error e)
  | .ok p => if (t.at? p).isSome then (t, .error .alreadyExists) else (t.put p .directory, .ok ())

/-- Makes a directory and those missing around it.  A directory that is there already is no failure. -/
def makeDirectories (t : Tree) (name : String) : Nat → Tree × Except Fault Unit
  | 0 => (t, .ok ())
  | fuel + 1 =>
    let n := Name.ofText name
    if n.steps.isEmpty then (t, .ok ())
    else
      match t.makeDirectory n with
      | (t, .ok ()) => (t, .ok ())
      | (t, .error .notFound) =>
        match Name.around? name with
        | none => (t, .ok ())
        | some around =>
          match t.makeDirectories around fuel with
          | (t, .error e) => (t, .error e)
          | (t, .ok ()) =>
            match t.makeDirectory n with
            | (t, .ok ()) => (t, .ok ())
            | (t, .error e) => (t, if t.isDirectory n then .ok () else .error e)
      | (t, .error e) => (t, if t.isDirectory n then .ok () else .error e)

/-- Makes the directory that the named file is to lie in. -/
def makeRoomFor (t : Tree) (name : String) : Tree × Except Fault Unit :=
  match Name.around? name with
  | none => (t, .ok ())
  | some around => t.makeDirectories around (around.length + 1)

/-- Removes a file. -/
def remove (t : Tree) (name : String) : Tree × Except Fault Unit :=
  match t.resolve (Name.ofText name) with
  | .error e => (t, .error e)
  | .ok p =>
    match t.at? p with
    | none => (t, .error .notFound)
    | some .directory => (t, .error .isADirectory)
    | some (.file _) => (t.drop p, .ok ())

/-- Removes a directory and everything in it. -/
def removeAll (t : Tree) (name : String) : Tree × Except Fault Unit :=
  match t.resolve (Name.ofText name) with
  | .error e => (t, .error e)
  | .ok p =>
    match t.at? p with
    | none => (t, .error .notFound)
    | some (.file _) => (t, .error .notADirectory)
    | some .directory => (t.dropBelow p, .ok ())

/-- Puts a file where it is wanted, with the directories around it. -/
def install (t : Tree) (name : String) (content : ByteArray) : Tree :=
  ((t.makeRoomFor name).1.write name content).1

/-- What lies below the directory to start from, by relative name; the name of a directory ends in a slash. -/
def listing (t : Tree) : List (String × Option ByteArray) :=
  t.nodes.filterMap fun (p, n) =>
    if t.here.isPrefixOf p && p.length > t.here.length then
      let name := "/".intercalate (p.drop t.here.length)
      match n with
      | .directory => some (name ++ "/", none)
      | .file content => some (name, some content)
    else none

/-! ### What was written can be read -/

theorem at?_put_self (t : Tree) {p : Place} (n : Node) (h : p ≠ []) : (t.put p n).at? p = some n := by
  simp [at?, put, h]

end Tree

end GrammarStudio.Files
