import GrammarStudio.ObjectScript.Program
import Std.Data.HashMap

/-!
# Values and what they refer to

Small values are what they are.  All that can change, or that is the same as itself only, is a thing with a number; a
value refers to it by that number.

* `Value` — values;
* `Ordered` — values under keys, in the order in which the keys came;
* `Key` — what a value is looked up by: equal values have the same key;
* `Flow`, `Remaining` — how statements end, and what is left to do of a generator;
* `Thing` — what can change;
* `Heap` — all things, by their numbers.
-/

namespace GrammarStudio.ObjectScript

open Machine

inductive Value where
  | none
  | ellipsis
  | notImplemented
  | bool (b : Bool)
  | int (n : Int)
  | float (x : Float)
  | text (g : Glyphs)
  | octets (o : Octets)
  | tuple (items : List Value)
  | range (start stop step : Int)
  | slice (start stop step : Value)
  /-- A function that scripts do not define. -/
  | native (name : String)
  /-- A method of a value of a kind that scripts do not define. -/
  | bound (owner : Value) (name : String)
  /-- A function that gets a value before its arguments. -/
  | method (owner function : Value)
  /-- A kind that scripts do not define. -/
  | kind (name : String)
  | library (name : String)
  /-- What continues at the kinds behind that of a method. -/
  | above (kind owner : Value)
  | thing (n : Nat)
  deriving Inhabited

namespace Value

def ofNat (n : Nat) : Value := .int n

end Value

/-! ### Values under keys -/

/-- Values under keys, in the order in which the keys came.  Where a key was taken away a gap stays for a while. -/
structure Ordered (κ β : Type) [BEq κ] [Hashable κ] where
  entries : Array (Option (κ × β)) := #[]
  places : Std.HashMap κ Nat := {}

namespace Ordered

variable {κ β : Type} [BEq κ] [Hashable κ]

instance : Inhabited (Ordered κ β) := ⟨{}⟩

def size (d : Ordered κ β) : Nat := d.places.size

def get? (d : Ordered κ β) (k : κ) : Option β := do
  let n ← d.places[k]?
  let entry ← d.entries[n]?
  return (← entry).2

def has (d : Ordered κ β) (k : κ) : Bool := d.places.contains k

/-- Gives a key a value.  A key that is there stays where it is. -/
def put (d : Ordered κ β) (k : κ) (v : β) : Ordered κ β :=
  match d with
  | { entries, places } =>
    match places[k]? with
    | some n => { entries := entries.set! n (some (k, v)), places }
    | Option.none => { places := places.insert k entries.size, entries := entries.push (some (k, v)) }

def toList (d : Ordered κ β) : List (κ × β) := d.entries.toList.filterMap id

def values (d : Ordered κ β) : List β := d.toList.map Prod.snd

def keys (d : Ordered κ β) : List κ := d.toList.map Prod.fst

def ofList (entries : List (κ × β)) : Ordered κ β := entries.foldl (fun d e => d.put e.1 e.2) {}

/-- Without a key.  When there are more gaps than entries, they are closed. -/
def erase (d : Ordered κ β) (k : κ) : Ordered κ β :=
  match d with
  | { entries, places } =>
    match places[k]? with
    | Option.none => { entries, places }
    | some n =>
      let d : Ordered κ β := { entries := entries.set! n Option.none, places := places.erase k }
      if d.entries.size > 16 + 2 * d.places.size then ofList d.toList else d

/-- The first entry from a place on, and the place behind it. -/
def next? (d : Ordered κ β) : (fuel : Nat) → (at_ : Nat) → Option (Nat × κ × β)
  | 0, _ => Option.none
  | fuel + 1, at_ =>
    match d.entries[at_]? with
    | Option.none => Option.none
    | some Option.none => d.next? fuel (at_ + 1)
    | some (some e) => some (at_ + 1, e)

end Ordered

/-- What a value is looked up by. -/
abbrev Key := List Int

/-- Values by names. -/
abbrev Names := Ordered String Value

/-- Values under values. -/
abbrev Dict := Ordered Key (Value × Value)

/-! ### Things -/

/-- What a function needs of its parameters. -/
structure Formal where
  name : String
  kind : ParameterKind
  default : Option Value

structure Function where
  name : String
  qualified : String
  formals : List Formal
  body : List Stmt
  /-- The expression that is the value, where there is no body. -/
  value : Option Expr := none
  /-- The file that it stands in. -/
  file : String := "<string>"
  /-- The scopes around it, innermost first; the last one is that of the whole script. -/
  around : List Nat
  /-- Its own names. -/
  own : List String
  /-- Those among its names that are the script's. -/
  shared : List String
  yields : Bool
  attributes : Names := {}
  doc : Value := .none

/-- A kind that a script defines. -/
structure ClassInfo where
  name : String
  qualified : String
  bases : List Value
  /-- Itself and all kinds that it comes from, in the order in which they are asked. -/
  line : List Value
  attributes : Names

/-- A line that an exception went through. -/
structure Passage where
  file : String
  name : String
  span : Span
  /-- What is shown of the line, where it is none of a script: the text, and the part of it that is meant. -/
  shown : Option (String × String) := none

/-- An exception. -/
structure Raised where
  kind : Value
  args : List Value
  attributes : Names := {}
  cause : Value := .none
  context : Value := .none
  hidesContext : Bool := false
  /-- The lines that it went through, outermost first. -/
  passages : List Passage := []

/-- Where a run through values stands. -/
inductive Course where
  | over
  | items (rest : List Value)
  | list (object at_ : Nat)
  | indexed (object : Value) (at_ : Nat)
  | dictKeys (object at_ size : Nat)
  | dictValues (object at_ size : Nat)
  | dictItems (object at_ size : Nat)
  | range (at_ stop step : Int)
  | lines (stream : Nat)
  | calls (function sentinel : Value)
  | numbered (inner : Value) (at_ : Int)
  | together (inners : List Value) (isStrict : Bool)
  | mapped (function : Value) (inners : List Value)
  | filtered (function : Value) (wanted : Bool) (inner : Value)
  | while_ (function inner : Value) (dropping : Bool)
  | chained (rest : List Value) (inner : Option Value)
  | chainedFrom (inner : Value) (current : Option Value)
  | counting (at_ step : Value)
  | repeating (v : Value) (left : Option Nat)
  | cycling (seen : List Value) (inner : Option Value) (rest : List Value)
  | cut (inner : Value) (skip : Nat) (left : Option Nat) (step : Nat)
  | summed (function : Value) (inner : Value) (total : Option Value)
  | walking (pending : List Octets) (isTopDown : Bool)

/-- How a statement ends. -/
inductive Flow where
  | goesOn
  | leavesLoop
  | nextRound
  | givesBack (v : Value)
  | raised (e : Value)
  deriving Inhabited

/-- What is left to do of a generator. -/
inductive Remaining where
  | block (rest : List Stmt)
  | loop (test : Expr) (body otherwise : List Stmt)
  | each (course : Value) (target : Expr) (body otherwise : List Stmt)
  | attempt (handlers : List Handler) (otherwise : List Stmt)
  /-- An exception is being dealt with, under a name. -/
  | handling (e : Value) (name : Option String)
  | finally_ (body : List Stmt)
  | within (manager : Value) (span : Span)
  /-- Gives all that another gives, and keeps what that ends with under a name. -/
  | from_ (course : Value) (name : String)
  /-- Keeps what is sent under a name. -/
  | got (name : String)
  /-- Goes on with what was going on. -/
  | resume (flow : Flow)

structure Generator where
  name : String
  qualified : String
  scopes : List Nat
  function : Function
  remaining : List Remaining
  isRunning : Bool := false
  hasBegun : Bool := false
  isOver : Bool := false

/-- A stream of text or of octets. -/
structure Channel where
  descriptor : Nat
  name : Value
  mode : String
  isText : Bool
  coding : Glyphs.Coding := .utf8
  handling : String := "strict"
  canRead : Bool
  canWrite : Bool
  isOpen : Bool := true
  /-- What was written as text and is not yet among the octets, the latest first. -/
  texts : List Octets := []
  textSize : Nat := 0
  /-- Octets that are not yet written, the latest first. -/
  pending : List Octets := []
  pendingSize : Nat := 0
  /-- Octets that were read and not yet used. -/
  read : Octets := []
  /-- Text that was read and not yet used, and octets at its end that are no whole character. -/
  decoded : Glyphs := []
  tail : Octets := []
  /-- Nothing more came. -/
  atEnd : Bool := false
  byLine : Bool := false
  /-- Nothing is held back. -/
  isRaw : Bool := false
  /-- How line ends are changed: both when reading and when writing. -/
  newline : Option Glyphs := none
  /-- The stream of octets below one of text. -/
  below : Option Nat := none
  /-- The stream is in memory only. -/
  memory : Option (List Nat) := none
  at_ : Nat := 0
  isClosing : Bool := true

inductive Thing where
  | list (items : Array Value)
  | octets (o : Octets)
  /-- Values under values, with the kind of such, and what makes a value for a key that has none. -/
  | dict (d : Dict) (kind : String) (maker : Value)
  | set (d : Dict) (isFrozen : Bool)
  | scope (names : Names)
  | function (f : Function)
  | class_ (c : ClassInfo)
  /-- One of a kind that a script defines, with the value that it is besides. -/
  | instance_ (kind : Value) (attributes : Names) (core : Value)
  | exception (e : Raised)
  | course (c : Course) (name : String)
  | generator (g : Generator)
  | channel (c : Channel)
  | property (get set delete doc : Value)
  | plainFunction (f : Value)
  | kindFunction (f : Value)
  /-- A value with named parts, of a kind that scripts do not define. -/
  | record (kind : String) (parts : Names)
  /-- The keys, the values or the items of another. -/
  | view (what : String) (object : Nat)
  | cell (v : Value)
  deriving Inhabited

/-! ### The heap -/

/-- All things, by their numbers. -/
structure Heap where
  things : Array Thing := #[]

namespace Heap

def get? (h : Heap) (n : Nat) : Option Thing := h.things[n]?

/-- One thing more, with the next number. -/
def alloc (h : Heap) (t : Thing) : Heap × Nat :=
  match h with
  | { things } => let n := things.size; ({ things := things.push t }, n)

def change (h : Heap) (n : Nat) (f : Thing → Thing) : Heap :=
  match h with
  | { things } => { things := things.modify n f }

end Heap

end GrammarStudio.ObjectScript
