import Std.Data.HashMap
import GrammarStudio.RecordScript.Value

/-!
# Tables

A table holds values under texts.  It can be reached by a number as well, which stands for its decimal digits.

The keys of a table are listed room by room.  A key belongs to one room by its text, where the one that was last reached
comes first; a key that has only been reached by its number is given its place when a text is first asked for.

* `Table` — such tables;
* `Table.find`, `Table.reach` — an element, and an element that is made if it is not there;
* `Table.erase`, `Table.keys`, `Table.ofParts` — without an element, all keys, the parts of a text.
-/

namespace GrammarStudio.RecordScript

open Machine

/-- By what an element is reached. -/
inductive Key where
  | text (o : Octets)
  | number (n : Int)

def Key.name : Key → Octets
  | .text o => o
  | .number n => Octets.ofInt n

structure Element where
  value : Value := .unset
  /-- When the element was last reached by its text. -/
  byText : Option Nat := none
  /-- The number by which it was reached, and when that was done last. -/
  byNumber : Option (Int × Nat) := none
  deriving Inhabited

structure Table where
  elements : Std.HashMap Octets Element := {}
  clock : Nat := 0
  /-- Has every element a place by its text? -/
  knowsTexts : Bool := false
  /-- The elements are the parts of a text, and have no places yet. -/
  areParts : Bool := false
  rooms : Nat := 64
  deriving Inhabited

namespace Table

def size (t : Table) : Nat := t.elements.size

/-- The room of a text: a hash that takes up one octet after the other. -/
def roomOf (rooms : Nat) (o : Octets) : Nat :=
  let hash : UInt32 := o.foldl (fun h c => (h ^^^ UInt32.ofNat c.toNat) * 16777619) 2166136261
  hash.toNat % rooms

def roomOfNumber (rooms : Nat) (n : Int) : Nat := (n % rooms).toNat

/-- How many elements a room has on average before there are more rooms. -/
def crowd : Nat := 12

/-- Twice the rooms, if there are too many elements. -/
def widened (t : Table) : Table := if t.size > crowd * t.rooms then { t with rooms := 2 * t.rooms } else t

/-- The elements by the rooms of something, in each room the latest first. -/
def listed (rooms : Nat) (es : List (Octets × Nat × Nat)) : List Octets :=
  let sorted := es.mergeSort fun a b => b.2.2 ≤ a.2.2
  let byRoom : Array (List Octets) := sorted.reverse.foldl (fun all e => all.modify e.2.1 (e.1 :: ·)) (Array.replicate rooms [])
  byRoom.toList.flatten

/-- Gives the parts of a text their places by their numbers. -/
def withNumbers (t : Table) : Table :=
  if !t.areParts then t
  else
    let n := t.size
    let rooms := (List.range 20).foldl (fun r _ => if n > crowd * r then 2 * r else r) t.rooms
    { t with
      areParts := false
      rooms
      clock := t.clock + n
      elements := t.elements.map fun k e =>
        let i := Octets.valueIn 10 k
        { e with byNumber := some (i, t.clock + i) } }

/-- Gives every element a place by its text. -/
def withTexts (t : Table) : Table :=
  if t.knowsTexts then t
  else
    let t := t.withNumbers
    let waiting := t.elements.toList.filterMap fun (k, e) =>
      if e.byText.isSome then none else e.byNumber.map fun (n, time) => (k, roomOfNumber t.rooms n, time)
    let order := listed t.rooms waiting
    let (elements, clock) := order.foldl (fun (es, clock) k =>
      (es.modify k fun e => { e with byText := some clock }, clock + 1)) (t.elements, t.clock)
    { t with elements, clock, knowsTexts := true }

/-- Reaches an element.  One that is not there is only made if that is asked for. -/
def touch (t : Table) (key : Key) (makes : Bool) : Table × Option Value :=
  match key with
  | .text o =>
    let t := t.withTexts
    match t.elements[o]? with
    | some e =>
      ({ t with elements := t.elements.insert o { e with byText := some t.clock }, clock := t.clock + 1 }, some e.value)
    | none =>
      if !makes then (t, none)
      else
        (widened { t with elements := t.elements.insert o { byText := some t.clock }, clock := t.clock + 1 }, some .unset)
  | .number n =>
    let o := Octets.ofInt n
    match t.elements[o]? with
    | some e =>
      if t.areParts then (t, some e.value)
      else
        -- by its text, if it was never reached by its number
        let byText := if e.byNumber.isNone then some t.clock else e.byText
        ({ t with
            elements := t.elements.insert o { e with byText, byNumber := some (n, t.clock) }
            clock := t.clock + 1 }, some e.value)
    | none =>
      if !makes then (t, none)
      else
        let t := t.withNumbers
        (widened { t with
          elements := t.elements.insert o
            { byText := if t.knowsTexts then some t.clock else none, byNumber := some (n, t.clock) }
          clock := t.clock + 1 }, some .unset)

def find (t : Table) (key : Key) : Table × Option Value := t.touch key false

/-- The value of an element, which is made if it is not there. -/
def reach (t : Table) (key : Key) : Table × Value :=
  let (t, v) := t.touch key true
  (t, v.getD .unset)

def put (t : Table) (key : Key) (v : Value) : Table :=
  let (t, _) := t.touch key true
  { t with elements := t.elements.modify key.name fun e => { e with value := v } }

def erase (t : Table) (key : Key) : Table :=
  let t := match key with
    | .text _ => t.withTexts
    | .number _ => t.withNumbers
  let elements := t.elements.erase key.name
  if elements.isEmpty then {} else { t with elements }

/-- All keys, in their order, and the table that has found it. -/
def keys (t : Table) : List Octets × Table :=
  let t := t.withTexts
  (listed t.rooms (t.elements.toList.map fun (k, e) => (k, roomOf t.rooms k, e.byText.getD 0)), t)

/-- The parts of a text, counted from one. -/
def ofParts (parts : List Value) : Table :=
  let elements := (parts.zipIdx 1).foldl (fun (es : Std.HashMap Octets Element) (v, i) => es.insert (Octets.ofNat i) { value := v }) {}
  { elements, areParts := !parts.isEmpty }

end Table

end GrammarStudio.RecordScript
