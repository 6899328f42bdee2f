import GrammarStudio.ObjectScript.Streams

/-!
# Runs through values

* `iterate` — what runs through the items of a value;
* `next?` — the next item, if there is one;
* `collect` — all items;
* `Resumer` — how generators go on.
-/

namespace GrammarStudio.ObjectScript

open Machine Files Tools

/-- How generators go on: with a value that is sent, or with an exception.  What comes of it is a value that is given,
or what the generator ends with. -/
@[nospecialize]
class Resumer where
  resume : Nat → Flow → Run (Value ⊕ Value)

/-- The items of a dictionary-like thing. -/
def entriesOf (t : Thing) : List (Value × Value) :=
  match t with
  | .dict d _ _ => d.values
  | .scope names => names.toList.map fun (k, v) => (textValue k, v)
  | _ => []

/-- Where the item with a small number comes in a set of whole numbers, and how the set grows: numbers are kept in
places that depend on them, and looked up from there on. -/
def placeIn (slots : Array (Option (Int × Value))) (mask : Nat) : (fuel : Nat) → (i perturb : Nat) → Nat
  | 0, i, _ => i
  | fuel + 1, i, perturb =>
    let probes := if i + 9 ≤ mask then 9 else 0
    match (List.range (probes + 1)).find? fun k => ((slots[i + k]?).getD none).isNone with
    | some k => i + k
    | none =>
      let perturb := perturb / 32
      placeIn slots mask fuel ((i * 5 + 1 + perturb) % (mask + 1)) perturb

/-- The number by which a value is placed in a set, where that is the same in every run. -/
def placing? (k : Key) : Option Int :=
  match k with
  | [1, n] =>
    let m : Int := Int.tmod n (2 ^ 61 - 1)
    some (if m = -1 then -2 else m)
  | _ => none

def insertPlaced (slots : Array (Option (Int × Value))) (h : Int) (v : Value) : Array (Option (Int × Value)) :=
  let mask := slots.size - 1
  let bits := (h % 2 ^ 64).toNat
  slots.set! (placeIn slots mask 1000 (bits % (mask + 1)) bits) (some (h, v))

/-- The least size that is a power of two and more than so many. -/
def sizeAbove : (fuel : Nat) → (size wanted : Nat) → Nat
  | 0, size, _ => size
  | fuel + 1, size, wanted => if size > wanted then size else sizeAbove fuel (size * 2) wanted

def growPlaced (slots : Array (Option (Int × Value))) (used : Nat) : Array (Option (Int × Value)) :=
  let size := sizeAbove 60 8 (if used > 50000 then used * 2 else used * 4)
  slots.foldl (fun new e => match e with
    | some (h, v) => insertPlaced new h v
    | none => new) (Array.replicate size none)

/-- The items of a set in the order in which they are run through. -/
def setOrder (d : Dict) : List Value :=
  let entries := d.toList
  match entries.mapM fun (k, v, _) => (placing? k).map fun h => (h, v) with
  | none => entries.map fun e => e.2.1
  | some placed =>
    let (slots, _) := placed.foldl (fun (slots, used) (h, v) =>
      let slots := insertPlaced slots h v
      let used := used + 1
      if used * 5 ≥ (slots.size - 1) * 3 then (growPlaced slots used, used) else (slots, used)) (Array.replicate 8 (none : Option (Int × Value)), 0)
    slots.toList.filterMap fun e => e.map Prod.snd

/-- The items of a deque. -/
def dequeItems (names : Names) : Run (Array Value) := do
  match names.get? "items" with
  | some (.thing n) =>
    match ← look n with
    | .list items => return items
    | _ => return #[]
  | _ => return #[]

/-- What runs through the items of a value. -/
def iterate [Caller] (v : Value) : Run Value := do
  let course (c : Course) (name : String) : Run Value := alloc (.course c name)
  match ← callOwn? v "__iter__" [] with
  | some r =>
    match r with
    | .thing n =>
      match ← look n with
      | .course .. | .generator _ | .channel _ => return r
      | _ =>
        if (← ownMethod? r "__next__").isSome then return r
        else typeError ("iter() returned non-iterator of type '" ++ (← kindNameOf r) ++ "'")
    | _ => typeError ("iter() returned non-iterator of type '" ++ (← kindNameOf r) ++ "'")
  | none =>
    match ← coreOf v with
    | .text g => course (.items (g.map fun n => .text [n])) "str_iterator"
    | .octets o => course (.items (o.map fun c => .int c.toNat)) "bytes_iterator"
    | .tuple items => course (.items items) "tuple_iterator"
    | .range a b c => course (.range a b c) "range_iterator"
    | .thing n =>
      match ← look n with
      | .list _ => course (.list n 0) "list_iterator"
      | .octets o => course (.items (o.map fun c => .int c.toNat)) "bytearray_iterator"
      | .dict d _ _ => course (.dictKeys n 0 d.size) "dict_keyiterator"
      | .set d _ => course (.items (setOrder d)) "set_iterator"
      | .scope names => course (.items (names.keys.map textValue)) "dict_keyiterator"
      | .view what object =>
        match ← look object with
        | .dict d _ _ =>
          match what with
          | "keys" => course (.dictKeys object 0 d.size) "dict_keyiterator"
          | "values" => course (.dictValues object 0 d.size) "dict_valueiterator"
          | _ => course (.dictItems object 0 d.size) "dict_itemiterator"
        | t =>
          course (.items ((entriesOf t).map fun (k, v) => match what with
            | "keys" => k
            | "values" => v
            | _ => .tuple [k, v])) ("dict_" ++ what ++ "iterator")
      | .course .. | .generator _ | .channel _ => return v
      | .record "collections.deque" names => course (.items (← dequeItems names).toList) "_collections._deque_iterator"
      | .record "memoryview" names =>
        match names.get? "obj" with
        | some (.octets o) => course (.items (o.map fun c => .int c.toNat)) "memory_iterator"
        | _ => course .over "memory_iterator"
      | .instance_ .. =>
        match ← ownMethod? v "__getitem__" with
        | some f => course (.indexed f 0) "iterator"
        | none =>
          typeError ("'" ++ (← kindNameOf v) ++ "' object is not iterable")
      | _ => typeError ("'" ++ (← kindNameOf v) ++ "' object is not iterable")
    | _ => typeError ("'" ++ (← kindNameOf v) ++ "' object is not iterable")

/-- Lets others go on, now and then. -/
def restAt (n : Nat) : Run Unit := if n % 64 = 0 then system .pause else return

/-- The paths below some, the directories among them in an order of names. -/
def pathIn (directory name : Octets) : Octets :=
  if directory.getLast? = some '/' || directory.isEmpty then directory ++ name else directory ++ '/' :: name

/-- The exception that ends runs, with a value. -/
def endOfRun? (e : Value) : Run (Option Value) := do
  if ← isOfKind e "StopIteration" then
    match ← exceptionOf? e with
    | some x => return some (x.args.headD .none)
    | none => return none
  else return none

/-- Runs on until an item passes a test. -/
def nextThat (next : Run (Option Value)) (test : Value → Run Bool) : (tries : Nat) → Run (Option Value)
  | 0 => return none
  | tries + 1 => do
    restAt tries
    match ← next with
    | none => return none
    | some v => if ← test v then return some v else nextThat next test tries

/-- Passes over so many items; tells whether there were so many. -/
def passItems (next : Run (Option Value)) : Nat → Run Bool
  | 0 => return true
  | n + 1 => do
    match ← next with
    | some _ => passItems next n
    | none => return false

/-- The next items of several runs, behind those of the first, if all have one.  A strict run complains when only some
have one. -/
def nextOfEach (next : Value → Run (Option Value)) (isStrict : Bool) : (at_ : Nat) → (done rest : List Value) → Run (Option (List Value))
  | _, done, [] => return some done.reverse
  | at_, done, inner :: rest => do
    match ← next inner with
    | some v => nextOfEach next isStrict (at_ + 1) (v :: done) rest
    | none =>
      if isStrict then
        if at_ > 0 then
          valueError ("zip() argument " ++ (at_ + 1).repr ++ " is shorter than argument" ++ (if at_ = 1 then " 1" else "s 1-" ++ at_.repr))
        else
          for (other, i) in rest.zipIdx do
            if (← next other).isSome then
              valueError ("zip() argument " ++ (i + 2).repr ++ " is longer than argument" ++ (if i = 0 then " 1" else "s 1-" ++ (i + 1).repr))
      return none

mutual

/-- The next item, if there is one. -/
def nextOn [Caller] [Resumer] : (fuel : Nat) → Value → Run (Option Value)
  | 0, _ => raise "RecursionError" "maximum recursion depth exceeded"
  | fuel + 1, v => do
    match v with
    | .thing n =>
      match ← look n with
      | .course c _ =>
        let (item, c) ← stepOn fuel c
        change n fun
          | .course _ name => .course c name
          | t => t
        return item
      | .generator _ =>
        match ← Resumer.resume n (.givesBack .none) with
        | .inl v => return some v
        | .inr _ => return none
      | .channel c =>
        if c.isText then
          let g ← readTextLine n
          return if g.isEmpty then none else some (.text g)
        else
          let o ← readOctetLine n
          return if o.isEmpty then none else some (.octets o)
      | _ =>
        match ← ownMethod? v "__next__" with
        | some f =>
          tryCatch (some <$> Caller.call f {}) fun e => do
            match ← endOfRun? e with
            | some _ => return none
            | none => throw e
        | none => typeError ("'" ++ (← kindNameOf v) ++ "' object is not an iterator")
    | v => typeError ("'" ++ (← kindNameOf v) ++ "' object is not an iterator")

/-- One step of a run. -/
def stepOn [Caller] [Resumer] : (fuel : Nat) → Course → Run (Option Value × Course)
  | 0, c => return (none, c)
  | fuel + 1, c => do
    match c with
    | .over => return (none, .over)
    | .items [] => return (none, .over)
    | .items (v :: rest) => return (some v, .items rest)
    | .list object at_ =>
      match ← look object with
      | .list items =>
        match items[at_]? with
        | some v => return (some v, .list object (at_ + 1))
        | none => return (none, .over)
      | _ => return (none, .over)
    | .indexed f at_ =>
      tryCatch (do
        let v ← Caller.call f { args := [.ofNat at_] }
        return (some v, .indexed f (at_ + 1))) fun e => do
          if (← isOfKind e "IndexError") || (← isOfKind e "StopIteration") then return (none, .over) else throw e
    | .dictKeys object at_ size | .dictValues object at_ size | .dictItems object at_ size =>
      match ← look object with
      | .dict d _ _ =>
        if d.size ≠ size then raise "RuntimeError" "dictionary changed size during iteration"
        match d.next? (d.entries.size + 1) at_ with
        | none => return (none, .over)
        | some (at_, _, k, v) =>
          match c with
          | .dictKeys .. => return (some k, .dictKeys object at_ size)
          | .dictValues .. => return (some v, .dictValues object at_ size)
          | _ => return (some (.tuple [k, v]), .dictItems object at_ size)
      | _ => return (none, .over)
    | .range at_ stop step =>
      if (step > 0 && at_ < stop) || (step < 0 && at_ > stop) then return (some (.int at_), .range (at_ + step) stop step)
      else return (none, .range stop stop 1)
    | .lines stream => return (← nextOn fuel (.thing stream), c)
    | .calls f sentinel =>
      let v ← Caller.call f {}
      if ← matchesValue v sentinel then return (none, .over) else return (some v, c)
    | .numbered inner at_ =>
      match ← nextOn fuel inner with
      | some v => return (some (.tuple [.int at_, v]), .numbered inner (at_ + 1))
      | none => return (none, .over)
    | .together [] _ => return (none, .over)
    | .together inners isStrict =>
      match ← nextOfEach (nextOn fuel) isStrict 0 [] inners with
      | some items => return (some (.tuple items), c)
      | none => return (none, .over)
    | .mapped f inners =>
      match ← nextOfEach (nextOn fuel) false 0 [] inners with
      | some args => return (some (← Caller.call f { args }), c)
      | none => return (none, .over)
    | .filtered f wanted inner =>
      let test (v : Value) : Run Bool := do
        match f with
        | .none => return (← truth v) == wanted
        | f => return (← truth (← Caller.call f { args := [v] })) == wanted
      return (← nextThat (nextOn fuel inner) test endless, c)
    | .while_ f inner dropping =>
      if dropping then
        let test (v : Value) : Run Bool := do return !(← truth (← Caller.call f { args := [v] }))
        match ← nextThat (nextOn fuel inner) test endless with
        | some v => return (some v, .chained [] (some inner))
        | none => return (none, .over)
      else
        match ← nextOn fuel inner with
        | none => return (none, .over)
        | some v => if ← truth (← Caller.call f { args := [v] }) then return (some v, c) else return (none, .over)
    | .chained rest inner =>
      match inner with
      | some i =>
        match ← nextOn fuel i with
        | some v => return (some v, c)
        | none => stepOn fuel (.chained rest none)
      | none =>
        match rest with
        | [] => return (none, .over)
        | v :: rest => stepOn fuel (.chained rest (some (← iterate v)))
    | .chainedFrom inner current =>
      match current with
      | some i =>
        match ← nextOn fuel i with
        | some v => return (some v, c)
        | none => stepOn fuel (.chainedFrom inner none)
      | none =>
        match ← nextOn fuel inner with
        | none => return (none, .over)
        | some v => stepOn fuel (.chainedFrom inner (some (← iterate v)))
    | .counting at_ step =>
      match numeric? at_, numeric? step with
      | some a, some b => return (some at_, .counting (← binaryNumeric .add a b at_ step "+") step)
      | _, _ => return (some at_, c)
    | .repeating v left =>
      match left with
      | none => return (some v, c)
      | some 0 => return (none, .over)
      | some (n + 1) => return (some v, .repeating v (some n))
    | .cycling seen inner rest =>
      match inner with
      | some i =>
        match ← nextOn fuel i with
        | some v => return (some v, .cycling (seen ++ [v]) (some i) [])
        | none => stepOn fuel (.cycling seen none [])
      | none =>
        match rest, seen with
        | v :: rest, _ => return (some v, .cycling seen none rest)
        | [], [] => return (none, .over)
        | [], v :: rest => return (some v, .cycling seen none rest)
    | .cut inner skip left step =>
      if left == some 0 then return (none, .over)
      else
        if left.any (· ≤ skip) then return (none, .over)
        if ← passItems (nextOn fuel inner) skip then
          match ← nextOn fuel inner with
          | some v => return (some v, .cut inner (step - 1) (left.map (· - skip - 1)) step)
          | none => return (none, .over)
        else return (none, .over)
    | .summed f inner total =>
      match ← nextOn fuel inner with
      | none => return (none, .over)
      | some v =>
        match total with
        | none => return (some v, .summed f inner (some v))
        | some t =>
          let sum ← Caller.call f { args := [t, v] }
          return (some sum, .summed f inner (some sum))
    | .walking [] _ => return (none, .over)
    | .walking (path :: rest) isTopDown =>
      match ← system (.list path) with
      | .error _ => stepOn fuel (.walking rest isTopDown)
      | .ok names =>
        let kinds ← names.mapM fun name => do
          match ← system (.inspect (pathIn path name) true) with
          | .ok info => return (name, info.kind == .directory)
          | .error _ => return (name, false)
        let directories := (kinds.filter (·.2)).map Prod.fst
        let files := (kinds.filter (!·.2)).map Prod.fst
        let texts (names : List Octets) : List Value := names.map fun o => .text (Glyphs.ofSystem o)
        let inner ← newList (texts directories)
        let others ← newList (texts files)
        return (some (.tuple [.text (Glyphs.ofSystem path), inner, others]), .walking (directories.map (pathIn path) ++ rest) isTopDown)

end

/-- How deep runs go through one another. -/
def depthRun : Nat := 500

def next? [Caller] [Resumer] (v : Value) : Run (Option Value) := nextOn depthRun v

/-- What is still to come of a run, behind items that came, the latest first. -/
def collectOn [Caller] [Resumer] (course : Value) : (fuel : Nat) → List Value → Run (List Value)
  | 0, done => return done.reverse
  | fuel + 1, done => do
    restAt fuel
    match ← next? course with
    | some v => collectOn course fuel (v :: done)
    | none => return done.reverse

/-- The items of a value. -/
def collect [Caller] [Resumer] (v : Value) : Run (List Value) := do
  match v with
  | .tuple items => return items
  | .text g => return g.map fun n => .text [n]
  | .octets o => return o.map fun c => .int c.toNat
  | v =>
    let simple : Option (List Value) ← match v with
      | .thing n =>
        match ← look n with
        | .list items => pure (some items.toList)
        | .dict d _ _ => pure (some (d.values.map Prod.fst))
        | .set d _ => pure (some (setOrder d))
        | _ => pure none
      | _ => pure none
    match simple with
    | some items => return items
    | none => collectOn (← iterate v) endless []

end GrammarStudio.ObjectScript
