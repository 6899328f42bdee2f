import GrammarStudio.ObjectScript.Courses

/-!
# Parts of values

* `getItem`, `setItem`, `deleteItem` — what stands between square brackets;
* `Cut`, `cutOf` — the places that a slice names;
* `contains` — is a value among the items of another?
-/

namespace GrammarStudio.ObjectScript

open Machine Tools

/-- A whole number that counts as a place. -/
def indexOf? [Caller] (v : Value) : Run (Option Int) := do
  match wholeOf? (← coreOf v) with
  | some n => return some n
  | none =>
    match ← callOwn? v "__index__" [] with
    | some (.int n) => return some n
    | some (.bool b) => return some (if b then 1 else 0)
    | some _ => typeError "__index__ returned non-int"
    | none => return none

/-- A whole number, or a complaint. -/
def integerOf [Caller] (v : Value) : Run Int := do
  match ← indexOf? v with
  | some n => return n
  | none => typeError ("'" ++ (← kindNameOf v) ++ "' object cannot be interpreted as an integer")

/-- A place among so many; those from the end are below zero. -/
def placeOf? (size : Nat) (n : Int) : Option Nat :=
  let n := if n < 0 then n + size else n
  if 0 ≤ n && n < size then some n.toNat else none

/-! ### Slices -/

/-- Where a slice begins, how far each place is from the one before, and how many there are. -/
structure Cut where
  start : Int
  step : Int
  count : Nat

def Cut.places (c : Cut) : List Nat := (List.range c.count).map fun (i : Nat) => (c.start + (i : Int) * c.step).toNat

def sliceNumber [Caller] (v : Value) : Run (Option Int) := do
  match v with
  | .none => return none
  | v =>
    match ← indexOf? v with
    | some n => return some n
    | none => typeError "slice indices must be integers or None or have an __index__ method"

/-- The places that a slice names among so many, and the bounds it names. -/
def sliceBounds [Caller] (size : Nat) (start stop step : Value) : Run (Int × Int × Int) := do
  let step := (← sliceNumber step).getD 1
  if step = 0 then valueError "slice step cannot be zero"
  let n : Int := size
  let (low, high) : Int × Int := if step < 0 then (-1, n - 1) else (0, n)
  let bound (v : Option Int) (default : Int) : Int :=
    match v with
    | none => default
    | some k => if k < 0 then max (k + n) low else min k high
  let a := bound (← sliceNumber start) (if step < 0 then n - 1 else 0)
  let b := bound (← sliceNumber stop) (if step < 0 then -1 else n)
  return (a, b, step)

def cutOf [Caller] (size : Nat) (start stop step : Value) : Run Cut := do
  let (a, b, step) ← sliceBounds size start stop step
  let count := if step > 0 then (if a < b then ((b - a - 1) / step + 1).toNat else 0)
    else if a > b then ((a - b - 1) / (-step) + 1).toNat else 0
  return ⟨a, step, count⟩

/-- The items at the places of a slice. -/
def Cut.of {α : Type} (c : Cut) (items : List α) : List α :=
  if c.step = 1 then (items.drop c.start.toNat).take c.count
  else
    let a := items.toArray
    c.places.filterMap fun i => a[i]?

/-! ### Getting -/

def outOfRange {α : Type} (what : String) : Run α := raise "IndexError" (what ++ " out of range")

/-- The item at a place. -/
def itemAt [Caller] {α : Type} (what : String) (items : List α) (index : Value) (make : α → Value) (again : List α → Run Value) : Run Value := do
  match index with
  | .slice a b c => again ((← cutOf items.length a b c).of items)
  | index =>
    match ← indexOf? index with
    | some n =>
      match placeOf? items.length n with
      | some i =>
        match items[i]? with
        | some x => return make x
        | none => outOfRange (what ++ " index")
      | none => outOfRange (what ++ " index")
    | none =>
      if what == "string" then typeError ("string indices must be integers, not '" ++ (← kindNameOf index) ++ "'")
      else
        let word := if what == "index" then "byte" else what
        typeError (word ++ " indices must be integers or slices, not " ++ (← kindNameOf index))

def environmentLine (line : Nat) (name : String) : LibraryLine := { file := "<frozen os>", line, name }

/-- The value for a key that a dictionary does not have. -/
def missing [Caller] (owner : Value) (n : Nat) (key : Value) : Run Value := do
  match ← callOwn? owner "__missing__" [key] with
  | some v => return v
  | none =>
    match ← look n with
    | .dict _ "collections.Counter" _ => return .int 0
    | .dict _ "os._Environ" _ => alongLibrary [environmentLine 679 "__getitem__"] (raiseWith "KeyError" [key])
    | .dict _ _ maker =>
      match maker with
      | .none => raiseWith "KeyError" [key]
      | maker =>
        let v ← Caller.call maker {}
        let k ← keyOf key
        change n fun
          | .dict d kind maker => .dict (d.put k (key, v)) kind maker
          | t => t
        return v
    | _ => raiseWith "KeyError" [key]

/-- The text of a group of a match. -/
def groupOf [Caller] (names : Names) (which : Value) : Run Value := do
  let groups := match names.get? "groups" with
    | some (.tuple gs) => gs
    | _ => []
  match which with
  | .text g =>
    match names.get? "index" with
    | some (.tuple pairs) =>
      let found := pairs.findSome? fun
        | .tuple [.text name, .int n] => if name == g then some n else none
        | _ => none
      match found with
      | some n => return (groups[n.toNat]?).getD .none
      | none => raise "IndexError" "no such group"
    | _ => raise "IndexError" "no such group"
  | v =>
    match ← indexOf? v with
    | some n =>
      if n < 0 || n ≥ groups.length then raise "IndexError" "no such group"
      return (groups[n.toNat]?).getD .none
    | none => raise "IndexError" "no such group"

def getItem [Caller] (v index : Value) : Run Value := do
  match ← callOwn? v "__getitem__" [index] with
  | some r => return r
  | none =>
    let plain {α : Type} : Run α := do typeError ("'" ++ (← kindNameOf v) ++ "' object is not subscriptable")
    match ← coreOf v with
    | .text g => itemAt "string" g index (fun n => .text [n]) (fun g => return .text g)
    | .octets o => itemAt "index" o index (fun c => .int c.toNat) (fun o => return .octets o)
    | .tuple items => itemAt "tuple" items index id (fun items => return .tuple items)
    | .range a b c =>
      match index with
      | .slice x y z =>
        let size := ((← sizeOf? v).getD 0)
        let (p, q, step) ← sliceBounds size x y z
        return .range (a + p * c) (a + q * c) (step * c)
      | index =>
        match ← indexOf? index with
        | some n =>
          match placeOf? ((← sizeOf? (.range a b c)).getD 0) n with
          | some i => return .int (a + i * c)
          | none => outOfRange "range object index"
        | none => typeError ("range indices must be integers or slices, not " ++ (← kindNameOf index))
    | .kind k =>
      if ["list", "dict", "tuple", "set", "frozenset", "type", "collections.deque", "collections.defaultdict", "collections.OrderedDict",
          "collections.Counter"].contains k then return .kind k
      else typeError ("type '" ++ shortName k ++ "' is not subscriptable")
    | .library _ | .native _ => plain
    | .thing n =>
      match ← look n with
      | .list items =>
        match index with
        | .slice a b c => newList ((← cutOf items.size a b c).of items.toList)
        | index =>
          match ← indexOf? index with
          | some i =>
            match placeOf? items.size i with
            | some i => return (items[i]?).getD .none
            | none => outOfRange "list index"
          | none => typeError ("list indices must be integers or slices, not " ++ (← kindNameOf index))
      | .dict d _ _ =>
        match d.get? (← keyOf index) with
        | some (_, v) => return v
        | none => missing v n index
      | .scope names =>
        match index with
        | .text g =>
          match names.get? (Glyphs.toString g) with
          | some v => return v
          | none => raiseWith "KeyError" [index]
        | index => raiseWith "KeyError" [index]
      | .octets o => itemAt "bytearray" o index (fun c => .int c.toNat) (fun o => alloc (.octets o))
      | .record "memoryview" names =>
        match names.get? "obj" with
        | some (.octets o) =>
          itemAt "memory" o index (fun c => .int c.toNat) (fun o => alloc (.record "memoryview" (Ordered.ofList [("obj", .octets o)])))
        | _ => plain
      | .record "collections.deque" names =>
        let items ← dequeItems names
        match ← indexOf? index with
        | some i =>
          match placeOf? items.size i with
          | some i => return (items[i]?).getD .none
          | none => raise "IndexError" "deque index out of range"
        | none => typeError ("sequence index must be integer, not '" ++ (← kindNameOf index) ++ "'")
      | .record "re.Match" names => groupOf names index
      | .class_ c =>
        match ← fromLine? c.line "__class_getitem__" with
        | some (_, f) => Caller.call (← bindToKind v f) { args := [index] }
        | none =>
          match c.attributes.get? "__members__" with
          | some (.thing m) =>
            match ← look m with
            | .dict d _ _ =>
              match d.get? (← keyOf index) with
              | some (_, v) => return v
              | none => raiseWith "KeyError" [index]
            | _ => typeError ("type '" ++ c.name ++ "' is not subscriptable")
          | _ => typeError ("type '" ++ c.name ++ "' is not subscriptable")
      | _ => plain
    | _ => plain

/-! ### Setting -/

/-- Puts new items in the place of those of a slice. -/
def replaceCut {α : Type} (c : Cut) (items new : List α) : Run (List α) := do
  if c.step = 1 then return items.take c.start.toNat ++ new ++ items.drop (c.start.toNat + c.count)
  else if new.length ≠ c.count then
    valueError ("attempt to assign sequence of size " ++ new.length.repr ++ " to extended slice of size " ++ c.count.repr)
  else
    return ((c.places.zip new).foldl (fun (a : Array α) (i, x) => a.setIfInBounds i x) items.toArray).toList

/-- A text of the environment. -/
def environmentText (v : Value) : Run Octets := alongLibrary [environmentLine 758 "encode"] do
  match v with
  | .text g => return Glyphs.toSystem g
  | v => typeError ("str expected, not " ++ (← kindNameOf v))

def octetOf [Caller] (v : Value) (what : String) : Run Char := do
  let n ← integerOf v
  if n < 0 || n > 255 then valueError (what ++ " must be in range(0, 256)")
  return Char.ofNat n.toNat

def setItem [Caller] [Resumer] (v index new : Value) : Run Unit := do
  match ← callOwn? v "__setitem__" [index, new] with
  | some _ => return
  | none =>
    let plain {α : Type} : Run α := do typeError ("'" ++ (← kindNameOf v) ++ "' object does not support item assignment")
    match ← coreOf v with
    | .thing n =>
      match ← look n with
      | .list items =>
        match index with
        | .slice a b c =>
          let cut ← cutOf items.size a b c
          let more ← tryCatch (collect new) fun e => do
            if (← isOfKind e "TypeError") then typeError "can only assign an iterable" else throw e
          let all ← replaceCut cut items.toList more
          change n fun _ => .list all.toArray
        | index =>
          match ← indexOf? index with
          | some i =>
            match placeOf? items.size i with
            | some i =>
              change n fun
                | .list items => .list (items.setIfInBounds i new)
                | t => t
            | none => outOfRange "list assignment index"
          | none => typeError ("list indices must be integers or slices, not " ++ (← kindNameOf index))
      | .dict _ kind _ =>
        if kind == "os._Environ" then
          alongLibrary [environmentLine 683 "__setitem__"] do
            let _ ← environmentText index
          alongLibrary [environmentLine 684 "__setitem__"] do
            let _ ← environmentText new
        let k ← keyOf index
        change n fun
          | .dict d kind maker =>
            let name := match d.get? k with
              | some (old, _) => old
              | none => index
            .dict (d.put k (name, new)) kind maker
          | t => t
      | .scope _ =>
        match index with
        | .text g => putIn n (Glyphs.toString g) new
        | _ => plain
      | .octets o =>
        match index with
        | .slice a b c =>
          let cut ← cutOf o.length a b c
          let more ← match ← octetsOf? new with
            | some p => pure p
            | none => do
              let items ← collect new
              items.mapM fun v => octetOf v "byte"
          let all ← replaceCut cut o more
          change n fun _ => .octets all
        | index =>
          let i ← integerOf index
          match placeOf? o.length i with
          | some i =>
            let c ← octetOf new "byte"
            change n fun _ => .octets (o.take i ++ c :: o.drop (i + 1))
          | none => outOfRange "bytearray index"
      | .record "collections.deque" names =>
        match names.get? "items" with
        | some (.thing m) =>
          let items ← dequeItems names
          match placeOf? items.size (← integerOf index) with
          | some i => change m fun _ => .list (items.setIfInBounds i new)
          | none => raise "IndexError" "deque index out of range"
        | _ => plain
      | _ => plain
    | _ => plain

/-! ### Deleting -/

def deleteItem [Caller] (v index : Value) : Run Unit := do
  match ← callOwn? v "__delitem__" [index] with
  | some _ => return
  | none =>
    let plain {α : Type} : Run α := do typeError ("'" ++ (← kindNameOf v) ++ "' object doesn't support item deletion")
    let without {α : Type} (c : Cut) (items : List α) : List α :=
      let places := c.places
      (items.zipIdx.filter fun e => !places.contains e.2).map Prod.fst
    match ← coreOf v with
    | .thing n =>
      match ← look n with
      | .list items =>
        match index with
        | .slice a b c =>
          let cut ← cutOf items.size a b c
          change n fun _ => .list (without cut items.toList).toArray
        | index =>
          match ← indexOf? index with
          | some i =>
            match placeOf? items.size i with
            | some i => change n fun _ => .list (items.toList.take i ++ items.toList.drop (i + 1)).toArray
            | none => outOfRange "list assignment index"
          | none => typeError ("list indices must be integers or slices, not " ++ (← kindNameOf index))
      | .dict d kind _ =>
        let k ← keyOf index
        if d.has k then
          change n fun
            | .dict d kind maker => .dict (d.erase k) kind maker
            | t => t
        else if kind == "os._Environ" then alongLibrary [environmentLine 695 "__delitem__"] (raiseWith "KeyError" [index])
        else raiseWith "KeyError" [index]
      | .scope names =>
        match index with
        | .text g =>
          if names.has (Glyphs.toString g) then eraseIn n (Glyphs.toString g) else raiseWith "KeyError" [index]
        | _ => raiseWith "KeyError" [index]
      | .octets o =>
        match index with
        | .slice a b c =>
          let cut ← cutOf o.length a b c
          change n fun _ => .octets (without cut o)
        | index =>
          match placeOf? o.length (← integerOf index) with
          | some i => change n fun _ => .octets (o.take i ++ o.drop (i + 1))
          | none => outOfRange "bytearray index"
      | .record "collections.deque" names =>
        match names.get? "items" with
        | some (.thing m) =>
          let items ← dequeItems names
          match placeOf? items.size (← integerOf index) with
          | some i => change m fun _ => .list (items.toList.take i ++ items.toList.drop (i + 1)).toArray
          | none => raise "IndexError" "deque index out of range"
        | _ => plain
      | _ => plain
    | _ => plain

/-! ### Among the items -/

def anyEqual [Caller] (v : Value) : List Value → Run Bool
  | [] => return false
  | x :: rest => do
    if ← matchesValue x v then return true else anyEqual v rest

/-- Runs on until an item is equal to a value. -/
def reaches [Caller] [Resumer] (course v : Value) : (fuel : Nat) → Run Bool
  | 0 => return false
  | fuel + 1 => do
    restAt fuel
    match ← next? course with
    | none => return false
    | some x => if ← matchesValue x v then return true else reaches course v fuel

def contains [Caller] [Resumer] (v item : Value) : Run Bool := do
  match ← callOwn? v "__contains__" [item] with
  | some r => truth r
  | none =>
    let runThrough : Run Bool := do
      let course ← tryCatch (iterate v) fun e => do
        if (← isOfKind e "TypeError") && !(← isScripted v) then typeError ("argument of type '" ++ (← kindNameOf v) ++ "' is not iterable")
        else throw e
      reaches course item endless
    match ← coreOf v with
    | .text g =>
      match ← coreOf item with
      | .text part => return (Glyphs.find? part 0 g).isSome
      | _ => typeError ("'in <string>' requires string as left operand, not " ++ (← kindNameOf item))
    | .octets o =>
      match ← octetsOf? item with
      | some part => return (Octets.find? part 0 o).isSome
      | none =>
        match wholeOf? item with
        | some n => if n < 0 || n > 255 then valueError "byte must be in range(0, 256)" else return o.contains (Char.ofNat n.toNat)
        | none => typeError ("a bytes-like object is required, not '" ++ (← kindNameOf item) ++ "'")
    | .tuple items => anyEqual item items
    | .range a b c =>
      match ← coreOf item with
      | .int n => return (if c > 0 then a ≤ n && n < b else b < n && n ≤ a) && (n - a) % c == 0
      | .bool _ => runThrough
      | _ => runThrough
    | .thing n =>
      match ← look n with
      | .list items => anyEqual item items.toList
      | .dict d _ _ => return d.has (← keyOf item)
      | .set d _ => return d.has (← keyOf item)
      | .scope names =>
        match item with
        | .text g => return names.has (Glyphs.toString g)
        | _ => return false
      | .octets o =>
        match ← octetsOf? item with
        | some part => return (Octets.find? part 0 o).isSome
        | none =>
          match wholeOf? item with
          | some n => if n < 0 || n > 255 then valueError "byte must be in range(0, 256)" else return o.contains (Char.ofNat n.toNat)
          | none => typeError ("a bytes-like object is required, not '" ++ (← kindNameOf item) ++ "'")
      | .view "keys" m =>
        match ← look m with
        | .dict d _ _ => return d.has (← keyOf item)
        | _ => runThrough
      | _ => runThrough
    | _ => runThrough

end GrammarStudio.ObjectScript
