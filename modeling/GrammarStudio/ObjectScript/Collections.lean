import GrammarStudio.ObjectScript.Texts

/-!
# What lists, dictionaries and sets can do

* `sorted` — items in order, equal ones as they were;
* `listMethod?`, `dictMethod?`, `setMethod?`, `dequeMethod?`, `bytearrayMethod?` — the methods.
-/

namespace GrammarStudio.ObjectScript

open Machine Tools

/-! ### Order -/

/-- Two lists in order, made one: of equal items those of the first come first. -/
def merged {α : Type} (below : α → α → Run Bool) : (fuel : Nat) → (done a b : List α) → Run (List α)
  | 0, done, a, b => return done.reverse ++ a ++ b
  | _ + 1, done, [], b => return done.reverse ++ b
  | _ + 1, done, a, [] => return done.reverse ++ a
  | fuel + 1, done, x :: a, y :: b => do
    if ← below y x then merged below fuel (y :: done) (x :: a) b else merged below fuel (x :: done) a (y :: b)

def sortedOn {α : Type} (below : α → α → Run Bool) : (fuel : Nat) → List α → Run (List α)
  | 0, items => return items
  | _ + 1, [] => return []
  | _ + 1, [x] => return [x]
  | fuel + 1, items => do
    let half := items.length / 2
    let a ← sortedOn below fuel (items.take half)
    let b ← sortedOn below fuel (items.drop half)
    merged below (items.length + 1) [] a b

/-- Items in the order of their keys. -/
def sortedByKeys [Caller] (items : List (Value × Value)) : Run (List (Value × Value)) := do
  let wholes := items.mapM fun (k, v) => match k with
    | .int n => some (n, k, v)
    | _ => none
  let texts := items.mapM fun (k, v) => match k with
    | .text g => some (g, k, v)
    | _ => none
  match wholes, texts with
  | some ws, _ => return (ws.mergeSort fun a b => decide (a.1 ≤ b.1)).map Prod.snd
  | _, some ts => return (ts.mergeSort fun a b => decide (a.1 ≤ b.1)).map Prod.snd
  | _, _ => sortedOn (fun a b => ordered .less a.1 b.1) 64 items

/-- Items in order, by what a function says of them, or the other way round. -/
def sorted [Caller] (items : List Value) (key : Value) (backward : Bool) : Run (List Value) := do
  let pairs ← match key with
    | .none => pure (items.map fun v => (v, v))
    | f => items.mapM fun v => do return (← Caller.call f { args := [v] }, v)
  let pairs := if backward then pairs.reverse else pairs
  let pairs ← sortedByKeys pairs
  let pairs := if backward then pairs.reverse else pairs
  return pairs.map Prod.snd

/-- Complains of the number of arguments of a method. -/
def methodArgs (name : String) (least most : Nat) (given : Given) : Run Unit := do
  let n := given.args.length
  let short := shortName name
  if !given.named.isEmpty then typeError (name ++ "() takes no keyword arguments")
  else if n < least || n > most then
    if least = 0 && most = 0 then typeError (name ++ "() takes no arguments (" ++ n.repr ++ " given)")
    else if least = 1 && most = 1 then typeError (name ++ "() takes exactly one argument (" ++ n.repr ++ " given)")
    else if least = most then typeError (short ++ " expected " ++ counted least "argument" ++ ", got " ++ n.repr)
    else if n < least then typeError (short ++ " expected at least " ++ counted least "argument" ++ ", got " ++ n.repr)
    else typeError (short ++ " expected at most " ++ counted most "argument" ++ ", got " ++ n.repr)

def done : Run (Option Value) := return some .none

def withItems (n : Nat) (f : Array Value → Array Value) : Run Unit :=
  change n fun
    | .list items => .list (f items)
    | t => t

/-- The first place of an equal item. -/
def placeOfEqual [Caller] (v : Value) : (at_ : Nat) → List Value → Run (Option Nat)
  | _, [] => return none
  | at_, x :: rest => do
    if ← matchesValue x v then return some at_ else placeOfEqual v (at_ + 1) rest

def countEqual [Caller] (v : Value) (items : List Value) : Run Nat :=
  items.foldlM (fun (n : Nat) x => do return if ← matchesValue x v then n + 1 else n) 0

def withoutPlace {α : Type} (n : Nat) (items : List α) : List α := items.take n ++ items.drop (n + 1)

/-- A place in a sequence, or one just outside it. -/
def clampedPlace (size : Nat) (n : Int) : Nat :=
  let n := if n < 0 then n + size else n
  (min (max n 0) size).toNat

/-- The place of an item between bounds, or a complaint. -/
def indexMethod [Caller] (items : List Value) (given : Given) (complaint : Value → Run String) : Run (Option Value) := do
  let v := given.first
  let (a, b) ← between items.length (given.getD 1 "" .none) (given.getD 2 "" .none)
  match ← placeOfEqual v a ((items.take b).drop a) with
  | some n => return some (.ofNat n)
  | none => valueError (← complaint v)

def listMethod? [Caller] [Resumer] (n : Nat) (name : String) (given : Given) : Run (Option Value) := do
  let items : Run (Array Value) := do
    match ← look n with
    | .list items => return items
    | _ => return #[]
  let check (least most : Nat) : Run Unit := methodArgs ("list." ++ name) least most given
  match name with
  | "append" =>
    check 1 1
    withItems n (·.push given.first)
    done
  | "extend" | "__iadd__" =>
    check 1 1
    let more ← collect given.first
    withItems n (· ++ more.toArray)
    if name == "extend" then done else return some (.thing n)
  | "pop" =>
    check 0 1
    let size := (← items).size
    let at_ ← integerOf (given.getD 0 "" (.int (-1)))
    if size = 0 then raise "IndexError" "pop from empty list"
    match placeOf? size at_ with
    | none => raise "IndexError" "pop index out of range"
    | some i =>
      let v := ((← items)[i]?).getD .none
      if i + 1 = size then withItems n (·.pop)
      else withItems n fun a => (withoutPlace i a.toList).toArray
      return some v
  | "insert" =>
    check 2 2
    let i := clampedPlace (← items).size (← integerOf given.first)
    withItems n fun a => (a.toList.take i ++ given.getD 1 "" .none :: a.toList.drop i).toArray
    done
  | "remove" =>
    check 1 1
    match ← placeOfEqual given.first 0 (← items).toList with
    | some i =>
      withItems n fun a => (withoutPlace i a.toList).toArray
      done
    | none => valueError "list.remove(x): x not in list"
  | "clear" =>
    check 0 0
    withItems n fun _ => #[]
    done
  | "copy" =>
    check 0 0
    return some (← alloc (.list (← items)))
  | "reverse" =>
    check 0 0
    withItems n (·.reverse)
    done
  | "index" =>
    check 1 3
    indexMethod (← items).toList given fun v => do return Glyphs.toString (← shown v) ++ " is not in list"
  | "count" =>
    check 1 1
    return some (.ofNat (← countEqual given.first (← items).toList))
  | "sort" =>
    if !given.args.isEmpty then typeError "sort() takes no positional arguments"
    for (k, _) in given.named do
      if k ≠ "key" && k ≠ "reverse" then typeError ("'" ++ k ++ "' is an invalid keyword argument for sort()")
    let key := (given.named.lookup "key").getD .none
    let backward ← truth ((given.named.lookup "reverse").getD (.bool false))
    let new ← sorted (← items).toList key backward
    withItems n fun _ => new.toArray
    done
  | "__reversed__" => return some (← alloc (.course (.items (← items).toList.reverse) "list_reverseiterator"))
  | _ => return none

/-! ### Dictionaries -/

/-- The two parts of an item of a dictionary that is made. -/
def pairOf [Caller] [Resumer] (v : Value) (at_ : Nat) : Run (Value × Value) := do
  let parts ← tryCatch (collect v) fun e => do
    if ← isOfKind e "TypeError" then typeError ("cannot convert dictionary update sequence element #" ++ at_.repr ++ " to a sequence") else throw e
  match parts with
  | [a, b] => return (a, b)
  | parts =>
    valueError ("dictionary update sequence element #" ++ at_.repr ++ " has length " ++ parts.length.repr ++ "; 2 is required")

/-- The items that a dictionary is made of: those of a mapping, or pairs. -/
def itemsFor [Caller] [Resumer] (v : Value) : Run (List (Value × Value)) := do
  let core ← coreOf v
  let direct : Option (List (Value × Value)) ← match core with
    | .thing n =>
      match ← look n with
      | .dict d _ _ => pure (some d.values)
      | .scope names => pure (some (names.toList.map fun (k, v) => (textValue k, v)))
      | _ => pure none
    | _ => pure none
  match direct with
  | some items => return items
  | none =>
    match ← ownMethod? v "keys" with
    | some f =>
      let keys ← collect (← Caller.call f {})
      keys.mapM fun k => do return (k, ← getItem v k)
    | none =>
      let items ← collect v
      items.zipIdx.mapM fun (v, i) => pairOf v i

def namedItems (given : Given) : List (Value × Value) := given.named.map fun (k, v) => (textValue k, v)

def putItems [Caller] (n : Nat) (items : List (Value × Value)) : Run Unit := do
  for (k, v) in items do
    let key ← keyOf k
    change n fun
      | .dict d kind maker =>
        .dict (d.put key (match d.get? key with
          | some (old, _) => (old, v)
          | none => (k, v))) kind maker
      | .scope names =>
        match k with
        | .text g => .scope (names.put (Glyphs.toString g) v)
        | _ => .scope names
      | t => t

/-- Counts items, or takes over counts. -/
def putCounts [Caller] [Resumer] (n : Nat) (sign : Int) (given : Given) : Run Unit := do
  let isMap : Bool ← match given.args.head? with
    | some v =>
      match ← coreOf v with
      | .thing m =>
        match ← look m with
        | .dict .. => pure true
        | _ => pure false
      | _ => pure false
    | none => pure false
  let counts : List (Value × Value) ← match given.args.head? with
    | none => pure []
    | some v => if isMap then itemsFor v else (fun (vs : List Value) => vs.map fun v => (v, Value.int 1)) <$> collect v
  for (k, v) in counts ++ namedItems given do
    let key ← keyOf k
    change n fun
      | .dict d kind maker =>
        let old : Int := match d.get? key with
          | some (_, .int m) => m
          | _ => 0
        let more : Int := match v with
          | .int m => m
          | _ => 0
        .dict (d.put key (k, .int (old + sign * more))) kind maker
      | t => t

def dictMethod? [Caller] [Resumer] (n : Nat) (kind name : String) (given : Given) : Run (Option Value) := do
  let dict : Run Dict := do
    match ← look n with
    | .dict d _ _ => return d
    | .scope names => return Ordered.ofList (names.toList.map fun (k, v) => (3 :: (glyphs k).map Int.ofNat, textValue k, v))
    | _ => return {}
  let check (least most : Nat) : Run Unit := methodArgs ("dict." ++ name) least most given
  let without (k : Key) : Run Unit := change n fun
    | .dict d kind maker => .dict (d.erase k) kind maker
    | .scope names => .scope (names.erase (String.ofList ((k.drop 1).map fun c => Char.ofNat c.toNat)))
    | t => t
  match name with
  | "get" =>
    check 1 2
    match (← dict).get? (← keyOf given.first) with
    | some (_, v) => return some v
    | none => return some (given.getD 1 "" .none)
  | "keys" | "values" | "items" =>
    check 0 0
    return some (← alloc (.view name n))
  | "pop" =>
    check 1 2
    let k ← keyOf given.first
    match (← dict).get? k with
    | some (_, v) =>
      without k
      return some v
    | none =>
      match given.args[1]? with
      | some v => return some v
      | none => raiseWith "KeyError" [given.first]
  | "popitem" =>
    let last ← if kind == "collections.OrderedDict" then truth (given.getD 0 "last" (.bool true)) else do
      check 0 0
      pure true
    let entries := (← dict).toList
    match (if last then entries.getLast? else entries.head?) with
    | some (k, key, v) =>
      without k
      return some (.tuple [key, v])
    | none => raise "KeyError" (if kind == "collections.OrderedDict" then "dictionary is empty" else "popitem(): dictionary is empty")
  | "setdefault" =>
    check 1 2
    let k ← keyOf given.first
    match (← dict).get? k with
    | some (_, v) => return some v
    | none =>
      let v := given.getD 1 "" .none
      putItems n [(given.first, v)]
      return some v
  | "update" =>
    if given.args.length > 1 then typeError ("update expected at most 1 argument, got " ++ given.args.length.repr)
    if kind == "collections.Counter" then putCounts n 1 given
    else
      let items ← match given.args.head? with
        | some v => itemsFor v
        | none => pure []
      putItems n (items ++ namedItems given)
    done
  | "subtract" =>
    if kind == "collections.Counter" then
      putCounts n (-1) given
      done
    else return none
  | "clear" =>
    check 0 0
    change n fun
      | .dict _ kind maker => .dict {} kind maker
      | t => t
    done
  | "copy" =>
    check 0 0
    match ← look n with
    | .dict d kind maker => return some (← alloc (.dict d (if kind == "os._Environ" || kind == "mappingproxy" then "dict" else kind) maker))
    | _ => return some (← alloc (.dict (← dict) "dict" .none))
  | "move_to_end" =>
    let k ← keyOf given.first
    let last ← truth (given.getD 1 "last" (.bool true))
    match (← dict).get? k with
    | none => raiseWith "KeyError" [given.first]
    | some e =>
      change n fun
        | .dict d kind maker =>
          let rest := d.erase k
          .dict (if last then rest.put k e else Ordered.ofList ((k, e) :: rest.toList)) kind maker
        | t => t
      done
  | "most_common" =>
    let amount (v : Value) : Int := match v with
      | .int n => n
      | _ => 0
    let sorted := (← dict).values.mergeSort fun a b => amount a.2 ≥ amount b.2
    let sorted ← match given.getD 0 "n" .none with
      | .none => pure sorted
      | v => (fun (m : Int) => sorted.take m.toNat) <$> integerOf v
    return some (← newList (sorted.map fun (k, v) => .tuple [k, v]))
  | "elements" =>
    let items := (← dict).values.flatMap fun (k, v) => match v with
      | .int n => List.replicate n.toNat k
      | _ => []
    return some (← alloc (.course (.items items) "itertools.chain"))
  | "total" =>
    return some (.int ((← dict).values.foldl (fun n (_, v) => match v with
      | .int m => n + m
      | _ => n) 0))
  | "__reversed__" => return some (← alloc (.course (.items ((← dict).values.map Prod.fst).reverse) "dict_reversekeyiterator"))
  | _ => return none

/-! ### Sets -/

def setMethod? [Caller] [Resumer] (n : Nat) (isFrozen : Bool) (name : String) (given : Given) : Run (Option Value) := do
  let kind := if isFrozen then "frozenset" else "set"
  let items : Run Dict := do
    match ← look n with
    | .set d _ => return d
    | _ => return {}
  let check (least most : Nat) : Run Unit := methodArgs (kind ++ "." ++ name) least most given
  let put (f : Dict → Dict) : Run Unit := change n fun
    | .set d frozen => .set (f d) frozen
    | t => t
  let sets : Run (List Dict) := given.args.mapM fun v => do setOf (← collect v)
  let combine (op : BinaryOp) : Run Dict := do
    let start ← items
    return (← sets).foldl (fun d e => (binarySets op d e).getD d) start
  let answer (d : Dict) : Run (Option Value) := do return some (← alloc (.set d isFrozen))
  let fixed (f : Run (Option Value)) : Run (Option Value) := if isFrozen then return none else f
  match name with
  | "add" => fixed do
    check 1 1
    let k ← keyOf given.first
    put fun d => if d.has k then d else d.put k (given.first, .none)
    done
  | "discard" => fixed do
    check 1 1
    let k ← keyOf given.first
    put (·.erase k)
    done
  | "remove" => fixed do
    check 1 1
    let k ← keyOf given.first
    if (← items).has k then
      put (·.erase k)
      done
    else raiseWith "KeyError" [given.first]
  | "pop" => fixed do
    check 0 0
    match setOrder (← items) with
    | [] => raise "KeyError" "pop from an empty set"
    | v :: _ =>
      let k ← keyOf v
      put (·.erase k)
      return some v
  | "clear" => fixed do
    check 0 0
    put fun _ => {}
    done
  | "copy" => answer (← items)
  | "union" => answer (← combine .or)
  | "intersection" => answer (← combine .and)
  | "difference" => answer (← combine .subtract)
  | "symmetric_difference" =>
    check 1 1
    answer (← combine .xor)
  | "update" => fixed do
    let d ← combine .or
    put fun _ => d
    done
  | "intersection_update" => fixed do
    let d ← combine .and
    put fun _ => d
    done
  | "difference_update" => fixed do
    let d ← combine .subtract
    put fun _ => d
    done
  | "symmetric_difference_update" => fixed do
    check 1 1
    let d ← combine .xor
    put fun _ => d
    done
  | "issubset" =>
    check 1 1
    let other ← setOf (← collect given.first)
    return some (.bool ((← items).keys.all other.has))
  | "issuperset" =>
    check 1 1
    let other ← setOf (← collect given.first)
    let own ← items
    return some (.bool (other.keys.all own.has))
  | "isdisjoint" =>
    check 1 1
    let other ← setOf (← collect given.first)
    return some (.bool (!(← items).keys.any other.has))
  | _ => return none

/-! ### Queues with two ends -/

def dequeMethod? [Caller] [Resumer] (names : Names) (name : String) (given : Given) : Run (Option Value) := do
  let limit : Option Nat := match names.get? "maxlen" with
    | some (.int m) => some m.toNat
    | _ => none
  match names.get? "items" with
  | some (.thing m) =>
    let items : Run (List Value) := do
      match ← look m with
      | .list items => return items.toList
      | _ => return []
    let setItems (new : List Value) (keepsLast : Bool) : Run Unit :=
      let new := match limit with
        | some l => if new.length ≤ l then new else if keepsLast then new.drop (new.length - l) else new.take l
        | none => new
      change m fun _ => .list new.toArray
    match name with
    | "append" =>
      match limit with
      | none => withItems m (·.push given.first)
      | some _ => setItems ((← items) ++ [given.first]) true
      done
    | "appendleft" =>
      setItems (given.first :: (← items)) false
      done
    | "extend" =>
      setItems ((← items) ++ (← collect given.first)) true
      done
    | "extendleft" =>
      setItems ((← collect given.first).reverse ++ (← items)) false
      done
    | "pop" =>
      match (← items).getLast? with
      | some v =>
        withItems m (·.pop)
        return some v
      | none => raise "IndexError" "pop from an empty deque"
    | "popleft" =>
      match ← items with
      | v :: rest =>
        change m fun _ => .list rest.toArray
        return some v
      | [] => raise "IndexError" "pop from an empty deque"
    | "rotate" =>
      let k ← integerOf (given.getD 0 "n" (.int 1))
      let all ← items
      let size := all.length
      if size > 0 then
        let cut := (size - (k % size).toNat) % size
        change m fun _ => .list (all.drop cut ++ all.take cut).toArray
      done
    | "copy" => return some (← alloc (.record "collections.deque" (names.put "items" (← newList (← items)))))
    | "maxlen" => return some ((names.get? "maxlen").getD .none)
    | "remove" =>
      match ← placeOfEqual given.first 0 (← items) with
      | some i =>
        withItems m fun a => (withoutPlace i a.toList).toArray
        done
      | none => valueError "deque.remove(x): x not in deque"
    | "index" => indexMethod (← items) given fun v => do return Glyphs.toString (← shown v) ++ " is not in deque"
    | "clear" | "reverse" | "count" | "insert" => listMethod? m name given
    | _ => return none
  | _ => return none

/-! ### Octets that can change -/

def bytearrayMethod? [Caller] [Resumer] (n : Nat) (o : Octets) (name : String) (given : Given) : Run (Option Value) := do
  let put (o : Octets) : Run Unit := change n fun _ => .octets o
  match name with
  | "append" =>
    put (o ++ [← octetOf (← oneArg "bytearray.append" given) "byte"])
    done
  | "extend" =>
    let more ← match ← octetsOf? given.first with
      | some p => pure p
      | none => do
        let items ← collect given.first
        items.mapM fun v => octetOf v "byte"
    put (o ++ more)
    done
  | "insert" =>
    let i := clampedPlace o.length (← integerOf given.first)
    put (o.take i ++ (← octetOf (given.getD 1 "" .none) "byte") :: o.drop i)
    done
  | "pop" =>
    if o.isEmpty then raise "IndexError" "pop from empty bytearray"
    match placeOf? o.length (← integerOf (given.getD 0 "" (.int (-1)))) with
    | some i =>
      put (withoutPlace i o)
      return some (.int ((o[i]?).getD 'a').toNat)
    | none => raise "IndexError" "pop index out of range"
  | "remove" =>
    let c ← octetOf given.first "byte"
    if o.contains c then
      put (o.erase c)
      done
    else valueError "value not found in bytearray"
  | "clear" =>
    put []
    done
  | "reverse" =>
    put o.reverse
    done
  | "copy" => return some (← alloc (.octets o))
  | _ =>
    match ← textMethod? false (Glyphs.ofOctets o) (fun g => .octets (g.map Char.ofNat)) name given with
    | some (.octets p) => return some (← alloc (.octets p))
    | r => return r

end GrammarStudio.ObjectScript
