import GrammarStudio.ObjectScript.Shown

/-!
# What operators do

* `truth`, `equal`, `compareValues` — questions about values;
* `keyOf` — what a value is looked up by;
* `binary`, `unary` — what comes of values with a sign between them, or before one.
-/

namespace GrammarStudio.ObjectScript

open Machine Number Tools

/-! ### Numbers -/

inductive Numeric where
  | whole (n : Int)
  | broken (x : Float)

def numeric? (v : Value) : Option Numeric :=
  match v with
  | .int n => some (.whole n)
  | .bool b => some (.whole (if b then 1 else 0))
  | .float x => some (.broken x)
  | _ => none

/-- A whole number as one of the machine, unless it is too large. -/
def floatOf? (n : Int) : Option Float :=
  match Wide.round double (Wide.ofInt n) with
  | .infinite _ => none
  | w => some w.toFloat

def floatOf (n : Int) : Run Float := do
  match floatOf? n with
  | some x => return x
  | none => raise "OverflowError" "int too large to convert to float"

def Numeric.toFloat : Numeric → Run Float
  | .whole n => floatOf n
  | .broken x => return x

/-- The order of two numbers, if they have one. -/
def compareNumeric (a b : Numeric) : Option Ordering :=
  match a, b with
  | .whole m, .whole n => some (compare m n)
  | a, b =>
    let wide : Numeric → Wide
      | .whole n => Wide.ofInt n
      | .broken x => Wide.ofFloat x
    match wide a, wide b with
    | .undefined _, _ | _, .undefined _ => none
    | .infinite s, .infinite t => some (if s = t then .eq else if s then .lt else .gt)
    | .infinite s, _ => some (if s then .lt else .gt)
    | _, .infinite t => some (if t then .gt else .lt)
    | .finite x, .finite y =>
      if x.mantissa = 0 && y.mantissa = 0 then some .eq else some (Wide.compare x y)

/-- What is left of a number when another is taken from it as often as it goes, with the sign of the first. -/
def floatRest (x y : Float) : Float :=
  match Wide.ofFloat x, Wide.ofFloat y with
  | .finite a, .finite b =>
    if b.mantissa = 0 then (0.0 / 0.0)
    else
      let e := min a.exponent b.exponent
      let m := a.mantissa * 2 ^ (a.exponent - e).toNat
      let n := b.mantissa * 2 ^ (b.exponent - e).toNat
      (Wide.finite ⟨a.negative, m % n, e⟩).toFloat
  | .finite _, .infinite _ => x
  | _, _ => 0.0 / 0.0

/-- The quotient of two numbers, rounded down, and what is left. -/
def floatDivide (x y : Float) : Float × Float :=
  let rest := floatRest x y
  let quotient := (x - rest) / y
  let (rest, quotient) :=
    if rest != 0.0 then (if (y < 0.0) != (rest < 0.0) then (rest + y, quotient - 1.0) else (rest, quotient))
    else ((Wide.finite ⟨(Wide.ofFloat y).negative, 0, 0⟩).toFloat, quotient)
  let floored :=
    if quotient != 0.0 then
      let f := quotient.floor
      if quotient - f > 0.5 then f + 1.0 else f
    else (Wide.finite ⟨(Wide.ofFloat (x / y)).negative, 0, 0⟩).toFloat
  (floored, rest)

/-- The quotient of two whole numbers. -/
def wholeQuotient (a b : Int) : Option Float :=
  match nearest double ((a < 0) != (b < 0) && a ≠ 0) a.natAbs b.natAbs with
  | .infinite _ => none
  | w => some w.toFloat

/-- Bits of whole numbers of any sign, two by two. -/
def bitwise (f : Bool → Bool → Bool) (a b : Int) : Int :=
  -- so many places that the sign stands in the last
  let width := (Nat.log2 (max a.natAbs b.natAbs)) + 2
  let size : Int := 2 ^ width
  let x := (a % size).toNat
  let y := (b % size).toNat
  let rec run (count : Nat) (x y : Nat) (place : Nat) (done : Nat) : Nat :=
    match count with
    | 0 => done
    | count + 1 => run count (x / 2) (y / 2) (place * 2) (if f (x % 2 = 1) (y % 2 = 1) then done + place else done)
  let r := run width x y 1 0
  Int.bmod r (2 ^ width)

/-- The power of a whole number. -/
def wholePower (base : Int) (exponent : Nat) : Int := base ^ exponent

/-- The power of a number, remembered in rest to another. -/
def powerRest (base : Int) (exponent : Nat) (modulus : Int) : Int :=
  let rec run (fuel : Nat) (b : Int) (e : Nat) (done : Int) : Int :=
    match fuel with
    | 0 => done
    | fuel + 1 =>
      if e = 0 then done
      else run fuel (Int.fmod (b * b) modulus) (e / 2) (if e % 2 = 1 then Int.fmod (done * b) modulus else done)
  run (exponent.log2 + 2) (Int.fmod base modulus) exponent (Int.fmod 1 modulus)

/-- The number that turns another to one, in rests. -/
def inverse? (a modulus : Int) : Option Int :=
  let rec run (fuel : Nat) (r0 r1 s0 s1 : Int) : Int × Int :=
    match fuel with
    | 0 => (r0, s0)
    | fuel + 1 => if r1 = 0 then (r0, s0) else let q := Int.fdiv r0 r1; run fuel r1 (r0 - q * r1) s1 (s0 - q * s1)
  let m : Int := modulus.natAbs
  let (g, s) := run (2 * m.natAbs.log2 + 10) (Int.fmod a m) m 1 0
  if g = 1 then some (Int.fmod s modulus) else none

/-! ### Questions -/

/-- The octets of a value that has some. -/
def octetsOf? (v : Value) : Run (Option Octets) := do
  match v with
  | .octets o => return some o
  | .thing n =>
    match ← look n with
    | .octets o => return some o
    | .instance_ _ _ (.octets o) => return some o
    | .record "memoryview" names =>
      match names.get? "obj" with
      | some (.octets o) => return some o
      | _ => return none
    | _ => return none
  | _ => return none

/-- How many items a value has, if it has items. -/
def sizeOf? [Caller] (v : Value) : Run (Option Nat) := do
  match ← callOwn? v "__len__" [] with
  | some (.int n) =>
    if n < 0 then valueError "__len__() should return >= 0"
    return some n.toNat
  | some (.bool b) => return some (if b then 1 else 0)
  | some other => typeError ("'" ++ (← kindNameOf other) ++ "' object cannot be interpreted as an integer")
  | none =>
    match ← coreOf v with
    | .text g => return some g.length
    | .octets o => return some o.length
    | .tuple items => return some items.length
    | .range a b c =>
      return some (if c > 0 then (if a < b then ((b - a - 1) / c + 1).toNat else 0) else if a > b then ((a - b - 1) / (-c) + 1).toNat else 0)
    | .thing n =>
      match ← look n with
      | .list items => return some items.size
      | .octets o => return some o.length
      | .dict d _ _ => return some d.size
      | .set d _ => return some d.size
      | .scope names => return some names.size
      | .view _ object =>
        match ← look object with
        | .dict d _ _ => return some d.size
        | .scope names => return some names.size
        | _ => return some 0
      | .record "collections.deque" names =>
        match names.get? "items" with
        | some (.thing m) =>
          match ← look m with
          | .list items => return some items.size
          | _ => return some 0
        | _ => return some 0
      | .record "memoryview" names =>
        match names.get? "obj" with
        | some (.octets o) => return some o.length
        | _ => return some 0
      | _ => return none
    | _ => return none

/-- Does a value count as true? -/
def truth [Caller] (v : Value) : Run Bool := do
  match v with
  | .none => return false
  | .bool b => return b
  | .int n => return n ≠ 0
  | .float x => return x != 0.0
  | .text g => return !g.isEmpty
  | .notImplemented => return true
  | v =>
    match ← callOwn? v "__bool__" [] with
    | some (.bool b) => return b
    | some other => typeError ("__bool__ should return bool, returned " ++ (← kindNameOf other))
    | none =>
      match ← coreOf v with
      | .int n => return n ≠ 0
      | .float x => return x != 0.0
      | _ =>
        match ← sizeOf? v with
        | some n => return n ≠ 0
        | none => return true

/-- Is a value the same as another, and not only equal? -/
def same (a b : Value) : Bool :=
  match a, b with
  | .none, .none | .ellipsis, .ellipsis | .notImplemented, .notImplemented => true
  | .bool x, .bool y => x == y
  | .int x, .int y => x == y
  | .float x, .float y => x.toBits == y.toBits
  | .text x, .text y => x == y
  | .octets x, .octets y => x == y
  | .tuple [], .tuple [] => true
  | .native x, .native y => x == y
  | .kind x, .kind y => x == y
  | .library x, .library y => x == y
  | .thing x, .thing y => x == y
  | _, _ => false

def sameItems : List Value → List Value → Bool
  | [], [] => true
  | a :: as, b :: bs => same a b && sameItems as bs
  | _, _ => false

/-- The same, for tuples too. -/
def isSame (a b : Value) : Bool :=
  match a, b with
  | .tuple x, .tuple y => sameItems x y
  | a, b => same a b

/-- Are items equal, one by one? -/
def equalItems (equals : Value → Value → Run Bool) : List Value → List Value → Run Bool
  | [], [] => return true
  | a :: as, b :: bs => do
    if same a b then equalItems equals as bs
    else if ← equals a b then equalItems equals as bs
    else return false
  | _, _ => return false

mutual

/-- Are two values equal? -/
def equalOn [Caller] : (fuel : Nat) → Value → Value → Run Bool
  | 0, _, _ => raise "RecursionError" "maximum recursion depth exceeded in comparison"
  | fuel + 1, a, b => do
    match a, b with
    | .none, .none => return true
    | .text x, .text y => return x == y
    | .octets x, .octets y => return x == y
    | .tuple x, .tuple y => equalItems (equalOn fuel) x y
    | .range a₁ b₁ c₁, .range a₂ b₂ c₂ =>
      let items (a b c : Int) : Nat := if c > 0 then (if a < b then ((b - a - 1) / c + 1).toNat else 0) else if a > b then ((a - b - 1) / (-c) + 1).toNat else 0
      let m := items a₁ b₁ c₁
      return m = items a₂ b₂ c₂ && (m = 0 || (a₁ = a₂ && (m = 1 || c₁ = c₂)))
    | .slice a₁ b₁ c₁, .slice a₂ b₂ c₂ => equalItems (equalOn fuel) [a₁, b₁, c₁] [a₂, b₂, c₂]
    | .bound x f, .bound y g => return f == g && same x y
    | .method x f, .method y g => return same f g && same x y
    | a, b =>
      match numeric? a, numeric? b with
      | some x, some y => return compareNumeric x y == some .eq
      | _, _ =>
        match a, b with
        | .thing _, _ | _, .thing _ => equalThings fuel a b
        | a, b => return same a b

def equalThings [Caller] : (fuel : Nat) → Value → Value → Run Bool
  | 0, _, _ => return false
  | fuel + 1, a, b => do
    match ← (do
      match ← callOwn? a "__eq__" [b] with
      | some .notImplemented | none => callOwn? b "__eq__" [a]
      | r => pure r : Run (Option Value)) with
    | some .notImplemented => return same a b
    | some r => truth r
    | none =>
      let x ← coreOf a
      let y ← coreOf b
      match x, y with
      | .thing m, .thing n =>
        if m = n then return true
        match ← look m, ← look n with
        | .list x, .list y => if x.size ≠ y.size then return false else equalItems (equalOn fuel) x.toList y.toList
        | .octets x, .octets y => return x == y
        | .dict x _ _, .dict y _ _ =>
          if x.size ≠ y.size then return false
          else
            x.toList.foldlM (fun (ok : Bool) (k, _, v) => do
              if !ok then return false
              match y.get? k with
              | some (_, w) => if same v w then return true else equalOn fuel v w
              | none => return false) true
        | .set x _, .set y _ => return x.size = y.size && x.keys.all y.has
        | .view "keys" m, .view "keys" n =>
          match ← look m, ← look n with
          | .dict x _ _, .dict y _ _ => return x.size = y.size && x.keys.all y.has
          | _, _ => return false
        | .record "collections.deque" x, .record "collections.deque" y =>
          equalOn fuel ((x.get? "items").getD .none) ((y.get? "items").getD .none)
        | .record "types.SimpleNamespace" x, .record "types.SimpleNamespace" y =>
          if x.size ≠ y.size then return false
          else x.toList.foldlM (fun (ok : Bool) (k, v) => do
            if !ok then return false
            match y.get? k with
            | some w => equalOn fuel v w
            | none => return false) true
        | .record "pathlib.PosixPath" x, .record "pathlib.PosixPath" y =>
          equalOn fuel ((x.get? "path").getD .none) ((y.get? "path").getD .none)
        | _, _ => return false
      | .thing m, .octets o | .octets o, .thing m =>
        match ← look m with
        | .octets p => return o == p
        | _ => return false
      | .thing _, _ | _, .thing _ => return false
      | x, y => equalOn fuel x y

end

/-- How deep values are compared. -/
def depthCompared : Nat := 1000

def equal [Caller] (a b : Value) : Run Bool := equalOn depthCompared a b

/-- Is a value the same as another, or equal to it? -/
def matchesValue [Caller] (a b : Value) : Run Bool := do if same a b then return true else equal a b

/-! ### Keys -/

def octetsKey (o : Octets) : List Int := o.map fun c => (c.toNat : Int)

/-- What a value is looked up by. -/
def keyOn [Caller] : (fuel : Nat) → Value → Run Key
  | 0, _ => return []
  | fuel + 1, v => do
    match v with
    | .none => return [0]
    | .int n => return [1, n]
    | .bool b => return [1, if b then 1 else 0]
    | .float x =>
      match Wide.ofFloat x with
      | .finite b =>
        let whole : Option Int :=
          if b.mantissa = 0 then some 0
          else if b.exponent ≥ 0 then some (b.mantissa * 2 ^ b.exponent.toNat)
          else if b.mantissa % 2 ^ (-b.exponent).toNat = 0 then some (b.mantissa / 2 ^ (-b.exponent).toNat)
          else none
        match whole with
        | some n => return [1, if b.negative then -n else n]
        | none => return [2, x.toBits.toNat]
      | _ => return [2, x.toBits.toNat]
    | .text g => return 3 :: g.map Int.ofNat
    | .octets o => return 4 :: octetsKey o
    | .tuple items => return 5 :: items.length :: (← items.mapM fun v => keyOn fuel v).flatMap fun k => (k.length : Int) :: k
    | .range a b c => return [6, a, b, c]
    | .ellipsis => return [7]
    | .notImplemented => return [8]
    | .native name => return 9 :: octetsKey name.toList
    | .kind name => return 10 :: octetsKey name.toList
    | .library name => return 11 :: octetsKey name.toList
    | .bound owner name => return 12 :: (← keyOn fuel owner) ++ octetsKey name.toList
    | .method owner f => return 13 :: (← keyOn fuel owner) ++ (← keyOn fuel f)
    | .slice .. => typeError "unhashable type: 'slice'"
    | .above .. => return [14]
    | .thing n =>
      match ← ownMethod? v "__hash__" with
      | some .none => typeError ("unhashable type: '" ++ (← kindNameOf v) ++ "'")
      | some f =>
        match ← Caller.call f {} with
        | .int h => return [15, h]
        | _ => typeError "__hash__ method should return an integer"
      | none =>
        match ← look n with
        | .list _ | .dict .. | .octets _ | .scope _ | .set _ false | .record "types.SimpleNamespace" _ | .record "collections.deque" _ =>
          typeError ("unhashable type: '" ++ (← kindNameOf v) ++ "'")
        | .set d true => return 16 :: (d.keys.mergeSort fun a b => decide (a ≤ b)).flatMap fun k => (k.length : Int) :: k
        | .instance_ _ _ core =>
          match ← ownMethod? v "__eq__" with
          | some _ => typeError ("unhashable type: '" ++ (← kindNameOf v) ++ "'")
          | none =>
            match core with
            | .none => return [17, n]
            | core => keyOn fuel core
        | .record "pathlib.PosixPath" names => return 18 :: (← keyOn fuel ((names.get? "path").getD .none))
        | _ => return [17, n]

def keyOf [Caller] (v : Value) : Run Key := keyOn depthCompared v

/-- A dictionary with these items. -/
def dictOf [Caller] (items : List (Value × Value)) : Run Dict :=
  items.foldlM (fun (d : Dict) (k, v) => do
    let key ← keyOf k
    let k := match d.get? key with
      | some (old, _) => old
      | none => k
    return d.put key (k, v)) {}

def newDict [Caller] (items : List (Value × Value)) : Run Value := do alloc (.dict (← dictOf items) "dict" .none)

/-- Items as a set. -/
def setOf [Caller] (items : List Value) : Run Dict :=
  items.foldlM (fun (d : Dict) v => do
    let key ← keyOf v
    return if d.has key then d else d.put key (v, .none)) {}

/-! ### Order -/

def CompareOp.method : CompareOp → String
  | .equal => "__eq__"
  | .unequal => "__ne__"
  | .less => "__lt__"
  | .lessEqual => "__le__"
  | .greater => "__gt__"
  | .greaterEqual => "__ge__"
  | _ => ""

def CompareOp.swapped : CompareOp → CompareOp
  | .less => .greater
  | .lessEqual => .greaterEqual
  | .greater => .less
  | .greaterEqual => .lessEqual
  | op => op

def CompareOp.holds (op : CompareOp) (o : Ordering) : Bool :=
  match op with
  | .less => o == .lt
  | .lessEqual => o != .gt
  | .greater => o == .gt
  | .greaterEqual => o != .lt
  | .equal => o == .eq
  | _ => o != .eq

def notOrdered {α : Type} (op : CompareOp) (a b : Value) : Run α := do
  typeError ("'" ++ op.sign ++ "' not supported between instances of '" ++ (← kindNameOf a) ++ "' and '" ++ (← kindNameOf b) ++ "'")

/-- The first items that differ decide. -/
def orderedItems (equals orders : Value → Value → Run Bool) (op : CompareOp) : List Value → List Value → Run Bool
  | [], [] => return op.holds .eq
  | [], _ :: _ => return op.holds .lt
  | _ :: _, [] => return op.holds .gt
  | a :: as, b :: bs => do
    if same a b then orderedItems equals orders op as bs
    else if ← equals a b then orderedItems equals orders op as bs
    else orders a b

/-- Do two values stand in an order? -/
def orderedOn [Caller] : (fuel : Nat) → CompareOp → Value → Value → Run Bool
  | 0, _, _, _ => raise "RecursionError" "maximum recursion depth exceeded in comparison"
  | fuel + 1, op, a, b => do
    match a, b with
    | .text x, .text y => return op.holds (compare x y)
    | .octets x, .octets y => return op.holds (compare (x.map Char.toNat) (y.map Char.toNat))
    | .tuple x, .tuple y => orderedItems equal (orderedOn fuel op) op x y
    | a, b =>
      match numeric? a, numeric? b with
      | some x, some y =>
        match compareNumeric x y with
        | some o => return op.holds o
        | none => return false
      | _, _ =>
        match ← (do
          match ← callOwn? a op.method [b] with
          | some .notImplemented | none => callOwn? b op.swapped.method [a]
          | r => pure r : Run (Option Value)) with
        | some .notImplemented => notOrdered op a b
        | some r => truth r
        | none =>
          let x ← coreOf a
          let y ← coreOf b
          match x, y with
          | .thing m, .thing n =>
            match ← look m, ← look n with
            | .list x, .list y => orderedItems equal (orderedOn fuel op) op x.toList y.toList
            | .set x _, .set y _ =>
              let below := x.keys.all y.has
              let above := y.keys.all x.has
              return match op with
                | .less => below && !above
                | .lessEqual => below
                | .greater => above && !below
                | _ => above
            | .octets x, .octets y => return op.holds (compare (x.map Char.toNat) (y.map Char.toNat))
            | .record "collections.deque" x, .record "collections.deque" y =>
              orderedOn fuel op ((x.get? "items").getD .none) ((y.get? "items").getD .none)
            | .record "pathlib.PosixPath" x, .record "pathlib.PosixPath" y =>
              orderedOn fuel op ((x.get? "path").getD .none) ((y.get? "path").getD .none)
            | _, _ => notOrdered op a b
          | .thing _, _ | _, .thing _ => notOrdered op a b
          | .text _, .text _ | .octets _, .octets _ | .tuple _, .tuple _ =>
            if (a matches .thing _) || (b matches .thing _) then orderedOn fuel op x y else notOrdered op a b
          | x, y =>
            match numeric? x, numeric? y with
            | some m, some n => return (compareNumeric m n).any op.holds
            | _, _ => notOrdered op a b

def ordered [Caller] (op : CompareOp) (a b : Value) : Run Bool := orderedOn depthCompared op a b

/-! ### Signs between values -/

/-- The names of the methods for a sign: of the first value, and of the second. -/
def BinaryOp.methods : BinaryOp → String
  | .add => "add"
  | .subtract => "sub"
  | .multiply => "mul"
  | .divide => "truediv"
  | .floorDivide => "floordiv"
  | .remainder => "mod"
  | .power => "pow"
  | .shiftLeft => "lshift"
  | .shiftRight => "rshift"
  | .and => "and"
  | .or => "or"
  | .xor => "xor"
  | .matrix => "matmul"

def unsupported {α : Type} (sign : String) (a b : Value) : Run α := do
  typeError ("unsupported operand type(s) for " ++ sign ++ ": '" ++ (← kindNameOf a) ++ "' and '" ++ (← kindNameOf b) ++ "'")

/-- More octets or items than there is room for. -/
def tooMany : Nat := 200000000

def repeated {α : Type} (items : List α) (n : Int) : Run (List α) := do
  if n ≤ 0 || items.isEmpty then return []
  if items.length * n.toNat > tooMany then raiseWith "MemoryError" []
  match items with
  | [x] => return List.replicate n.toNat x
  | items => return (List.replicate n.toNat items).flatten

def wholeOf? (v : Value) : Option Int :=
  match v with
  | .int n => some n
  | .bool b => some (if b then 1 else 0)
  | _ => none

/-- Numbers with a sign between them. -/
def binaryNumeric (op : BinaryOp) (a b : Numeric) (x y : Value) (sign : String) : Run Value := do
  let zero {α : Type} (message : String) : Run α := raise "ZeroDivisionError" message
  match a, b with
  | .whole m, .whole n =>
    match op with
    | .add => return .int (m + n)
    | .subtract => return .int (m - n)
    | .multiply => return .int (m * n)
    | .divide =>
      if n = 0 then zero "division by zero"
      match wholeQuotient m n with
      | some q => return .float q
      | none => raise "OverflowError" "integer division result too large for a float"
    | .floorDivide => if n = 0 then zero "integer division or modulo by zero" else return .int (Int.fdiv m n)
    | .remainder => if n = 0 then zero "integer modulo by zero" else return .int (Int.fmod m n)
    | .power =>
      if n ≥ 0 then
        if m.natAbs > 1 && n.toNat * m.natAbs.log2 > 400000000 then raiseWith "MemoryError" []
        return .int (wholePower m n.toNat)
      else if m = 0 then zero "0.0 cannot be raised to a negative power"
      else return .float (Float.pow (← floatOf m) (← floatOf n))
    | .shiftLeft =>
      if n < 0 then valueError "negative shift count"
      if m ≠ 0 && n > 800000000 then raiseWith "MemoryError" []
      return .int (if m = 0 then 0 else m * 2 ^ n.toNat)
    | .shiftRight =>
      if n < 0 then valueError "negative shift count"
      return .int (if n > 100000 + m.natAbs.log2 then (if m < 0 then -1 else 0) else Int.fdiv m (2 ^ n.toNat))
    | .and | .or | .xor =>
      let f (p q : Bool) : Bool := match op with
        | .and => p && q
        | .or => p || q
        | _ => p != q
      match x, y with
      | .bool p, .bool q => return .bool (f p q)
      | _, _ =>
        if m ≥ 0 && n ≥ 0 then
          return .int (match op with
            | .and => (m.toNat &&& n.toNat : Nat)
            | .or => (m.toNat ||| n.toNat : Nat)
            | _ => (m.toNat ^^^ n.toNat : Nat))
        else return .int (bitwise f m n)
    | .matrix => unsupported sign x y
  | a, b =>
    match op with
    | .shiftLeft | .shiftRight | .and | .or | .xor | .matrix => unsupported sign x y
    | op =>
      let p ← a.toFloat
      let q ← b.toFloat
      match op with
      | .add => return .float (p + q)
      | .subtract => return .float (p - q)
      | .multiply => return .float (p * q)
      | .divide => if q == 0.0 then zero "float division by zero" else return .float (p / q)
      | .floorDivide => if q == 0.0 then zero "float floor division by zero" else return .float (floatDivide p q).1
      | .remainder => if q == 0.0 then zero "float modulo" else return .float (floatDivide p q).2
      | _ =>
        if p == 0.0 && q < 0.0 then zero "0.0 cannot be raised to a negative power"
        let r := Float.pow p q
        if r.isInf && !p.isInf && !q.isInf then raiseWith "OverflowError" [.int 34, textValue "Numerical result out of range"]
        return .float r

/-- Sets with a sign between them. -/
def binarySets (op : BinaryOp) (a b : Dict) : Option Dict :=
  match op with
  | .and => some (Ordered.ofList ((if a.size ≤ b.size then a else b).toList.filter fun (k, _) => a.has k && b.has k))
  | .or => some (b.toList.foldl (fun d (k, v) => if d.has k then d else d.put k v) a)
  | .subtract => some (Ordered.ofList (a.toList.filter fun (k, _) => !b.has k))
  | .xor => some (Ordered.ofList (a.toList.filter (fun (k, _) => !b.has k) ++ b.toList.filter fun (k, _) => !a.has k))
  | _ => none

/-- The items of a view of keys or items as a set. -/
def viewSet? [Caller] (t : Thing) : Run (Option Dict) := do
  match t with
  | .set d _ => return some d
  | .view what n =>
    match ← look n with
    | .dict d _ _ =>
      match what with
      | "keys" => return some (Ordered.ofList (d.toList.map fun (k, v, _) => (k, v, Value.none)))
      | "items" => return some (← setOf (d.values.map fun (k, v) => .tuple [k, v]))
      | _ => return none
    | _ => return none
  | _ => return none

/-- Counts with a sign between them: only what is more than nothing stays. -/
def binaryCounts (op : BinaryOp) (a b : Dict) : Option Dict :=
  let count (d : Dict) (k : Key) : Int := match d.get? k with
    | some (_, .int n) => n
    | _ => 0
  let combine? : Option (Int → Int → Int) := match op with
    | .add => some (· + ·)
    | .subtract => some (· - ·)
    | .and => some min
    | .or => some max
    | _ => none
  combine?.map fun f =>
    let keys := a.toList ++ b.toList.filter fun (k, _) => !a.has k
    Ordered.ofList ((keys.map fun (k, v, _) => (k, v, Value.int (f (count a k) (count b k)))).filter fun e => match e.2.2 with
      | .int n => n > 0
      | _ => false)

/-- What is written with a percent sign: a text with places for values, and the values. -/
@[nospecialize]
class Filler where
  fill : Glyphs → Value → Run Glyphs
  fillOctets : Octets → Value → Run Octets

/-- Values that scripts do not define, with a sign between them. -/
def binaryPlain [Caller] [Filler] (op : BinaryOp) (a b : Value) (sign : String) : Run Value := do
  let x ← coreOf a
  let y ← coreOf b
  let times (make : Int → Run Value) (other : Value) : Run Value := do
    match wholeOf? other with
    | some n => make n
    | none => typeError ("can't multiply sequence by non-int of type '" ++ (← kindNameOf other) ++ "'")
  match numeric? x, numeric? y with
  | some m, some n => binaryNumeric op m n x y sign
  | _, _ =>
    match op, x, y with
    | .add, .text g, .text h => return .text (g ++ h)
    | .add, .text _, _ => typeError ("can only concatenate str (not \"" ++ (← kindNameOf b) ++ "\") to str")
    | .add, .tuple g, .tuple h => return .tuple (g ++ h)
    | .add, .tuple _, _ => typeError ("can only concatenate tuple (not \"" ++ (← kindNameOf b) ++ "\") to tuple")
    | .multiply, .text g, y => times (fun n => return .text (← repeated g n)) y
    | .multiply, .octets o, y => times (fun n => return .octets (← repeated o n)) y
    | .multiply, .tuple items, y => times (fun n => return .tuple (← repeated items n)) y
    | .multiply, x, .text g =>
      let isList ← match x with
        | .thing m => do pure (match ← look m with
          | .list _ | .octets _ => true
          | _ => false)
        | _ => pure false
      if isList then times (fun _ => return y) y else times (fun n => return .text (← repeated g n)) x
    | .multiply, x, .octets o => times (fun n => return .octets (← repeated o n)) x
    | .multiply, x, .tuple items => times (fun n => return .tuple (← repeated items n)) x
    | .remainder, .text g, _ => return .text (← Filler.fill g b)
    | .remainder, .octets o, _ => return .octets (← Filler.fillOctets o b)
    | .add, .octets o, _ =>
      match ← octetsOf? y with
      | some p => return .octets (o ++ p)
      | none => typeError ("can't concat " ++ (← kindNameOf b) ++ " to bytes")
    | .or, .kind _, _ | .or, _, .kind _ => alloc (.record "types.UnionType" (Ordered.ofList [("kinds", .tuple [x, y])]))
    | op, .thing m, y =>
      match op, ← look m, y with
      | .add, .list items, y =>
        let other : Option (Array Value) ← match y with
          | .thing n =>
            match ← look n with
            | .list more => pure (some more)
            | _ => pure none
          | _ => pure none
        match other with
        | some more => alloc (.list (items ++ more))
        | none => typeError ("can only concatenate list (not \"" ++ (← kindNameOf b) ++ "\") to list")
      | .multiply, .list items, y => times (fun n => do newList (← repeated items.toList n)) y
      | .multiply, .octets o, y => times (fun n => do alloc (.octets (← repeated o n))) y
      | .add, .octets o, y =>
        match ← octetsOf? y with
        | some p => alloc (.octets (o ++ p))
        | none => typeError ("can't concat " ++ (← kindNameOf b) ++ " to bytearray")
      | .remainder, .octets o, _ => alloc (.octets (← Filler.fillOctets o b))
      | op, .dict d kind maker, .thing n =>
        match op, ← look n with
        | op, .dict e otherKind _ =>
          if kind == "collections.Counter" && otherKind == kind then
            match binaryCounts op d e with
            | some d => alloc (.dict d kind maker)
            | none => unsupported sign a b
          else if op = .or then
            alloc (.dict (e.toList.foldl (fun d (k, v) => d.put k (match d.get? k with
              | some (old, _) => (old, v.2)
              | none => v)) d) kind maker)
          else unsupported sign a b
        | _, _ => unsupported sign a b
      | .divide, .record "pathlib.PosixPath" _, _ => unsupported sign a b
      | op, t, .thing n =>
        let u ← look n
        let isFrozen := match t with
          | .set _ f => f
          | _ => false
        match ← viewSet? t, ← viewSet? u with
        | some d, some e =>
          match binarySets op d e with
          | some d => alloc (.set d isFrozen)
          | none => unsupported sign a b
        | _, _ =>
          match op, t, u with
          | .add, .record "collections.deque" _, .record "collections.deque" _ => unsupported sign a b
          | _, _, _ => unsupported sign a b
      | _, _, _ => unsupported sign a b
    | .multiply, x, .thing n =>
      match ← look n with
      | .list items => times (fun n => do newList (← repeated items.toList n)) x
      | .octets o => times (fun n => do alloc (.octets (← repeated o n))) x
      | _ => unsupported sign a b
    | _, _, _ => unsupported sign a b

/-- Two values with a sign between them. -/
def binaryWith [Caller] [Filler] (op : BinaryOp) (sign : String) (a b : Value) : Run Value := do
  match a, b with
  | .thing _, _ | _, .thing _ =>
    let name := op.methods
    let first ← callOwn? a ("__" ++ name ++ "__") [b]
    match first with
    | some .notImplemented | none =>
      match ← callOwn? b ("__r" ++ name ++ "__") [a] with
      | some .notImplemented => unsupported sign a b
      | some r => return r
      | none => if first.isSome && !(← isScripted b) then unsupported sign a b else binaryPlain op a b sign
    | some r => return r
  | a, b => binaryPlain op a b sign

def binary [Caller] [Filler] (op : BinaryOp) (a b : Value) : Run Value := binaryWith op op.sign a b

/-- Two values with a sign and an equals sign between them: the first may change in its place. -/
def augmented [Caller] [Filler] (op : BinaryOp) (a b : Value) : Run Value := do
  let sign := match op with
    | .power => "** or pow()"
    | op => op.sign ++ "="
  match a with
  | .thing m =>
    match ← callOwn? a ("__i" ++ op.methods ++ "__") [b] with
    | some .notImplemented | none =>
      match op, ← look m, b with
      | .or, .set d false, .thing n =>
        match ← viewSet? (← look n) with
        | some e =>
          change m fun _ => .set ((binarySets .or d e).getD d) false
          return a
        | none => unsupported sign a b
      | op, .set d false, .thing n =>
        match ← viewSet? (← look n) with
        | some e =>
          match binarySets op d e with
          | some d =>
            change m fun _ => .set d false
            return a
          | none => unsupported sign a b
        | none => unsupported sign a b
      | .or, .dict d kind maker, .thing n =>
        match ← look n with
        | .dict e _ _ =>
          change m fun _ => .dict (e.toList.foldl (fun d (k, v) => d.put k v) d) kind maker
          return a
        | _ => unsupported sign a b
      | .multiply, .list items, b =>
        match wholeOf? b with
        | some n =>
          let more ← repeated items.toList n
          change m fun _ => .list more.toArray
          return a
        | none => binaryWith op sign a b
      | .add, .octets o, b =>
        match ← octetsOf? b with
        | some p =>
          change m fun _ => .octets (o ++ p)
          return a
        | none => typeError ("can't concat " ++ (← kindNameOf b) ++ " to bytearray")
      | _, _, _ => binaryWith op sign a b
    | some r => return r
  | a => binaryWith op sign a b

/-! ### Signs before values -/

def UnaryOp.sign : UnaryOp → String
  | .plus => "+"
  | .minus => "-"
  | .invert => "~"

def UnaryOp.method : UnaryOp → String
  | .plus => "__pos__"
  | .minus => "__neg__"
  | .invert => "__invert__"

def unary [Caller] (op : UnaryOp) (v : Value) : Run Value := do
  match ← callOwn? v op.method [] with
  | some r => return r
  | none =>
    match op, numeric? (← coreOf v) with
    | .plus, some (.whole n) => return .int n
    | .minus, some (.whole n) => return .int (-n)
    | .invert, some (.whole n) => return .int (-n - 1)
    | .plus, some (.broken x) => return .float x
    | .minus, some (.broken x) => return .float (-x)
    | _, _ => typeError ("bad operand type for unary " ++ op.sign ++ ": '" ++ (← kindNameOf v) ++ "'")

end GrammarStudio.ObjectScript
