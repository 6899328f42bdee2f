import GrammarStudio.Digest.Basic
import GrammarStudio.ObjectScript.Collections

/-!
# What values can do

* `numberMethod?`, `channelMethod?`, `exceptionMethod?`, `generatorMethod?` — the methods of the other kinds;
* `commonMethod?` — what every value can do;
* `callBound` — a method of a value, by its name.
-/

namespace GrammarStudio.ObjectScript

open Machine Number Tools

/-! ### Numbers -/

/-- The octets of a whole number, the lowest first. -/
def octetsOfNat : (count : Nat) → Nat → Octets
  | 0, _ => []
  | count + 1, n => Char.ofNat (n % 256) :: octetsOfNat count (n / 256)

def natOfOctets (o : Octets) : Nat := o.foldr (fun c n => n * 256 + c.toNat) 0

def orderOf [Caller] (given : Given) : Run Bool := do
  match ← coreOf (given.getD 1 "byteorder" (textValue "big")) with
  | .text g =>
    match Glyphs.toString g with
    | "little" => return true
    | "big" => return false
    | _ => valueError "byteorder must be either 'little' or 'big'"
  | other => typeError ("to_bytes() argument 'byteorder' must be str, not " ++ (← kindNameOf other))

/-- A number as the quotient of two whole ones that have no common part. -/
def ratioOf (x : Float) : Run (Int × Int) := do
  match Wide.ofFloat x with
  | .infinite _ => raise "OverflowError" "cannot convert Infinity to integer ratio"
  | .undefined _ => valueError "cannot convert NaN to integer ratio"
  | .finite b =>
    let (n, d) := b.quotient
    let g := Nat.gcd n d
    let g := if g = 0 then 1 else g
    let m : Int := n / g
    return (if b.negative then -m else m, (d / g : Nat))

def numberMethod? [Caller] (v : Value) (name : String) (given : Given) : Run (Option Value) := do
  match numeric? v with
  | some (.whole n) =>
    match name with
    | "bit_length" => return some (.ofNat (if n = 0 then 0 else n.natAbs.log2 + 1))
    | "bit_count" => return some (.ofNat ((Octets.inBase 2 n.natAbs).count '1'))
    | "conjugate" | "__int__" | "__index__" | "__trunc__" | "__floor__" | "__ceil__" | "__pos__" => return some (.int n)
    | "is_integer" => return none
    | "as_integer_ratio" => return some (.tuple [.int n, .int 1])
    | "to_bytes" =>
      let length := (← integerOf (given.getD 0 "length" (.int 1))).toNat
      let lowFirst ← orderOf given
      let signed ← truth (given.getD 2 "signed" (.bool false))
      if n < 0 && !signed then raise "OverflowError" "can't convert negative int to unsigned"
      let room : Int := 256 ^ length
      if (!signed && n ≥ room) || (signed && (2 * n ≥ room || 2 * n < -room)) then raise "OverflowError" "int too big to convert"
      let o := octetsOfNat length (n % room).toNat
      return some (.octets (if lowFirst then o else o.reverse))
    | _ => return none
  | some (.broken x) =>
    match name with
    | "is_integer" => return some (.bool (x.isFinite && x.floor == x))
    | "conjugate" | "__float__" | "__pos__" => return some (.float x)
    | "as_integer_ratio" =>
      let (a, b) ← ratioOf x
      return some (.tuple [.int a, .int b])
    | "hex" =>
      match Wide.ofFloat x with
      | .infinite s => return some (textValue (if s then "-inf" else "inf"))
      | .undefined _ => return some (textValue "nan")
      | .finite b =>
        let sign := if b.negative then "-" else ""
        if b.mantissa = 0 then return some (textValue (sign ++ "0x0.0p+0"))
        else
          let normal := b.mantissa ≥ 2 ^ 52
          let fraction := if normal then b.mantissa - 2 ^ 52 else b.mantissa
          let e : Int := b.exponent + 52
          return some (textValue (sign ++ (if normal then "0x1." else "0x0.") ++ String.ofList (Glyphs.hexText 13 fraction) ++ "p" ++
            (if e < 0 then "-" else "+") ++ e.natAbs.repr))
    | _ => return none
  | none => return none

/-! ### Streams -/

def lineLimit [Caller] (v : Value) : Run (Option Nat) := do
  match v with
  | .none => return none
  | v =>
    let n ← integerOf v
    return if n < 0 then none else some n.toNat

/-- All lines that are still to come. -/
def restLines (n : Nat) (isText : Bool) : (fuel : Nat) → List Value → Run (List Value)
  | 0, done => return done.reverse
  | fuel + 1, done => do
    if isText then
      match ← readTextLine n with
      | [] => return done.reverse
      | g => restLines n isText fuel (.text g :: done)
    else
      match ← readOctetLine n with
      | [] => return done.reverse
      | o => restLines n isText fuel (.octets o :: done)

def writeTo [Caller] (n : Nat) (c : Channel) (v : Value) : Run Value := do
  if c.isText then
    match ← coreOf v with
    | .text g =>
      writeText n g
      return .ofNat g.length
    | _ =>
      if c.memory.isSome then typeError ("string argument expected, got '" ++ (← kindNameOf v) ++ "'")
      else typeError ("write() argument must be str, not " ++ (← kindNameOf v))
  else
    match ← octetsOf? v with
    | some o =>
      writeOctets n o
      return .ofNat o.length
    | none => typeError ("a bytes-like object is required, not '" ++ (← kindNameOf v) ++ "'")

def channelMethod? [Caller] [Resumer] (n : Nat) (c : Channel) (name : String) (given : Given) : Run (Option Value) := do
  let short (most : Nat) : Run Unit := do
    if given.args.length > most then
      if most = 0 then typeError (name ++ "() takes no arguments (" ++ given.args.length.repr ++ " given)")
      else typeError (name ++ " expected at most " ++ counted most "argument" ++ ", got " ++ given.args.length.repr)
  match name with
  | "write" =>
    if given.args.length ≠ 1 then
      typeError ((if c.isText then "TextIOWrapper" else "BufferedWriter") ++ ".write() takes exactly one argument (" ++ given.args.length.repr ++ " given)")
    return some (← writeTo n c given.first)
  | "writelines" =>
    for v in ← collect given.first do
      let _ ← writeTo n c v
    done
  | "read" | "read1" | "readall" =>
    short 1
    let count ← lineLimit (given.getD 0 "size" .none)
    if c.isText then return some (.text (← readText n count))
    else if name == "read1" then return some (.octets (← readOnce n (count.getD octetChunk)))
    else return some (.octets (← readOctets n count))
  | "peek" => do
    let _ ← openedChannel n
    if c.read.isEmpty then
      let _ ← readMore n octetChunk
    return some (.octets (← channelAt n).read)
  | "readline" =>
    short 1
    let limit ← lineLimit (given.getD 0 "size" .none)
    if c.isText then
      let g ← readTextLine n
      match limit with
      | some l =>
        changeChannel n fun c => if c.memory.isSome then { c with at_ := c.at_ - (g.length - l) } else { c with decoded := g.drop l ++ c.decoded }
        return some (.text (g.take l))
      | none => return some (.text g)
    else
      let o ← readOctetLine n
      match limit with
      | some l =>
        changeChannel n fun c => if c.memory.isSome then { c with at_ := c.at_ - (o.length - l) } else { c with read := o.drop l ++ c.read }
        return some (.octets (o.take l))
      | none => return some (.octets o)
  | "readlines" => return some (← newList (← restLines n c.isText endless []))
  | "flush" =>
    short 0
    if c.canWrite then flushChannel n
    done
  | "close" =>
    short 0
    closeChannel n
    done
  | "fileno" =>
    let _ ← openedChannel n
    if c.memory.isSome then unsupportedOperation "fileno"
    return some (.ofNat c.descriptor)
  | "isatty" =>
    let _ ← openedChannel n
    return some (.bool false)
  | "readable" => return some (.bool (← openedChannel n).canRead)
  | "writable" => return some (.bool (← openedChannel n).canWrite)
  | "seekable" =>
    if c.memory.isSome then return some (.bool true)
    else
      match ← system (.seek c.descriptor .current 0) with
      | .ok _ => return some (.bool true)
      | .error _ => return some (.bool false)
  | "seek" =>
    let offset ← integerOf given.first
    let whence ← integerOf (given.getD 1 "whence" (.int 0))
    return some (.int (← seekChannel n offset whence.toNat))
  | "tell" => return some (.int (← tellChannel n))
  | "truncate" =>
    if c.canWrite then flushChannel n
    let size ← match given.args.head? with
      | some v => Int.toNat <$> integerOf v
      | none => Int.toNat <$> tellChannel n
    if c.memory.isSome then changeChannel n fun c => { c with memory := c.memory.map (·.take size) }
    else answered [] (← system (.resize c.descriptor size))
    return some (.ofNat size)
  | "getvalue" => return some (if c.isText then .text (c.memory.getD []) else .octets ((c.memory.getD []).map Char.ofNat))
  | "getbuffer" => return some (.octets ((c.memory.getD []).map Char.ofNat))
  | "detach" =>
    match c.below with
    | some b =>
      sinkText n
      changeChannel n fun c => { c with isOpen := false }
      return some (.thing b)
    | none => return some (.thing n)
  | "reconfigure" =>
    if c.canWrite then flushChannel n
    let coding ← match given.named.lookup "encoding" with
      | some (.text g) => some <$> codingOf (Glyphs.toString g)
      | _ => pure none
    changeChannel n fun c =>
      let c := match coding with
        | some coding => { c with coding, handling := "strict" }
        | none => c
      let c := match given.named.lookup "errors" with
        | some (.text g) => { c with handling := Glyphs.toString g }
        | _ => c
      let c := match given.named.lookup "line_buffering" with
        | some (.bool b) => { c with byLine := b }
        | _ => c
      let c := match given.named.lookup "write_through" with
        | some (.bool b) => { c with isRaw := b }
        | _ => c
      match given.named.lookup "newline" with
      | some (.text g) => { c with newline := some g }
      | some .none => { c with newline := none }
      | _ => c
    done
  | "readinto" =>
    match given.first with
    | .thing m =>
      match ← look m with
      | .octets o =>
        let new ← readOctets n (some o.length)
        change m fun _ => .octets (new ++ o.drop new.length)
        return some (.ofNat new.length)
      | _ => return none
    | _ => return none
  | "__enter__" =>
    let _ ← openedChannel n
    return some (.thing n)
  | "__exit__" =>
    closeChannel n
    done
  | "__iter__" => return some (.thing n)
  | "__next__" =>
    match ← next? (.thing n) with
    | some v => return some v
    | none => raiseWith "StopIteration" []
  | _ => return none

/-! ### Exceptions -/

def exceptionMethod? [Caller] (n : Nat) (name : String) (given : Given) : Run (Option Value) := do
  match name with
  | "with_traceback" =>
    match given.first with
    | .none =>
      change n fun
        | .exception e => .exception { e with passages := [] }
        | t => t
    | _ => pure ()
    return some (.thing n)
  | "add_note" =>
    match given.first with
    | .text _ =>
      match ← look n with
      | .exception e =>
        match e.attributes.get? "__notes__" with
        | some (.thing m) => withItems m (·.push given.first)
        | _ =>
          let notes ← newList [given.first]
          change n (Thing.withNames (·.put "__notes__" notes))
      | _ => pure ()
      done
    | v => typeError ("note must be a str, not '" ++ (← kindNameOf v) ++ "'")
  | "__str__" =>
    match ← look n with
    | .exception e => return some (.text (← exceptionText e))
    | _ => return none
  | "__repr__" => return some (.text (← shownThing depthShown n))
  | "__init__" =>
    change n fun
      | .exception e => .exception { e with args := given.args }
      | t => t
    done
  | _ => return none

/-! ### Digests -/

/-- The octets of a digest with a name, and the size of its blocks. -/
def digestFor? (name : String) : Option ((ByteArray → List UInt8) × Nat) :=
  match name with
  | "md5" => some (Digest.md5, 64)
  | "sha1" => some (Digest.sha1, 64)
  | "sha224" => some (Digest.sha224, 64)
  | "sha256" => some (Digest.sha256, 64)
  | "sha384" => some (Digest.sha384, 128)
  | "sha512" => some (Digest.sha512, 128)
  | "blake2b" => some (Digest.blake, 128)
  | _ => none

def digestMethod? (n : Nat) (names : Names) (name : String) (given : Given) : Run (Option Value) := do
  let data : Octets := match names.get? "data" with
    | some (.octets o) => o
    | _ => []
  let algorithm : String := match names.get? "name" with
    | some (.text g) => Glyphs.toString g
    | _ => ""
  match digestFor? algorithm with
  | none => return none
  | some (f, size) =>
    let result : Octets := (f (Octets.bytes data)).map fun b => Char.ofNat b.toNat
    match name with
    | "update" =>
      match ← octetsOf? given.first with
      | some o =>
        change n (Thing.withNames (·.put "data" (.octets (data ++ o))))
        done
      | none => typeError (if given.first matches .text _ then "Strings must be encoded before hashing" else "object supporting the buffer API required")
    | "digest" => return some (.octets result)
    | "hexdigest" => return some (.text (hexWritten none 0 result))
    | "digest_size" => return some (.ofNat result.length)
    | "block_size" => return some (.ofNat size)
    | "name" => return some (textValue algorithm)
    | "copy" => return some (← alloc (.record "_hashlib.HASH" names))
    | _ => return none

/-! ### Every value -/

/-- The sign that a method stands for. -/
def signOf? (name : String) : Option (BinaryOp × Bool) :=
  let ops : List BinaryOp :=
    [.add, .subtract, .multiply, .divide, .floorDivide, .remainder, .power, .shiftLeft, .shiftRight, .and, .or, .xor]
  ops.findSome? fun op =>
    if name == "__" ++ op.methods ++ "__" then some (op, false)
    else if name == "__r" ++ op.methods ++ "__" then some (op, true)
    else none

def compareOf? (name : String) : Option CompareOp :=
  let ops : List CompareOp := [.less, .lessEqual, .greater, .greaterEqual]
  ops.find? fun op => op.method == name

/-- A value as scripts write it, whatever its kind says. -/
def shownPlainly [Caller] (v : Value) : Run Glyphs := do
  match v with
  | .thing n => shownThing depthShown n
  | v => shown v

/-- What every value can do, without what its kind says of it. -/
def commonMethod? [Caller] [Resumer] (v : Value) (name : String) (given : Given) : Run (Option Value) := do
  match name with
  | "__init__" =>
    match v with
    | .thing n =>
      match ← look n with
      | .instance_ kind _ core =>
        match core, given.args with
        | .thing m, arg :: _ =>
          match ← look m with
          | .list _ =>
            let items ← collect arg
            change m fun _ => .list items.toArray
          | .dict .. => putItems m ((← itemsFor arg) ++ namedItems given)
          | .set _ f =>
            let d ← setOf (← collect arg)
            change m fun _ => .set d f
          | _ => pure ()
        | .thing m, [] => putItems m (namedItems given)
        | .none, _ :: _ =>
          match ← fromLine? (← lineOf kind) "__init__" with
          | some _ => typeError "object.__init__() takes exactly one argument (the instance to initialize)"
          | none => typeError ((← kindName kind) ++ "() takes no arguments")
        | _, _ => pure ()
      | _ => pure ()
    | _ => pure ()
    done
  | "__init_subclass__" | "__set_name__" => done
  | "__repr__" => return some (.text (← shownPlainly v))
  | "__str__" =>
    match ← ownMethod? v "__repr__" with
    | some f => return some (← Caller.call f {})
    | none =>
      match ← coreOf v with
      | .text g => return some (.text g)
      | _ => return some (.text (← shownPlainly v))
  | "__format__" =>
    match given.first with
    | .text [] => return some (.text (← texted v))
    | .text g =>
      match ← coreOf v with
      | .thing _ => typeError ("unsupported format string passed to " ++ (← kindNameOf v) ++ ".__format__")
      | core => return some (.text (← laidOut core g))
    | _ => typeError "__format__() argument must be str"
  | "__eq__" =>
    match ← coreOf v, ← coreOf given.first with
    | .thing m, .thing n =>
      if m = n then return some (.bool true)
      else
        match ← look m, ← look n with
        | .list _, .list _ | .dict .., .dict .. | .set .., .set .. => return some (.bool (← equal (.thing m) (.thing n)))
        | _, _ => return some .notImplemented
    | .thing _, _ | _, .thing _ => return some .notImplemented
    | a, b => if (← kindNameOf a) == (← kindNameOf b) || ((numeric? a).isSome && (numeric? b).isSome) then return some (.bool (← equal a b)) else return some .notImplemented
  | "__ne__" => return some (.bool (!(← equal v given.first)))
  | "__hash__" =>
    match v with
    | .thing n => return some (.ofNat (addressOf n / 16))
    | v =>
      let k ← keyOf v
      return some (.int (k.getD 1 0))
  | "__setattr__" =>
    match given.first with
    | .text g =>
      setMemberPlainly v (Glyphs.toString g) (given.getD 1 "" .none)
      done
    | _ => typeError "attribute name must be string"
  | "__delattr__" =>
    match given.first with
    | .text g =>
      deleteMemberPlainly v (Glyphs.toString g)
      done
    | _ => typeError "attribute name must be string"
  | "__getattribute__" =>
    match given.first with
    | .text g => return some (← getMember v (Glyphs.toString g))
    | _ => typeError "attribute name must be string"
  | "__len__" => return (← sizeOf? (← coreOf v)).map Value.ofNat
  | "__getitem__" => return some (← getItem (← coreOf v) given.first)
  | "__setitem__" =>
    setItem (← coreOf v) given.first (given.getD 1 "" .none)
    done
  | "__delitem__" =>
    deleteItem (← coreOf v) given.first
    done
  | "__contains__" => return some (.bool (← contains (← coreOf v) given.first))
  | "__iter__" => return some (← iterate (← coreOf v))
  | "__next__" =>
    match ← next? v with
    | some x => return some x
    | none => raiseWith "StopIteration" []
  | "__bool__" => return some (.bool (← truth (← coreOf v)))
  | "__int__" | "__index__" =>
    match ← coreOf v with
    | .int n => return some (.int n)
    | .bool b => return some (.int (if b then 1 else 0))
    | .float x =>
      match (Wide.ofFloat x).truncate? with
      | some n => return some (.int n)
      | none => return none
    | _ => return none
  | "__float__" =>
    match numeric? (← coreOf v) with
    | some n => return some (.float (← n.toFloat))
    | none => return none
  | "__neg__" => return some (← unary .minus (← coreOf v))
  | "__invert__" => return some (← unary .invert (← coreOf v))
  | "__abs__" =>
    match numeric? (← coreOf v) with
    | some (.whole n) => return some (.ofNat n.natAbs)
    | some (.broken x) => return some (.float x.abs)
    | none => return none
  | "__sizeof__" => return some (.int 48)
  | "__call__" => return some (← Caller.call v given)
  | "__class__" => return some (← kindOf v)
  | "__getstate__" | "__reduce__" | "__reduce_ex__" => done
  | "mro" => return some (← newList (← lineOf v))
  | "__subclasses__" =>
    let count := (← get).heap.things.size
    let found ← (List.range count).filterMapM fun n => do
      match ← look n with
      | .class_ c => return if c.bases.any (sameKind v) then some (Value.thing n) else none
      | _ => return none
    return some (← newList found)
  | "__dir__" => return none
  | _ =>
    match compareOf? name with
    | some op =>
      let a ← coreOf v
      let b ← coreOf given.first
      if (← kindNameOf a) == (← kindNameOf b) then return some (.bool (← ordered op a b)) else return some .notImplemented
    | none =>
      match signOf? name with
      | some (op, isSwapped) =>
        let a ← coreOf v
        let b := given.first
        tryCatch (some <$> (if isSwapped then binaryPlain op b a op.sign else binaryPlain op a b op.sign)) fun e => do
          if ← isOfKind e "TypeError" then return some .notImplemented else throw e
      | none => return none

/-- The methods of a kind as seen from the value it is about. -/
def plainMethod? [Caller] [Resumer] (v : Value) (name : String) (given : Given) : Run (Option Value) := do
  match v with
  | .text g => textMethod? true g Value.text name given
  | .octets o => textMethod? false (Glyphs.ofOctets o) (fun g => .octets (g.map Char.ofNat)) name given
  | .int _ | .bool _ | .float _ => numberMethod? v name given
  | .tuple items =>
    match name with
    | "index" =>
      methodArgs "tuple.index" 1 3 given
      indexMethod items given fun _ => return "tuple.index(x): x not in tuple"
    | "count" =>
      methodArgs "tuple.count" 1 1 given
      return some (.ofNat (← countEqual given.first items))
    | _ => return none
  | .range a _ c =>
    match name with
    | "index" =>
      let n ← integerOf given.first
      if ← contains v (.int n) then return some (.int ((n - a) / c))
      else valueError (toString n ++ " is not in range")
    | "count" => return some (.int (if ← contains v given.first then 1 else 0))
    | "__reversed__" =>
      let size := (← sizeOf? v).getD 0
      let last := a + (size - 1) * c
      return some (← alloc (.course (.range last (a - c) (-c)) "range_iterator"))
    | _ => return none
  | .slice a b c =>
    match name with
    | "indices" =>
      let (x, y, z) ← sliceBounds (← integerOf given.first).toNat a b c
      return some (.tuple [.int x, .int y, .int z])
    | _ => return none
  | .thing n =>
    match ← look n with
    | .list _ => listMethod? n name given
    | .octets o => bytearrayMethod? n o name given
    | .dict _ kind _ => dictMethod? n kind name given
    | .scope _ => dictMethod? n "dict" name given
    | .set _ f => setMethod? n f name given
    | .channel c => channelMethod? n c name given
    | .exception _ => exceptionMethod? n name given
    | .view "keys" m | .view "items" m =>
      match name with
      | "isdisjoint" =>
        let other ← setOf (← collect given.first)
        match ← look m with
        | .dict d _ _ => return some (.bool (!d.keys.any other.has))
        | _ => return none
      | _ => return none
    | .generator _ =>
      match name with
      | "send" =>
        match ← Resumer.resume n (.givesBack given.first) with
        | .inl x => return some x
        | .inr r => raiseWith "StopIteration" (if r matches .none then [] else [r])
      | "throw" =>
        let e ← match given.args with
          | [k] => if ← isClass k then Caller.call k {} else pure k
          | k :: v :: _ =>
            if ← isClass k then (if (← exceptionOf? v).isSome then pure v else Caller.call k { args := [v] }) else pure k
          | [] => typeError "throw expected at least 1 argument, got 0"
        match ← Resumer.resume n (.raised e) with
        | .inl x => return some x
        | .inr r => raiseWith "StopIteration" (if r matches .none then [] else [r])
      | "close" =>
        let e ← newException "GeneratorExit" []
        tryCatch (do
          match ← Resumer.resume n (.raised e) with
          | .inl _ => raise "RuntimeError" "generator ignored GeneratorExit"
          | .inr _ => done) fun e => do
            if (← isOfKind e "GeneratorExit") || (← isOfKind e "StopIteration") then done else throw e
      | _ => return none
    | .record kind names =>
      match kind with
      | "collections.deque" => dequeMethod? names name given
      | "_hashlib.HASH" => digestMethod? n names name given
      | "memoryview" =>
        match name, names.get? "obj" with
        | "tobytes", some (.octets o) => return some (.octets o)
        | "tolist", some (.octets o) => return some (← newList (o.map fun c => .int c.toNat))
        | "hex", some (.octets o) => return some (.text (hexWritten none 0 o))
        | "release", _ => done
        | _, _ => return none
      | "re.Match" =>
        match name with
        | "group" =>
          match given.args with
          | [] => return some (← groupOf names (.int 0))
          | [w] => return some (← groupOf names w)
          | ws => return some (.tuple (← ws.mapM (groupOf names)))
        | "groups" =>
          let groups := match names.get? "groups" with
            | some (.tuple gs) => gs.drop 1
            | _ => []
          let default := given.getD 0 "default" .none
          return some (.tuple (groups.map fun g => if g matches .none then default else g))
        | "groupdict" =>
          match names.get? "index" with
          | some (.tuple pairs) =>
            let items ← pairs.mapM fun
              | .tuple [k, i] => do return (k, ← groupOf names i)
              | v => return (v, .none)
            return some (← newDict items)
          | _ => return some (← newDict [])
        | "start" | "end" | "span" =>
          let which ← match given.args.head? with
            | some w => pure w
            | none => pure (.int 0)
          let spans : List Value := match names.get? "spans" with
            | some (.tuple ss) => ss
            | _ => []
          let place : Nat ← match which with
            | .int k => pure k.toNat
            | .text g =>
              match names.get? "index" with
              | some (.tuple pairs) =>
                pure ((pairs.findSome? fun
                  | .tuple [.text k, .int i] => if k == g then some i.toNat else none
                  | _ => none).getD 1000)
              | _ => pure 1000
            | _ => pure 1000
          match spans[place]? with
          | some (.tuple [a, b]) => return some (match name with
            | "start" => a
            | "end" => b
            | _ => .tuple [a, b])
          | _ => raise "IndexError" "no such group"
        | "expand" => return none
        | _ => return none
      | _ => return none
    | .course c _ =>
      match name, c with
      | "__length_hint__", .items rest => return some (.ofNat rest.length)
      | _, _ => return none
    | .property get set delete doc =>
      match name with
      | "setter" => return some (← alloc (.property get given.first delete doc))
      | "getter" => return some (← alloc (.property given.first set delete doc))
      | "deleter" => return some (← alloc (.property get set given.first doc))
      | _ => return none
    | .function _ =>
      match name with
      | "__get__" => return some (if given.first matches .none then v else .method given.first v)
      | _ => return none
    | _ => return none
  | _ => return none

/-- Calls a method of a value, without what a script's kind says of it. -/
def callBound [Caller] [Resumer] (v : Value) (name : String) (given : Given) : Run Value := do
  let core ← coreOf v
  match ← plainMethod? core name given with
  | some r => return r
  | none =>
    match ← commonMethod? v name given with
    | some r => return r
    | none => noMember v name

end GrammarStudio.ObjectScript
