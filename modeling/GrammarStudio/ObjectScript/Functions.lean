import GrammarStudio.ObjectScript.Formatting
import GrammarStudio.ObjectScript.Construct

/-!
# Functions that are known everywhere

* `commonFunction?` — what such a function gives back;
* `printed` — values written on a stream;
* `opened` — a file for reading or writing;
* `unboundMethod` — the methods of kinds, as functions of the value that they are about.
-/

namespace GrammarStudio.ObjectScript

open Machine Number Tools

/-! ### Writing and reading -/

/-- What a library keeps under a name. -/
def libraryValue (library name : String) : Run Value := do
  match ← libraryScope? library with
  | some scope => return (← getIn? scope name).getD .none
  | none => return .none

/-- Writes a text on a stream, or on what can be written on like one. -/
def writeOn [Caller] (stream : Value) (g : Glyphs) : Run Unit := do
  let plain : Option (Nat × Channel) ← match stream with
    | .thing n =>
      match ← look n with
      | .channel c => pure (some (n, c))
      | _ => pure none
    | _ => pure none
  match plain with
  | some (n, c) =>
    let _ ← writeTo n c (.text g)
  | none =>
    let f ← getMember stream "write"
    let _ ← Caller.call f { args := [.text g] }

/-- Values written on a stream, with a text between them and one behind them. -/
def printed [Caller] (given : Given) : Run Value := do
  for (name, _) in given.named do
    if !(["sep", "end", "file", "flush"].contains name) then
      typeError ("'" ++ name ++ "' is an invalid keyword argument for print()")
  let stream ← match given.named.lookup "file" with
    | some .none | none => libraryValue "sys" "stdout"
    | some v => pure v
  let word (name : String) (usual : Glyphs) : Run Glyphs := do
    match given.named.lookup name with
    | none | some .none => return usual
    | some v =>
      match ← coreOf v with
      | .text g => return g
      | _ => typeError (name ++ " must be None or a string, not " ++ (← kindNameOf v))
  let between ← word "sep" [32]
  let behind ← word "end" [10]
  match stream with
  | .none => return .none
  | stream =>
    let mut first := true
    for v in given.args do
      if !first then writeOn stream between
      first := false
      writeOn stream (← texted v)
    writeOn stream behind
    if ← truth ((given.named.lookup "flush").getD (.bool false)) then
      let f ← getMember stream "flush"
      let _ ← Caller.call f {}
    return .none

/-- A path that a value says. -/
def pathGlyphs [Caller] (v : Value) : Run Glyphs := do
  match ← coreOf v with
  | .text g => return g
  | .octets o => return Glyphs.ofSystem o
  | core =>
    let own : Option Value ← match core with
      | .thing n =>
        match ← look n with
        | .record "pathlib.PosixPath" names => pure (names.get? "path")
        | _ => callOwn? v "__fspath__" []
      | _ => pure none
    match own with
    | some (.text g) => return g
    | some (.octets o) => return Glyphs.ofSystem o
    | _ => typeError ("expected str, bytes or os.PathLike object, not " ++ (← kindNameOf v))

def pathOctets [Caller] (v : Value) : Run Octets := do
  let o := Glyphs.toSystem (← pathGlyphs v)
  if o.contains '\x00' then valueError "embedded null byte"
  return o

def optionalWord [Caller] (what : String) (v : Option Value) : Run (Option String) := do
  match v with
  | none | some .none => return none
  | some v =>
    match ← coreOf v with
    | .text g => return some (Glyphs.toString g)
    | _ => typeError (what ++ " must be str or None, not " ++ (← kindNameOf v))

/-- Opens a file as a call says. -/
def opened [Caller] (given : Given) : Run Value := do
  let names := ["file", "mode", "buffering", "encoding", "errors", "newline", "closefd", "opener"]
  for (name, _) in given.named do
    if !names.contains name then typeError ("'" ++ name ++ "' is an invalid keyword argument for open()")
  if given.args.length > 8 then typeError ("open() takes at most 8 arguments (" ++ given.args.length.repr ++ " given)")
  match given.get? 0 "file" with
  | none => typeError "open() missing required argument 'file' (pos 1)"
  | some file =>
    let mode ← match given.get? 1 "mode" with
      | none => pure "r"
      | some v =>
        match ← coreOf v with
        | .text g => pure (Glyphs.toString g)
        | _ => typeError ("open() argument 'mode' must be str, not " ++ (← kindNameOf v))
    let buffering ← match given.get? 2 "buffering" with
      | none => pure (-1)
      | some v => integerOf v
    let coding ← optionalWord "open() argument 'encoding'" (given.get? 3 "encoding")
    let handling ← optionalWord "open() argument 'errors'" (given.get? 4 "errors")
    let newline ← optionalWord "open() argument 'newline'" (given.get? 5 "newline")
    let isBinary := mode.toList.contains 'b'
    match openMode? mode with
    | .error message => valueError message
    | .ok m =>
      if isBinary && coding.isSome then valueError "binary mode doesn't take an encoding argument"
      if isBinary && handling.isSome then valueError "binary mode doesn't take an errors argument"
      if isBinary && newline.isSome then valueError "binary mode doesn't take a newline argument"
      let opening (c : Glyphs.Coding) (newline : Option Glyphs) : Run Value := do
        match ← coreOf file with
        | .int d =>
          if d < 0 then valueError "negative file descriptor"
          match ← system (.describe d.toNat) with
          | .error fault => raiseFault fault []
          | .ok _ => newChannel d.toNat file m mode c (handling.getD "strict") newline (buffering = 0) (buffering = 1) (← truth (given.getD 6 "closefd" (.bool true)))
        | _ =>
          let path ← pathOctets file
          openChannel path file mode c (handling.getD "strict") newline (buffering = 0) (buffering = 1)
      if isBinary then opening .utf8 none
      else
        let newline : Option Glyphs ← match newline with
          | none => pure none
          | some "" => pure (some [])
          | some "\n" => pure (some [10])
          | some "\r" => pure (some [13])
          | some "\r\n" => pure (some [13, 10])
          | some w => valueError ("illegal newline value: " ++ w)
        let found ← opening ((Glyphs.Coding.named? (coding.getD "utf-8")).getD .utf8) newline
        if buffering = 0 then valueError "can't have unbuffered text I/O"
        match coding with
        | some c =>
          let _ ← codingOf c
          return found
        | none => return found

/-- A line from the standard input, behind a question. -/
def askedFor [Caller] (given : Given) : Run Value := do
  expectArgs "input" 0 1 given
  let out ← libraryValue "sys" "stdout"
  match given.args with
  | v :: _ => writeOn out (← texted v)
  | [] => pure ()
  match out with
  | .thing n => flushChannel n
  | _ => pure ()
  let stream ← libraryValue "sys" "stdin"
  let g : Glyphs ← match stream with
    | .thing n =>
      match ← look n with
      | .channel c =>
        if !c.isOpen then valueError "I/O operation on closed file."
        readTextLine n
      | _ =>
        match ← Caller.call (← getMember stream "readline") {} with
        | .text g => pure g
        | _ => typeError "object.readline() returned non-string"
    | _ => raise "RuntimeError" "input(): lost sys.stdin"
  if g.isEmpty then raise "EOFError" "EOF when reading a line"
  return .text (if g.getLast? = some 10 then g.dropLast else g)

/-! ### Numbers -/

/-- A number to so many places, a half going to the even neighbour. -/
def roundedTo (x : Float) (places : Int) : Float :=
  if places > 323 then x
  else if places < -308 then (if x < 0.0 then -0.0 else 0.0)
  else
    match Wide.ofFloat x with
    | .finite b =>
      if b.mantissa = 0 then x
      else
        -- the number as a quotient, times the power of ten, as the nearest whole number
        let (num, den) : Nat × Nat :=
          if b.exponent ≥ 0 then (b.mantissa * 2 ^ b.exponent.toNat, 1) else (b.mantissa, 2 ^ (-b.exponent).toNat)
        let (num, den) : Nat × Nat := if places ≥ 0 then (num * 10 ^ places.toNat, den) else (num, den * 10 ^ (-places).toNat)
        let q := num / den
        let r := num % den
        let q := if 2 * r > den || (2 * r = den && q % 2 = 1) then q + 1 else q
        let y := if places ≥ 0 then Float.ofScientific q true places.toNat else Float.ofScientific q false (-places).toNat
        if b.negative then -y else y
    | _ => x

/-- A whole number to tens, hundreds and so on, a half going to the even neighbour. -/
def roundedWhole (n : Int) (places : Int) : Int :=
  if places ≥ 0 then n
  else
    let unit : Int := 10 ^ (-places).toNat
    let q := n.fdiv unit
    let r := n.fmod unit
    let q := if 2 * r > unit || (2 * r = unit && q % 2 = 1) then q + 1 else q
    q * unit

def rounded [Caller] (given : Given) : Run Value := do
  match given.get? 0 "number" with
  | none => typeError "round() missing required argument 'number' (pos 1)"
  | some v =>
    let places ← match given.get? 1 "ndigits" with
      | none | some .none => pure none
      | some d => some <$> integerOf d
    match ← callOwn? v "__round__" (match given.get? 1 "ndigits" with
      | some d => [d]
      | none => []) with
    | some r => return r
    | none =>
      match numeric? (← coreOf v), places with
      | some (.whole n), none => return .int n
      | some (.whole n), some d => return .int (roundedWhole n d)
      | some (.broken x), none =>
        if x.isNaN then valueError "cannot convert float NaN to integer"
        if x.isInf then raise "OverflowError" "cannot convert float infinity to integer"
        match (Wide.ofFloat (roundedTo x 0)).truncate? with
        | some n => return .int n
        | none => return .int 0
      | some (.broken x), some d => return .float (roundedTo x d)
      | none, _ => typeError ("type " ++ (← kindNameOf v) ++ " doesn't define __round__ method")

/-- A whole number in a base, with what says which. -/
def inBase [Caller] (v : Value) (base : Nat) (head : String) : Run Value := do
  let n ← match ← coreOf v with
    | .bool b => pure (if b then 1 else 0)
    | _ => integerOf v
  return textValue ((if n < 0 then "-" else "") ++ head ++ String.ofList (Octets.inBase base n.natAbs))

/-- The number by which equal values are told to be equal. -/
def hashOn [Caller] : (fuel : Nat) → Value → Run Int
  | 0, _ => return 0
  | fuel + 1, v => do
    match ← callOwn? v "__hash__" [] with
    | some (.int n) => return n
    | some _ => typeError "__hash__ method should return an integer"
    | none =>
      let whole (n : Int) : Int :=
        let m := Int.tmod n (2 ^ 61 - 1)
        if m = -1 then -2 else m
      match ← coreOf v with
      | .int n => return whole n
      | .bool b => return if b then 1 else 0
      | .float x =>
        match (Wide.ofFloat x).truncate? with
        | some _ =>
          match Wide.ofFloat x with
          | .finite b =>
            -- two to the sixty-first power counts as one
            let n : Nat := b.mantissa * 2 ^ (b.exponent % 61).toNat % (2 ^ 61 - 1)
            return if b.negative then (if n = 1 then -2 else -(n : Int)) else n
          | _ => return 0
        | none => return if x.isNaN then 0 else if x > 0.0 then 314159 else -314159
      | .tuple items =>
        let lanes ← items.mapM (hashOn fuel)
        let word : Nat := 2 ^ 64
        let acc := lanes.foldl (fun (acc : Nat) (lane : Int) =>
          let acc := (acc + (lane % (word : Int)).toNat * 14029467366897019727) % word
          let acc := (acc * 2 ^ 31 + acc / 2 ^ 33) % word
          acc * 11400714785074694791 % word) 2870177450012600261
        let acc := (acc + (items.length ^^^ (2870177450012600261 ^^^ 3527539))) % word
        if acc = word - 1 then return 1546275796
        return if acc ≥ 2 ^ 63 then (acc : Int) - word else acc
      | .text [] | .octets [] => return 0
      | core =>
        let k ← keyOf core
        return k.foldl (fun (h : Int) n => (h * 1000003 + n + 97) % (2 ^ 61 - 1)) 3430008

def hashOf [Caller] (v : Value) : Run Int := hashOn depthCompared v

/-- The quotient and the rest of a division. -/
def dividedBoth [Caller] (a b : Value) : Run Value := do
  match ← callOwn? a "__divmod__" [b] with
  | some r => return r
  | none =>
    match numeric? (← coreOf a), numeric? (← coreOf b) with
    | some (.whole m), some (.whole n) =>
      if n = 0 then raise "ZeroDivisionError" "integer division or modulo by zero"
      return .tuple [.int (Int.fdiv m n), .int (Int.fmod m n)]
    | some x, some y =>
      let p ← x.toFloat
      let q ← y.toFloat
      if q == 0.0 then raise "ZeroDivisionError" "float divmod()"
      let (d, r) := floatDivide p q
      return .tuple [.float d, .float r]
    | _, _ => unsupported "divmod()" a b

/-- A power, or what is left of it. -/
def powered [Caller] (given : Given) : Run Value := do
  match given.get? 0 "base", given.get? 1 "exp", given.get? 2 "mod" with
  | some a, some b, none | some a, some b, some .none => binary .power a b
  | some a, some b, some m =>
    match wholeOf? (← coreOf a), wholeOf? (← coreOf b), wholeOf? (← coreOf m) with
    | some a, some b, some m =>
      if m = 0 then valueError "pow() 3rd argument cannot be 0"
      if b ≥ 0 then return .int (powerRest a b.toNat m)
      else
        match inverse? a m with
        | some i => return .int (powerRest i b.natAbs m)
        | none => valueError "base is not invertible for the given modulus"
    | _, _, _ => typeError "pow() 3rd argument not allowed unless all arguments are integers"
  | none, _, _ => typeError "pow() missing required argument 'base' (pos 1)"
  | _, none, _ => typeError "pow() missing required argument 'exp' (pos 2)"

/-! ### Many values -/

/-- The least or the greatest of values. -/
def extreme [Caller] [Resumer] (name : String) (op : CompareOp) (given : Given) : Run Value := do
  for (k, _) in given.named do
    if !(["key", "default"].contains k) then typeError (name ++ "() got an unexpected keyword argument '" ++ k ++ "'")
  let default := given.named.lookup "default"
  let items ← match given.args with
    | [] => typeError (name ++ " expected at least 1 argument, got 0")
    | [one] => collect one
    | many =>
      if default.isSome then typeError ("Cannot specify a default for " ++ name ++ "() with multiple positional arguments")
      pure many
  let key := (given.named.lookup "key").getD .none
  let said (v : Value) : Run Value := do
    match key with
    | .none => return v
    | f => Caller.call f { args := [v] }
  match items with
  | [] =>
    match default with
    | some d => return d
    | none => valueError (name ++ "() arg is an empty sequence")
  | first :: rest =>
    let (best, _) ← rest.foldlM (fun ((best, k) : Value × Value) v => do
      let w ← said v
      if ← ordered op w k then return (v, w) else return (best, k)) (first, ← said first)
    return best

/-- The sum of values. -/
def summed [Caller] [Resumer] (given : Given) : Run Value := do
  match given.get? 0 "iterable" with
  | none => typeError "sum() takes at least 1 positional argument (0 given)"
  | some v =>
    if given.args.length > 2 then typeError ("sum() takes at most 2 arguments (" ++ given.args.length.repr ++ " given)")
    let start := given.getD 1 "start" (.int 0)
    match ← coreOf start with
    | .text _ => typeError "sum() can't sum strings [use ''.join(seq) instead]"
    | .octets _ => typeError "sum() can't sum bytes [use b''.join(seq) instead]"
    | _ => (← collect v).foldlM (fun total v => binary .add total v) start

/-- Does a test hold of some value? -/
def someOf [Caller] [Resumer] (wanted : Bool) (course : Value) : (rounds : Nat) → Run Bool
  | 0 => return !wanted
  | rounds + 1 => do
    restAt rounds
    match ← next? course with
    | none => return !wanted
    | some v => if (← truth v) == wanted then return wanted else someOf wanted course rounds

/-! ### Questions about values -/

/-- Is one of several kinds the wanted one? -/
def isOneOf (test : Value → Run Bool) (name : String) : (fuel : Nat) → Value → Run Bool
  | 0, _ => return false
  | fuel + 1, kinds => do
    match kinds with
    | .tuple ks => ks.anyM (isOneOf test name fuel)
    | .none => if name == "isinstance" then typeError "isinstance() arg 2 must be a type, a tuple of types, or a union" else typeError "issubclass() arg 2 must be a class, a tuple of classes, or a union"
    | k =>
      if ← isClass k then test k
      else
        match k with
        | .thing n =>
          match ← look n with
          | .record "types.UnionType" names =>
            match names.get? "kinds" with
            | some ks => isOneOf test name fuel ks
            | none => return false
          | _ => refuse
        | _ => refuse
where
  refuse : Run Bool := do
    if name == "isinstance" then typeError "isinstance() arg 2 must be a type, a tuple of types, or a union"
    else typeError "issubclass() arg 2 must be a class, a tuple of classes, or a union"

/-- Can a value be called? -/
def isCallable [Caller] (v : Value) : Run Bool := do
  match v with
  | .native _ | .bound .. | .method .. | .kind _ => return true
  | .thing n =>
    match ← look n with
    | .function _ | .class_ _ | .plainFunction _ => return true
    | .record "functools.partial" _ => return true
    | .record _ names => return names.has "__call__"
    | .instance_ .. => return (← ownMethod? v "__call__").isSome
    | _ => return false
  | _ => return false

/-- The names that can be asked of a value. -/
def memberNames [Caller] (v : Value) : Run (List String) := do
  let ofKinds (kinds : List Value) : Run (List String) := do
    let parts ← kinds.mapM fun k => do
      match k with
      | .kind k => return ownMethods k
      | .thing n =>
        match ← look n with
        | .class_ c => return c.attributes.keys
        | _ => return []
      | _ => return []
    return parts.flatten
  let names ← match v with
    | .library l =>
      match ← libraryScope? l with
      | some scope => pure (← namesIn scope).keys
      | none => pure []
    | v =>
      let own := ((← ownNames? v).map Ordered.keys).getD []
      let line ← if ← isClass v then lineOf v else lineOf (← kindOf v)
      pure (own ++ (← ofKinds line))
  return (names.mergeSort fun a b => decide (a ≤ b)).eraseDups

def nameOf (what : String) (v : Value) : Run String := do
  match ← coreOf v with
  | .text g => return Glyphs.toString g
  | _ => typeError what

/-- What a value has under a name, or something else. -/
def memberOr [Caller] (v : Value) (name : String) : Run (Option Value) :=
  tryCatch (member? v name) fun e => do
    if ← isOfKind e "AttributeError" then return none else throw e

/-! ### Functions -/

/-- What a function that is known everywhere gives back. -/
def commonFunction? [Caller] [Resumer] (name : String) (given : Given) : Run (Option Value) := do
  let give (v : Value) : Run (Option Value) := return some v
  match name with
  | "print" => some <$> printed given
  | "len" =>
    let v ← oneArg "len" given
    match ← sizeOf? v with
    | some n => give (.ofNat n)
    | none => typeError ("object of type '" ++ (← kindNameOf v) ++ "' has no len()")
  | "repr" => do return some (.text (← shown (← oneArg "repr" given)))
  | "ascii" => do return some (.text (← shownPlain (← oneArg "ascii" given)))
  | "open" => some <$> opened given
  | "input" => some <$> askedFor given
  | "abs" =>
    let v ← oneArg "abs" given
    match numeric? (← coreOf v) with
    | some (.whole n) => give (.ofNat n.natAbs)
    | some (.broken x) => give (.float x.abs)
    | none =>
      match ← callOwn? v "__abs__" [] with
      | some r => give r
      | none => typeError ("bad operand type for abs(): '" ++ (← kindNameOf v) ++ "'")
  | "all" => do return some (.bool (← someOf false (← iterate (← oneArg "all" given)) endless))
  | "any" => do return some (.bool (← someOf true (← iterate (← oneArg "any" given)) endless))
  | "bin" => do return some (← inBase (← oneArg "bin" given) 2 "0b")
  | "oct" => do return some (← inBase (← oneArg "oct" given) 8 "0o")
  | "hex" => do return some (← inBase (← oneArg "hex" given) 16 "0x")
  | "callable" => do return some (.bool (← isCallable (← oneArg "callable" given)))
  | "chr" =>
    let n ← integerOf (← oneArg "chr" given)
    if n < 0 || n > 0x10FFFF then valueError "chr() arg not in range(0x110000)"
    give (.text [n.toNat])
  | "ord" =>
    let v ← oneArg "ord" given
    match ← coreOf v with
    | .text [n] => give (.ofNat n)
    | .text g => typeError ("ord() expected a character, but string of length " ++ g.length.repr ++ " found")
    | core =>
      match ← octetsOf? core with
      | some [c] => give (.ofNat c.toNat)
      | some o => typeError ("ord() expected a character, but string of length " ++ o.length.repr ++ " found")
      | none => typeError ("ord() expected string of length 1, but " ++ (← kindNameOf v) ++ " found")
  | "delattr" =>
    expectArgs name 2 2 given
    deleteMember given.first (← nameOf "attribute name must be string" (given.getD 1 "" .none))
    give .none
  | "setattr" =>
    expectArgs name 3 3 given
    setMember given.first (← nameOf "attribute name must be string" (given.getD 1 "" .none)) (given.getD 2 "" .none)
    give .none
  | "getattr" =>
    expectArgs name 2 3 given
    let word ← nameOf ("attribute name must be string, not '" ++ (← kindNameOf (given.getD 1 "" .none)) ++ "'") (given.getD 1 "" .none)
    match given.args[2]? with
    | none => do return some (← getMember given.first word)
    | some default => do return some ((← memberOr given.first word).getD default)
  | "hasattr" =>
    expectArgs name 2 2 given
    let word ← nameOf ("attribute name must be string, not '" ++ (← kindNameOf (given.getD 1 "" .none)) ++ "'") (given.getD 1 "" .none)
    give (.bool (← memberOr given.first word).isSome)
  | "divmod" =>
    expectArgs name 2 2 given
    some <$> dividedBoth given.first (given.getD 1 "" .none)
  | "pow" => some <$> powered given
  | "round" => some <$> rounded given
  | "sum" => some <$> summed given
  | "max" => some <$> extreme name .greater given
  | "min" => some <$> extreme name .less given
  | "sorted" =>
    match given.args with
    | [v] =>
      for (k, _) in given.named do
        if !(["key", "reverse"].contains k) then typeError ("'" ++ k ++ "' is an invalid keyword argument for sort()")
      let items ← collect v
      let backward ← truth ((given.named.lookup "reverse").getD (.bool false))
      some <$> newList (← sorted items ((given.named.lookup "key").getD .none) backward)
    | args => typeError ("sorted expected 1 argument, got " ++ args.length.repr)
  | "iter" =>
    match given.args with
    | [v] => some <$> iterate v
    | [f, sentinel] =>
      if ← isCallable f then some <$> newCourse (.calls f sentinel) "callable_iterator" else typeError "iter(v, w): v must be callable"
    | [] => typeError "iter expected at least 1 argument, got 0"
    | args => typeError ("iter expected at most 2 arguments, got " ++ args.length.repr)
  | "next" =>
    match given.args with
    | [] => typeError "next expected at least 1 argument, got 0"
    | v :: more =>
      let generator : Option Nat ← match v with
        | .thing n =>
          match ← look n with
          | .generator _ => pure (some n)
          | _ => pure none
        | _ => pure none
      match generator, more with
      | some n, [] =>
        match ← Resumer.resume n (.givesBack .none) with
        | .inl x => give x
        | .inr r => raiseWith "StopIteration" (if r matches .none then [] else [r])
      | _, _ =>
        match ← ownMethod? v "__next__", more with
        | some f, [] => do return some (← Caller.call f {})
        | _, more =>
          match ← next? v, more with
          | some x, _ => give x
          | none, [] => raiseWith "StopIteration" []
          | none, default :: _ => give default
  | "format" =>
    expectArgs name 1 2 given
    match given.args with
    | [v] => do return some (.text (← laidOut v []))
    | v :: layout :: _ =>
      match ← coreOf layout with
      | .text g => do return some (.text (← laidOut v g))
      | _ => typeError ("format() argument 2 must be str, not " ++ (← kindNameOf layout))
    | [] => give .none
  | "hash" => do return some (.int (← hashOf (← oneArg "hash" given)))
  | "id" =>
    match ← oneArg "id" given with
    | .thing n => give (.ofNat (addressOf n))
    | .int n => give (.int (0x955e00 + n * 32))
    | .none => give (.int 0x9544a0)
    | v => do return some (.int (0x7f1000000000 + (← hashOf v) % 0x10000000 * 16))
  | "isinstance" =>
    expectArgs name 2 2 given
    some <$> .bool <$> isOneOf (isOf given.first) name 20 (given.getD 1 "" .none)
  | "issubclass" =>
    expectArgs name 2 2 given
    if !(← isClass given.first) then typeError "issubclass() arg 1 must be a class"
    some <$> .bool <$> isOneOf (isSubkind given.first) name 20 (given.getD 1 "" .none)
  | "exit" | "quit" => raiseWith "SystemExit" (match given.args.head? with
    | some v => [v]
    | none => [.none])
  | "vars" =>
    match ← member? given.first "__dict__" with
    | some d => give d
    | none => typeError "vars() argument must have __dict__ attribute"
  | "dir" => do return some (← newList ((← memberNames given.first).map textValue))
  | "breakpoint" | "help" | "copyright" | "credits" | "license" => give .none
  | _ => return none

/-! ### Methods of kinds -/

/-- What the kinds themselves can be asked for. -/
def kindFunction? [Caller] [Resumer] (k name : String) (given : Given) : Run (Option Value) := do
  match k, name with
  | "dict", "fromkeys" | "collections.OrderedDict", "fromkeys" =>
    let keys ← collect given.first
    let v := given.getD 1 "" .none
    return some (← alloc (.dict (← dictOf (keys.map fun k => (k, v))) k .none))
  | "str", "maketrans" =>
    match given.args with
    | [table] =>
      let isTable ← match table with
        | .thing n => do pure ((← look n) matches .dict ..)
        | _ => pure false
      if !isTable then typeError "if you give only one argument to maketrans it must be a dict"
      let items ← itemsFor table
      let items ← items.mapM fun (k, v) => do
        match k with
        | .text [n] => return (Value.ofNat n, v)
        | .text _ => valueError "string keys in translate table must be of length 1"
        | k => return (k, v)
      some <$> newDict items
    | .text a :: .text b :: rest =>
      if a.length ≠ b.length then valueError "the first two maketrans arguments must have equal length"
      let pairs := (a.zip b).map fun (x, y) => (Value.ofNat x, Value.ofNat y)
      let gone := match rest with
        | .text c :: _ => c.map fun n => (Value.ofNat n, Value.none)
        | _ => []
      some <$> newDict (pairs ++ gone)
    | _ => typeError "if you give only one argument to maketrans it must be a dict"
  | "bytes", "maketrans" | "bytearray", "maketrans" =>
    match ← octetsOf? given.first, ← octetsOf? (given.getD 1 "" .none) with
    | some a, some b =>
      if a.length ≠ b.length then valueError "maketrans arguments must have same length"
      let table := (a.zip b).foldl (fun (t : List Char) (x, y) => t.set x.toNat y) ((List.range 256).map Char.ofNat)
      return some (.octets table)
    | _, _ => typeError "a bytes-like object is required"
  | "int", "from_bytes" =>
    if (← coreOf given.first) matches .int _ then typeError "cannot convert 'int' object to bytes"
    let o ← toOctets "bytes" { args := [given.first] }
    let lowFirst ← orderOf { args := [.none, given.getD 1 "byteorder" (textValue "big")], named := given.named }
    let o := if lowFirst then o else o.reverse
    let n := natOfOctets o
    let signed ← truth ((given.named.lookup "signed").getD (.bool false))
    let room := 256 ^ o.length
    return some (.int (if signed && 2 * n ≥ room && !o.isEmpty then (n : Int) - room else n))
  | "bytes", "fromhex" | "bytearray", "fromhex" =>
    match given.first with
    | .text g =>
      match hexRead? (g.length + 1) 0 g with
      | .ok o => if k == "bytes" then return some (.octets o) else some <$> alloc (.octets o)
      | .error at_ => valueError ("non-hexadecimal number found in fromhex() arg at position " ++ at_.repr)
    | v => typeError ("fromhex() argument must be str, not " ++ (← kindNameOf v))
  | "float", "fromhex" =>
    match given.first with
    | .text g =>
      let cs := (trimmed g).map Char.ofNat
      let (sign, body) := match cs with
        | '-' :: rest => (['-'], rest)
        | '+' :: rest => ([], rest)
        | rest => ([], rest)
      let isWord := body.head?.any fun c => c.isAlpha && !Octets.isHex c
      let body := if isWord || (ascii "0x").isPrefixOf body || (ascii "0X").isPrefixOf body then body else ascii "0x" ++ body
      match Wide.read double (sign ++ body) with
      | some (w, []) => return some (.float w.toFloat)
      | _ => valueError "invalid hexadecimal floating-point string"
    | _ => typeError "bad argument type for built-in operation"
  | _, "__new__" =>
    match given.args with
    | kind :: args =>
      match kind with
      | .kind k => do return some (← construct k { args, named := given.named })
      | kind =>
        if !(← isClass kind) then typeError ("object.__new__(X): X is not a type object (" ++ (← kindNameOf kind) ++ ")")
        let line ← lineOf kind
        let kinds := plainKinds line
        if kinds.contains "BaseException" then return some (← newRaised kind kinds args)
        let core ← coreFor kinds (k == "object") { args, named := given.named }
        return some (← alloc (.instance_ kind {} core))
    | [] => typeError (k ++ ".__new__(): not enough arguments")
  | "object", "__init_subclass__" => return some .none
  | "pathlib.PosixPath", "cwd" => do
    return some (← construct k { args := [.text (Glyphs.ofSystem (← system .here))] })
  | _, _ => return none

/-- A method of a kind, as a function of the value that it is about. -/
def unboundMethod [Caller] [Resumer] (k name : String) (given : Given) : Run Value := do
  match ← kindFunction? k name given with
  | some v => return v
  | none =>
    match given.args with
    | [] => typeError ("unbound method " ++ shortName k ++ "." ++ name ++ "() needs an argument")
    | v :: args =>
      if k == "type" || k == "object" || (← isOfKind v k) then callBound v name { given with args }
      else typeError ("descriptor '" ++ name ++ "' for '" ++ shortName k ++ "' objects doesn't apply to a '" ++ (← kindNameOf v) ++ "' object")

end GrammarStudio.ObjectScript
