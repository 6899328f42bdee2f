import GrammarStudio.ObjectScript.Methods

/-!
# Making values

* `wholeFromText?`, `floatFromText?` — numbers that texts stand for;
* `construct` — one of a kind that scripts do not define;
* `makeClass`, `instantiate` — kinds that scripts define, and values of them.
-/

namespace GrammarStudio.ObjectScript

open Machine Number Tools

/-! ### Numbers from texts -/

def trimmed (g : Glyphs) : Glyphs := ((g.dropWhile Glyphs.isSpace).reverse.dropWhile Glyphs.isSpace).reverse

/-- The value of a digit of any script. -/
def digitOf? (n : Nat) : Option Nat :=
  if Glyphs.isDigit n then some (n - 48)
  else if 97 ≤ n && n ≤ 122 then some (n - 87)
  else if 65 ≤ n && n ≤ 90 then some (n - 55)
  else if 0xFF10 ≤ n && n ≤ 0xFF19 then some (n - 0xFF10)
  else if 0x660 ≤ n && n ≤ 0x669 then some (n - 0x660)
  else if 0x6F0 ≤ n && n ≤ 0x6F9 then some (n - 0x6F0)
  else if 0x966 ≤ n && n ≤ 0x96F then some (n - 0x966)
  else none

/-- Digits of a base, with single low lines between them. -/
def digitsIn (base : Nat) : (value : Nat) → (afterLine : Bool) → Glyphs → Option Nat
  | value, afterLine, [] => if afterLine then none else some value
  | value, afterLine, n :: rest =>
    if n = 95 then (if afterLine then none else digitsIn base value true rest)
    else
      match digitOf? n with
      | some d => if d < base then digitsIn base (value * base + d) false rest else none
      | none => none

/-- The whole number that a text stands for in a base; none is given where the text says which. -/
def wholeFromText? (base : Nat) (g : Glyphs) : Option Int := do
  let g := trimmed g
  let (negative, g) := match g with
    | 45 :: rest => (true, rest)
    | 43 :: rest => (false, rest)
    | g => (false, g)
  let named : Option Nat := match g with
    | 48 :: c :: _ => if c = 120 || c = 88 then some 16 else if c = 111 || c = 79 then some 8 else if c = 98 || c = 66 then some 2 else none
    | _ => none
  let hasHead := named.isSome && (base = 0 || named = some base)
  let (base, body) :=
    if hasHead then (named.getD 10, g.drop 2)
    else (if base = 0 then 10 else base, g)
  -- without a base, a number does not begin with a zero
  if !hasHead && base = 10 && g.isEmpty then none
  let body := if hasHead then (match body with
    | 95 :: rest => rest
    | b => b) else body
  if body.isEmpty || body.head? = some 95 then none
  let n ← digitsIn base 0 false body
  return if negative then -(n : Int) else n

def leadingZero (g : Glyphs) : Bool :=
  let g := (trimmed g).dropWhile fun n => n = 45 || n = 43
  match g with
  | 48 :: rest => rest.any fun n => n ≠ 48 && n ≠ 95
  | _ => false

/-- Single low lines between digits are left out. -/
def withoutLines : (before : Option Nat) → Glyphs → Option Glyphs
  | _, [] => some []
  | before, 95 :: rest =>
    if before.any Glyphs.isDigit && rest.head?.any Glyphs.isDigit then withoutLines (some 95) rest else none
  | _, n :: rest => (withoutLines (some n) rest).map (n :: ·)

/-- The number that a text stands for. -/
def floatFromText? (g : Glyphs) : Option Float := do
  let g := (trimmed g).map fun n => match digitOf? n with
    | some d => if n ≥ 128 then 48 + d else n
    | none => n
  let g ← withoutLines none g
  if g.any (· ≥ 128) then none
  let cs := g.map Char.ofNat
  let body := match cs with
    | '-' :: rest | '+' :: rest => rest
    | cs => cs
  let lower := String.ofList (body.map Char.toLower)
  if lower == "inf" || lower == "infinity" || lower == "nan" then
    let (w, _) ← Wide.read double cs
    return w.toFloat
  else
    let whole := body.takeWhile Char.isDigit
    let rest := body.dropWhile Char.isDigit
    let (back, rest) := match rest with
      | '.' :: rest => (rest.takeWhile Char.isDigit, rest.dropWhile Char.isDigit)
      | rest => ([], rest)
    if whole.isEmpty && back.isEmpty then none
    match rest with
    | [] => pure ()
    | e :: rest =>
      if e ≠ 'e' && e ≠ 'E' then none
      let digits := match rest with
        | '-' :: rest | '+' :: rest => rest
        | rest => rest
      if digits.isEmpty || !digits.all Char.isDigit then none
    let (w, rest) ← Wide.read double cs
    if rest.isEmpty then return w.toFloat else none

/-- No longer numbers are read or written in tens. -/
def longestNumber : Nat := 4300

/-- A value as a whole number. -/
def toWhole [Caller] (v : Value) : Run Int := do
  match ← coreOf v with
  | .int n => return n
  | .bool b => return if b then 1 else 0
  | .float x =>
    match (Wide.ofFloat x).truncate? with
    | some n => return n
    | none => if x.isNaN then valueError "cannot convert float NaN to integer" else raise "OverflowError" "cannot convert float infinity to integer"
  | core =>
    let ofText (g : Glyphs) (whole : Value) : Run Int := do
      let digits := (g.filter Glyphs.isDigit).length
      if digits > longestNumber then
        valueError ("Exceeds the limit (4300 digits) for integer string conversion: value has " ++ digits.repr ++
          " digits; use sys.set_int_max_str_digits() to increase the limit")
      match wholeFromText? 10 g with
      | some n => return n
      | none => raiseGlyphs "ValueError" (glyphs "invalid literal for int() with base 10: " ++ (← shown whole))
    match core with
    | .text g => ofText g core
    | core =>
      match ← octetsOf? core with
      | some o => ofText (Glyphs.ofOctets o) (.octets o)
      | none =>
        match ← callOwn? v "__int__" [] with
        | some (.int n) => return n
        | some (.bool b) => return if b then 1 else 0
        | some r => typeError ("__int__ returned non-int (type " ++ (← kindNameOf r) ++ ")")
        | none =>
          match ← indexOf? v with
          | some n => return n
          | none =>
            match ← callOwn? v "__trunc__" [] with
            | some (.int n) => return n
            | _ =>
              typeError ("int() argument must be a string, a bytes-like object or a real number, not '" ++ (← kindNameOf v) ++ "'")

/-- A value as a number that need not be whole. -/
def toFloat [Caller] (v : Value) : Run Float := do
  match numeric? (← coreOf v) with
  | some n => n.toFloat
  | none =>
    let fails {α : Type} (whole : Value) : Run α := do
      raiseGlyphs "ValueError" (glyphs "could not convert string to float: " ++ (← shown whole))
    match ← coreOf v with
    | .text g =>
      match floatFromText? g with
      | some x => return x
      | none => fails (.text g)
    | core =>
      match ← octetsOf? core with
      | some o =>
        match floatFromText? (Glyphs.ofOctets o) with
        | some x => return x
        | none => fails core
      | none =>
        match ← callOwn? v "__float__" [] with
        | some (.float x) => return x
        | some r => typeError ((← kindNameOf v) ++ ".__float__ returned non-float (type " ++ (← kindNameOf r) ++ ")")
        | none =>
          match ← callOwn? v "__index__" [] with
          | some (.int n) => floatOf n
          | _ => typeError ("float() argument must be a string or a real number, not '" ++ (← kindNameOf v) ++ "'")

/-! ### Values of kinds that scripts do not define -/

/-- The octets that a value stands for. -/
def toOctets [Caller] [Resumer] (kind : String) (given : Given) : Run Octets := do
  match given.get? 0 "source" with
  | none => if given.named.isEmpty then return [] else typeError "encoding without a string argument"
  | some v =>
    let coding ← match given.get? 1 "encoding" with
      | some c => some <$> wordOf (kind ++ "() argument 'encoding'") c
      | none => pure none
    let handling ← match given.get? 2 "errors" with
      | some c => some <$> wordOf (kind ++ "() argument 'errors'") c
      | none => pure none
    match ← coreOf v with
    | .text g =>
      match coding with
      | some c => encodedBy c (handling.getD "strict") g
      | none => typeError "string argument without an encoding"
    | core =>
      if coding.isSome then typeError "encoding without a string argument"
      match ← octetsOf? core with
      | some o => return o
      | none =>
        match ← callOwn? v "__bytes__" [] with
        | some (.octets o) => return o
        | some _ => typeError "__bytes__ returned non-bytes"
        | none =>
          match ← indexOf? v with
          | some n =>
            if n < 0 then valueError "negative count"
            if n > tooMany then raiseWith "MemoryError" []
            return List.replicate n.toNat '\x00'
          | none =>
            let items ← tryCatch (collect v) fun e => do
              if (← isOfKind e "TypeError") && !(← isScripted v) then typeError ("cannot convert '" ++ (← kindNameOf v) ++ "' object to " ++ kind) else throw e
            items.mapM fun v => octetOf v (if kind == "bytes" then "bytes" else "byte")

/-- The exception of a kind, with what its arguments say. -/
def newRaised (kind : Value) (kinds : List String) (args : List Value) : Run Value := do
  let plain := match kind with
    | .kind k => k
    | _ => ""
  if kinds.contains "OSError" && args.length ≥ 2 && args.length ≤ 5 then
    let number : Option Int := match args.head? with
      | some (.int n) => some n
      | _ => none
    let kind := match number with
      | some n => if plain == "OSError" then .kind (faultKind n.toNat) else kind
      | none => kind
    let names := ["errno", "strerror", "filename"]
    let attributes : Names := Ordered.ofList (names.zip args)
    let attributes := match args[4]? with
      | some v => attributes.put "filename2" v
      | none => attributes
    alloc (.exception { kind, args := args.take 2, attributes })
  else if (kinds.contains "UnicodeDecodeError" || kinds.contains "UnicodeEncodeError") && args.length = 5 then
    alloc (.exception { kind, args, attributes := Ordered.ofList (["encoding", "object", "start", "end", "reason"].zip args) })
  else if kinds.contains "subprocess.CalledProcessError" then
    let attributes : Names := Ordered.ofList (["returncode", "cmd", "output", "stderr"].zip (args ++ List.replicate (4 - args.length) .none))
    alloc (.exception { kind, args := args.take 2, attributes })
  else if kinds.contains "json.decoder.JSONDecodeError" && args.length = 3 then
    match args with
    | [.text message, .text document, .int at_] =>
      let before := document.take at_.toNat
      let line := before.count 10 + 1
      let column := (before.reverse.takeWhile (· ≠ 10)).length + 1
      let text := message ++ glyphs (": line " ++ line.repr ++ " column " ++ column.repr ++ " (char " ++ toString at_ ++ ")")
      let attributes : Names := Ordered.ofList
        [("msg", .text message), ("doc", .text document), ("pos", .int at_), ("lineno", .ofNat line), ("colno", .ofNat column)]
      alloc (.exception { kind, args := [.text text], attributes })
    | args => alloc (.exception { kind, args })
  else alloc (.exception { kind, args })

/-- Keeps a course with a name of its kind. -/
def newCourse (c : Course) (name : String) : Run Value := alloc (.course c name)

/-- One of a kind that scripts do not define. -/
def construct [Caller] [Resumer] (k : String) (given : Given) : Run Value := do
  let args := given.args
  let unnamed : Run Unit := do if !given.named.isEmpty then typeError (shortName k ++ "() takes no keyword arguments")
  let most (n : Nat) : Run Unit := do
    if args.length > n then typeError (shortName k ++ " expected at most " ++ counted n "argument" ++ ", got " ++ args.length.repr)
  let items : Run (List Value) := do
    unnamed
    most 1
    match args with
    | v :: _ => collect v
    | [] => return []
  match k with
  | "object" =>
    if !args.isEmpty || !given.named.isEmpty then typeError "object() takes no arguments"
    alloc (.cell .none)
  | "int" =>
    for (name, _) in given.named do
      if name ≠ "base" then typeError ("'" ++ name ++ "' is an invalid keyword argument for int()")
    if args.length > 2 then typeError ("int() takes at most 2 arguments (" ++ args.length.repr ++ " given)")
    match args.head?, given.get? 1 "base" with
    | none, none => return .int 0
    | none, some _ => typeError "int() missing string argument"
    | some v, none => return .int (← toWhole v)
    | some v, some b =>
      let base ← integerOf b
      if base ≠ 0 && (base < 2 || base > 36) then valueError "int() base must be >= 2 and <= 36, or 0"
      let read (g : Glyphs) (whole : Value) : Run Value := do
        match (if base = 0 && leadingZero g && (wholeFromText? 10 g).isSome then none else wholeFromText? base.toNat g) with
        | some n => return .int n
        | none => raiseGlyphs "ValueError" (glyphs ("invalid literal for int() with base " ++ toString base ++ ": ") ++ (← shown whole))
      match ← coreOf v with
      | .text g => read g (.text g)
      | core =>
        match ← octetsOf? core with
        | some o => read (Glyphs.ofOctets o) (.octets o)
        | none => typeError "int() can't convert non-string with explicit base"
  | "float" =>
    unnamed
    most 1
    match args with
    | v :: _ => return .float (← toFloat v)
    | [] => return .float 0.0
  | "bool" =>
    unnamed
    most 1
    match args with
    | v :: _ => return .bool (← truth v)
    | [] => return .bool false
  | "str" =>
    let v? := given.get? 0 "object"
    match v?, given.get? 1 "encoding", given.get? 2 "errors" with
    | none, _, _ => return .text []
    | some v, none, none => return .text (← texted v)
    | some v, c, h =>
      let coding ← match c with
        | some c => wordOf "str() argument 'encoding'" c
        | none => pure "utf-8"
      let handling ← match h with
        | some h => wordOf "str() argument 'errors'" h
        | none => pure "strict"
      match ← octetsOf? (← coreOf v) with
      | some o => return .text (← decodedBy coding handling o)
      | none =>
        if (← coreOf v) matches .text _ then typeError "decoding str is not supported"
        else typeError ("decoding to str: need a bytes-like object, " ++ (← kindNameOf v) ++ " found")
  | "bytes" => return .octets (← toOctets "bytes" given)
  | "bytearray" => alloc (.octets (← toOctets "bytearray" given))
  | "list" => newList (← items)
  | "tuple" => return .tuple (← items)
  | "set" => alloc (.set (← setOf (← items)) false)
  | "frozenset" => alloc (.set (← setOf (← items)) true)
  | "dict" | "collections.OrderedDict" =>
    most 1
    let start ← match args with
      | v :: _ => itemsFor v
      | [] => pure []
    alloc (.dict (← dictOf (start ++ namedItems given)) k .none)
  | "collections.defaultdict" =>
    let maker := args.headD .none
    let start ← match args[1]? with
      | some v => itemsFor v
      | none => pure []
    alloc (.dict (← dictOf (start ++ namedItems given)) k maker)
  | "collections.Counter" =>
    let n ← allocNumber (.dict {} k .none)
    putCounts n 1 given
    return .thing n
  | "collections.deque" =>
    let start ← match args with
      | v :: _ => collect v
      | [] => pure []
    let limit := given.getD 1 "maxlen" .none
    let start := match limit with
      | .int m => start.drop (start.length - m.toNat)
      | _ => start
    alloc (.record k (Ordered.ofList [("items", ← newList start), ("maxlen", limit)]))
  | "range" =>
    unnamed
    if args.isEmpty then typeError "range expected at least 1 argument, got 0"
    most 3
    let ns ← args.mapM integerOf
    match ns with
    | [b] => return .range 0 b 1
    | [a, b] => return .range a b 1
    | a :: b :: c :: _ => if c = 0 then valueError "range() arg 3 must not be zero" else return .range a b c
    | [] => return .range 0 0 1
  | "slice" =>
    if args.isEmpty then typeError "slice expected at least 1 argument, got 0"
    most 3
    match args with
    | [b] => return .slice .none b .none
    | [a, b] => return .slice a b .none
    | a :: b :: c :: _ => return .slice a b c
    | [] => return .none
  | "enumerate" =>
    match given.get? 0 "iterable" with
    | none => typeError "enumerate() missing required argument 'iterable'"
    | some v =>
      if args.length > 2 then typeError ("enumerate() takes at most 2 arguments (" ++ args.length.repr ++ " given)")
      newCourse (.numbered (← iterate v) (← integerOf (given.getD 1 "start" (.int 0)))) k
  | "zip" =>
    let strict ← truth ((given.named.lookup "strict").getD (.bool false))
    newCourse (.together (← args.mapM iterate) strict) k
  | "map" =>
    match args with
    | f :: a :: rest => newCourse (.mapped f (← (a :: rest).mapM iterate)) k
    | _ => typeError "map() must have at least two arguments."
  | "filter" =>
    match args with
    | [f, v] => newCourse (.filtered f true (← iterate v)) k
    | args => typeError ("filter expected 2 arguments, got " ++ args.length.repr)
  | "reversed" =>
    match args with
    | [v] =>
      match ← callOwn? v "__reversed__" [] with
      | some r => return r
      | none =>
        let core ← coreOf v
        let fails {α : Type} : Run α := do typeError ("'" ++ (← kindNameOf v) ++ "' object is not reversible")
        match core with
        | .text _ | .octets _ | .tuple _ | .range .. => newCourse (.items (← collect core).reverse) "reversed"
        | .thing n =>
          match ← look n with
          | .list items => newCourse (.items items.toList.reverse) "list_reverseiterator"
          | .dict d _ _ => newCourse (.items (d.values.map Prod.fst).reverse) "dict_reversekeyiterator"
          | .octets _ | .record "collections.deque" _ | .view .. => newCourse (.items (← collect core).reverse) "reversed"
          | .instance_ .. =>
            match ← ownMethod? v "__getitem__", ← sizeOf? v with
            | some f, some size =>
              let items ← (List.range size).mapM fun i => Caller.call f { args := [.ofNat (size - 1 - i)] }
              newCourse (.items items) "reversed"
            | _, _ => fails
          | _ => fails
        | _ => fails
    | args => typeError ("reversed expected 1 argument, got " ++ args.length.repr)
  | "property" =>
    if args.length > 4 then typeError ("property() takes at most 4 arguments (" ++ args.length.repr ++ " given)")
    alloc (.property (given.getD 0 "fget" .none) (given.getD 1 "fset" .none) (given.getD 2 "fdel" .none) (given.getD 3 "doc" .none))
  | "staticmethod" =>
    match args with
    | [f] => alloc (.plainFunction f)
    | args => typeError ("staticmethod expected 1 argument, got " ++ args.length.repr)
  | "classmethod" =>
    match args with
    | [f] => alloc (.kindFunction f)
    | args => typeError ("classmethod expected 1 argument, got " ++ args.length.repr)
  | "memoryview" =>
    match args with
    | v :: _ =>
      match ← octetsOf? v with
      | some o => alloc (.record "memoryview" (Ordered.ofList [("obj", .octets o), ("nbytes", .ofNat o.length)]))
      | none => typeError ("memoryview: a bytes-like object is required, not '" ++ (← kindNameOf v) ++ "'")
    | [] => typeError "memoryview() missing required argument 'object' (pos 1)"
  | "super" =>
    match args with
    | [kind, owner] =>
      if ← isClass kind then return .above kind owner
      else typeError ("super() argument 1 must be a type, not " ++ (← kindNameOf kind))
    | _ => raise "RuntimeError" "super(): no arguments"
  | "types.SimpleNamespace" => alloc (.record k (Ordered.ofList given.named))
  | "_io.StringIO" =>
    let start ← match given.getD 0 "initial_value" .none with
      | .text g => pure g
      | .none => pure []
      | v => typeError ("initial_value must be str or None, not " ++ (← kindNameOf v))
    alloc (.channel
      { descriptor := 0, name := .none, mode := "r+", isText := true, canRead := true, canWrite := true, memory := some start
        newline := some [10] })
  | "_io.BytesIO" =>
    let start ← match given.get? 0 "initial_bytes" with
      | some v =>
        match ← octetsOf? v with
        | some o => pure (o.map Char.toNat)
        | none => typeError ("a bytes-like object is required, not '" ++ (← kindNameOf v) ++ "'")
      | none => pure []
    alloc (.channel { descriptor := 0, name := .none, mode := "rb+", isText := false, canRead := true, canWrite := true, memory := some start })
  | "_io.TextIOWrapper" =>
    match args with
    | .thing n :: _ =>
      let below ← channelAt n
      let coding ← match given.get? 1 "encoding" with
        | some (.text g) => codingOf (Glyphs.toString g)
        | _ => pure .utf8
      let handling := match given.get? 2 "errors" with
        | some (.text g) => Glyphs.toString g
        | _ => "strict"
      let newline := match given.get? 3 "newline" with
        | some (.text g) => some g
        | _ => none
      let byLine ← truth (given.getD 4 "line_buffering" (.bool false))
      let isRaw ← truth (given.getD 5 "write_through" (.bool false))
      alloc (.channel { below with isText := true, coding, handling, newline, byLine, isRaw, below := some n, pending := [], pendingSize := 0, read := [] })
    | _ => typeError "TextIOWrapper() missing required argument 'buffer' (pos 1)"
  | "functools.partial" =>
    match args with
    | f :: rest =>
      let keywords ← newDict (namedItems given)
      alloc (.record k (Ordered.ofList [("func", f), ("args", .tuple rest), ("keywords", keywords)]))
    | [] => typeError "type 'partial' takes at least one argument"
  | "pathlib.PosixPath" =>
    let parts ← args.mapM fun v => do
      match ← coreOf v with
      | .text g => return g
      | .thing n =>
        match ← look n with
        | .record "pathlib.PosixPath" names =>
          match names.get? "path" with
          | some (.text g) => return g
          | _ => return []
        | _ => typeError ("expected str, bytes or os.PathLike object, not " ++ (← kindNameOf v))
      | _ => typeError ("expected str, bytes or os.PathLike object, not " ++ (← kindNameOf v))
    let joined := parts.foldl (fun (path : Glyphs) part =>
      if part.head? = some 47 || path.isEmpty then part else if part.isEmpty then path else path ++ 47 :: part) []
    let steps := (splitOn [47] (joined.length + 1) none joined).filter fun s => !s.isEmpty && s ≠ [46]
    let body := (steps.intersperse [47]).flatten
    let path := if joined.head? = some 47 then 47 :: body else if body.isEmpty then [46] else body
    alloc (.record k (Ordered.ofList [("path", .text path)]))
  | "complex" => typeError "complex numbers are not available"
  | "signal.Signals" | "signal.Handlers" => return args.headD .none
  | "abc.ABC" => alloc (.cell .none)
  | k =>
    if isExceptionKind k then
      if !given.named.isEmpty && !(["ImportError", "ModuleNotFoundError", "NameError", "AttributeError", "subprocess.CalledProcessError"].contains k) then
        typeError (shortName k ++ "() takes no keyword arguments")
      let e ← newRaised (.kind k) (kindLine k) args
      match e with
      | .thing n => for (name, v) in given.named do change n (Thing.withNames (·.put name v))
      | _ => pure ()
      return e
    else typeError ("cannot create '" ++ (if libraryOf k == "builtins" then shortName k else k) ++ "' instances")

/-! ### Kinds that scripts define -/

/-- The next kind of several lines: the first that stands behind no other. -/
def nextInLines (lines : List (List Value)) : Option Value :=
  (lines.filterMap List.head?).find? fun k => lines.all fun line => !(line.drop 1).any (sameKind k)

/-- Several lines made one, in which the order of each is kept. -/
def mergeLines : (fuel : Nat) → List (List Value) → Option (List Value)
  | 0, _ => none
  | fuel + 1, lines =>
    let lines := lines.filter (!·.isEmpty)
    if lines.isEmpty then some []
    else
      match nextInLines lines with
      | none => none
      | some k =>
        let rest := lines.map fun line => match line with
          | head :: tail => if sameKind head k then tail else line
          | [] => []
        (mergeLines fuel rest).map (k :: ·)

/-- The kinds that none can come from. -/
def isFinal (k : String) : Bool :=
  ["bool", "NoneType", "range", "slice", "function", "method", "builtin_function_or_method", "memoryview", "generator", "ellipsis",
    "NotImplementedType"].contains k

/-- A member of an enumeration, and the names that it is known by. -/
def addMembers [Caller] (n : Nat) (whole : Bool) : Run Unit := do
  match ← look n with
  | .class_ c =>
    let mut members : List (Value × Value) := []
    let mut last : Int := 0
    for (name, v) in c.attributes.toList do
      let isPlain : Bool ← match v with
        | .thing m =>
          match ← look m with
          | .function _ | .plainFunction _ | .kindFunction _ | .property .. => pure false
          | _ => pure true
        | .native _ => pure false
        | _ => pure true
      if isPlain && !(name.toList.head? = some '_') then
        let value ← match v with
          | .thing m =>
            match ← look m with
            | .record "enum.auto" _ => pure (.int (last + 1))
            | _ => pure v
          | v => pure v
        match value with
        | .int k => last := k
        | _ => pure ()
        let mut known : Option Value := none
        for (_, member) in members do
          match ← ownNames? member with
          | some names => if ← equal ((names.get? "value").getD .none) value then known := known.or (some member)
          | none => pure ()
        let member ← match known with
          | some m => pure m
          | none =>
            alloc (.instance_ (.thing n) (Ordered.ofList [("name", textValue name), ("value", value), ("_name_", textValue name), ("_value_", value)])
              (if whole then value else .none))
        members := members ++ [(textValue name, member)]
        change n (Thing.withNames (·.put name member))
    let dict ← newDict members
    change n (Thing.withNames (·.put "__members__" dict))
  | _ => return

/-- A kind that a script defines. -/
def makeClass [Caller] (name qualified : String) (bases : List Value) (attributes : Names) : Run Value := do
  let bases := if bases.isEmpty then [.kind "object"] else bases
  for b in bases do
    match b with
    | .kind k => if isFinal k then typeError ("type '" ++ shortName k ++ "' is not an acceptable base type")
    | b => if !(← isClass b) then typeError ("metaclass conflict: the metaclass of a derived class must be a (non-strict) subclass of the metaclasses of all its bases")
  let lines ← bases.mapM lineOf
  match mergeLines 1000 (lines ++ [bases]) with
  | none =>
    let names ← bases.mapM kindName
    typeError ("Cannot create a consistent method resolution\norder (MRO) for bases " ++ String.intercalate ", " names)
  | some behind =>
    let attributes := if attributes.has "__module__" then attributes else attributes.put "__module__" (textValue "__main__")
    let n ← allocNumber (.class_ { name, qualified, bases, line := [], attributes })
    change n fun
      | .class_ c => .class_ { c with line := .thing n :: behind }
      | t => t
    let isEnum ← behind.anyM fun k => match k with
      | .kind "enum.Enum" | .kind "enum.IntEnum" => return true
      | _ => return false
    if isEnum then addMembers n (behind.any fun k => sameKind k (.kind "enum.IntEnum"))
    -- what is told of its name and owner
    for (key, v) in attributes.toList do
      match ← callOwn? v "__set_name__" [.thing n, textValue key] with
      | _ => pure ()
    match ← fromLine? behind "__init_subclass__" with
    | some (_, f) =>
      let f ← match f with
        | .thing m =>
          match ← look m with
          | .kindFunction g => pure g
          | _ => pure f
        | f => pure f
      let _ ← Caller.call f { args := [.thing n] }
    | none => pure ()
    return .thing n

/-- What one of a script's kind is besides. -/
def coreFor [Caller] [Resumer] (kinds : List String) (hasInit : Bool) (given : Given) : Run Value := do
  match kinds.find? fun k => k ≠ "object" && k ≠ "abc.ABC" && k ≠ "enum.Enum" with
  | none => return .none
  | some k =>
    if ["int", "float", "str", "bytes", "tuple", "frozenset"].contains k then construct k given
    else if ["list", "dict", "set", "bytearray", "collections.OrderedDict", "collections.Counter", "collections.defaultdict", "collections.deque",
        "types.SimpleNamespace", "_io.StringIO", "_io.BytesIO", "pathlib.PosixPath"].contains k then
      construct k (if hasInit then {} else given)
    else if k == "enum.IntEnum" then return given.first
    else return .none

/-- A value of a kind that a script defines, not yet told of its arguments. -/
def newInstance [Caller] [Resumer] (kind : Value) (given : Given) : Run Value := do
  let line ← lineOf kind
  let kinds := plainKinds line
  if kinds.contains "BaseException" then newRaised kind kinds given.args
  else
    let hasInit := (← fromLine? line "__init__").isSome
    let hasNew := (← fromLine? line "__new__").isSome
    let core ← coreFor kinds hasInit given
    if (core matches .none) && !hasInit && !hasNew && (!given.args.isEmpty || !given.named.isEmpty) then
      typeError ((← kindName kind) ++ "() takes no arguments")
    let missing ← line.filterMapM fun k => do
      match k with
      | .thing m =>
        match ← look m with
        | .class_ c =>
          return some (← c.attributes.toList.filterMapM fun (name, v) => do
            match v with
            | .thing f =>
              let inner ← match ← look f with
                | .plainFunction g | .kindFunction g => pure g
                | .property g _ _ _ => pure g
                | _ => pure v
              match ← ownNames? inner with
              | some names =>
                if names.has "__isabstractmethod__" then
                  match ← fromLine? line name with
                  | some (.thing o, _) => return if o = m then some name else none
                  | _ => return none
                else return none
              | none => return none
            | _ => return none)
        | _ => return none
      | _ => return none
    let missing := missing.flatten
    if !missing.isEmpty && kinds.contains "abc.ABC" then
      let names := missing.mergeSort fun a b => decide (a ≤ b)
      typeError ("Can't instantiate abstract class " ++ (← kindName kind) ++ " with abstract method" ++ (if names.length = 1 then " " else "s ") ++
        String.intercalate ", " names)
    alloc (.instance_ kind {} core)

/-- A value of a kind that a script defines. -/
def instantiate [Caller] [Resumer] (kind : Value) (given : Given) : Run Value := do
  let line ← lineOf kind
  let enumeration := (plainKinds line).any fun k => k == "enum.Enum" || k == "enum.IntEnum"
  if enumeration then
    match kind with
    | .thing n =>
      match ← look n with
      | .class_ c =>
        match c.attributes.get? "__members__" with
        | some members =>
          let items ← itemsFor members
          let found ← items.findM? fun (_, m) => do
            match ← ownNames? m with
            | some names => equal ((names.get? "value").getD .none) given.first
            | none => return false
          match found with
          | some (_, m) => return m
          | none => raiseGlyphs "ValueError" ((← shown given.first) ++ glyphs (" is not a valid " ++ c.qualified))
        | none => pure ()
      | _ => pure ()
    | _ => pure ()
  let made ← match ← fromLine? line "__new__" with
    | some (_, f) =>
      let f ← match f with
        | .thing m =>
          match ← look m with
          | .plainFunction g => pure g
          | _ => pure f
        | f => pure f
      Caller.call f { args := kind :: given.args, named := given.named }
    | none => newInstance kind given
  if ← isOf made kind then
    match ← fromLine? (← lineOf (← kindOf made)) "__init__" with
    | some (_, f) =>
      let r ← Caller.call (← bindTo made kind f) given
      match r with
      | .none => pure ()
      | r => typeError ("__init__() should return None, not '" ++ (← kindNameOf r) ++ "'")
    | none => pure ()
  return made

end GrammarStudio.ObjectScript
