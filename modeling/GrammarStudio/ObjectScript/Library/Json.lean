import GrammarStudio.ObjectScript.Functions

/-!
# Values as JSON

* `jsonText` — a value as JSON says it;
* `readJson` — the value that JSON says;
* `jsonLibrary`, `jsonFunction?` — the library about it.
-/

namespace GrammarStudio.ObjectScript

open Machine Number Tools

/-! ### Lines that exceptions go through -/

def jsonLine (file : String) (line : Nat) (name text meant : String) : LibraryLine :=
  { file := "/usr/lib/python3.11/json/" ++ file ++ ".py", line, name, text, meant }

/-- The lines in which values are written: into a text, or piece by piece. -/
def writingLines (isPlain isText isPieces : Bool) : List LibraryLine :=
  let outer :=
    if isPlain then jsonLine "__init__" 231 "dumps" "return _default_encoder.encode(obj)" "_default_encoder.encode(obj)"
    else jsonLine "__init__" 238 "dumps" "**kw).encode(obj)" "encode(obj)"
  if !isText then [jsonLine "__init__" 179 "dump" "for chunk in iterable:" ""]
  else if isPieces then [outer, jsonLine "encoder" 202 "encode" "chunks = list(chunks)" "list(chunks)"]
  else
    [outer, jsonLine "encoder" 200 "encode" "chunks = self.iterencode(o, _one_shot=True)" "self.iterencode(o, _one_shot=True)",
      jsonLine "encoder" 258 "iterencode" "return _iterencode(o, 0)" "_iterencode(o, 0)"]

/-- The line that begins with a list or with a mapping, when values are written piece by piece. -/
def beginningLine (isList : Bool) : LibraryLine :=
  if isList then jsonLine "encoder" 430 "_iterencode" "yield from _iterencode_list(o, _current_indent_level)" ""
  else jsonLine "encoder" 432 "_iterencode" "yield from _iterencode_dict(o, _current_indent_level)" ""

/-- The line that goes on with a part of a list or of a mapping, when values are written piece by piece. -/
def partLine (isList : Bool) : LibraryLine :=
  if isList then jsonLine "encoder" 326 "_iterencode_list" "yield from chunks" "" else jsonLine "encoder" 406 "_iterencode_dict" "yield from chunks" ""

/-- The line that asks what is to be written instead of a value, when values are written piece by piece. -/
def askingLine : LibraryLine := jsonLine "encoder" 439 "_iterencode" "o = _default(o)" "_default(o)"

/-- The line that refuses a value. -/
def refusingLine : LibraryLine :=
  jsonLine "encoder" 180 "default" "raise TypeError(f'Object of type \x7bo.__class__.__name__\x7d '" ""

/-- The lines in which a document is read, down to the one that complains. -/
def readingLines (isPlain : Bool) (message : String) : List LibraryLine :=
  let outer :=
    if isPlain then jsonLine "__init__" 346 "loads" "return _default_decoder.decode(s)" "_default_decoder.decode(s)"
    else jsonLine "__init__" 359 "loads" "return cls(**kw).decode(s)" "cls(**kw).decode(s)"
  let inner := jsonLine "decoder" 337 "decode" "obj, end = self.raw_decode(s, idx=_w(s, 0).end())" "self.raw_decode(s, idx=_w(s, 0).end())"
  if message.startsWith "Unexpected UTF-8 BOM" then
    [jsonLine "__init__" 335 "loads" "raise JSONDecodeError(\"Unexpected UTF-8 BOM (decode using utf-8-sig)\"," ""]
  else if message.startsWith "Extra data" then
    [outer, jsonLine "decoder" 340 "decode" "raise JSONDecodeError(\"Extra data\", s, end)" ""]
  else if message.startsWith "Expecting value" then
    [outer, inner, jsonLine "decoder" 355 "raw_decode" "raise JSONDecodeError(\"Expecting value\", s, err.value) from None" ""]
  else [outer, inner, jsonLine "decoder" 353 "raw_decode" "obj, end = self.scan_once(s, idx)" "self.scan_once(s, idx)"]

/-- What an exception says. -/
def messageOf (e : Value) : Run String := do
  match ← exceptionOf? e with
  | some x =>
    match x.args.head? with
    | some (.text g) => return Glyphs.toString g
    | _ => return ""
  | none => return ""

/-! ### Writing -/

/-- How values are written. -/
structure JsonStyle where
  isPlain : Bool := true
  allowsOdd : Bool := true
  skipsKeys : Bool := false
  sortsKeys : Bool := false
  indent : Option Glyphs := none
  between : Glyphs := glyphs ", "
  behindKey : Glyphs := glyphs ": "
  /-- What makes other values of those that cannot be written. -/
  other : Value := .none
  /-- Values are written piece by piece. -/
  isPieces : Bool := false

def hexUnit (n : Nat) : Glyphs := [92, 117] ++ Glyphs.ofOctets (Glyphs.hexText 4 n)

def jsonGlyph (isPlain : Bool) (n : Nat) : Glyphs :=
  match n with
  | 34 => [92, 34]
  | 92 => [92, 92]
  | 10 => [92, 110]
  | 13 => [92, 114]
  | 9 => [92, 116]
  | 12 => [92, 102]
  | 8 => [92, 98]
  | n =>
    if n < 32 then hexUnit n
    else if !isPlain || (n < 127) then [n]
    else if n ≥ 0x10000 then hexUnit (0xD800 + (n - 0x10000) / 1024) ++ hexUnit (0xDC00 + (n - 0x10000) % 1024)
    else hexUnit n

def jsonQuoted (isPlain : Bool) (g : Glyphs) : Glyphs := 34 :: g.flatMap (jsonGlyph isPlain) ++ [34]

def jsonFloat (s : JsonStyle) (x : Float) : Run Glyphs := do
  if x.isFinite then return glyphs (floatText x)
  else if s.allowsOdd then return glyphs (if x.isNaN then "NaN" else if x > 0.0 then "Infinity" else "-Infinity")
  else raiseGlyphs "ValueError" (glyphs "Out of range float values are not JSON compliant")

/-- The key of an item, if it can be one. -/
def jsonKey [Caller] (s : JsonStyle) (v : Value) : Run (Option Glyphs) := do
  match ← coreOf v with
  | .text g => return some g
  | .int n => return some (Glyphs.ofOctets (Octets.ofInt n))
  | .float x => return some (← jsonFloat s x)
  | .bool b => return some (glyphs (if b then "true" else "false"))
  | .none => return some (glyphs "null")
  | _ => if s.skipsKeys then return none else typeError ("keys must be str, int, float, bool or None, not " ++ (← kindNameOf v))

/-- A value as JSON says it, at a depth, within others. -/
def jsonOn [Caller] (s : JsonStyle) : (fuel : Nat) → (depth : Nat) → (around : List Nat) → Value → Run Glyphs
  | 0, _, _, _ => raise "RecursionError" "maximum recursion depth exceeded while encoding a JSON object"
  | fuel + 1, depth, around, v => do
    let guarded (n : Option Nat) (act : List Nat → Run Glyphs) : Run Glyphs := do
      match n with
      | none => act around
      | some n => if around.contains n then valueError "Circular reference detected" else act (n :: around)
    let lineAt (depth : Nat) : Glyphs := match s.indent with
      | some unit => 10 :: (List.replicate depth unit).flatten
      | none => []
    let wrapped (first last : Nat) (parts : List Glyphs) : Glyphs :=
      first :: lineAt (depth + 1) ++ (parts.intersperse (s.between ++ lineAt (depth + 1))).flatten ++ lineAt depth ++ [last]
    let through (lines : List LibraryLine) (act : Run Glyphs) : Run Glyphs := if s.isPieces then alongLibrary lines act else act
    let beginning (isList : Bool) (act : Run Glyphs) : Run Glyphs := if depth = 0 then through [beginningLine isList] act else act
    let listed (n : Option Nat) (items : List Value) : Run Glyphs := do
      if items.isEmpty then return [91, 93]
      beginning true (guarded n fun around => do
        return wrapped 91 93 (← items.mapM fun v => through [partLine true] (jsonOn s fuel (depth + 1) around v)))
    let mapped (n : Nat) (items : List (Value × Value)) : Run Glyphs := do
      if items.isEmpty then return [123, 125]
      beginning false <| guarded (some n) fun around => do
        let items ← if s.sortsKeys then itemsByKeys items else pure items
        let parts ← items.filterMapM fun (k, v) => do
          match ← jsonKey s k with
          | some key => return some (jsonQuoted s.isPlain key ++ s.behindKey ++ (← through [partLine false] (jsonOn s fuel (depth + 1) around v)))
          | none => return none
        return wrapped 123 125 parts
    let otherwise : Run Glyphs := do
      match s.other with
      | .none => alongLibrary (if s.isPieces then [askingLine, refusingLine] else [refusingLine]) (typeError ("Object of type " ++ (← kindNameOf v) ++ " is not JSON serializable"))
      | f =>
        let n : Option Nat := match v with
          | .thing n => some n
          | _ => none
        guarded n fun around => do
          let call : Run Value := do Caller.call f { args := [v] }
          let w ← if s.isPieces then alongLibrary [askingLine] call else call
          jsonOn s fuel depth around w
    match ← coreOf v with
    | .none => return glyphs "null"
    | .bool b => return glyphs (if b then "true" else "false")
    | .int n => return Glyphs.ofOctets (Octets.ofInt n)
    | .float x => jsonFloat s x
    | .text g => return jsonQuoted s.isPlain g
    | .tuple items => listed none items
    | .thing n =>
      match ← look n with
      | .list items => listed (some n) items.toList
      | .dict _ "os._Environ" _ => otherwise
      | .dict d _ _ => mapped n d.values
      | .scope names => mapped n (names.toList.map fun (k, v) => (textValue k, v))
      | _ => otherwise
    | _ => otherwise
where
  itemsByKeys (items : List (Value × Value)) : Run (List (Value × Value)) := do
    return (← sortedByKeys (items.map fun (k, v) => (k, Value.tuple [k, v]))).filterMap fun
      | (_, .tuple [k, v]) => some (k, v)
      | _ => none

/-- How a call says that values are to be written. -/
def jsonStyle [Caller] [Resumer] (given : Given) : Run JsonStyle := do
  let flag (name : String) (usual : Bool) : Run Bool := do truth ((given.named.lookup name).getD (.bool usual))
  let indent : Option Glyphs ← match given.named.lookup "indent" with
    | none | some .none => pure none
    | some v =>
      match ← coreOf v with
      | .text g => pure (some g)
      | .bool b => pure (some (List.replicate (if b then 1 else 0) 32))
      | _ => do pure (some (List.replicate (← integerOf v).toNat 32))
  let (between, behindKey) : Glyphs × Glyphs ← match given.named.lookup "separators" with
    | none | some .none => pure (if indent.isSome then [44] else glyphs ", ", glyphs ": ")
    | some v =>
      match ← collect v with
      | [.text a, .text b] => pure (a, b)
      | items => valueError (if items.length < 2 then "not enough values to unpack (expected 2, got " ++ items.length.repr ++ ")" else "too many values to unpack (expected 2)")
  return {
    isPlain := ← flag "ensure_ascii" true, allowsOdd := ← flag "allow_nan" true, skipsKeys := ← flag "skipkeys" false
    sortsKeys := ← flag "sort_keys" false, indent, between, behindKey, other := (given.named.lookup "default").getD .none }

def jsonText [Caller] [Resumer] (isText : Bool) (v : Value) (given : Given) : Run Glyphs := do
  for (name, _) in given.named do
    if !(["skipkeys", "ensure_ascii", "check_circular", "allow_nan", "cls", "indent", "separators", "default", "sort_keys"].contains name) then
      typeError ("JSONEncoder.__init__() got an unexpected keyword argument '" ++ name ++ "'")
  let style ← jsonStyle given
  let style := { style with isPieces := !isText || style.indent.isSome }
  alongLibrary (writingLines given.named.isEmpty isText style.isPieces) (jsonOn style 1000 0 [] v)

/-! ### Reading -/

/-- What is done with the parts that are read. -/
structure JsonHooks where
  object : Value := .none
  pairs : Value := .none
  whole : Value := .none
  broken : Value := .none
  odd : Value := .none
  source : Glyphs := []

def jsonFault {α : Type} (h : JsonHooks) (message : String) (at_ : Nat) : Run α := do
  throwValue (← newRaised (.kind "json.decoder.JSONDecodeError") (kindLine "json.decoder.JSONDecodeError")
    [textValue message, .text h.source, .ofNat at_])

def isJsonBlank (n : Nat) : Bool := n = 32 || n = 9 || n = 10 || n = 13

def passBlanks (at_ : Nat) (g : Glyphs) : Nat × Glyphs :=
  let blanks := g.takeWhile isJsonBlank
  (at_ + blanks.length, g.drop blanks.length)

def hexDigit? (n : Nat) : Option Nat :=
  if Glyphs.isDigit n then some (n - 48)
  else if 97 ≤ n && n ≤ 102 then some (n - 87)
  else if 65 ≤ n && n ≤ 70 then some (n - 55)
  else none

def hexUnit? (g : Glyphs) : Option Nat :=
  match g with
  | a :: b :: c :: d :: _ => do return (((← hexDigit? a) * 16 + (← hexDigit? b)) * 16 + (← hexDigit? c)) * 16 + (← hexDigit? d)
  | _ => none

/-- The rest of a text in quotes, with what stands behind it. -/
def jsonString (h : JsonHooks) (strict : Bool) (start : Nat) : (fuel : Nat) → (at_ : Nat) → (done : List Nat) → Glyphs → Run (Glyphs × Nat × Glyphs)
  | 0, _, _, _ => jsonFault h "Unterminated string starting at" start
  | fuel + 1, at_, done, g => do
    match g with
    | [] => jsonFault h "Unterminated string starting at" start
    | 34 :: rest => return (done.reverse, at_ + 1, rest)
    | 92 :: rest =>
      match rest with
      | [] => jsonFault h "Unterminated string starting at" start
      | 117 :: rest =>
        match hexUnit? rest with
        | none => jsonFault h "Invalid \\uXXXX escape" (at_ + 1)
        | some n =>
          let rest := rest.drop 4
          if rest.isEmpty then jsonFault h "Invalid \\uXXXX escape" (at_ + 1)
          match 0xD800 ≤ n && n ≤ 0xDBFF, rest with
          | true, 92 :: 117 :: more =>
            match hexUnit? more with
            | some m =>
              if 0xDC00 ≤ m && m ≤ 0xDFFF && (more.drop 4).length > 0 then
                jsonString h strict start fuel (at_ + 12) ((0x10000 + (n - 0xD800) * 1024 + (m - 0xDC00)) :: done) (more.drop 4)
              else jsonString h strict start fuel (at_ + 6) (n :: done) rest
            | none => jsonString h strict start fuel (at_ + 6) (n :: done) rest
          | _, _ => jsonString h strict start fuel (at_ + 6) (n :: done) rest
      | c :: rest =>
        let n : Option Nat := match c with
          | 34 => some 34
          | 92 => some 92
          | 47 => some 47
          | 98 => some 8
          | 102 => some 12
          | 110 => some 10
          | 114 => some 13
          | 116 => some 9
          | _ => none
        match n with
        | some n => jsonString h strict start fuel (at_ + 2) (n :: done) rest
        | none => jsonFault h "Invalid \\escape" at_
    | n :: rest =>
      if strict && n < 32 then jsonFault h "Invalid control character at" at_
      else jsonString h strict start fuel (at_ + 1) (n :: done) rest

/-- A number at the beginning, with what stands behind it, and whether it is whole. -/
def jsonNumber? (g : Glyphs) : Option (Glyphs × Glyphs × Bool) :=
  let (sign, rest) := match g with
    | 45 :: rest => ([45], rest)
    | g => ([], g)
  let whole : Glyphs := match rest with
    | 48 :: _ => [48]
    | rest => rest.takeWhile Glyphs.isDigit
  if whole.isEmpty then none
  else
    let rest := rest.drop whole.length
    let fraction : Glyphs := match rest with
      | 46 :: more =>
        let digits := more.takeWhile Glyphs.isDigit
        if digits.isEmpty then [] else 46 :: digits
      | _ => []
    let rest := rest.drop fraction.length
    let power : Glyphs := match rest with
      | e :: more =>
        if e = 101 || e = 69 then
          let (s, more) := match more with
            | 45 :: more => ([45], more)
            | 43 :: more => ([43], more)
            | more => ([], more)
          let digits := more.takeWhile Glyphs.isDigit
          if digits.isEmpty then [] else e :: s ++ digits
        else []
      | [] => []
    some (sign ++ whole ++ fraction ++ power, rest.drop power.length, fraction.isEmpty && power.isEmpty)

mutual

/-- The value at a place. -/
def jsonValue [Caller] (h : JsonHooks) : (fuel : Nat) → (depth at_ : Nat) → Glyphs → Run (Value × Nat × Glyphs)
  | 0, _, at_, _ => jsonFault h "Expecting value" at_
  | fuel + 1, depth, at_, g => do
    let odd (word : String) (x : Float) : Run (Value × Nat × Glyphs) := do
      let v ← match h.odd with
        | .none => pure (.float x)
        | f => Caller.call f { args := [textValue word] }
      return (v, at_ + word.length, g.drop word.length)
    let begins (word : String) : Bool := (glyphs word).isPrefixOf g
    match g with
    | 34 :: rest =>
      let (text, at_, rest) ← jsonString h true at_ (rest.length + 2) (at_ + 1) [] rest
      return (.text text, at_, rest)
    | 123 :: rest =>
      if depth = 0 then raise "RecursionError" "maximum recursion depth exceeded while decoding a JSON object from a unicode string"
      let (at_, rest) := passBlanks (at_ + 1) rest
      let (items, at_, rest) ← match rest with
        | 125 :: rest => pure ([], at_ + 1, rest)
        | rest => jsonItems h fuel (depth - 1) at_ [] rest
      match h.pairs, h.object with
      | .none, .none => return (← newDict items, at_, rest)
      | .none, f => return (← Caller.call f { args := [← newDict items] }, at_, rest)
      | f, _ => return (← Caller.call f { args := [← newList (items.map fun (k, v) => .tuple [k, v])] }, at_, rest)
    | 91 :: rest =>
      if depth = 0 then raise "RecursionError" "maximum recursion depth exceeded while decoding a JSON array from a unicode string"
      let (at_, rest) := passBlanks (at_ + 1) rest
      match rest with
      | 93 :: rest => return (← newList [], at_ + 1, rest)
      | rest =>
        let (items, at_, rest) ← jsonElements h fuel (depth - 1) at_ [] rest
        return (← newList items, at_, rest)
    | _ =>
      if begins "null" then return (.none, at_ + 4, g.drop 4)
      else if begins "true" then return (.bool true, at_ + 4, g.drop 4)
      else if begins "false" then return (.bool false, at_ + 5, g.drop 5)
      else if begins "NaN" then odd "NaN" (0.0 / 0.0)
      else if begins "Infinity" then odd "Infinity" (1.0 / 0.0)
      else if begins "-Infinity" then odd "-Infinity" (-1.0 / 0.0)
      else
        match jsonNumber? g with
        | none => jsonFault h "Expecting value" at_
        | some (text, rest, isWhole) =>
          let hook := if isWhole then h.whole else h.broken
          let v ← match hook with
            | .none =>
              if isWhole then .int <$> toWhole (.text text)
              else .float <$> toFloat (.text text)
            | f => Caller.call f { args := [.text text] }
          return (v, at_ + text.length, rest)

def jsonElements [Caller] (h : JsonHooks) : (fuel : Nat) → (depth at_ : Nat) → (done : List Value) → Glyphs → Run (List Value × Nat × Glyphs)
  | 0, _, at_, _, _ => jsonFault h "Expecting value" at_
  | fuel + 1, depth, at_, done, g => do
    let (v, at_, rest) ← jsonValue h fuel depth at_ g
    let (at_, rest) := passBlanks at_ rest
    match rest with
    | 93 :: rest => return ((v :: done).reverse, at_ + 1, rest)
    | 44 :: rest =>
      let (at_, rest) := passBlanks (at_ + 1) rest
      jsonElements h fuel depth at_ (v :: done) rest
    | _ => jsonFault h "Expecting ',' delimiter" at_

def jsonItems [Caller] (h : JsonHooks) : (fuel : Nat) → (depth at_ : Nat) → (done : List (Value × Value)) → Glyphs →
    Run (List (Value × Value) × Nat × Glyphs)
  | 0, _, at_, _, _ => jsonFault h "Expecting value" at_
  | fuel + 1, depth, at_, done, g => do
    match g with
    | 34 :: rest =>
      let (key, at_, rest) ← jsonString h true at_ (rest.length + 2) (at_ + 1) [] rest
      let (at_, rest) := passBlanks at_ rest
      match rest with
      | 58 :: rest =>
        let (at_, rest) := passBlanks (at_ + 1) rest
        let (v, at_, rest) ← jsonValue h fuel depth at_ rest
        let (at_, rest) := passBlanks at_ rest
        match rest with
        | 125 :: rest => return (((.text key, v) :: done).reverse, at_ + 1, rest)
        | 44 :: rest =>
          let (at_, rest) := passBlanks (at_ + 1) rest
          jsonItems h fuel depth at_ ((.text key, v) :: done) rest
        | _ => jsonFault h "Expecting ',' delimiter" at_
      | _ => jsonFault h "Expecting ':' delimiter" at_
    | _ => jsonFault h "Expecting property name enclosed in double quotes" at_

end

/-- The value that JSON says. -/
def readJson [Caller] (source : Glyphs) (given : Given) : Run Value := do
  let hook (name : String) : Value := (given.named.lookup name).getD .none
  let h : JsonHooks :=
    { object := hook "object_hook", pairs := hook "object_pairs_hook", whole := hook "parse_int", broken := hook "parse_float"
      odd := hook "parse_constant", source }
  let act : Run Value := do
    if source.head? = some 0xFEFF then jsonFault h "Unexpected UTF-8 BOM (decode using utf-8-sig)" 0
    let (at_, rest) := passBlanks 0 source
    let (v, at_, rest) ← jsonValue h (4 * source.length + 10) 994 at_ rest
    let (at_, rest) := passBlanks at_ rest
    if rest.isEmpty then return v else jsonFault h "Extra data" at_
  tryCatch act fun e => do alongLibrary (readingLines given.named.isEmpty (← messageOf e)) (throw e)

/-! ### The library -/

def jsonLibrary : Run (List (String × Value)) := do
  return functionsIn ++ [("JSONDecodeError", .kind "json.decoder.JSONDecodeError"), ("decoder", .library "json")]
where
  functionsIn : List (String × Value) := ["dumps", "loads", "dump", "load"].map fun n => (n, .native ("json." ++ n))

/-- The text of a document that is given as a text or as octets. -/
def jsonSource [Caller] (v : Value) : Run Glyphs := do
  match ← coreOf v with
  | .text g => return g
  | core =>
    match ← octetsOf? core with
    | some o =>
      let decodes : Glyphs.Coding := match o with
        | '\x00' :: _ :: _ => .wide false
        | _ :: '\x00' :: _ => .wide true
        | _ => .utf8
      let o := if ['\xef', '\xbb', '\xbf'].isPrefixOf o then o.drop 3 else o
      alongLibrary [jsonLine "__init__" 341 "loads" "s = s.decode(detect_encoding(s), 'surrogatepass')"
          "s.decode(detect_encoding(s), 'surrogatepass')"] (decoded decodes "surrogatepass" o)
    | none =>
      alongLibrary [jsonLine "__init__" 339 "loads" "raise TypeError(f'the JSON object must be str, bytes or bytearray, '" ""]
        (typeError ("the JSON object must be str, bytes or bytearray, not " ++ (← kindNameOf v)))

def jsonFunction? [Caller] [Resumer] (name : String) (given : Given) : Run (Option Value) := do
  match name with
  | "dumps" =>
    match given.args with
    | [v] => return some (.text (← jsonText true v given))
    | [] =>
      match given.named.lookup "obj" with
      | some v => return some (.text (← jsonText true v { named := given.named.filter (·.1 ≠ "obj") }))
      | none => typeError "dumps() missing 1 required positional argument: 'obj'"
    | args => typeError ("dumps() takes 1 positional argument but " ++ args.length.repr ++ " were given")
  | "dump" =>
    match given.args with
    | v :: more =>
      match more.head?.or (given.named.lookup "fp") with
      | some stream =>
        let g ← jsonText false v { named := given.named.filter (·.1 ≠ "fp") }
        writeOn stream g
        return some .none
      | none => typeError "dump() missing 1 required positional argument: 'fp'"
    | [] => typeError "dump() missing 2 required positional arguments: 'obj' and 'fp'"
  | "loads" =>
    match given.args with
    | [v] => return some (← readJson (← jsonSource v) given)
    | [] =>
      match given.named.lookup "s" with
      | some v => return some (← readJson (← jsonSource v) given)
      | none => typeError "loads() missing 1 required positional argument: 's'"
    | args => typeError ("loads() takes 1 positional argument but " ++ args.length.repr ++ " were given")
  | "load" =>
    match given.args.head?.or (given.named.lookup "fp") with
    | some stream =>
      let line (meant : String) : LibraryLine := jsonLine "__init__" 293 "load" "return loads(fp.read()," meant
      let v ← alongLibrary [line "fp.read()"] (do Caller.call (← getMember stream "read") {})
      alongLibrary [line "loads(fp.read()"] do
        return some (← readJson (← jsonSource v) { named := given.named.filter (·.1 ≠ "fp") })
    | none => typeError "load() missing 1 required positional argument: 'fp'"
  | _ => return none

end GrammarStudio.ObjectScript
