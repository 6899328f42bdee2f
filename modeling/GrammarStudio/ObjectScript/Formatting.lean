import GrammarStudio.ObjectScript.Members

/-!
# Texts with places for values

* `fillText`, `fillOctets` — places that begin with a percent sign;
* `formatText` — places between braces;
* `converted` — a value as a text, in one of three ways.
-/

namespace GrammarStudio.ObjectScript

open Machine Number Tools

/-- A value as a text: as it is, as scripts write it, or the same without characters that are not in the small set. -/
def converted [Caller] (conversion : Option Char) (v : Value) : Run Value := do
  match conversion with
  | some 'r' => return .text (← shown v)
  | some 'a' => return .text (← shownPlain v)
  | some 's' => return .text (← texted v)
  | _ => return v

/-! ### Percent signs -/

/-- What stands between a percent sign and the letter that ends it. -/
structure Place where
  flags : List Nat := []
  width : Option Int := none
  precision : Option Int := none

/-- Values that are still to be put into places. -/
structure Supply where
  values : List Value
  /-- The value that all come from, where it has keys. -/
  mapping : Option Value
  /-- There was no tuple, but one value. -/
  isSingle : Bool

abbrev Fill := StateT Supply Run

def takeValue : Fill Value := do
  let s ← get
  match s.values with
  | v :: rest =>
    set { s with values := rest }
    return v
  | [] => (typeError "not enough arguments for format string" : Run Value)

/-- A number at the front of a format, or a star for which a value stands. -/
def takeCount [Caller] (g : Glyphs) : Fill (Option Int × Glyphs) := do
  match g with
  | 42 :: rest =>
    match ← takeValue with
    | .int n => return (some n, rest)
    | .bool b => return (some (if b then 1 else 0), rest)
    | _ => (typeError "* wants int" : Run _)
  | g =>
    let (ds, rest) := frontDigits g
    if ds.isEmpty then return (none, g)
    else
      if digitsValue ds ≥ 2 ^ 31 then (if digitsValue ds ≥ 2 ^ 63 then valueError "width too big" else raiseWith "MemoryError" [] : Run Unit)
      return (some (digitsValue ds), rest)

/-- The key between round brackets, which may hold brackets. -/
def keyInBrackets : (depth : Nat) → (done : List Nat) → Glyphs → Option (Glyphs × Glyphs)
  | _, _, [] => none
  | depth, done, n :: rest =>
    if n = 41 then (if depth = 0 then some (done.reverse, rest) else keyInBrackets (depth - 1) (n :: done) rest)
    else if n = 40 then keyInBrackets (depth + 1) (n :: done) rest
    else keyInBrackets depth (n :: done) rest

def Place.has (p : Place) (flag : Char) : Bool := p.flags.contains flag.toNat

/-- Puts a text into a place. -/
def Place.padded (p : Place) (g : Glyphs) : Glyphs :=
  match p.width with
  | none => g
  | some w => if p.has '-' || w < 0 then Glyphs.padRight w.natAbs 32 g else Glyphs.padLeft w.natAbs 32 g

/-- Puts a number into a place. -/
def Place.number (p : Place) (negative : Bool) (head digits : List Char) : Glyphs :=
  let sign := if negative then ['-'] else if p.has '+' then ['+'] else if p.has ' ' then [' '] else []
  let glyphsOf (cs : List Char) : Glyphs := cs.map Char.toNat
  let body := sign ++ head
  match p.width with
  | some w =>
    if p.has '0' && !(p.has '-') && w > 0 then
      glyphsOf body ++ List.replicate (w.toNat - body.length - digits.length) 48 ++ glyphsOf digits
    else p.padded (glyphsOf (body ++ digits))
  | none => glyphsOf (body ++ digits)

def wholeText (p : Place) (letter : Char) (n : Int) : Glyphs :=
  let base := match letter with
    | 'o' => 8
    | 'x' | 'X' => 16
    | _ => 10
  let digits := Octets.inBase base n.natAbs
  let digits := if letter = 'X' then upperCase digits else digits
  let digits := match p.precision with
    | some w => List.replicate (w.toNat - digits.length) '0' ++ digits
    | none => digits
  let head := if p.has '#' && base ≠ 10 then ['0', letter] else []
  p.number (n < 0) head digits

def brokenText (p : Place) (letter : Char) (x : Float) : Glyphs :=
  let w := Wide.ofFloat x
  let precision := (p.precision.getD 6).toNat
  let digits := match w with
    | .infinite _ => ascii "inf"
    | .undefined _ => ascii "nan"
    | .finite b =>
      let b := { b with negative := false }
      match letter with
      | 'e' | 'E' => b.scientific precision (p.has '#') 'e'
      | 'f' | 'F' => b.fixed precision (p.has '#')
      | _ => b.general precision (p.has '#') 'e'
  let digits := if letter.isUpper then upperCase digits else digits
  let negative := match w with
    | .finite b => b.negative
    | .infinite n => n
    | .undefined _ => false
  p.number negative [] digits

/-- A number that is asked for by a letter. -/
def numberFor [Caller] (letter : Char) (v : Value) : Run Numeric := do
  match numeric? (← coreOf v) with
  | some n => return n
  | none =>
    match ← callOwn? v (if (ascii "eEfFgG").contains letter then "__float__" else "__int__") [] with
    | some r =>
      match numeric? r with
      | some n => return n
      | none => typeError "must be real number"
    | none =>
      if (ascii "eEfFgG").contains letter then typeError ("must be real number, not " ++ (← kindNameOf v))
      else if (ascii "oxX").contains letter then
        typeError ("%" ++ String.singleton letter ++ " format: an integer is required, not " ++ (← kindNameOf v))
      else typeError ("%" ++ String.singleton letter ++ " format: a real number is required, not " ++ (← kindNameOf v))

/-- The value at a place, as the letter at its end says. -/
def placeText [Caller] (ofOctets : Bool) (p : Place) (letter : Nat) (at_ : Nat) : Fill Glyphs := do
  let c := Char.ofNat letter
  let cut (g : Glyphs) : Glyphs := match p.precision with
    | some w => g.take w.toNat
    | none => g
  if (glyphs "srabcdiuoxXeEfFgG").contains letter && (letter ≠ 98 || ofOctets) then
    let v ← takeValue
    match c with
    | 'r' | 'a' =>
      let g ← (if ofOctets || c = 'a' then shownPlain v else shown v : Run Glyphs)
      return p.padded (cut g)
    | 's' | 'b' =>
      if ofOctets then
        match ← (octetsOf? v : Run (Option Octets)) with
        | some o => return p.padded (cut (Glyphs.ofOctets o))
        | none =>
          (do typeError ("%b requires a bytes-like object, or an object that implements __bytes__, not '" ++ (← kindNameOf v) ++ "'") : Run Glyphs)
      else return p.padded (cut (← (texted v : Run Glyphs)))
    | 'c' =>
      match ← (coreOf v : Run Value) with
      | .int n =>
        if n < 0 || n > (if ofOctets then 255 else 0x10FFFF) then
          (raise "OverflowError" (if ofOctets then "%c arg not in range(256)" else "%c arg not in range(0x110000)") : Run Unit)
        return p.padded [n.toNat]
      | .text [n] => if ofOctets then (typeError "%c requires an integer in range(256) or a single byte" : Run Glyphs) else return p.padded [n]
      | .octets [o] => if ofOctets then return p.padded [o.toNat] else (typeError "%c requires int or char" : Run Glyphs)
      | _ => (typeError (if ofOctets then "%c requires an integer in range(256) or a single byte" else "%c requires int or char") : Run Glyphs)
    | 'd' | 'i' | 'u' =>
      match ← (numberFor 'd' v : Run Numeric) with
      | .whole n => return wholeText p 'd' n
      | .broken x =>
        match (Wide.ofFloat x).truncate? with
        | some n => return wholeText p 'd' n
        | none =>
          (if x.isNaN then valueError "cannot convert float NaN to integer" else raise "OverflowError" "cannot convert float infinity to integer" : Run Glyphs)
    | 'o' | 'x' | 'X' =>
      match ← (numberFor c v : Run Numeric) with
      | .whole n => return wholeText p c n
      | .broken _ =>
        (typeError ("%" ++ String.singleton c ++ " format: an integer is required, not float") : Run Glyphs)
    | _ =>
      let n ← (numberFor c v : Run Numeric)
      return brokenText p c (← (n.toFloat : Run Float))
  else if letter = 37 then
    let _ ← takeValue
    return [37]
  else
    (valueError ("unsupported format character '" ++ (if 31 < letter && letter < 127 then String.singleton c else "?") ++ "' (0x" ++
      String.ofList (Octets.inBase 16 letter) ++ ") at index " ++ at_.repr) : Run Glyphs)

def isFillFlag (n : Nat) : Bool := n = 45 || n = 43 || n = 32 || n = 35 || n = 48

/-- Puts values into the places of a text. -/
def fillOn [Caller] (ofOctets : Bool) (source : Glyphs) : (fuel : Nat) → Glyphs → (done : List Glyphs) → Fill Glyphs
  | 0, _, done => return done.reverse.flatten
  | _ + 1, [], done => return done.reverse.flatten
  | fuel + 1, 37 :: 37 :: rest, done => fillOn ofOctets source fuel rest ([37] :: done)
  | fuel + 1, 37 :: rest, done => do
    let (key, rest) ← match rest with
      | 40 :: more =>
        match keyInBrackets 0 [] more with
        | none => (valueError "incomplete format key" : Run _)
        | some (key, rest) => pure (some key, rest)
      | rest => pure (none, rest)
    match key with
    | some k =>
      match (← get).mapping with
      | none => (typeError "format requires a mapping" : Run Unit)
      | some m =>
        let v ← (getItem m (if ofOctets then .octets (k.map Char.ofNat) else .text k) : Run Value)
        modify fun s => { s with values := [v], isSingle := false }
    | none => pure ()
    let flags := rest.takeWhile isFillFlag
    let rest := rest.dropWhile isFillFlag
    let (width, rest) ← takeCount rest
    let (precision, rest) ← match rest with
      | 46 :: more => do
        let (p, more) ← takeCount more
        pure (some (p.getD 0), more)
      | rest => pure (none, rest)
    let rest := match rest with
      | 104 :: more | 108 :: more | 76 :: more => more
      | rest => rest
    match rest with
    | [] => (valueError "incomplete format" : Run Glyphs)
    | letter :: rest =>
      let g ← placeText ofOctets { flags, width, precision } letter (source.length - rest.length - 1)
      if key.isSome then modify fun s => { s with values := [] }
      fillOn ofOctets source fuel rest (g :: done)
  | fuel + 1, n :: rest, done =>
    let plain := (n :: rest).takeWhile (· ≠ 37)
    fillOn ofOctets source fuel ((n :: rest).drop plain.length) (plain :: done)

/-- Has a value keys? -/
def isMapping [Caller] (v : Value) : Run Bool := do
  match ← coreOf v with
  | .thing n =>
    match ← look n with
    | .dict .. | .scope _ | .list _ | .record .. => return true
    | .instance_ .. => return (← ownMethod? v "__getitem__").isSome
    | _ => return false
  | _ => return false

def filled [Caller] (ofOctets : Bool) (g : Glyphs) (v : Value) : Run Glyphs := do
  let core ← coreOf v
  let mapping ← isMapping v
  let (values, isSingle) := match core with
    | .tuple items => (items, false)
    | _ => ([v], true)
  let (r, s) ← (fillOn ofOctets g (g.length + 1) g []).run { values, mapping := if mapping then some v else none, isSingle }
  if !s.values.isEmpty && !(mapping && isSingle) then typeError ("not all arguments converted during " ++ (if ofOctets then "bytes" else "string") ++ " formatting")
  return r

instance [Caller] : Filler where
  fill g v := filled false g v
  fillOctets o v := do return (← filled true (Glyphs.ofOctets o) v).map Char.ofNat

/-! ### Braces -/

/-- What stands between braces: the name of a value, what is behind the name, how the value becomes a text, and how that
is laid out. -/
structure Slot where
  name : Glyphs
  conversion : Option Char
  layout : Glyphs

/-- The text up to the brace that closes, and what is behind it. -/
def untilBrace : (depth : Nat) → (done : List Nat) → Glyphs → Option (Glyphs × Glyphs)
  | _, _, [] => none
  | depth, done, n :: rest =>
    if n = 123 then untilBrace (depth + 1) (n :: done) rest
    else if n = 125 then (if depth = 0 then some (done.reverse, rest) else untilBrace (depth - 1) (n :: done) rest)
    else untilBrace depth (n :: done) rest

/-- The name of a field, in which square brackets may hold any sign. -/
def untilSign : (inBrackets : Bool) → (done : List Nat) → Glyphs → Glyphs × Glyphs
  | _, done, [] => (done.reverse, [])
  | inBrackets, done, n :: rest =>
    if inBrackets then untilSign (n ≠ 93) (n :: done) rest
    else if n = 91 then untilSign true (n :: done) rest
    else if n = 33 || n = 58 then (done.reverse, n :: rest)
    else untilSign false (n :: done) rest

def readSlot (g : Glyphs) : Except String Slot := do
  let (name, rest) := untilSign false [] g
  if name.contains 123 then throw "unexpected '\x7b' in field name"
  match rest with
  | 33 :: rest =>
    match rest with
    | [] => throw "unmatched '\x7b' in format spec"
    | c :: rest =>
      match rest with
      | [] => return { name, conversion := some (Char.ofNat c), layout := [] }
      | 58 :: layout => return { name, conversion := some (Char.ofNat c), layout }
      | _ => throw "expected ':' after conversion specifier"
  | 58 :: layout => return { name, conversion := none, layout }
  | _ => return { name, conversion := none, layout := [] }

/-- A step from a value to a part of it. -/
inductive Hop where
  | member (name : String)
  | item (index : Value)

/-- The steps behind the name of a value. -/
def hops : (fuel : Nat) → Glyphs → Except String (List Hop)
  | 0, _ => .ok []
  | _ + 1, [] => .ok []
  | fuel + 1, 46 :: rest => do
    let name := rest.takeWhile fun n => n ≠ 46 && n ≠ 91
    if name.isEmpty then throw "Empty attribute in format string"
    return .member (Glyphs.toString name) :: (← hops fuel (rest.drop name.length))
  | fuel + 1, 91 :: rest => do
    let index := rest.takeWhile (· ≠ 93)
    if index.length = rest.length then throw "Missing ']' in format string"
    if index.isEmpty then throw "Empty attribute in format string"
    let v : Value := if index.all Glyphs.isDigit then .int (digitsValue index) else .text index
    return .item v :: (← hops fuel (rest.drop (index.length + 1)))
  | _ + 1, _ => throw "Only '.' or '[' may follow ']' in format field specifier"

/-- Where the next value without a name comes from, once it is known whether values are counted by themselves. -/
inductive Numbering where
  | unknown
  | own (next : Nat)
  | given

abbrev Bracing := StateT Numbering Run

/-- The value that a name between braces stands for. -/
def slotValue [Caller] (args : List Value) (lookup : Glyphs → Run Value) (name : Glyphs) : Bracing Value := do
  let first := name.takeWhile fun n => n ≠ 46 && n ≠ 91
  let positional (n : Nat) : Bracing Value := do
    match args[n]? with
    | some v => return v
    | none => (raise "IndexError" ("Replacement index " ++ n.repr ++ " out of range for positional args tuple") : Run Value)
  let v ← (if first.isEmpty then do
      match ← get with
      | .given => (valueError "cannot switch from manual field specification to automatic field numbering" : Run Value)
      | .unknown =>
        set (Numbering.own 1)
        positional 0
      | .own n =>
        set (Numbering.own (n + 1))
        positional n
    else if first.all Glyphs.isDigit then do
      match ← get with
      | .own _ => (valueError "cannot switch from automatic field numbering to manual field specification" : Run Value)
      | _ =>
        set Numbering.given
        positional (digitsValue first)
    else (lookup first : Run Value))
  match hops (name.length + 1) (name.drop first.length) with
  | .error message => (valueError message : Run Value)
  | .ok steps =>
    (steps.foldlM (fun v step => match step with
      | .member name => getMember v name
      | .item index => getItem v index) v : Run Value)

/-- Puts values into the places between braces; those can hold places themselves. -/
def formatOn [Caller] (args : List Value) (lookup : Glyphs → Run Value) : (fuel depth : Nat) → Glyphs → (done : List Glyphs) → Bracing Glyphs
  | 0, _, _, done => return done.reverse.flatten
  | _ + 1, _, [], done => return done.reverse.flatten
  | fuel + 1, depth, 123 :: 123 :: rest, done => formatOn args lookup fuel depth rest ([123] :: done)
  | fuel + 1, depth, 125 :: 125 :: rest, done => formatOn args lookup fuel depth rest ([125] :: done)
  | _ + 1, _, 125 :: _, _ => (valueError "Single '\x7d' encountered in format string" : Run Glyphs)
  | _ + 1, _, [123], _ => (valueError "Single '\x7b' encountered in format string" : Run Glyphs)
  | fuel + 1, depth, 123 :: rest, done => do
    if depth = 0 then (valueError "Max string recursion exceeded" : Run Unit)
    match untilBrace 0 [] rest with
    | none => (valueError "expected '\x7d' before end of string" : Run Glyphs)
    | some (body, rest) =>
      match readSlot body with
      | .error message => (valueError message : Run Glyphs)
      | .ok slot =>
        let v ← slotValue args lookup slot.name
        let v ← match slot.conversion with
          | none => pure v
          | some c =>
            if c = 'r' || c = 's' || c = 'a' then (converted (some c) v : Run Value)
            else (valueError ("Unknown conversion specifier " ++ String.singleton c) : Run Value)
        let layout ← if slot.layout.contains 123 then formatOn args lookup fuel (depth - 1) slot.layout [] else pure slot.layout
        let g ← (laidOut v layout : Run Glyphs)
        formatOn args lookup fuel depth rest (g :: done)
  | fuel + 1, depth, n :: rest, done =>
    let plain := (n :: rest).takeWhile fun n => n ≠ 123 && n ≠ 125
    formatOn args lookup fuel depth ((n :: rest).drop plain.length) (plain :: done)

def formatText [Caller] (g : Glyphs) (args : List Value) (lookup : Glyphs → Run Value) : Run Glyphs := do
  let (r, _) ← (formatOn args lookup (2 * g.length + 2) 2 g []).run .unknown
  return r

end GrammarStudio.ObjectScript
