import GrammarStudio.ObjectScript.Formatting
import GrammarStudio.Text.Casing
import GrammarStudio.Text.Letters

/-!
# What texts can do

The methods of texts and those of octets are nearly the same; the octets are taken for the first characters.

* `Strip`, `splitOn`, `splitLines`, `replaceAll` — the work on texts;
* `textMethod?` — a method of a text, or of octets.
-/

namespace GrammarStudio.ObjectScript

open Machine Tools

/-! ### Letters -/

def charOf (n : Nat) : Char := Char.ofNat n

def isLetter (n : Nat) : Bool := !Glyphs.isHalf n && Text.isAlphabetic (charOf n) && !(n ≥ 128 && Text.isNumeric (charOf n))

def isNumberSign (n : Nat) : Bool := !Glyphs.isHalf n && Text.isNumeric (charOf n)

def upperGlyph (isText : Bool) (n : Nat) : List Nat :=
  if n < 128 then [if 97 ≤ n && n ≤ 122 then n - 32 else n] else if isText then Text.upperOf n else [n]

def lowerGlyph (isText : Bool) (n : Nat) : List Nat :=
  if n < 128 then [if 65 ≤ n && n ≤ 90 then n + 32 else n] else if isText then Text.lowerOf n else [n]

def isUpperGlyph (isText : Bool) (n : Nat) : Bool :=
  if n < 128 then 65 ≤ n && n ≤ 90 else isText && isLetter n && lowerGlyph true n ≠ [n]

def isLowerGlyph (isText : Bool) (n : Nat) : Bool :=
  if n < 128 then 97 ≤ n && n ≤ 122 else isText && isLetter n && (upperGlyph true n ≠ [n] || (lowerGlyph true n = [n] && n < 0x250 && n ≠ 0x1bb && !(0x1c0 ≤ n && n ≤ 0x1c3)))

def isCased (isText : Bool) (n : Nat) : Bool := isUpperGlyph isText n || isLowerGlyph isText n

def isSpaceGlyph (isText : Bool) (n : Nat) : Bool := if isText then Glyphs.isSpace n else n = 32 || (9 ≤ n && n ≤ 13)

/-- Letters in small; a sigma that ends a word has a shape of its own. -/
def lowered (isText : Bool) (g : Glyphs) : Glyphs :=
  if !isText || !g.contains 0x3A3 then g.flatMap (lowerGlyph isText)
  else
    let rec run (before : Bool) : Glyphs → Glyphs
      | [] => []
      | n :: rest =>
        let next := rest.head?.any (isCased true)
        (if n = 0x3A3 && before && !next then [0x3C2] else lowerGlyph true n) ++ run (isCased true n) rest
    run false g

def uppered (isText : Bool) (g : Glyphs) : Glyphs := g.flatMap (upperGlyph isText)

/-- A letter as it begins a word. -/
def titleGlyph (isText : Bool) (n : Nat) : List Nat :=
  if !isText then upperGlyph isText n
  else if 0x1C4 ≤ n && n ≤ 0x1CC then [0x1C5 + (n - 0x1C4) / 3 * 3]
  else if 0x1F1 ≤ n && n ≤ 0x1F3 then [0x1F2]
  else
    match upperGlyph isText n with
    | first :: rest => first :: rest.flatMap (lowerGlyph isText)
    | [] => []

/-- The first letter of every word large, the others small. -/
def titled (isText : Bool) : (inWord : Bool) → Glyphs → Glyphs
  | _, [] => []
  | inWord, n :: rest =>
    let cased := isCased isText n
    (if cased then (if inWord then lowerGlyph isText n else titleGlyph isText n) else [n]) ++ titled isText cased rest

def isTitled (isText : Bool) : (inWord any : Bool) → Glyphs → Bool
  | _, any, [] => any
  | inWord, any, n :: rest =>
    if isUpperGlyph isText n then !inWord && isTitled isText true true rest
    else if isLowerGlyph isText n then inWord && isTitled isText true true rest
    else isTitled isText false any rest

/-! ### Cutting -/

/-- The place where a part last stands in a text. -/
def findLast? (part g : Glyphs) : Option Nat :=
  match Glyphs.find? part.reverse 0 g.reverse with
  | some n => some (g.length - n - part.length)
  | none => none

/-- How often a part stands in a text, without overlap. -/
def countOf (part : Glyphs) : (fuel : Nat) → Glyphs → Nat
  | 0, _ => 0
  | fuel + 1, g =>
    match Glyphs.find? part 0 g with
    | none => 0
    | some n => 1 + countOf part fuel (g.drop (n + part.length))

/-- The parts of a text between signs, at most so many cuts. -/
def splitOn (sign : Glyphs) : (fuel : Nat) → (cuts : Option Nat) → Glyphs → List Glyphs
  | 0, _, g => [g]
  | fuel + 1, cuts, g =>
    if cuts = some 0 then [g]
    else
      match Glyphs.find? sign 0 g with
      | none => [g]
      | some n => g.take n :: splitOn sign fuel (cuts.map (· - 1)) (g.drop (n + sign.length))

def splitOnLast (sign : Glyphs) (cuts : Option Nat) (g : Glyphs) : List Glyphs :=
  ((splitOn sign.reverse (g.length + 1) cuts g.reverse).map List.reverse).reverse

/-- The words of a text, at most so many cuts. -/
def splitBlanks (isSpace : Nat → Bool) : (fuel : Nat) → (cuts : Option Nat) → Glyphs → List Glyphs
  | 0, _, _ => []
  | fuel + 1, cuts, g =>
    let g := g.dropWhile isSpace
    if g.isEmpty then []
    else if cuts = some 0 then [(g.reverse.dropWhile isSpace).reverse]
    else
      let word := g.takeWhile (!isSpace ·)
      word :: splitBlanks isSpace fuel (cuts.map (· - 1)) (g.drop word.length)

def splitBlanksLast (isSpace : Nat → Bool) (cuts : Option Nat) (g : Glyphs) : List Glyphs :=
  ((splitBlanks isSpace (g.length + 1) cuts g.reverse).map List.reverse).reverse

/-- The lines of a text, with their ends or without. -/
def splitLines (isText keeps : Bool) : (fuel : Nat) → Glyphs → List Glyphs
  | 0, _ => []
  | fuel + 1, g =>
    let isEnd (n : Nat) : Bool := if isText then Glyphs.isLineEnd n else n = 10 || n = 13
    if g.isEmpty then []
    else
      let line := g.takeWhile (!isEnd ·)
      let rest := g.drop line.length
      let (mark, rest) := match rest with
        | 13 :: 10 :: rest => ([13, 10], rest)
        | n :: rest => ([n], rest)
        | [] => ([], [])
      (if keeps then line ++ mark else line) :: splitLines isText keeps fuel rest

/-- Puts a text in the place of a part, at most so often. -/
def replaceAll (old new : Glyphs) : (fuel : Nat) → (times : Option Nat) → Glyphs → Glyphs
  | 0, _, g => g
  | fuel + 1, times, g =>
    if times = some 0 then g
    else if old.isEmpty then
      match g with
      | [] => new
      | n :: rest => new ++ n :: (if times = some 1 then rest else replaceAll old new fuel (times.map (· - 1)) rest)
    else
      match Glyphs.find? old 0 g with
      | none => g
      | some n => g.take n ++ new ++ replaceAll old new fuel (times.map (· - 1)) (g.drop (n + old.length))

def expandTabs (size : Nat) : (column : Nat) → Glyphs → Glyphs
  | _, [] => []
  | column, n :: rest =>
    if n = 9 then
      let room := if size = 0 then 0 else size - column % size
      List.replicate room 32 ++ expandTabs size (column + room) rest
    else n :: expandTabs size (if n = 10 || n = 13 then 0 else column + 1) rest

/-- Writes zeros behind the sign of a number. -/
def zeroFilled (width : Nat) (g : Glyphs) : Glyphs :=
  match g with
  | n :: rest =>
    if n = 43 || n = 45 then n :: (List.replicate (width - g.length) 48 ++ rest) else List.replicate (width - g.length) 48 ++ g
  | [] => List.replicate width 48

/-! ### Arguments -/

/-- The characters of a value that must be a text, or octets. -/
def partOf [Caller] (isText : Bool) (complaint : String → String) (v : Value) : Run Glyphs := do
  if isText then
    match ← coreOf v with
    | .text g => return g
    | _ => typeError (complaint (← kindNameOf v))
  else
    match ← octetsOf? (← coreOf v) with
    | some o => return Glyphs.ofOctets o
    | none => typeError ("a bytes-like object is required, not '" ++ (← kindNameOf v) ++ "'")

/-- A text, or one octet as a number, that is looked for. -/
def soughtOf [Caller] (isText : Bool) (v : Value) : Run Glyphs := do
  if isText then partOf true (fun k => "must be str, not " ++ k) v
  else
    match wholeOf? (← coreOf v) with
    | some n => if n < 0 || n > 255 then valueError "byte must be in range(0, 256)" else return [n.toNat]
    | none =>
      match ← octetsOf? (← coreOf v) with
      | some o => return Glyphs.ofOctets o
      | none => typeError ("argument should be integer or bytes-like object, not '" ++ (← kindNameOf v) ++ "'")

/-- The part of a text between two places. -/
def between [Caller] (size : Nat) (start stop : Value) : Run (Nat × Nat) := do
  let (a, b, _) ← sliceBounds size start stop .none
  return (a.toNat, b.toNat)

def boundsOf [Caller] (g : Glyphs) (given : Given) : Run (Nat × Nat) :=
  between g.length (given.getD 1 "start" .none) (given.getD 2 "end" .none)

def codingOf (name : String) : Run Glyphs.Coding := do
  match Glyphs.Coding.named? name with
  | some c => return c
  | none => raise "LookupError" ("unknown encoding: " ++ name)

def wordOf [Caller] (what : String) (v : Value) : Run String := do
  match ← coreOf v with
  | .text g => return Glyphs.toString g
  | _ => typeError (what ++ " must be str, not " ++ (← kindNameOf v))

/-- The octets of a text in a coding; wide ones may begin with a mark. -/
def encodedBy (name handling : String) (g : Glyphs) : Run Octets := do
  let plain := (name.toList.map Char.toLower).filter fun c => c ≠ '-' && c ≠ '_'
  if plain = ascii "utf16" then return ['\xff', '\xfe'] ++ (← encoded (.wide true) handling g)
  else if plain = ascii "utf8sig" then return ['\xef', '\xbb', '\xbf'] ++ (← encoded .utf8 handling g)
  else encoded (← codingOf name) handling g

def decodedBy (name handling : String) (o : Octets) : Run Glyphs := do
  let plain := (name.toList.map Char.toLower).filter fun c => c ≠ '-' && c ≠ '_'
  if plain = ascii "utf16" then
    match o with
    | '\xff' :: '\xfe' :: rest => decoded (.wide true) handling rest
    | '\xfe' :: '\xff' :: rest => decoded (.wide false) handling rest
    | o => decoded (.wide true) handling o
  else if plain = ascii "utf8sig" then
    match o with
    | '\xef' :: '\xbb' :: '\xbf' :: rest => decoded .utf8 handling rest
    | o => decoded .utf8 handling o
  else decoded (← codingOf name) handling o

/-- Octets as pairs of digits, with a sign between groups. -/
def hexWritten (sign : Option Nat) (size : Int) (o : Octets) : Glyphs :=
  let pairs := o.map fun c => Glyphs.ofOctets (Glyphs.hexText 2 c.toNat)
  match sign with
  | none => pairs.flatten
  | some s =>
    let n := pairs.length
    let group := size.natAbs
    if group = 0 then pairs.flatten
    else
      (pairs.zipIdx.flatMap fun (p, i) =>
        let starts := if size > 0 then i > 0 && (n - i) % group = 0 else i > 0 && i % group = 0
        if starts then s :: p else p)

/-- The octets that pairs of digits stand for. -/
def hexRead? : (fuel : Nat) → (at_ : Nat) → Glyphs → Except Nat Octets
  | 0, _, _ => .ok []
  | _ + 1, _, [] => .ok []
  | fuel + 1, at_, n :: rest =>
    if n = 32 || (9 ≤ n && n ≤ 13) then hexRead? fuel (at_ + 1) rest
    else
      let isHex (n : Nat) : Bool := n < 128 && Octets.isHex (charOf n)
      match rest with
      | m :: rest =>
        if !isHex n then .error at_
        else if !isHex m then .error (at_ + 1)
        else do
          let more ← hexRead? fuel (at_ + 2) rest
          .ok (Char.ofNat (Octets.digitValue (charOf n) * 16 + Octets.digitValue (charOf m)) :: more)
      | [] => if isHex n then .error (at_ + 1) else .error at_

/-! ### Methods -/

/-- A method of a text, or of octets, if there is one of the name. -/
def textMethod? [Caller] [Resumer] (isText : Bool) (g : Glyphs) (wrap : Glyphs → Value) (name : String) (given : Given) : Run (Option Value) := do
  let kind := if isText then "str" else "bytes"
  let answer (v : Value) : Run (Option Value) := return some v
  let text (g : Glyphs) : Run (Option Value) := return some (wrap g)
  let yes (b : Bool) : Run (Option Value) := return some (.bool b)
  let list (parts : List Glyphs) : Run (Option Value) := do return some (← newList (parts.map wrap))
  let none_ : Run Unit := do
    if !given.args.isEmpty || !given.named.isEmpty then
      if given.named.isEmpty then typeError (kind ++ "." ++ name ++ "() takes no arguments (" ++ given.args.length.repr ++ " given)")
      else typeError (kind ++ "." ++ name ++ "() takes no keyword arguments")
  let least (n : Nat) : Run Unit := do
    if given.args.length < n then
      if n = 1 && (["find", "rfind", "index", "rindex", "count", "startswith", "endswith"].contains name) then
        typeError (name ++ "() takes at least 1 argument (" ++ given.args.length.repr ++ " given)")
      else if n = 1 then typeError (kind ++ "." ++ name ++ "() takes exactly one argument (" ++ given.args.length.repr ++ " given)")
      else typeError (name ++ " expected at least " ++ counted n "argument" ++ ", got " ++ given.args.length.repr)
  let holdsAll (test : Nat → Bool) : Run (Option Value) := do
    none_
    yes (!g.isEmpty && g.all test)
  let seek (last : Bool) (fails : Bool) : Run (Option Value) := do
    least 1
    let part ← soughtOf isText given.first
    let (a, b) ← boundsOf g given
    let inner := (g.drop a).take (b - a)
    let found := if a > g.length || b < a then Option.none
      else if last then findLast? part inner else Glyphs.find? part 0 inner
    match found with
    | some n => answer (.ofNat (n + a))
    | none => if fails then valueError (if isText then "substring not found" else "subsection not found") else answer (.int (-1))
  let begins (atEnd : Bool) : Run (Option Value) := do
    least 1
    let (a, b) ← boundsOf g given
    let inner := (g.drop a).take (b - a)
    let fits (v : Value) : Run Bool := do
      let complaint (k : String) : String := "tuple for " ++ name ++ " must only contain str, not " ++ k
      let part ← if (given.first matches .tuple _) then partOf isText complaint v
        else if isText then partOf true (fun k => name ++ " first arg must be str or a tuple of str, not " ++ k) v
        else match ← octetsOf? v with
          | some o => pure (Glyphs.ofOctets o)
          | none => typeError (name ++ " first arg must be bytes or a tuple of bytes, not " ++ (← kindNameOf v))
      return a ≤ b && (if atEnd then part.isSuffixOf inner else part.isPrefixOf inner)
    match given.first with
    | .tuple parts => yes (← parts.foldlM (fun (ok : Bool) v => do if ok then return true else fits v) false)
    | v => yes (← fits v)
  let stripped (left right : Bool) : Run (Option Value) := do
    let drops ← match given.first with
      | .none => pure (isSpaceGlyph isText)
      | v =>
        let set ← if isText then partOf true (fun _ => name ++ " arg must be None or str") v else partOf false id v
        pure fun n => set.contains n
    let g := if left then g.dropWhile drops else g
    let g := if right then (g.reverse.dropWhile drops).reverse else g
    text g
  let placed (make : Nat → Nat → Glyphs → Glyphs) : Run (Option Value) := do
    if given.args.isEmpty then typeError (name ++ " expected at least 1 argument, got 0")
    let width ← integerOf given.first
    let fill ← match given.args[1]? with
      | none => pure 32
      | some v =>
        match ← partOf isText (fun k => "The fill character must be a unicode character, not " ++ k) v with
        | [n] => pure n
        | _ =>
          let k ← kindNameOf v
          typeError (if isText then "The fill character must be exactly one character long" else name ++ "() argument 2 must be a byte string of length 1, not " ++ k)
    text (make width.toNat fill g)
  let parted (last : Bool) : Run (Option Value) := do
    least 1
    let sign ← partOf isText (fun k => "must be str, not " ++ k) given.first
    if sign.isEmpty then valueError "empty separator"
    let found := if last then findLast? sign g else Glyphs.find? sign 0 g
    match found with
    | some n => answer (.tuple [wrap (g.take n), wrap sign, wrap (g.drop (n + sign.length))])
    | none => answer (.tuple (if last then [wrap [], wrap [], wrap g] else [wrap g, wrap [], wrap []]))
  let split (last : Bool) : Run (Option Value) := do
    let sign := given.getD 0 "sep" .none
    let cuts ← integerOf (given.getD 1 "maxsplit" (.int (-1)))
    let cuts := if cuts < 0 then Option.none else some cuts.toNat
    match sign with
    | .none =>
      list (if last then splitBlanksLast (isSpaceGlyph isText) cuts g else splitBlanks (isSpaceGlyph isText) (g.length + 1) cuts g)
    | v =>
      let sign ← partOf isText (fun k => "must be str or None, not " ++ k) v
      if sign.isEmpty then valueError "empty separator"
      list (if last then splitOnLast sign cuts g else splitOn sign (g.length + 1) cuts g)
  match name with
  | "upper" => none_; text (uppered isText g)
  | "lower" => none_; text (lowered isText g)
  | "casefold" =>
    if isText then
      none_
      text (g.flatMap fun n => if n = 0xDF then [115, 115] else if n = 0x3C2 then [0x3C3] else lowerGlyph true n)
    else return none
  | "capitalize" =>
    none_
    text (match g with
      | [] => []
      | n :: rest => upperGlyph isText n ++ lowered isText rest)
  | "title" => none_; text (titled isText false g)
  | "swapcase" => none_; text (g.flatMap fun n => if isUpperGlyph isText n then lowerGlyph isText n else upperGlyph isText n)
  | "isupper" => none_; yes (g.any (isUpperGlyph isText) && !g.any (isLowerGlyph isText))
  | "islower" => none_; yes (g.any (isLowerGlyph isText) && !g.any (isUpperGlyph isText))
  | "istitle" => none_; yes (isTitled isText false false g)
  | "isalpha" => holdsAll fun n => if isText then isLetter n else n < 128 && isLetter n
  | "isdigit" => holdsAll fun n => Glyphs.isDigit n || (isText && n ≥ 128 && isNumberSign n)
  | "isdecimal" => if isText then holdsAll fun n => Glyphs.isDigit n || (n ≥ 0x660 && isNumberSign n) else return none
  | "isnumeric" => if isText then holdsAll fun n => Glyphs.isDigit n || isNumberSign n else return none
  | "isalnum" => holdsAll fun n => if isText then isLetter n || isNumberSign n else n < 128 && (isLetter n || Glyphs.isDigit n)
  | "isspace" => holdsAll (isSpaceGlyph isText)
  | "isascii" => none_; yes (g.all (· < 128))
  | "isprintable" => if isText then none_; yes (g.all isShown) else return none
  | "isidentifier" =>
    if isText then
      none_
      yes (match g with
        | [] => false
        | n :: rest => startsName (charOf n) && rest.all fun n => continuesName (charOf n))
    else return none
  | "find" => seek false false
  | "rfind" => seek true false
  | "index" => seek false true
  | "rindex" => seek true true
  | "count" =>
    least 1
    let part ← soughtOf isText given.first
    let (a, b) ← boundsOf g given
    let inner := (g.drop a).take (b - a)
    answer (.ofNat (if part.isEmpty then (if a > g.length then 0 else inner.length + 1) else countOf part (inner.length + 1) inner))
  | "startswith" => begins false
  | "endswith" => begins true
  | "strip" => stripped true true
  | "lstrip" => stripped true false
  | "rstrip" => stripped false true
  | "center" =>
    placed fun width fill g =>
      let room := width - g.length
      let left := room / 2 + (if room % 2 = 1 && width % 2 = 1 then 1 else 0)
      List.replicate left fill ++ g ++ List.replicate (room - left) fill
  | "ljust" => placed fun width fill g => Glyphs.padRight width fill g
  | "rjust" => placed fun width fill g => Glyphs.padLeft width fill g
  | "zfill" =>
    least 1
    text (zeroFilled (← integerOf given.first).toNat g)
  | "partition" => parted false
  | "rpartition" => parted true
  | "split" => split false
  | "rsplit" => split true
  | "splitlines" =>
    let keeps ← truth (given.getD 0 "keepends" (.bool false))
    list (splitLines isText keeps (g.length + 1) g)
  | "replace" =>
    least 2
    let old ← partOf isText (fun k => "replace() argument 1 must be str, not " ++ k) given.first
    let new ← partOf isText (fun k => "replace() argument 2 must be str, not " ++ k) (given.getD 1 "" .none)
    let times ← integerOf (given.getD 2 "count" (.int (-1)))
    text (replaceAll old new (g.length + 2) (if times < 0 then Option.none else some times.toNat) g)
  | "expandtabs" =>
    let size ← integerOf (given.getD 0 "tabsize" (.int 8))
    text (expandTabs size.toNat 0 g)
  | "removeprefix" =>
    least 1
    let part ← partOf isText (fun k => "removeprefix() argument must be str, not " ++ k) given.first
    text (if part.isPrefixOf g then g.drop part.length else g)
  | "removesuffix" =>
    least 1
    let part ← partOf isText (fun k => "removesuffix() argument must be str, not " ++ k) given.first
    text (if part.isSuffixOf g then g.take (g.length - part.length) else g)
  | "join" =>
    least 1
    let items ← tryCatch (collect given.first) fun e => do
      if (← isOfKind e "TypeError") && !(← isScripted given.first) then typeError "can only join an iterable" else throw e
    let parts ← items.zipIdx.mapM fun (v, i) => do
      if isText then
        match ← coreOf v with
        | .text p => return p
        | _ => typeError ("sequence item " ++ i.repr ++ ": expected str instance, " ++ (← kindNameOf v) ++ " found")
      else
        match ← octetsOf? v with
        | some o => return Glyphs.ofOctets o
        | none => typeError ("sequence item " ++ i.repr ++ ": expected a bytes-like object, " ++ (← kindNameOf v) ++ " found")
    text (parts.intersperse g).flatten
  | "translate" =>
    least 1
    if isText then
      let parts ← g.mapM fun n => do
        let found ← tryCatch (some <$> getItem given.first (.ofNat n)) fun e => do
          if (← isOfKind e "LookupError") then return none else throw e
        match found with
        | none => return [n]
        | some .none => return []
        | some (.int m) => return [m.toNat]
        | some (.text h) => return h
        | some _ => typeError "character mapping must return integer, None or str"
      text parts.flatten
    else
      let drops ← match given.get? 1 "delete" with
        | some v => partOf false id v
        | none => pure []
      let kept := g.filter fun n => !drops.contains n
      match given.first with
      | .none => text kept
      | v =>
        let table ← partOf false id v
        if table.length ≠ 256 then valueError "translation table must be 256 characters long"
        text (kept.map fun n => (table[n]?).getD n)
  | "encode" =>
    if isText then
      let coding ← wordOf "encode() argument 'encoding'" (given.getD 0 "encoding" (textValue "utf-8"))
      let handling ← wordOf "encode() argument 'errors'" (given.getD 1 "errors" (textValue "strict"))
      answer (.octets (← encodedBy coding handling g))
    else return none
  | "decode" =>
    if isText then return none
    else
      let coding ← wordOf "decode() argument 'encoding'" (given.getD 0 "encoding" (textValue "utf-8"))
      let handling ← wordOf "decode() argument 'errors'" (given.getD 1 "errors" (textValue "strict"))
      answer (.text (← decodedBy coding handling (g.map Char.ofNat)))
  | "hex" =>
    if isText then return none
    else
      let sign ← match given.get? 0 "sep" with
        | some (.text [n]) => pure (some n)
        | some (.octets [c]) => pure (some c.toNat)
        | some _ => valueError "sep must be length 1."
        | none => pure none
      answer (.text (hexWritten sign (← integerOf (given.getD 1 "bytes_per_sep" (.int 1))) (g.map Char.ofNat)))
  | "format" =>
    if isText then
      let lookup (k : Glyphs) : Run Value := do
        match given.named.lookup (Glyphs.toString k) with
        | some v => return v
        | none => raiseWith "KeyError" [.text k]
      answer (.text (← formatText g given.args lookup))
    else return none
  | "format_map" =>
    if isText then
      least 1
      answer (.text (← formatText g [] fun k => getItem given.first (.text k)))
    else return none
  | _ => return none

end GrammarStudio.ObjectScript
