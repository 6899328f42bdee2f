import GrammarStudio.Number.Written
import GrammarStudio.ObjectScript.Glyphs
import GrammarStudio.Text.Unprintable

/-!
# Written values

* `floatText` — a number as scripts write it: the fewest digits that read back;
* `quoted`, `quotedOctets` — texts and octets as scripts write them;
* `Layout`, `readLayout?` — how a value is laid out, as a short text says;
* `layText`, `layInteger`, `layFloat` — values laid out.
-/

namespace GrammarStudio.ObjectScript

open Machine Number

/-- Why something cannot be written: the kind of exception, and its text. -/
abbrev Complaint := String × String

/-! ### Numbers -/

/-- Digits with a point, or with an exponent where there would be many zeros. -/
def shortest (b : Binary) : List Char :=
  let (digits, e) := b.shortestDigits
  if -4 ≤ e && e < 16 then
    if e < 0 then ascii "0." ++ List.replicate (-e - 1).toNat '0' ++ digits
    else
      let whole := (e + 1).toNat
      let padded := digits ++ List.replicate (whole - digits.length) '0'
      let back := padded.drop whole
      padded.take whole ++ '.' :: (if back.isEmpty then ['0'] else back)
  else
    let back := digits.drop 1
    digits.take 1 ++ (if back.isEmpty then [] else '.' :: back) ++ exponentText 'e' e
where
  exponentText (mark : Char) (e : Int) : List Char := Binary.exponentText mark e

/-- A number as scripts write it. -/
def floatText (x : Float) : String :=
  let w := Wide.ofFloat x
  match w with
  | .undefined _ => "nan"
  | w => String.ofList (w.written shortest)

/-! ### Texts -/

def isShown (n : Nat) : Bool := n ≥ 32 && n ≠ 127 && !Text.isUnprintable n

/-- One character between quotes. -/
def quotedGlyph (quote : Nat) (plain : Bool) (n : Nat) : Glyphs :=
  if n = quote || n = 92 then [92, n]
  else if n = 9 then glyphs "\\t"
  else if n = 10 then glyphs "\\n"
  else if n = 13 then glyphs "\\r"
  else if n < 127 && n ≥ 32 then [n]
  else if !plain && isShown n then [n]
  else Glyphs.ofOctets (Glyphs.spelled n)

/-- A text between quotes; where it is to be plain, no character stands for itself that is not in the small set. -/
def quoted (plain : Bool) (g : Glyphs) : Glyphs :=
  let quote := if g.contains 39 && !g.contains 34 then 34 else 39
  quote :: (g.flatMap (quotedGlyph quote plain) ++ [quote])

def quotedOctet (quote : Nat) (n : Nat) : Glyphs :=
  if n = quote || n = 92 then [92, n]
  else if n = 9 then glyphs "\\t"
  else if n = 10 then glyphs "\\n"
  else if n = 13 then glyphs "\\r"
  else if n ≥ 32 && n < 127 then [n]
  else Glyphs.ofOctets (Glyphs.spelled n)

def quotedOctets (o : Octets) : Glyphs :=
  let g := Glyphs.ofOctets o
  let quote := if g.contains 39 && !g.contains 34 then 34 else 39
  98 :: quote :: (g.flatMap (quotedOctet quote) ++ [quote])

/-! ### Layouts -/

/-- How a value is laid out. -/
structure Layout where
  fill : Option Nat := none
  /-- Where the value stands in its room: a less-than sign, a greater-than sign, a circumflex or an equals sign. -/
  align : Option Char := none
  sign : Option Char := none
  noNegativeZero : Bool := false
  alternate : Bool := false
  width : Nat := 0
  grouping : Option Char := none
  precision : Option Nat := none
  type : Option Nat := none

def isAlign (n : Nat) : Bool := n = 60 || n = 62 || n = 94 || n = 61

/-- Digits at the front. -/
def frontDigits (g : Glyphs) : Glyphs × Glyphs := (g.takeWhile Glyphs.isDigit, g.dropWhile Glyphs.isDigit)

def digitsValue (g : Glyphs) : Nat := g.foldl (fun n d => n * 10 + (d - 48)) 0

/-- How a number of a layout is named when nobody knows it. -/
def typeShown (n : Nat) : String :=
  if 32 < n && n < 128 then String.singleton (Char.ofNat n) else "\\x" ++ String.ofList (Octets.inBase 16 n)

/-- Reads how a value of a kind is to be laid out. -/
def readLayout (kind : String) (source : Glyphs) : Except Complaint Layout := do
  let g := source
  let (fill, align, g) := match g with
    | f :: a :: rest =>
      if isAlign a then (some f, some (Char.ofNat a), rest)
      else if isAlign f then (none, some (Char.ofNat f), a :: rest)
      else (none, none, g)
    | [a] => if isAlign a then (none, some (Char.ofNat a), []) else (none, none, g)
    | [] => (none, none, g)
  let (sign, g) := match g with
    | s :: rest => if s = 43 || s = 45 || s = 32 then (some (Char.ofNat s), rest) else (none, g)
    | [] => (none, g)
  let (noNegativeZero, g) := match g with
    | 122 :: rest => (true, rest)
    | g => (false, g)
  let (alternate, g) := match g with
    | 35 :: rest => (true, rest)
    | g => (false, g)
  let (fill, align, g) := match g with
    | 48 :: rest =>
      match fill, align with
      | none, none => (some 48, some (if kind = "str" then '<' else '='), rest)
      | none, align => (some 48, align, rest)
      | fill, align => (fill, align, g)
    | g => (fill, align, g)
  let (widthDigits, g) := frontDigits g
  let width := digitsValue widthDigits
  if width ≥ 2 ^ 63 then throw ("ValueError", "Too many decimal digits in format string")
  let (grouping, g) := match g with
    | 44 :: rest => (some ',', rest)
    | 95 :: rest => (some '_', rest)
    | g => (none, g)
  match grouping, g with
  | some ',', 44 :: _ => throw ("ValueError", "Cannot specify ',' with ','.")
  | some ',', 95 :: _ | some '_', 44 :: _ => throw ("ValueError", "Cannot specify both ',' and '_'.")
  | _, _ => pure ()
  let (precision, g) ← match g with
    | 46 :: rest =>
      let (ds, rest) := frontDigits rest
      if ds.isEmpty then throw ("ValueError", "Format specifier missing precision")
      if digitsValue ds ≥ 2 ^ 63 then throw ("ValueError", "Too many decimal digits in format string")
      pure (some (digitsValue ds), rest)
    | g => pure (none, g)
  match g with
  | [] => return { fill, align, sign, noNegativeZero, alternate, width, grouping, precision, type := none }
  | [t] =>
    let known : Bool := (glyphs "bcdeEfFgGnosxX%").contains t
    match grouping with
    | some mark =>
      let fits := (glyphs "deEfFgG%").contains t || (mark = '_' && (glyphs "boxX").contains t)
      if !fits then
        if known || (32 < t && t < 128) then
          throw ("ValueError", "Cannot specify '" ++ String.singleton mark ++ "' with '" ++ typeShown t ++ "'.")
        else throw ("ValueError", "Cannot specify '" ++ String.singleton mark ++ "' with '" ++ typeShown t ++ "'.")
    | none => pure ()
    return { fill, align, sign, noNegativeZero, alternate, width, grouping, precision, type := some t }
  | _ =>
    throw ("ValueError", "Invalid format specifier '" ++ Glyphs.toString source ++ "' for object of type '" ++ kind ++ "'")

def unknownType {α : Type} (t : Nat) (kind : String) : Except Complaint α :=
  throw ("ValueError", "Unknown format code '" ++ typeShown t ++ "' for object of type '" ++ kind ++ "'")

/-- Puts a text into its room. -/
def Layout.placed (l : Layout) (usual : Char) (g : Glyphs) : Glyphs :=
  let fill := l.fill.getD 32
  let room := l.width - g.length
  match l.align.getD usual with
  | '<' => g ++ List.replicate room fill
  | '^' => List.replicate (room / 2) fill ++ g ++ List.replicate (room - room / 2) fill
  | _ => List.replicate room fill ++ g

/-- A text, laid out. -/
def layText (l : Layout) (g : Glyphs) : Except Complaint Glyphs := do
  match l.type with
  | none | some 115 => pure ()
  | some t => unknownType t "str"
  if let some s := l.sign then
    throw ("ValueError", (if s = ' ' then "Space" else "Sign") ++ " not allowed in string format specifier")
  if l.noNegativeZero then throw ("ValueError", "Negative zero coercion (z) not allowed in string format specifier")
  if l.alternate then throw ("ValueError", "Alternate form (#) not allowed in string format specifier")
  match l.grouping with
  | some mark => throw ("ValueError", "Cannot specify '" ++ String.singleton mark ++ "' with 's'.")
  | none => pure ()
  if l.align = some '=' then throw ("ValueError", "'=' alignment not allowed in string format specifier")
  let g := match l.precision with
    | some p => g.take p
    | none => g
  return l.placed '<' g

/-- Digits in groups, the last of which is full, and in as many places as there are to be at least. -/
def groupedDigits (mark : Char) (size : Nat) (least : Nat) (digits : List Char) : List Char :=
  let rec run (fuel : Nat) (room : Nat) (rest : List Char) (count : Nat) (done : List Char) : List Char :=
    match fuel with
    | 0 => done
    | fuel + 1 =>
      match rest with
      | [] =>
        if room = 0 then done
        else if count = size then (if room = 1 then '0' :: mark :: done else run fuel (room - 2) [] 1 ('0' :: mark :: done))
        else run fuel (room - 1) [] (count + 1) ('0' :: done)
      | d :: rest =>
        if count = size then run fuel (room - 2) rest 1 (d :: mark :: done) else run fuel (room - 1) rest (count + 1) (d :: done)
  run (digits.length + least + 2) least digits.reverse 0 []

/-- A number whose parts are known, laid out: what stands before the digits, the digits, and what stands behind them. -/
def Layout.number (l : Layout) (negative : Bool) (head whole tail : List Char) (groupSize : Nat) : Glyphs :=
  let sign := if negative then ['-'] else match l.sign with
    | some '+' => ['+']
    | some ' ' => [' ']
    | _ => []
  let start := sign ++ head
  let glyphsOf (cs : List Char) : Glyphs := cs.map Char.toNat
  let fillsWithZeros := l.fill = some 48 && l.align = some '='
  let whole := match l.grouping with
    | some mark => groupedDigits mark groupSize (if fillsWithZeros then l.width - start.length - tail.length else 0) whole
    | none => whole
  match l.align.getD '>' with
  | '=' =>
    let body := glyphsOf (whole ++ tail)
    let room := l.width - start.length - body.length
    glyphsOf start ++ List.replicate room (l.fill.getD 32) ++ body
  | _ => l.placed '>' (glyphsOf (start ++ whole ++ tail))

def upperCase (cs : List Char) : List Char := cs.map Char.toUpper

/-- A number that is not whole, laid out. -/
def layFloat (l : Layout) (kind : String) (x : Float) : Except Complaint Glyphs := do
  let t := (l.type.map Char.ofNat).getD ' '
  if !(ascii " eEfFgGn%").contains t then unknownType t.toNat kind
  if l.precision.any (· > 2147483647) then throw ("ValueError", "precision too big")
  let w := Wide.ofFloat (if t = '%' then x * 100 else x)
  let raw := match w with
    | .infinite _ => ascii "inf"
    | .undefined _ => ascii "nan"
    | .finite b =>
      let b := { b with negative := false }
      let p := l.precision
      match t with
      | 'e' | 'E' => b.scientific (p.getD 6) l.alternate 'e'
      | 'f' | 'F' | '%' => b.fixed (p.getD 6) l.alternate
      | 'g' | 'G' | 'n' => b.general (p.getD 6) l.alternate 'e'
      | _ =>
        match p with
        | none =>
          let s := shortest b
          if l.alternate && !s.contains '.' then s.takeWhile (· ≠ 'e') ++ '.' :: s.dropWhile (· ≠ 'e') else s
        | some p =>
          let p := max p 1
          let (_, e) := b.leading p
          if e < -4 || e ≥ p - 1 then
            let s := b.scientific (p - 1) false 'e'
            withoutZeros (s.takeWhile (· ≠ 'e')) ++ s.dropWhile (· ≠ 'e')
          else
            let s := withoutZeros (b.fixed ((p : Int) - 1 - e).toNat false)
            if s.contains '.' then s else s ++ ['.', '0']
  let isNumber := w matches .finite _
  let negative := match w with
    | .finite b => b.negative && !(l.noNegativeZero && raw.all fun c => c = '0' || c = '.' || c = 'e' || c = '+' || c = '-')
    | .infinite n => n
    | .undefined _ => false
  let raw := if t = 'E' || t = 'F' || t = 'G' then upperCase raw else raw
  let whole := if isNumber then raw.takeWhile Char.isDigit else raw
  let tail := (if isNumber then raw.dropWhile Char.isDigit else []) ++ (if t = '%' then ['%'] else [])
  let l := if isNumber then l else { l with grouping := none }
  return l.number negative [] whole tail 3
where
  withoutZeros (s : List Char) : List Char := Binary.withoutZeros s

/-- A whole number, laid out. -/
def layInteger (l : Layout) (kind : String) (n : Int) : Except Complaint Glyphs := do
  let t := (l.type.map Char.ofNat).getD 'd'
  if (ascii "eEfFgG%").contains t then
    let w := Wide.round double (Wide.ofInt n)
    if w matches .infinite _ then throw ("OverflowError", "int too large to convert to float")
    layFloat l kind w.toFloat
  else if !(ascii "bcdnoxX").contains t then unknownType t.toNat kind
  else
    if l.precision.isSome then throw ("ValueError", "Precision not allowed in integer format specifier")
    if l.noNegativeZero then throw ("ValueError", "Negative zero coercion (z) not allowed in integer format specifier")
    if t = 'c' then
      if l.sign.isSome then throw ("ValueError", "Sign not allowed with integer format specifier 'c'")
      if l.alternate then throw ("ValueError", "Alternate form (#) not allowed with integer format specifier 'c'")
      if n < 0 || n > 0x10FFFF then throw ("OverflowError", "%c arg not in range(0x110000)")
      return { l with align := some (l.align.getD '>') }.placed '>' [n.toNat]
    else
      let base := match t with
        | 'b' => 2
        | 'o' => 8
        | 'x' | 'X' => 16
        | _ => 10
      let digits := Octets.inBase base n.natAbs
      let digits := if t = 'X' then upperCase digits else digits
      let head := if l.alternate && base ≠ 10 then ['0', t] else []
      return l.number (n < 0) head digits [] (if base = 10 then 3 else 4)

end GrammarStudio.ObjectScript
