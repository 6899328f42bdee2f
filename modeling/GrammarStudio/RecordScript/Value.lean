import GrammarStudio.Format.Directive

/-!
# Values of a script for records

A value is a number or a text, and each can be used as the other.  A text that comes from outside, and not from the
script, counts as a number where it looks like one.

* `Value` — the values;
* `Value.toNumber`, `Value.toText`, `Value.holds` — a value as a number, as a text, as a condition;
* `Value.order` — which of two values comes first;
* `FormatFault` — why values cannot be written by a format;
* `write` — a format with its values, as far as it can be written.
-/

namespace GrammarStudio.RecordScript

open Machine Number Format

inductive Value where
  /-- Nothing was put here yet: zero, and the empty text. -/
  | unset
  | number (x : Float)
  | text (o : Octets)
  /-- A text from outside. -/
  | given (o : Octets)
  deriving Inhabited

/-! ### Numbers -/

/-- The number at the front of a text; zero where there is none. -/
def leadingNumber (o : Octets) : Float :=
  match Wide.read double (o.dropWhile Octets.isSpace) with
  | some (x, _) => x.toFloat
  | none => 0

/-- The number that a text writes, when it is nothing but a number between blanks. -/
def wholeNumber? (o : Octets) : Option Float :=
  let body := Octets.dropEnd Octets.isSpace (o.dropWhile Octets.isSpace)
  let begins (c : Char) : Bool := c.isDigit || c = '+' || c = '-' || c = '.'
  let ends (c : Char) : Bool := c.isDigit || c = '.'
  if body.head?.any begins && body.getLast?.any ends then
    match Wide.read double body with
    | some (x, []) => some x.toFloat
    | _ => none
  else none

/-- The integer part of a number, within 64 bits. -/
def integerPart (x : Float) : Int :=
  match Wide.ofFloat x with
  | .infinite negative => if negative then -9223372036854775808 else 9223372036854775807
  | w => Octets.clamp64 (w.truncate?.getD 0)

/-- The same where only what is not negative counts, in which case it may be twice as large. -/
def naturalPart (x : Float) : Int :=
  match Wide.ofFloat x with
  | .infinite negative => if negative then 0 else 18446744073709551615
  | w => min (w.truncate?.getD 0) 18446744073709551615

/-- A number as it is written: one that is none has a minus sign. -/
def wide (x : Float) : Wide := if x.isNaN then .undefined true else Wide.ofFloat x

/-- A number written with a format of its own. -/
def formatted (format : Octets) (x : Float) : Octets :=
  let before := format.takeWhile (· ≠ '%')
  match format.drop before.length with
  | '%' :: rest =>
    let (t, behind) := Format.Template.read rest
    match behind with
    | c :: behind =>
      let d := t.directive none none c
      before ++ (if (ascii "diouxX").contains c then d.signed (integerPart x) else d.floating (wide x)) ++ behind
    | [] => format
  | _ => format

/-- A number as a text: an integer with all its digits, and any other as the format says. -/
def numberText (format : Octets) (x : Float) : Octets :=
  match Wide.ofFloat x with
  | .finite b =>
    match (Wide.finite b).truncate? with
    | some n =>
      let isWhole := Wide.compare { b with negative := false } ⟨false, n.natAbs, 0⟩ == .eq
      if isWhole && -9223372036854775808 ≤ n && n ≤ 18446744073709551616 then Octets.ofInt (min n 18446744073709551615)
      else formatted format x
    | none => formatted format x
  | _ => formatted format x

/-- What is left when a number is divided by another as often as it can be; it has the sign of the first. -/
def remainder (x y : Float) : Float :=
  match Wide.ofFloat x, Wide.ofFloat y with
  | .finite a, .finite b =>
    if b.mantissa = 0 then (0.0 / 0.0 : Float)
    else
      let e := min a.exponent b.exponent
      let whole (c : Binary) : Nat := c.mantissa * 2 ^ (c.exponent - e).toNat
      (Wide.finite ⟨a.negative, whole a % whole b, e⟩).toFloat
  | .finite _, .infinite _ => x
  | _, _ => (0.0 / 0.0 : Float)

def truncated (x : Float) : Float := if x < 0 then x.ceil else x.floor

namespace Value

/-! ### Uses of a value -/

def toNumber : Value → Float
  | .unset => 0
  | .number x => x
  | .text o | .given o => leadingNumber o

/-- A value as a text, where numbers that are no integers are written with the format. -/
def toText (format : Octets) : Value → Octets
  | .unset => []
  | .number x => numberText format x
  | .text o | .given o => o

def holds : Value → Bool
  | .unset => false
  | .number x => x != 0
  | .text o => !o.isEmpty
  | .given o =>
    match wholeNumber? o with
    | some x => x != 0
    | none => !o.isEmpty

def ofBool (b : Bool) : Value := .number (if b then 1 else 0)

def ofNat (n : Nat) : Value := .number n.toFloat

def ofInt (n : Int) : Value := .number (Float.ofInt n)

/-- The number that a value is, if it is one. -/
def number? : Value → Option Float
  | .unset => some 0
  | .number x => some x
  | .text _ => none
  | .given o => wholeNumber? o

def orderOfNumbers (x y : Float) : Ordering := if x < y then .lt else if x > y then .gt else .eq

def orderOfTexts : Octets → Octets → Ordering
  | [], [] => .eq
  | [], _ :: _ => .lt
  | _ :: _, [] => .gt
  | c :: s, d :: t => if c < d then .lt else if d < c then .gt else orderOfTexts s t

/-- Two values compare as numbers if both are numbers, and otherwise as texts. -/
def order (format : Octets) (a b : Value) : Ordering :=
  match a.number?, b.number? with
  | some x, some y => orderOfNumbers x y
  | _, _ => orderOfTexts (a.toText format) (b.toText format)

end Value

/-! ### Values written by a format -/

inductive FormatFault where
  | tooFew
  /-- A directive, counted from one, that says nothing. -/
  | improper (number : Nat)
  deriving DecidableEq, Repr

/-- The fault of a format that a function was given. -/
def FormatFault.message (function : String) (format : Octets) : FormatFault → Octets
  | .tooFew => ascii "not enough arguments passed to " ++ ascii function ++ ascii "(\"" ++ format ++ ascii "\")"
  | .improper n =>
    ascii "improper conversion(number " ++ Octets.ofNat n ++ ascii ") in " ++ ascii function ++ ascii "(\"" ++ format ++ ascii "\")"

/-- One value, as a directive says. -/
def written? (conversionFormat : Octets) (d : Directive) (v : Value) : Option Octets :=
  match d.conversion with
  | 's' => some (d.text (v.toText conversionFormat))
  | 'c' =>
    let sign : Octets := match v with
      | .text o => [o.headD '\x00']
      | .given o =>
        match wholeNumber? o with
        | some x => [Char.ofNat (integerPart x % 256).toNat]
        | none => [o.headD '\x00']
      | v => [Char.ofNat (integerPart v.toNumber % 256).toNat]
    some (d.fill sign)
  | 'd' | 'i' => some (d.signed (integerPart v.toNumber))
  | 'o' | 'u' | 'x' | 'X' =>
    let x := v.toNumber
    some (d.unsigned (if x < 0 then integerPart x else naturalPart x))
  | 'e' | 'E' | 'f' | 'F' | 'g' | 'G' | 'a' | 'A' => some (d.floating (wide v.toNumber))
  | _ => none

/-- Writes values; gives what could be written, and what was wrong. -/
def writeOn (conversionFormat : Octets) :
    (fuel : Nat) → (count : Nat) → Octets → List Value → List Octets → Octets × Option FormatFault
  | 0, _, _, _, done => (done.reverse.flatten, none)
  | _ + 1, _, [], _, done => (done.reverse.flatten, none)
  | fuel + 1, count, '%' :: '%' :: rest, values, done => writeOn conversionFormat fuel (count + 1) rest values (['%'] :: done)
  | fuel + 1, count, '%' :: rest, values, done =>
    let (t, behind) := Template.read rest
    let size (s : Option Size) (values : List Value) : Option (Option Int × List Value) :=
      match s, values with
      | some .fromArgument, v :: values => some (some (integerPart v.toNumber), values)
      | some .fromArgument, [] => none
      | _, values => some (none, values)
    let stopped (f : FormatFault) : Octets × Option FormatFault := (done.reverse.flatten, some f)
    match size t.width values with
    | none => stopped .tooFew
    | some (width, values) =>
      match size t.precision values with
      | none => stopped .tooFew
      | some (precision, values) =>
        match behind.dropWhile fun c => c = 'h' || c = 'l' || c = 'L' with
        | [] => stopped (.improper (count + 1))
        | conversion :: behind =>
          let d := t.directive width precision conversion
          if !(ascii "sdciouxXeEfFgGaA").contains conversion then stopped (.improper (count + 1))
          else
            match values with
            | [] => stopped .tooFew
            | v :: values =>
              match written? conversionFormat d v with
              | some o => writeOn conversionFormat fuel (count + 1) behind values (o :: done)
              | none => stopped (.improper (count + 1))
  | fuel + 1, count, c :: rest, values, done =>
    let plain := (c :: rest).takeWhile (· ≠ '%')
    writeOn conversionFormat fuel count ((c :: rest).drop plain.length) values (plain :: done)

def write (conversionFormat format : Octets) (values : List Value) : Octets × Option FormatFault :=
  writeOn conversionFormat (format.length + 1) 0 format values []

end GrammarStudio.RecordScript
