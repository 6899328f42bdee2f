import GrammarStudio.Instances

/-!
# Binary numbers

A number of binary arithmetic is a natural number times a power of two, with a sign.  All that is asked of it here is
answered with natural numbers, so that nothing is lost on the way.

* `Binary` — such a number; `Wide` — one that may also be infinite, or no number;
* `nearest` — the quotient of two natural numbers, rounded to so many binary places;
* `Wide.ofFloat`, `Wide.toFloat` — from and to the numbers of the machine;
* `Wide.read` — the number at the front of a text.
-/

namespace GrammarStudio.Number

/-- A natural number times a power of two, with a sign. -/
structure Binary where
  negative : Bool
  mantissa : Nat
  exponent : Int
  deriving DecidableEq, Repr, Inhabited

/-- A number, or what takes the place of one. -/
inductive Wide where
  | finite (b : Binary)
  | infinite (negative : Bool)
  | undefined (negative : Bool)
  deriving DecidableEq, Repr, Inhabited

/-- How numbers are held: with so many binary places, and the least and the greatest exponent of a mantissa that has
all of them. -/
structure Layout where
  places : Nat
  least : Int
  greatest : Int

def double : Layout := ⟨53, -1074, 971⟩

/-- The wider numbers that some programs reckon with. -/
def extended : Layout := ⟨64, -16445, 16320⟩

/-- A quotient rounded to the nearest natural number; of two that are as near, the even one. -/
def divideRound (n d : Nat) : Nat :=
  let q := n / d
  let r := n % d
  if 2 * r > d then q + 1
  else if 2 * r = d && q % 2 = 1 then q + 1
  else q

/-- The quotient of two natural numbers, rounded to the places of a layout. -/
def nearest (layout : Layout) (negative : Bool) (n d : Nat) : Wide :=
  if n = 0 then .finite ⟨negative, 0, 0⟩
  else
    -- an exponent for which the quotient has all places, or one more
    let guess : Int := (Nat.log2 n : Int) - (Nat.log2 d : Int) - (layout.places : Int)
    let quotient (e : Int) : Nat := if e ≥ 0 then divideRound n (d * 2 ^ e.toNat) else divideRound (n * 2 ^ (-e).toNat) d
    let floor (e : Int) : Nat := if e ≥ 0 then n / (d * 2 ^ e.toNat) else n * 2 ^ (-e).toNat / d
    let e := if floor guess ≥ 2 ^ layout.places then guess + 1 else guess
    let e := max e layout.least
    let m := quotient e
    let (m, e) := if m ≥ 2 ^ layout.places then (m / 2, e + 1) else (m, e)
    if e > layout.greatest then .infinite negative else .finite ⟨negative, m, e⟩

namespace Wide

def zero : Wide := .finite ⟨false, 0, 0⟩

def ofInt (n : Int) : Wide := .finite ⟨n < 0, n.natAbs, 0⟩

def negative : Wide → Bool
  | .finite b => b.negative
  | .infinite n => n
  | .undefined n => n

/-- A number of the machine, bit by bit. -/
def ofFloat (x : Float) : Wide :=
  let bits := x.toBits.toNat
  let negative := bits / 2 ^ 63 = 1
  let exponent : Nat := bits / 2 ^ 52 % 2048
  let fraction := bits % 2 ^ 52
  if exponent = 2047 then (if fraction = 0 then .infinite negative else .undefined negative)
  else if exponent = 0 then .finite ⟨negative, fraction, -1074⟩
  else .finite ⟨negative, fraction + 2 ^ 52, (exponent : Int) - 1075⟩

/-- Rounds to the places of a layout. -/
def round (layout : Layout) : Wide → Wide
  | .finite b =>
    if b.exponent ≥ 0 then nearest layout b.negative (b.mantissa * 2 ^ b.exponent.toNat) 1
    else nearest layout b.negative b.mantissa (2 ^ (-b.exponent).toNat)
  | other => other

def toFloat (w : Wide) : Float :=
  let sign := if w.negative then 2 ^ 63 else 0
  let bits := match w.round double with
    | .infinite _ => 2047 * 2 ^ 52
    | .undefined _ => 2047 * 2 ^ 52 + 2 ^ 51
    | .finite b =>
      if b.mantissa = 0 then 0
      else if b.mantissa < 2 ^ 52 then b.mantissa
      else (b.exponent + 1075).toNat * 2 ^ 52 + (b.mantissa - 2 ^ 52)
  Float.ofBits (UInt64.ofNat (sign + bits))

/-- The integer part, toward zero, of a number that has one. -/
def truncate? : Wide → Option Int
  | .finite b =>
    let n : Nat := if b.exponent ≥ 0 then b.mantissa * 2 ^ b.exponent.toNat else b.mantissa / 2 ^ (-b.exponent).toNat
    some (if b.negative then -(n : Int) else n)
  | _ => none

/-- Compares two numbers that are numbers. -/
def compare (a b : Binary) : Ordering :=
  let e := min a.exponent b.exponent
  let whole (x : Binary) : Int :=
    let n : Int := x.mantissa * 2 ^ (x.exponent - e).toNat
    if x.negative then -n else n
  Ord.compare (whole a) (whole b)

/-! ### Reading -/

private def digitOf (c : Char) : Nat :=
  if c.isDigit then c.toNat - 48 else if 'a' ≤ c && c ≤ 'f' then c.toNat - 87 else c.toNat - 55

private def isHexDigit (c : Char) : Bool := c.isDigit || ('a' ≤ c && c ≤ 'f') || ('A' ≤ c && c ≤ 'F')

/-- Digits with at most one point among them: their number without the point, how many there are, how many stand behind
the point, and the rest. -/
def readDigits (isDigit : Char → Bool) (base : Nat) (s : List Char) : Nat × Nat × Nat × List Char :=
  let front := s.takeWhile isDigit
  let rest := s.dropWhile isDigit
  let (back, rest) := match rest with
    | '.' :: more =>
      let back := more.takeWhile isDigit
      if front.isEmpty && back.isEmpty then ([], rest) else (back, more.dropWhile isDigit)
    | rest => ([], rest)
  ((front ++ back).foldl (fun n c => n * base + digitOf c) 0, front.length + back.length, back.length, rest)

/-- The exponent behind a mark, or nothing. -/
def readExponent (marks : List Char) (s : List Char) : Int × List Char :=
  match s with
  | c :: rest =>
    if !marks.contains c then (0, s)
    else
      let (negative, digits) := match rest with
        | '-' :: more => (true, more)
        | '+' :: more => (false, more)
        | more => (false, more)
      let own := digits.takeWhile Char.isDigit
      if own.isEmpty then (0, s)
      else
        let n := own.foldl (fun n c => n * 10 + digitOf c) 0
        (if negative then -(n : Int) else n, digits.dropWhile Char.isDigit)
  | [] => (0, s)

/-- A mantissa times a power, where an exponent that leads nowhere is not followed there. -/
def scaled (layout : Layout) (negative : Bool) (m digits : Nat) (base : Nat) (e : Int) : Wide :=
  if m = 0 then .finite ⟨negative, 0, 0⟩
  else if e > 6000 + 20000 / base then .infinite negative
  else if e + digits < -(6000 + 20000 / base : Int) then .finite ⟨negative, 0, 0⟩
  else if e ≥ 0 then nearest layout negative (m * base ^ e.toNat) 1
  else nearest layout negative m (base ^ (-e).toNat)

/-- Does a text begin with a word, however its letters are written? -/
def beginsWith (word : String) (s : List Char) : Bool := word.toList.isPrefixOf (s.map Char.toLower)

/-- The number at the front of a text that has no blanks before it, and what is behind the number. -/
def read (layout : Layout) (s : List Char) : Option (Wide × List Char) :=
  let (negative, body) := match s with
    | '-' :: rest => (true, rest)
    | '+' :: rest => (false, rest)
    | rest => (false, rest)
  if beginsWith "infinity" body then some (.infinite negative, body.drop 8)
  else if beginsWith "inf" body then some (.infinite negative, body.drop 3)
  else if beginsWith "nan" body then some (.undefined negative, body.drop 3)
  else
    match (if beginsWith "0x" body then readDigits isHexDigit 16 (body.drop 2) else (0, 0, 0, [])) with
    | (m, digits + 1, places, rest) =>
      let (e, rest) := readExponent ['p', 'P'] rest
      some (scaled layout negative m (4 * digits + 4) 2 (e - 4 * places), rest)
    | (_, 0, _, _) =>
      match readDigits Char.isDigit 10 body with
      | (_, 0, _, _) => none
      | (m, digits + 1, places, rest) =>
        let (e, rest) := readExponent ['e', 'E'] rest
        some (scaled layout negative m (digits + 1) 10 (e - places), rest)

end Wide

end GrammarStudio.Number
