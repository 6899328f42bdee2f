import GrammarStudio.Number.Binary

/-!
# Written numbers

* `fixed`, `scientific`, `general` — a number with so many places behind the point, with an exponent, or in the shorter
  of the two ways;
* `shortest` — the fewest digits that read back as the same number.

Digits are rounded to the nearest; where two are as near, to the even one.
-/

namespace GrammarStudio.Number

/-- The digits of a natural number. -/
def digits (n : Nat) : List Char := n.repr.toList

/-- The digits of a natural number, at least so many. -/
def paddedDigits (count n : Nat) : List Char :=
  let own := digits n
  List.replicate (count - own.length) '0' ++ own

namespace Binary

/-- The number without its sign as a quotient. -/
def quotient (b : Binary) : Nat × Nat :=
  if b.exponent ≥ 0 then (b.mantissa * 2 ^ b.exponent.toNat, 1) else (b.mantissa, 2 ^ (-b.exponent).toNat)

/-- With so many places behind the point; the point itself can be asked for where there is none. -/
def fixed (b : Binary) (places : Nat) (point : Bool) : List Char :=
  let (n, d) := b.quotient
  let all := paddedDigits (places + 1) (divideRound (n * 10 ^ places) d)
  let whole := all.take (all.length - places)
  whole ++ (if places = 0 then (if point then ['.'] else []) else '.' :: all.drop (all.length - places))

/-- The number times a power of ten, rounded. -/
def timesTen (b : Binary) (e : Int) : Nat :=
  let (n, d) := b.quotient
  if e ≥ 0 then divideRound (n * 10 ^ e.toNat) d else divideRound n (d * 10 ^ (-e).toNat)

/-- The exponent of the first digit, before any rounding. -/
def tens (b : Binary) : Int :=
  let (n, d) := b.quotient
  let atLeast (e : Int) : Bool := if e ≥ 0 then n ≥ d * 10 ^ e.toNat else n * 10 ^ (-e).toNat ≥ d
  -- the number of decimal digits of a quotient is that of its parts, but for one
  let guess : Int := (digits n).length - (digits d).length
  if atLeast guess then guess else guess - 1

/-- The first digits, so many of them, and the exponent of the first one. -/
def leading (b : Binary) (count : Nat) : Nat × Int :=
  if b.mantissa = 0 then (0, 0)
  else
    let e := b.tens
    let m := b.timesTen ((count : Int) - 1 - e)
    if m ≥ 10 ^ count then (m / 10, e + 1) else (m, e)

/-- An exponent, with a sign and at least two digits. -/
def exponentText (mark : Char) (e : Int) : List Char :=
  mark :: (if e < 0 then '-' else '+') :: paddedDigits 2 e.natAbs

/-- With one digit before the point, so many behind it, and an exponent. -/
def scientific (b : Binary) (places : Nat) (point : Bool) (mark : Char) : List Char :=
  let (m, e) := b.leading (places + 1)
  let all := paddedDigits (places + 1) m
  all.take 1 ++ (if places = 0 then (if point then ['.'] else []) else '.' :: all.drop 1) ++ exponentText mark e

/-- Without zeros at the end of what is behind the point. -/
def withoutZeros (s : List Char) : List Char :=
  if s.contains '.' then
    let back := s.reverse.dropWhile (· == '0')
    (match back with
    | '.' :: rest => rest
    | back => back).reverse
  else s

/-- So many digits, with an exponent only where there would be many zeros. -/
def general (b : Binary) (count : Nat) (keepsZeros : Bool) (mark : Char) : List Char :=
  let count := max count 1
  let (_, e) := b.leading count
  if e < -4 || e ≥ count then
    let s := b.scientific (count - 1) keepsZeros mark
    if keepsZeros then s
    else withoutZeros (s.takeWhile (· ≠ mark)) ++ s.dropWhile (· ≠ mark)
  else
    let s := b.fixed ((count : Int) - 1 - e).toNat keepsZeros
    if keepsZeros then s else withoutZeros s

/-- With hexadecimal digits and an exponent of two. -/
def hexadecimal (b : Binary) : List Char :=
  if b.mantissa = 0 then "0x0p+0".toList
  else
    -- the first digit is one, and the others are the bits behind it
    let bits := Nat.log2 b.mantissa
    let fraction := b.mantissa - 2 ^ bits
    let width := (bits + 3) / 4
    let body := ((Nat.toDigits 16 (fraction * 2 ^ (width * 4 - bits))).reverse ++ List.replicate width '0').take width |>.reverse
    let body := (body.reverse.dropWhile (· == '0')).reverse
    let e := b.exponent + bits
    "0x1".toList ++ (if body.isEmpty then [] else '.' :: body) ++ ['p', if e < 0 then '-' else '+'] ++ digits e.natAbs

/-- The fewest digits that read back as the number of the machine that this is, the nearest of those, and the exponent
of the first one. -/
def shortestFrom (b : Binary) : (tries : Nat) → (count : Nat) → Nat × Int
  | 0, count => b.leading count
  | tries + 1, count =>
    let e := b.tens
    let (n, d) := b.quotient
    let shift : Int := (count : Int) - 1 - e
    let below := if shift ≥ 0 then n * 10 ^ shift.toNat / d else n / (d * 10 ^ (-shift).toNat)
    let reads (m : Nat) : Bool :=
      let back := if shift ≥ 0 then nearest double false m (10 ^ shift.toNat) else nearest double false (m * 10 ^ (-shift).toNat) 1
      match back with
      | .finite x => Wide.compare x { b with negative := false } == .eq
      | _ => false
    let near := b.timesTen shift
    let far := if near = below then below + 1 else below
    let carried (m : Nat) : Nat × Int := if m ≥ 10 ^ count then (m / 10, e + 1) else (m, e)
    if reads near then carried near
    else if reads far then carried far
    else shortestFrom b tries (count + 1)

/-- The fewest digits that read back, and the exponent of the first. -/
def shortestDigits (b : Binary) : List Char × Int :=
  if b.mantissa = 0 then (['0'], 0)
  else
    let (m, e) := b.shortestFrom 17 1
    let all := digits m
    let short := (all.reverse.dropWhile (· == '0')).reverse
    (short, e)

end Binary

namespace Wide

/-- A number in one of the ways above, with a sign where it is negative. -/
def written (finite : Binary → List Char) (w : Wide) : List Char :=
  let body := match w with
    | .finite b => finite b
    | .infinite _ => "inf".toList
    | .undefined _ => "nan".toList
  if w.negative then '-' :: body else body

end Wide

end GrammarStudio.Number
