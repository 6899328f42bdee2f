import GrammarStudio.Instances
import GrammarStudio.Toml.Text

/-!
# Numbers, truth values and dates of TOML

What is not a text, an array or a table is one word of letters, digits and a few signs.  A date and a time of day may
also stand apart, with a space between them.

* `isInteger`, `isFloat`, `isMoment` — the words there are;
* `Scalar`, `scalar` — the word at the head of a text.

Numbers are only checked: whole ones fit 64 bits with a sign, and no other one rounds to infinity.
-/

namespace GrammarStudio.Toml

def isWordChar (c : Char) : Bool := c.isAlphanum || c == '+' || c == '-' || c == '_' || c == '.' || c == ':'

/-! ### Digits -/

/-- Digits of some base, with underscores between them, but neither at an end nor two in a row. -/
def digitsOf (isDigit : Char → Bool) : List Char → Option (List Char)
  | [] => none
  | c :: rest => if isDigit c then more [c] rest else none
where
  /-- Goes on behind a digit. -/
  more (done : List Char) : List Char → Option (List Char)
    | [] => some done.reverse
    | '_' :: c :: rest => if isDigit c then more (c :: done) rest else none
    | c :: rest => if isDigit c then more (c :: done) rest else none

def isHexDigit (c : Char) : Bool := (hexValue? c).isSome

/-- A sign, and what follows it. -/
def splitSign : List Char → Bool × List Char
  | '-' :: rest => (true, rest)
  | '+' :: rest => (false, rest)
  | word => (false, word)

/-- Decimal digits of a whole number: none is a leading zero. -/
def wholeDigits (word : List Char) : Option (List Char) :=
  match digitsOf Char.isDigit word with
  | some ['0'] => if word = ['0'] then some ['0'] else none
  | some ('0' :: _) => none
  | other => other

/-! ### Whole numbers -/

/-- A whole number in a base behind a mark. -/
def isBasedInteger (base : Nat) (isDigit : Char → Bool) (word : List Char) : Bool :=
  match digitsOf isDigit word with
  | some digits => (digits.foldl (fun n c => n * base + (hexValue? c).getD 0) 0) < 2 ^ 63
  | none => false

def isDecimalInteger (word : List Char) : Bool :=
  let (negative, rest) := splitSign word
  match wholeDigits rest with
  | some digits =>
    let n := Nat.ofDigitChars 10 digits 0
    if negative then n ≤ 2 ^ 63 else n < 2 ^ 63
  | none => false

/-- A whole number: decimal, or behind a mark hexadecimal, octal or binary. -/
def isInteger : List Char → Bool
  | '0' :: 'x' :: rest => isBasedInteger 16 isHexDigit rest
  | '0' :: 'o' :: rest => isBasedInteger 8 (fun c => '0' ≤ c && c ≤ '7') rest
  | '0' :: 'b' :: rest => isBasedInteger 2 (fun c => c == '0' || c == '1') rest
  | word => isDecimalInteger word

/-! ### Other numbers -/

/-- Is a number with these digits and this power of ten too large for a double?  It is when it is at least half way
from the greatest double to what would be the next. -/
def overflows (digits : List Char) (power : Int) : Bool :=
  let digits := digits.dropWhile (· == '0')
  let scale := (digits.length : Int) + power
  let n := Nat.ofDigitChars 10 digits 0
  let limit : Nat := 2 ^ 1024 - 2 ^ 970
  if n = 0 || scale < 300 then false
  else if scale > 400 then true
  else if 0 ≤ power then n * 10 ^ power.toNat ≥ limit
  else n ≥ limit * 10 ^ (-power).toNat

/-- The exponent behind its letter. -/
def exponent? (word : List Char) : Option Int := do
  let (negative, rest) := splitSign word
  let digits ← digitsOf Char.isDigit rest
  let n : Int := Nat.ofDigitChars 10 digits 0
  some (if negative then -n else n)

def isExponentMark (c : Char) : Bool := c == 'e' || c == 'E'

/-- A number with a fraction, an exponent or both.  A positive one must not be too large. -/
def isDecimalFloat (word : List Char) : Bool :=
  let (negative, rest) := splitSign word
  let mantissa := rest.takeWhile (!isExponentMark ·)
  let power? : Option (Option Int) :=
    match rest.dropWhile (!isExponentMark ·) with
    | [] => some none
    | _ :: tail => (exponent? tail).map some
  let fraction? : Option (Option (List Char)) :=
    match mantissa.dropWhile (· ≠ '.') with
    | [] => some none
    | _ :: tail => (digitsOf Char.isDigit tail).map some
  match wholeDigits (mantissa.takeWhile (· ≠ '.')), fraction?, power? with
  | some _, some none, some none => false
  | some whole, some fraction, some power =>
    let fraction := fraction.getD []
    negative || !overflows (whole ++ fraction) (power.getD 0 - fraction.length)
  | _, _, _ => false

def isFloat (word : List Char) : Bool :=
  let (_, rest) := splitSign word
  rest = ['i', 'n', 'f'] || rest = ['n', 'a', 'n'] || isDecimalFloat word

/-! ### Dates and times -/

/-- The number of so many digits, when it lies in a range. -/
def fieldIn (digits : List Char) (low high : Nat) : Bool :=
  digits.all Char.isDigit && low ≤ Nat.ofDigitChars 10 digits 0 && Nat.ofDigitChars 10 digits 0 ≤ high

def isLeapYear (year : Nat) : Bool := year % 4 == 0 && (year % 100 != 0 || year % 400 == 0)

/-- How many days a month has. -/
def monthLength (year : Nat) : Nat → Nat
  | 2 => if isLeapYear year then 29 else 28
  | 4 | 6 | 9 | 11 => 30
  | _ => 31

/-- A date; what follows it. -/
def date? : List Char → Option (List Char)
  | a :: b :: c :: d :: '-' :: e :: f :: '-' :: g :: h :: rest =>
    let year := Nat.ofDigitChars 10 [a, b, c, d] 0
    let month := Nat.ofDigitChars 10 [e, f] 0
    if fieldIn [a, b, c, d] 0 9999 && fieldIn [e, f] 1 12 && fieldIn [g, h] 1 (monthLength year month) then some rest
    else none
  | _ => none

/-- A time of day; what follows it. -/
def time? : List Char → Option (List Char)
  | a :: b :: ':' :: c :: d :: ':' :: e :: f :: rest =>
    if fieldIn [a, b] 0 23 && fieldIn [c, d] 0 59 && fieldIn [e, f] 0 60 then
      match rest with
      | '.' :: x :: more => if x.isDigit then some (more.dropWhile Char.isDigit) else some rest
      | _ => some rest
    else none
  | _ => none

/-- The distance of a time from Greenwich, or nothing. -/
def isOffset : List Char → Bool
  | [] => true
  | ['Z'] => true
  | ['z'] => true
  | [sign, a, b, ':', c, d] => (sign == '+' || sign == '-') && fieldIn [a, b] 0 23 && fieldIn [c, d] 0 59
  | _ => false

/-- A time of day with its offset, as it stands behind a date. -/
def isTimeWithOffset (word : List Char) : Bool := (time? word).any isOffset

/-- A date, a time, or a date with a time behind a letter. -/
def isMoment (word : List Char) : Bool :=
  match date? word with
  | some [] => true
  | some (c :: rest) => (c == 'T' || c == 't') && isTimeWithOffset rest
  | none => time? word == some []

/-- Does a time of day begin here? -/
def startsTime : List Char → Bool
  | a :: b :: ':' :: _ => a.isDigit && b.isDigit
  | _ => false

/-! ### Words -/

inductive Scalar where
  | plain
  | moment
  deriving DecidableEq, Repr

/-- The word at the head of a text, if it is one, and the rest.  A date may have its time behind a space. -/
def scalar (s : List Char) : Option (Scalar × List Char) :=
  let word := s.takeWhile isWordChar
  let rest := s.dropWhile isWordChar
  if word = "true".toList || word = "false".toList || isInteger word || isFloat word then some (.plain, rest)
  else if isMoment word then
    match rest with
    | ' ' :: later =>
      if date? word == some [] && startsTime later then
        if isTimeWithOffset (later.takeWhile isWordChar) then some (.moment, later.dropWhile isWordChar) else none
      else some (.moment, rest)
    | _ => some (.moment, rest)
  else none

example : scalar "1_000 #".toList = some (.plain, " #".toList) := by decide +kernel
example : scalar "1979-05-27 07:32:00Z,".toList = some (.moment, [',']) := by decide +kernel
example : scalar "1979-02-29".toList = none := by decide +kernel
example : scalar "1e999".toList = none := by decide +kernel

end GrammarStudio.Toml
