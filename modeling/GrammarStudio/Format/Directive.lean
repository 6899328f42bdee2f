import GrammarStudio.Machine.Octets
import GrammarStudio.Number.Written

/-!
# Directives

A directive says how one value is written: in which width, with how many places, with which signs.

* `Directive` — a directive, with a way for each kind of value;
* `Template` — a directive as it stands in a format, where sizes may be left to the arguments.
-/

namespace GrammarStudio.Format

open Machine Number

/-- How a value is to be written. -/
structure Directive where
  flags : List Char
  width : Nat
  precision : Option Nat
  conversion : Char

namespace Directive

def has (d : Directive) (flag : Char) : Bool := d.flags.contains flag

/-- Octets, filled up to the width with blanks. -/
def fill (d : Directive) (o : Octets) : Octets := if d.has '-' then Octets.padRight d.width o else Octets.padLeft d.width o

/-- A text, cut to the precision. -/
def text (d : Directive) (o : Octets) : Octets :=
  d.fill (match d.precision with
    | some n => o.take n
    | none => o)

/-- What stands before a number that has this sign. -/
def sign (d : Directive) (negative : Bool) : Octets :=
  if negative then ['-'] else if d.has '+' then ['+'] else if d.has ' ' then [' '] else []

/-- A number with its digits and what goes before them. -/
def numeral (d : Directive) (head digits : Octets) : Octets :=
  match d.precision with
  | some n => d.fill (head ++ Octets.padLeftWith '0' n digits)
  | none =>
    if d.has '0' && !d.has '-' then head ++ Octets.padLeftWith '0' (d.width - head.length) digits
    else d.fill (head ++ digits)

/-- The digits of a number; none for a zero that needs none. -/
def digits (d : Directive) (base n : Nat) : Octets := if n = 0 && d.precision == some 0 then [] else Octets.inBase base n

def signed (d : Directive) (n : Int) : Octets := d.numeral (d.sign (n < 0)) (d.digits 10 n.natAbs)

/-- A number without a sign, in the base of the conversion. -/
def natural (d : Directive) (n : Nat) : Octets :=
  let marked := d.has '#' && n ≠ 0
  match d.conversion with
  | 'o' =>
    let own := d.digits 8 n
    d.numeral [] (if d.has '#' && own.head? ≠ some '0' then '0' :: own else own)
  | 'x' => d.numeral (if marked then ['0', 'x'] else []) (d.digits 16 n)
  | 'X' => d.numeral (if marked then ['0', 'X'] else []) (Octets.upper (d.digits 16 n))
  | _ => d.numeral [] (d.digits 10 n)

/-- A number without a sign; a negative one counts from the end of 64 bits. -/
def unsigned (d : Directive) (n : Int) : Octets := d.natural (n % 2 ^ 64).toNat

/-- A number that may have a fraction. -/
def floating (d : Directive) (w : Wide) : Octets :=
  let places := d.precision.getD 6
  let body (b : Binary) : Octets :=
    match d.conversion with
    | 'f' | 'F' => b.fixed places (d.has '#')
    | 'e' | 'E' => b.scientific places (d.has '#') 'e'
    | 'a' | 'A' => b.hexadecimal
    | _ => b.general places (d.has '#') 'e'
  let (own, isNumber) : Octets × Bool := match w with
    | .finite b => (body b, true)
    | .infinite _ => (ascii "inf", false)
    | .undefined _ => (ascii "nan", false)
  let own := if d.conversion.isUpper then Octets.upper own else own
  let head := d.sign w.negative
  if isNumber && d.has '0' && !d.has '-' then head ++ Octets.padLeftWith '0' (d.width - head.length) own
  else d.fill (head ++ own)

end Directive

/-- A width or a precision. -/
inductive Size where
  | given (n : Nat)
  | fromArgument
  deriving DecidableEq, Repr

/-- A directive in a format, up to its conversion. -/
structure Template where
  flags : List Char
  width : Option Size
  /-- Nothing behind the point counts as zero. -/
  precision : Option Size
  /-- All that was read. -/
  source : Octets
  deriving Repr

namespace Template

def isFlag (c : Char) : Bool := (ascii "#-+ 0").contains c

def readSize (s : Octets) : Option Size × Octets :=
  match s with
  | '*' :: rest => (some .fromArgument, rest)
  | s =>
    let digits := s.takeWhile Char.isDigit
    (if digits.isEmpty then none else some (.given (Octets.valueIn 10 digits)), s.drop digits.length)

/-- Reads what stands behind a percent sign, up to the conversion. -/
def read (s : Octets) : Template × Octets :=
  let flags := s.takeWhile isFlag
  let (width, rest) := readSize (s.drop flags.length)
  let (precision, rest) := match rest with
    | '.' :: rest =>
      let (size, rest) := readSize rest
      (some (size.getD (.given 0)), rest)
    | rest => (none, rest)
  ({ flags, width, precision, source := s.take (s.length - rest.length) }, rest)

/-- The directive, when the sizes of the arguments are known. -/
def directive (t : Template) (width precision : Option Int) (conversion : Char) : Directive :=
  let width : Int := match t.width with
    | some (.given n) => n
    | some .fromArgument => width.getD 0
    | none => 0
  let flags := if width < 0 then '-' :: t.flags else t.flags
  { flags, width := width.natAbs, conversion
    precision := match t.precision with
      | some (.given n) => some n
      | some .fromArgument => precision.bind fun n => if n < 0 then none else some n.toNat
      | none => none }

end Template

/-! ### Escapes -/

/-- The letters of escapes, and what they stand for. -/
def escapeLetters : List (Char × Char) :=
  [('\\', '\\'), ('a', '\x07'), ('b', '\x08'), ('f', '\x0c'), ('n', '\n'), ('r', '\r'), ('t', '\t'), ('v', '\x0b')]

/-- Which escapes there are. -/
structure Escapes where
  /-- The letters for the escape character. -/
  escapeMarks : List Char := []
  hexadecimal : Bool := false
  unicode : Bool := false
  /-- Octal digits need a zero before them. -/
  zeroOnly : Bool := false
  /-- Octal digits may have a zero before them. -/
  zeroToo : Bool := false
  /-- Quotes may have a backslash. -/
  quotes : Bool := false
  /-- A letter that ends all output. -/
  stops : Bool := true

/-- What is behind a backslash: what it stands for, and what is left; nothing when it ends all output. -/
def Escapes.one (e : Escapes) (s : Octets) : Option (Octets × Octets) :=
  let number (base most : Nat) (s : Octets) (plain : Octets) (make : Nat → Octets) : Octets × Octets :=
    let digits := (s.take most).takeWhile fun c => Octets.digitValue c < base
    if digits.isEmpty then (plain, s) else (make (Octets.valueIn base digits), s.drop digits.length)
  let byte (n : Nat) : Octets := [Char.ofNat (n % 256)]
  match s with
  | [] => some (['\\'], [])
  | c :: rest =>
    if c = 'c' && e.stops then none
    else
      match escapeLetters.lookup c with
      | some meaning => some ([meaning], rest)
      | none =>
        if e.escapeMarks.contains c then some (['\x1b'], rest)
        else if c = 'x' && e.hexadecimal then some (number 16 2 rest ['\\', 'x'] byte)
        else if c = 'u' && e.unicode then some (number 16 4 rest ['\\', 'u'] fun n => Octets.ofText (String.singleton (Char.ofNat n)))
        else if c = 'U' && e.unicode then some (number 16 8 rest ['\\', 'U'] fun n => Octets.ofText (String.singleton (Char.ofNat n)))
        else if (c = '"' || c = '\'' || c = '?') && e.quotes then some ([c], rest)
        else if c = '0' && (e.zeroToo || e.zeroOnly) then
          let digits := (rest.take 3).takeWhile Octets.isOctal
          some (byte (Octets.valueIn 8 digits), rest.drop digits.length)
        else if Octets.isOctal c && !e.zeroOnly then some (number 8 3 s [] byte)
        else some (['\\', c], rest)

/-- Octets with their escapes put in, and whether an escape ended all output. -/
def Escapes.all (e : Escapes) : (fuel : Nat) → Octets → Octets × Bool
  | 0, o => (o, false)
  | _ + 1, [] => ([], false)
  | fuel + 1, '\\' :: rest =>
    match e.one rest with
    | none => ([], true)
    | some (o, rest) =>
      let (more, ended) := e.all fuel rest
      (o ++ more, ended)
  | fuel + 1, c :: rest =>
    let (more, ended) := e.all fuel rest
    (c :: more, ended)

def Escapes.unescape (e : Escapes) (o : Octets) : Octets × Bool := e.all (o.length + 1) o

/-! ### Numbers as arguments -/

/-- A whole number at the front of an argument — decimal, octal behind a zero, hexadecimal behind a mark — and what is
behind it.  Nothing is read where there are no digits. -/
def readInteger (o : Octets) : Option (Int × Octets) :=
  let o := o.dropWhile Octets.isSpace
  let (negative, s) := match o with
    | '-' :: rest => (true, rest)
    | '+' :: rest => (false, rest)
    | rest => (false, rest)
  let signed (n : Nat) : Int := if negative then -(n : Int) else n
  let inBase (base : Nat) (isDigit : Char → Bool) (s : Octets) : Option (Int × Octets) :=
    let digits := s.takeWhile isDigit
    if digits.isEmpty then none else some (signed (Octets.valueIn base digits), s.drop digits.length)
  match s with
  | '0' :: x :: c :: rest =>
    if (x = 'x' || x = 'X') && Octets.isHex c then inBase 16 Octets.isHex (c :: rest) else inBase 8 Octets.isOctal s
  | '0' :: _ => inBase 8 Octets.isOctal s
  | s => inBase 10 Char.isDigit s

end GrammarStudio.Format
