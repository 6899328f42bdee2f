import GrammarStudio.Instances
import GrammarStudio.Text.Utf8

/-!
# Octets

The programs of a machine know bytes and no characters.  A byte is written here as the character of its number, so that
the ASCII part of a script reads as itself.

* `Octets` — a sequence of bytes, with the ways from and to texts and byte arrays;
* `Octets.lines`, `Octets.words`, `Octets.splitOn` — a sequence in pieces;
* `Octets.number?` — the number that octets write.
-/

namespace GrammarStudio.Machine

/-- A sequence of bytes, each as the character of its number. -/
abbrev Octets := List Char

namespace Octets

/-! ### From and to texts -/

def ofBytes (bytes : ByteArray) : Octets := bytes.toList.map fun b => Char.ofNat b.toNat

def ofText (text : String) : Octets := ofBytes text.toUTF8

def bytes (o : Octets) : ByteArray := ⟨(o.map fun c => UInt8.ofNat c.toNat).toArray⟩

/-- The text of octets, where what is no UTF-8 is read leniently. -/
def text (o : Octets) : String := Text.readLenient (bytes o)

def ofNat (n : Nat) : Octets := n.repr.toList

def ofInt (n : Int) : Octets := if n < 0 then '-' :: ofNat n.natAbs else ofNat n.natAbs

/-- The digits of a number in a base. -/
def inBase (base n : Nat) : Octets := Nat.toDigits base n

/-! ### Classes -/

/-- A blank, a tab or a line feed. -/
def isBlank (c : Char) : Bool := c == ' ' || c == '\t' || c == '\n'

/-- A space character of ASCII: the blanks, and the other characters that move without a mark. -/
def isSpace (c : Char) : Bool := c == ' ' || ('\t' ≤ c && c ≤ '\r')

def isOctal (c : Char) : Bool := '0' ≤ c && c ≤ '7'

def isHex (c : Char) : Bool := c.isDigit || ('a' ≤ c && c ≤ 'f') || ('A' ≤ c && c ≤ 'F')

/-- The value of a digit in any base up to 36. -/
def digitValue (c : Char) : Nat :=
  if c.isDigit then c.toNat - 48
  else if 'a' ≤ c && c ≤ 'z' then c.toNat - 87
  else if 'A' ≤ c && c ≤ 'Z' then c.toNat - 55
  else 99

/-- Is the octet a sign that can be printed, or a blank? -/
def isPrint (c : Char) : Bool := ' ' ≤ c && c ≤ '~'

/-! ### Pieces -/

/-- The octets, cut where `c` stands. -/
def splitOn (c : Char) (o : Octets) : List Octets :=
  o.foldr (fun x parts =>
    match parts with
    | [] => [[x]]
    | part :: others => if x = c then [] :: part :: others else (x :: part) :: others) [[]]

/-- The lines of octets, each with its line feed, which only the last may lack. -/
def lines (o : Octets) : List Octets :=
  o.foldr (fun x lines =>
    match lines with
    | [] => [[x]]
    | line :: others => if x = '\n' then ['\n'] :: line :: others else (x :: line) :: others) []

/-- A line without its line feed. -/
def chomp (line : Octets) : Octets :=
  match line.reverse with
  | '\n' :: rest => rest.reverse
  | _ => line

/-- The lines of octets without their line feeds. -/
def bareLines (o : Octets) : List Octets := (lines o).map chomp

/-- The pieces between characters of a kind; there are no empty ones. -/
def fieldsBy (isSeparator : Char → Bool) (o : Octets) : List Octets :=
  (o.foldr (fun x (parts : List Octets × Bool) =>
    if isSeparator x then (parts.1, false)
    else match parts with
      | (part :: others, true) => ((x :: part) :: others, true)
      | (others, _) => ([x] :: others, true)) ([], false)).1

/-- The words of octets: what stands between space characters. -/
def words (o : Octets) : List Octets := fieldsBy isSpace o

def trimLeft (o : Octets) : Octets := o.dropWhile isSpace

def trimRight (o : Octets) : Octets := (o.reverse.dropWhile isSpace).reverse

/-- Octets without what can be dropped at their end. -/
def dropEnd (drops : Char → Bool) (o : Octets) : Octets := (o.reverse.dropWhile drops).reverse

def upper (o : Octets) : Octets := o.map Char.toUpper

def lower (o : Octets) : Octets := o.map Char.toLower

/-- The place where a sequence first occurs in another. -/
def find? (part : Octets) : (from_ : Nat) → Octets → Option Nat
  | n, [] => if part.isEmpty then some n else none
  | n, c :: rest => if part.isPrefixOf (c :: rest) then some n else find? part (n + 1) rest

def padLeftWith (c : Char) (width : Nat) (o : Octets) : Octets := List.replicate (width - o.length) c ++ o

def padLeft (width : Nat) (o : Octets) : Octets := padLeftWith ' ' width o

def padRight (width : Nat) (o : Octets) : Octets := o ++ List.replicate (width - o.length) ' '

/-! ### Numbers -/

/-- The number of digits in a base. -/
def valueIn (base : Nat) (digits : Octets) : Nat := digits.foldl (fun n c => n * base + digitValue c) 0

/-- The natural number that octets write, when they are nothing but digits. -/
def nat? (o : Octets) : Option Nat := if !o.isEmpty && o.all Char.isDigit then some (valueIn 10 o) else none

/-- The decimal number that octets write, with a sign and blanks around it. -/
def number? (o : Octets) : Option Int :=
  let o := dropEnd isSpace (o.dropWhile isSpace)
  let (negative, digits) := match o with
    | '-' :: rest => (true, rest)
    | '+' :: rest => (false, rest)
    | rest => (false, rest)
  (nat? digits).map fun n => if negative then -(n : Int) else n

/-- An integer as 64 bits hold it: what is too large or too small becomes the last one on its side. -/
def clamp64 (n : Int) : Int := if n > 9223372036854775807 then 9223372036854775807
  else if n < -9223372036854775808 then -9223372036854775808 else n

/-- An integer modulo 64 bits, between the negative and the positive half. -/
def wrap64 (n : Int) : Int := Int.bmod n (2 ^ 64)

end Octets

/-- ASCII text as octets. -/
abbrev ascii (s : String) : Octets := s.toList

end GrammarStudio.Machine
