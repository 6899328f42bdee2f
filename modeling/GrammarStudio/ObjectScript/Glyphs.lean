import GrammarStudio.Machine.Octets

/-!
# Texts of a script

A script sees a text as the numbers of its characters.  Half characters can stand there too: they come from escapes in
the script, or stand for octets that are no text.

* `Glyphs` — texts;
* `Glyphs.encode`, `Glyphs.decode` — from texts to octets and back, in a coding, with a way to deal with what does not
  fit;
* `DecodeFault`, `EncodeFault` — where something does not fit.
-/

namespace GrammarStudio.ObjectScript

open Machine

abbrev Glyphs := List Nat

/-- The glyphs of a word of this library. -/
def glyphs (s : String) : Glyphs := s.toList.map Char.toNat

namespace Glyphs

def isHalf (n : Nat) : Bool := 0xD800 ≤ n && n ≤ 0xDFFF

/-- A text without half characters; such a one becomes a question mark. -/
def toString (g : Glyphs) : String := String.ofList (g.map fun n => if isHalf n then '?' else Char.ofNat n)

def ofOctets (o : Octets) : Glyphs := o.map Char.toNat

/-! ### Codings -/

inductive Coding where
  | utf8
  | ascii
  | latin
  /-- Units of 16 bits, the lower octet first or last. -/
  | wide (lowFirst : Bool)
  deriving DecidableEq, Repr

/-- The coding with a name, which is written in many ways. -/
def Coding.named? (name : String) : Option Coding :=
  match String.ofList ((name.toList.map Char.toLower).filter fun c => c ≠ '-' && c ≠ '_' && c ≠ ' ') with
  | "utf8" | "u8" | "utf" | "cp65001" => some .utf8
  | "ascii" | "usascii" | "646" => some .ascii
  | "latin1" | "latin" | "l1" | "iso88591" | "cp819" | "8859" => some .latin
  | "utf16le" => some (.wide true)
  | "utf16be" => some (.wide false)
  | _ => none

def Coding.name : Coding → String
  | .utf8 => "utf-8"
  | .ascii => "ascii"
  | .latin => "latin-1"
  | .wide true => "utf-16-le"
  | .wide false => "utf-16-be"

/-- The octets of one character. -/
def unit (n : Nat) : Octets :=
  let byte (n : Nat) : Char := Char.ofNat n
  if n < 0x80 then [byte n]
  else if n < 0x800 then [byte (0xC0 + n / 64), byte (0x80 + n % 64)]
  else if n < 0x10000 then [byte (0xE0 + n / 4096), byte (0x80 + n / 64 % 64), byte (0x80 + n % 64)]
  else [byte (0xF0 + n / 262144), byte (0x80 + n / 4096 % 64), byte (0x80 + n / 64 % 64), byte (0x80 + n % 64)]

/-- Characters that do not fit into a coding: where they begin, and where behind them the next begins. -/
structure EncodeFault where
  start : Nat
  stop : Nat
  reason : String

def pairOctets (lowFirst : Bool) (n : Nat) : Octets :=
  let low := Char.ofNat (n % 256)
  let high := Char.ofNat (n / 256)
  if lowFirst then [low, high] else [high, low]

/-- The octets of a character in a coding, if there are any. -/
def Coding.octets? (c : Coding) (n : Nat) : Option Octets :=
  match c with
  | .utf8 => if isHalf n then none else some (unit n)
  | .ascii => if n < 128 then some [Char.ofNat n] else none
  | .latin => if n < 256 then some [Char.ofNat n] else none
  | .wide lowFirst =>
    if isHalf n then none
    else if n < 0x10000 then some (pairOctets lowFirst n)
    else some (pairOctets lowFirst (0xD800 + (n - 0x10000) / 1024) ++ pairOctets lowFirst (0xDC00 + (n - 0x10000) % 1024))

def Coding.reason : Coding → String
  | .utf8 | .wide _ => "surrogates not allowed"
  | .ascii => "ordinal not in range(128)"
  | .latin => "ordinal not in range(256)"

def hexText (width n : Nat) : Octets := Octets.padLeftWith '0' width (Octets.inBase 16 n)

/-- How a character is spelled with a backslash. -/
def spelled (n : Nat) : Octets :=
  if n < 0x100 then ascii "\\x" ++ hexText 2 n
  else if n < 0x10000 then ascii "\\u" ++ hexText 4 n
  else ascii "\\U" ++ hexText 8 n

/-- What stands for a character that does not fit, if something does. -/
def instead? (handling : String) (n : Nat) : Option Octets :=
  match handling with
  | "ignore" => some []
  | "replace" => some ['?']
  | "backslashreplace" => some (spelled n)
  | "xmlcharrefreplace" => some (ascii "&#" ++ Octets.ofNat n ++ [';'])
  | "surrogateescape" => if 0xDC80 ≤ n && n ≤ 0xDCFF then some [Char.ofNat (n - 0xDC00)] else none
  | "surrogatepass" => if isHalf n then some (unit n) else none
  | _ => none

def encodeFrom (c : Coding) (handling : String) : (at_ : Nat) → (done : List Octets) → Glyphs → Except EncodeFault Octets
  | _, done, [] => .ok done.reverse.flatten
  | at_, done, n :: rest =>
    match c.octets? n with
    | some o => encodeFrom c handling (at_ + 1) (o :: done) rest
    | none =>
      match instead? handling n with
      | some o => encodeFrom c handling (at_ + 1) (o :: done) rest
      | none =>
        let more := (rest.takeWhile fun m => (c.octets? m).isNone).length
        .error { start := at_, stop := at_ + 1 + more, reason := c.reason }

def encode (c : Coding) (handling : String) (g : Glyphs) : Except EncodeFault Octets := encodeFrom c handling 0 [] g

/-- Octets that fit no character in a coding. -/
structure DecodeFault where
  start : Nat
  stop : Nat
  reason : String

/-- What is at the front of octets: a character with the number of its octets, or how many octets are wrong, and why. -/
def firstOf (c : Coding) (o : Octets) : Except (Nat × String) (Nat × Nat) :=
  match o with
  | [] => .error (0, "unexpected end of data")
  | lead :: rest =>
    let n := lead.toNat
    match c with
    | .latin => .ok (n, 1)
    | .ascii => if n < 128 then .ok (n, 1) else .error (1, "ordinal not in range(128)")
    | .wide lowFirst =>
      let value (a b : Char) : Nat := if lowFirst then a.toNat + 256 * b.toNat else 256 * a.toNat + b.toNat
      match rest with
      | [] => .error (1, "truncated data")
      | b :: rest =>
        let high := value lead b
        if 0xD800 ≤ high && high ≤ 0xDBFF then
          match rest with
          | x :: y :: _ =>
            let low := value x y
            if 0xDC00 ≤ low && low ≤ 0xDFFF then .ok (0x10000 + (high - 0xD800) * 1024 + (low - 0xDC00), 4)
            else .error (2, "illegal UTF-16 surrogate")
          | _ => .error (2 + rest.length, "unexpected end of data")
        else if isHalf high then .error (2, "illegal encoding")
        else .ok (high, 2)
    | .utf8 =>
      let tail (c : Char) : Bool := 0x80 ≤ c.toNat && c.toNat ≤ 0xBF
      let bits (c : Char) : Nat := c.toNat - 0x80
      let broken (count : Nat) : Except (Nat × String) (Nat × Nat) := .error (count, "invalid continuation byte")
      let cut (count : Nat) : Except (Nat × String) (Nat × Nat) := .error (count, "unexpected end of data")
      if n < 0x80 then .ok (n, 1)
      else if n < 0xC2 || n > 0xF4 then .error (1, "invalid start byte")
      else if n < 0xE0 then
        match rest with
        | a :: _ => if tail a then .ok ((n - 0xC0) * 64 + bits a, 2) else broken 1
        | [] => cut 1
      else
        let second (a : Char) : Bool :=
          tail a && !(n = 0xE0 && a.toNat < 0xA0) && !(n = 0xED && a.toNat > 0x9F) &&
            !(n = 0xF0 && a.toNat < 0x90) && !(n = 0xF4 && a.toNat > 0x8F)
        match rest with
        | [] => cut 1
        | a :: rest =>
          if !second a then broken 1
          else
            match rest with
            | [] => cut 2
            | b :: rest =>
              if !tail b then broken 2
              else if n < 0xF0 then .ok ((n - 0xE0) * 4096 + bits a * 64 + bits b, 3)
              else
                match rest with
                | [] => cut 3
                | d :: _ =>
                  if tail d then .ok ((n - 0xF0) * 262144 + bits a * 4096 + bits b * 64 + bits d, 4) else broken 3

/-- What stands for octets that fit no character, if something does. -/
def insteadOf? (handling : String) (o : Octets) : Option Glyphs :=
  match handling with
  | "ignore" => some []
  | "replace" => some [0xFFFD]
  | "surrogateescape" => if o.all (·.toNat ≥ 128) then some (o.map fun c => 0xDC00 + c.toNat) else none
  | "backslashreplace" => some (o.flatMap fun c => (ascii "\\x" ++ hexText 2 c.toNat).map Char.toNat)
  | _ => none

def decodeFrom (c : Coding) (handling : String) : (fuel : Nat) → (at_ : Nat) → (done : List Nat) → Octets →
    Except DecodeFault Glyphs
  | 0, _, done, _ => .ok done.reverse
  | _ + 1, _, done, [] => .ok done.reverse
  | fuel + 1, at_, done, o =>
    match firstOf c o with
    | .ok (n, length) => decodeFrom c handling fuel (at_ + length) (n :: done) (o.drop length)
    | .error (length, reason) =>
      match insteadOf? handling (o.take length) with
      | some g => decodeFrom c handling fuel (at_ + length) (g.reverse ++ done) (o.drop length)
      | none => .error { start := at_, stop := at_ + length, reason }

def decode (c : Coding) (handling : String) (o : Octets) : Except DecodeFault Glyphs :=
  decodeFrom c handling (o.length + 1) 0 [] o

/-- Octets as the system gives them: what is no text is kept as half characters. -/
def ofSystem (o : Octets) : Glyphs := (decode .utf8 "surrogateescape" o).toOption.getD []

/-- A text as the system gets it. -/
def toSystem (g : Glyphs) : Octets := (encode .utf8 "surrogateescape" g).toOption.getD (g.flatMap unit)

/-! ### Characters -/

def isSpace (n : Nat) : Bool :=
  (9 ≤ n && n ≤ 13) || (28 ≤ n && n ≤ 32) || n = 0x85 || n = 0xA0 || n = 0x1680 || (0x2000 ≤ n && n ≤ 0x200A) ||
    n = 0x2028 || n = 0x2029 || n = 0x202F || n = 0x205F || n = 0x3000

def isDigit (n : Nat) : Bool := 48 ≤ n && n ≤ 57

/-- Does a line end here? -/
def isLineEnd (n : Nat) : Bool := (10 ≤ n && n ≤ 13) || (28 ≤ n && n ≤ 30) || n = 0x85 || n = 0x2028 || n = 0x2029

/-- The place where a part first stands in a text, from a place on. -/
def find? (part : Glyphs) : (from_ : Nat) → Glyphs → Option Nat
  | at_, [] => if part.isEmpty then some at_ else none
  | at_, n :: rest => if part.isPrefixOf (n :: rest) then some at_ else find? part (at_ + 1) rest

def padLeft (width : Nat) (fill : Nat) (g : Glyphs) : Glyphs := List.replicate (width - g.length) fill ++ g

def padRight (width : Nat) (fill : Nat) (g : Glyphs) : Glyphs := g ++ List.replicate (width - g.length) fill

end Glyphs

end GrammarStudio.ObjectScript
