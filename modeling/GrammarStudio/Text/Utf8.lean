/-!
# Reading bytes as text

Two readings of a byte sequence as UTF-8.  The strict one is core's `String.fromUTF8?`: it refuses anything that is
not well formed.  The lenient one, for text that is only shown to a person, writes one replacement character for
each maximal ill-formed prefix of a sequence and goes on behind it.

* `tailRange` — which second bytes a leading byte admits, and how many bytes its sequence has;
* `firstScalar` — the first character of a byte sequence, or how many bytes are lost;
* `readLenient` — the lenient reading.
-/

namespace GrammarStudio.Text

/-- The character that stands for an ill-formed sequence. -/
def replacement : Char := '\uFFFD'

/-- A continuation byte. -/
def isTail (b : UInt8) : Bool := 0x80 ≤ b && b ≤ 0xBF

/-- For a leading byte of a longer sequence: how many bytes follow it, and the least and greatest second byte.  The
narrowed second ranges keep out overlong forms, surrogates and numbers past the last code point. -/
def tailRange (lead : UInt8) : Option (Nat × UInt8 × UInt8) :=
  if 0xC2 ≤ lead && lead ≤ 0xDF then some (1, 0x80, 0xBF)
  else if lead == 0xE0 then some (2, 0xA0, 0xBF)
  else if lead == 0xED then some (2, 0x80, 0x9F)
  else if 0xE1 ≤ lead && lead ≤ 0xEF then some (2, 0x80, 0xBF)
  else if lead == 0xF0 then some (3, 0x90, 0xBF)
  else if 0xF1 ≤ lead && lead ≤ 0xF3 then some (3, 0x80, 0xBF)
  else if lead == 0xF4 then some (3, 0x80, 0x8F)
  else none

/-- The bits that a leading byte gives to its character, by the number of bytes that follow. -/
def leadBits (lead : UInt8) : Nat → Nat
  | 1 => lead.toNat % 32
  | 2 => lead.toNat % 16
  | _ => lead.toNat % 8

/-- Takes up to `n` continuation bytes: the number grown by six bits for each, how many were there, and whether all
of them were. -/
def takeTails : Nat → Nat → List UInt8 → Nat × Nat × Bool
  | 0, value, _ => (value, 0, true)
  | n + 1, value, b :: rest =>
    if isTail b then
      let (v, k, whole) := takeTails n (value * 64 + b.toNat % 64) rest
      (v, k + 1, whole)
    else (value, 0, false)
  | _ + 1, value, [] => (value, 0, false)

/-- The character at the head of `lead :: rest`, if there is a whole one, and the number of bytes of `rest` that
belong to it, or to the ill-formed prefix that stands in its place. -/
def firstScalar (lead : UInt8) (rest : List UInt8) : Option Char × Nat :=
  if lead < 0x80 then (some (Char.ofNat lead.toNat), 0)
  else
    match tailRange lead, rest with
    | some (n + 1, low, high), second :: others =>
      if low ≤ second && second ≤ high then
        let (v, k, whole) := takeTails n (leadBits lead (n + 1) * 64 + second.toNat % 64) others
        (if whole then some (Char.ofNat v) else none, k + 1)
      else (none, 0)
    | _, _ => (none, 0)

/-- The lenient reading, behind the characters read so far, last first. -/
def readLenientFrom (done : List Char) : List UInt8 → List Char
  | [] => done.reverse
  | lead :: rest =>
    let (c, k) := firstScalar lead rest
    readLenientFrom (c.getD replacement :: done) (rest.drop k)
  termination_by bytes => bytes.length
  decreasing_by simp only [List.length_drop, List.length_cons]; omega

/-- The text of a byte sequence, with one replacement character for each maximal ill-formed prefix. -/
def readLenient (bytes : ByteArray) : String := String.ofList (readLenientFrom [] bytes.toList)

end GrammarStudio.Text
