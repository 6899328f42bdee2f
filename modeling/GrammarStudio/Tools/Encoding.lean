import GrammarStudio.Tools.Input

/-!
# Octets written with few signs

* `Alphabet` — signs that each stand for so many bits;
* `Alphabet.encode`, `Alphabet.decode` — octets as signs, and back;
* `encodingTool` — the tool for one alphabet.
-/

namespace GrammarStudio.Tools

open Machine Files

/-- The signs of an encoding.  Each stands for `bits` bits, and a whole group of signs for whole octets. -/
structure Alphabet where
  signs : List Char
  bits : Nat
  group : Nat

def sixtyFour : Alphabet :=
  ⟨ascii "ABCDEFGHIJKLMNOPQRSTUVWXYZabcdefghijklmnopqrstuvwxyz0123456789+/", 6, 4⟩

def thirtyTwo : Alphabet := ⟨ascii "ABCDEFGHIJKLMNOPQRSTUVWXYZ234567", 5, 8⟩

namespace Alphabet

/-- The octets that a whole group stands for. -/
def octets (a : Alphabet) : Nat := a.group * a.bits / 8

/-- Digits of a number, so many of them, in a base that is a power of two. -/
def digits (bits : Nat) : (count : Nat) → Nat → List Nat
  | 0, _ => []
  | n + 1, value => digits bits n (value / 2 ^ bits) ++ [value % 2 ^ bits]

/-- The signs of at most a group of octets. -/
def encodeGroup (a : Alphabet) (o : Octets) : Octets :=
  let value := o.foldl (fun v c => v * 256 + c.toNat) 0 * 256 ^ (a.octets - o.length)
  let used := (o.length * 8 + a.bits - 1) / a.bits
  ((digits a.bits a.group value).map fun d => a.signs.getD d '=').take used ++ List.replicate (a.group - used) '='

def encode (a : Alphabet) : (fuel : Nat) → Octets → Octets
  | 0, _ => []
  | fuel + 1, o => if o.isEmpty then [] else a.encodeGroup (o.take a.octets) ++ encode a fuel (o.drop a.octets)

/-- The octets of a group of signs, which may be filled up; nothing when it is no group. -/
def decodeGroup (a : Alphabet) (o : Octets) : Option Octets :=
  let used := o.takeWhile (· ≠ '=')
  let filled := o.drop used.length
  let count := used.length * a.bits / 8
  if o.length = a.group && filled.all (· = '=') && (count * 8 + a.bits - 1) / a.bits = used.length && count > 0 then do
    let values ← used.mapM fun c => a.signs.idxOf? c
    let value := values.foldl (fun v d => v * 2 ^ a.bits + d) 0 * 2 ^ (a.bits * filled.length)
    return ((digits 8 a.octets value).take count).map Char.ofNat
  else none

/-- The octets of signs, and whether all signs could be read.  An incomplete group at the end gives the octets that
it has whole. -/
def decode (a : Alphabet) : (fuel : Nat) → Octets → Octets × Bool
  | 0, _ => ([], true)
  | fuel + 1, o =>
    if o.isEmpty then ([], true)
    else
      match a.decodeGroup (o.take a.group) with
      | some found =>
        let (more, whole) := decode a fuel (o.drop a.group)
        (found ++ more, whole)
      | none =>
        let readable := (o.take a.group).takeWhile a.signs.contains
        let value := readable.foldl (fun v c => v * 2 ^ a.bits + (a.signs.idxOf? c).getD 0) 0
        let count := readable.length * a.bits / 8
        let found := ((digits 8 a.octets (value * 2 ^ (a.bits * (a.group - readable.length)))).take count).map Char.ofNat
        (found, false)

end Alphabet

/-- Cuts signs into lines. -/
def wrapped (width : Nat) : (fuel : Nat) → Octets → Octets
  | 0, o => o
  | fuel + 1, o =>
    if o.isEmpty then [] else if width = 0 then o else o.take width ++ '\n' :: wrapped width fuel (o.drop width)

def encodingTool (a : Alphabet) (args : List Octets) : Tool Unit := do
  let (given, operands) ← options ["d|decode", "i|ignore-garbage", "w|wrap="] args
  atMost 1 operands
  let width ← (match given.value? "w" with
    | none => pure 76
    | some o =>
      match Amount.read false o with
      | .number n => pure n
      | .tooLarge => pure 0
      | .none => giveUp (ascii "invalid wrap size: " ++ quoted o) : Tool Nat)
  withInput nameAndReason (operands.head?.getD ['-']) fun d => do
    match ← content d with
    | .error fault => giveUp (ascii "read error: " ++ reason fault)
    | .ok o =>
      if given.has "d" then
        let o := o.filter fun c => c ≠ '\n' && (!given.has "i" || a.signs.contains c || c = '=')
        let (found, whole) := a.decode (o.length + 1) o
        say found
        if !whole then giveUp (ascii "invalid input")
      else
        let signs := a.encode (o.length + 1) o
        say (wrapped width (signs.length + 1) signs)

end GrammarStudio.Tools
