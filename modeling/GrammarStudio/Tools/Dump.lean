import GrammarStudio.Number.Written
import GrammarStudio.Tools.Input

/-!
# Octets as numbers

* `Form` — how a few octets are written;
* `Dump`, `Dump.lines` — the lines of a whole file;
* `odTool` — the tool.
-/

namespace GrammarStudio.Tools

open Machine Files Number

/-- How octets are written: as numbers of some size in a base, or as signs. -/
inductive Form where
  | octal (size : Nat)
  | hexadecimal (size : Nat)
  | signed (size : Nat)
  | unsigned (size : Nat)
  | floating (size : Nat)
  | character
  | named
  deriving DecidableEq, Repr

namespace Form

def size : Form → Nat
  | octal n | hexadecimal n | signed n | unsigned n | floating n => n
  | character | named => 1

/-- The most signs that a value takes. -/
def width : Form → Nat
  | octal 1 => 3
  | octal 2 => 6
  | octal 4 => 11
  | octal _ => 22
  | hexadecimal n => 2 * n
  | signed 1 => 4
  | signed 2 => 6
  | signed 4 => 11
  | signed _ => 20
  | unsigned 1 => 3
  | unsigned 2 => 5
  | unsigned 4 => 10
  | unsigned _ => 20
  | floating 4 => 15
  | floating _ => 24
  | character | named => 3

/-- Names of octets that cannot be printed. -/
def names : List String :=
  ["nul", "soh", "stx", "etx", "eot", "enq", "ack", "bel", "bs", "ht", "nl", "vt", "ff", "cr", "so", "si", "dle", "dc1",
    "dc2", "dc3", "dc4", "nak", "syn", "etb", "can", "em", "sub", "esc", "fs", "gs", "rs", "us", "sp"]

def sign (c : Char) : Octets :=
  match c with
  | '\x00' => ascii "\\0"
  | '\x07' => ascii "\\a"
  | '\x08' => ascii "\\b"
  | '\x0c' => ascii "\\f"
  | '\n' => ascii "\\n"
  | '\r' => ascii "\\r"
  | '\t' => ascii "\\t"
  | '\x0b' => ascii "\\v"
  | c => if Octets.isPrint c then [c] else Octets.padLeftWith '0' 3 (Octets.inBase 8 c.toNat)

/-- A binary number from its bits: one for the sign, some for the exponent, the others for the digits behind the
first. -/
def floatOfBits (exponentBits fractionBits bits : Nat) : Wide :=
  let negative := bits / 2 ^ (exponentBits + fractionBits) % 2 = 1
  let exponent := bits / 2 ^ fractionBits % 2 ^ exponentBits
  let fraction := bits % 2 ^ fractionBits
  let bias : Int := 2 ^ (exponentBits - 1) - 1 + fractionBits
  if exponent = 2 ^ exponentBits - 1 then (if fraction = 0 then .infinite negative else .undefined negative)
  else if exponent = 0 then .finite ⟨negative, fraction, 1 - bias⟩
  else .finite ⟨negative, fraction + 2 ^ fractionBits, exponent - bias⟩

/-- The text of a value; the lowest octet comes first. -/
def text (f : Form) (o : Octets) : Octets :=
  let value := o.reverse.foldl (fun v c => v * 256 + c.toNat) 0
  match f with
  | octal n => Octets.padLeftWith '0' (octal n).width (Octets.inBase 8 value)
  | hexadecimal n => Octets.padLeftWith '0' (2 * n) (Octets.inBase 16 value)
  | unsigned _ => Octets.ofNat value
  | signed n => Octets.ofInt (if value ≥ 2 ^ (8 * n - 1) then (value : Int) - 2 ^ (8 * n) else value)
  | floating n =>
    let (w, digits) := if n = 4 then (floatOfBits 8 23 value, 9) else (floatOfBits 11 52 value, 17)
    match w with
    | .infinite negative => ascii (if negative then "-inf" else "inf")
    | .undefined negative => ascii (if negative then "-nan" else "nan")
    | .finite b =>
      -- the fewest digits that read back
      let layout : Layout := if n = 4 then ⟨24, -149, 104⟩ else double
      let tries := (List.range digits).map fun k => b.general (k + 1) false 'e'
      let own := (tries.find? fun t => match Wide.read layout t with
        | some (.finite x, []) => x.negative = b.negative && Wide.compare x b == .eq
        | _ => false).getD (b.general digits false 'e')
      if b.negative then '-' :: own else own
  | character => sign (o.head?.getD ' ')
  | named =>
    let n := value % 128
    if n = 127 then ascii "del" else match names[n]? with
      | some name => ascii name
      | none => [Char.ofNat n]

end Form

/-- How a file is dumped. -/
structure Dump where
  forms : List (Form × Bool)
  perLine : Nat
  radix : Option Nat
  repeats : Bool

namespace Dump

def address (d : Dump) (n : Nat) : Octets :=
  match d.radix with
  | none => []
  | some 16 => Octets.padLeftWith '0' 6 (Octets.inBase 16 n)
  | some base => Octets.padLeftWith '0' 7 (Octets.inBase base n)

/-- The width of the widest form of a line. -/
def lineWidth (d : Dump) : Nat := (d.forms.map fun f => (f.1.width + 1) * (d.perLine / f.1.size)).foldl max 0

/-- Cuts octets into pieces. -/
def pieces (size : Nat) : (fuel : Nat) → Octets → List Octets
  | 0, _ => []
  | fuel + 1, o => if o.isEmpty then [] else o.take size :: pieces size fuel (o.drop size)

/-- One block in one form; the room that is left is shared out before the values. -/
def block (d : Dump) (f : Form) (shows : Bool) (o : Octets) : Octets :=
  let fields := d.perLine / f.size
  let pad := d.lineWidth - f.width * fields
  let before (n : Nat) : Nat := pad * (fields - n) / fields - pad * (fields - n - 1) / fields
  let values := pieces f.size (o.length + 1) o
  let line := ((List.range values.length).zip values).flatMap fun (n, v) =>
    Octets.padLeft (before n + f.width) (f.text (v ++ List.replicate (f.size - v.length) '\x00'))
  if shows then
    let missing := ((List.range fields).drop values.length).flatMap fun n => List.replicate (before n + f.width) ' '
    line ++ missing ++ ascii "  >" ++ o.map (fun c => if Octets.isPrint c then c else '.') ++ ['<']
  else line

def lines (d : Dump) (start : Nat) (o : Octets) : Octets :=
  let blocks := pieces d.perLine (o.length + 1) o
  let (out, _, _, n) := blocks.foldl (fun (out, last, starred, n) b =>
    if !d.repeats && last = some b && b.length = d.perLine then
      (if starred then out else ascii "*\n" :: out, last, true, n + b.length)
    else
      let shown := ((List.range d.forms.length).zip d.forms).flatMap fun (k, f, shows) =>
        (if k = 0 then d.address n else List.replicate (d.address n).length ' ') ++ d.block f shows b ++ ['\n']
      (shown :: out, some b, false, n + b.length)) (([] : List Octets), (none : Option Octets), false, start)
  out.reverse.flatten ++ (if d.radix.isSome then d.address n ++ ['\n'] else [])

end Dump

/-- Reads a list of forms. -/
def readForms (whole : Octets) : (fuel : Nat) → Octets → Tool (List (Form × Bool))
  | 0, _ => return []
  | _ + 1, [] => return []
  | fuel + 1, c :: rest => do
    let sized (usual : Nat) (letters : List (Char × Nat)) (what : String) : Tool (Nat × Octets) := do
      let digits := rest.takeWhile Char.isDigit
      if !digits.isEmpty then
        let n := Octets.valueIn 10 digits
        if [1, 2, 4, 8].contains n && (what ≠ "floating point" || n ≥ 4) then return (n, rest.drop digits.length)
        else giveUp (ascii "invalid type string " ++ quoted whole ++ ascii ";\nthis system doesn't provide a " ++ Octets.ofNat n ++
          ascii ("-byte " ++ what ++ " type"))
      else
        match rest with
        | l :: more =>
          match letters.lookup l with
          | some n => return (n, more)
          | none => return (usual, rest)
        | [] => return (usual, [])
    let ints := [('C', 1), ('S', 2), ('I', 4), ('L', 8)]
    let (form, rest) ← (match c with
      | 'a' => pure (.named, rest)
      | 'c' => pure (.character, rest)
      | 'd' => do let (n, r) ← sized 4 ints "integral"; return (.signed n, r)
      | 'u' => do let (n, r) ← sized 4 ints "integral"; return (.unsigned n, r)
      | 'o' => do let (n, r) ← sized 4 ints "integral"; return (.octal n, r)
      | 'x' => do let (n, r) ← sized 4 ints "integral"; return (.hexadecimal n, r)
      | 'f' => do let (n, r) ← sized 8 [('F', 4), ('D', 8), ('L', 8)] "floating point"; return (.floating n, r)
      | c => giveUp (ascii "invalid character " ++ quoted [c] ++ ascii " in type string " ++ quoted whole) : Tool (Form × Octets))
    match rest with
    | 'z' :: rest => return (form, true) :: (← readForms whole fuel rest)
    | rest => return (form, false) :: (← readForms whole fuel rest)

/-- A number of octets, in any base. -/
def octetCount (option : Char) (o : Octets) : Tool Nat := do
  let bad {α : Type} : Tool α := giveUp (ascii "invalid -" ++ [option] ++ ascii " argument " ++ quoted o)
  let (base, digits) : Nat × Octets := match o with
    | '0' :: 'x' :: rest | '0' :: 'X' :: rest => (16, rest)
    | '0' :: rest => (8, '0' :: rest)
    | o => (10, o)
  let own := digits.takeWhile fun c => Octets.digitValue c < base
  if own.isEmpty then bad
  match multiple? (digits.drop own.length) with
  | some m => return Octets.valueIn base own * m
  | none => bad

def odTool (args : List Octets) : Tool Unit := do
  let (given, operands) ← options
    ["A|address-radix=", "j|skip-bytes=", "N|read-bytes=", "S|strings=?", "t|format=", "v|output-duplicates", "w|width=?",
      "traditional", "endian=", "a", "b", "c", "d", "f", "i", "l", "o", "s", "x", "h", "e", "B", "D", "F", "H", "I", "L", "O", "X"] args
  let mut forms : List (Form × Bool) := []
  for (name, o) in given do
    let more ← (match name with
      | "t" => readForms o (o.length + 1) o
      | "a" => pure [(.named, false)]
      | "b" => pure [(.octal 1, false)]
      | "c" => pure [(.character, false)]
      | "d" => pure [(.unsigned 2, false)]
      | "f" => pure [(.floating 4, false)]
      | "e" | "F" => pure [(.floating 8, false)]
      | "i" | "D" => pure [(.signed 4, false)]
      | "I" | "l" | "L" => pure [(.signed 8, false)]
      | "o" | "B" => pure [(.octal 2, false)]
      | "O" => pure [(.octal 4, false)]
      | "s" => pure [(.signed 2, false)]
      | "x" | "h" => pure [(.hexadecimal 2, false)]
      | "H" | "X" => pure [(.hexadecimal 4, false)]
      | _ => pure [] : Tool (List (Form × Bool)))
    forms := forms ++ more
  let radix ← (match given.value? "A" with
    | none => pure (some 8)
    | some ['d'] => pure (some 10)
    | some ['o'] => pure (some 8)
    | some ['x'] => pure (some 16)
    | some ['n'] => pure none
    | some o => giveUp (ascii "invalid output address radix " ++ quoted o ++ ascii "; it must be one character from [doxn]") : Tool (Option Nat))
  let skip ← (match given.value? "j" with
    | some o => octetCount 'j' o
    | none => pure 0 : Tool Nat)
  let most ← (match given.value? "N" with
    | some o => return some (← octetCount 'N' o)
    | none => pure none : Tool (Option Nat))
  if forms.isEmpty then forms := [(.octal 2, false)]
  let step := forms.foldl (fun n (f : Form × Bool) => Nat.lcm n f.1.size) 1
  let perLine ← (match given.value? "w" with
    | none => pure (if step < 16 then 16 / step * step else step)
    | some [] => pure (if step < 32 then 32 / step * step else step)
    | some o => do
      let n ← octetCount 'w' o
      if n = 0 || n % step ≠ 0 then
        complain (ascii "warning: invalid width " ++ Octets.ofNat n ++ ascii "; using " ++ Octets.ofNat step ++ ascii " instead")
        return step
      return n : Tool Nat)
  let mut all : Octets := []
  let mut any := false
  let wanted := most.map (skip + ·)
  for name in inputsOf operands do
    let opened ← (if name = ['-'] then pure (.ok 0) else (Work.openToRead name : Work (Except Fault Nat)) : Tool (Except Fault Nat))
    match opened with
    | .error fault => failing (nameAndReason name fault)
    | .ok d =>
      any := true
      let have_ := all.length
      let (more, fault) ← foldPieces d ([] : Octets) fun read piece => do
        let read := read ++ piece
        return (read, wanted.all (have_ + read.length < ·))
      checkRead name fault
      all := all ++ more
      if d ≠ 0 then (Work.close d : Work Unit)
  if skip > all.length then giveUp (ascii "cannot skip past end of combined input")
  let data := all.drop skip
  let data := match most with
    | some n => data.take n
    | none => data
  let d : Dump := { forms, perLine, radix, repeats := given.has "v" }
  if any then say (d.lines skip data)

end GrammarStudio.Tools
