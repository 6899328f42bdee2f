import GrammarStudio.Regex.Basic
import GrammarStudio.Tools.Input

/-!
# Translating octets

* `SetPart`, `readParts` — the ways to write a set of octets: ranges, classes, repetitions;
* `trTool` — translates octets, deletes them, or leaves one of each run.
-/

namespace GrammarStudio.Tools

open Machine Files

/-- A part of a set. -/
inductive SetPart where
  | one (c : Char)
  | range (first last : Char)
  | named (name : String)
  | same (c : Char)
  /-- So many times, or as often as the other set is long. -/
  | copies (c : Char) (count : Option Nat)
  deriving DecidableEq, Repr

/-- Octets in which escapes are read, each with whether it came from one. -/
def readEscapes : (fuel : Nat) → Octets → List (Char × Bool)
  | 0, _ => []
  | _ + 1, [] => []
  | _ + 1, ['\\'] => [('\\', false)]
  | fuel + 1, '\\' :: c :: rest =>
    if Octets.isOctal c then
      let digits := (c :: rest).take 3 |>.takeWhile Octets.isOctal
      -- three digits that are too much for an octet are two digits and one more sign
      let digits := if Octets.valueIn 8 digits > 255 then digits.take 2 else digits
      (Char.ofNat (Octets.valueIn 8 digits), true) :: readEscapes fuel ((c :: rest).drop digits.length)
    else
      let meaning := match c with
        | 'a' => '\x07'
        | 'b' => '\x08'
        | 'f' => '\x0c'
        | 'n' => '\n'
        | 'r' => '\r'
        | 't' => '\t'
        | 'v' => '\x0b'
        | c => c
      (meaning, true) :: readEscapes fuel rest
  | fuel + 1, c :: rest => (c, false) :: readEscapes fuel rest

/-- The octets that a name between colons stands for. -/
def classOctets? (name : String) : Option (List Char) :=
  let all := (List.range 256).map Char.ofNat
  (Regex.CharSet.named? name).map fun ranges => all.filter fun c => ranges.any fun r => r.1 ≤ c && c ≤ r.2

/-- A sign without its escape, if it had none. -/
def isBare (c : Char) (x : Char × Bool) : Bool := x = (c, false)

/-- What stands before a closing pair. -/
def upTo (mark : Char) : List (Char × Bool) → Option (List (Char × Bool) × List (Char × Bool))
  | [] => none
  | x :: y :: rest =>
    if isBare mark x && isBare ']' y then some ([], rest)
    else (upTo mark (y :: rest)).map fun (a, b) => (x :: a, b)
  | [_] => none

/-- A repetition: the octet, a star and a number. -/
def repetition? : List (Char × Bool) → Option (Char × List (Char × Bool) × List (Char × Bool))
  | c :: star :: rest =>
    if isBare '*' star then
      let count := rest.takeWhile (!isBare ']' ·)
      if count.length < rest.length then some (c.1, count, rest.drop (count.length + 1)) else none
    else none
  | _ => none

def readParts : (fuel : Nat) → List (Char × Bool) → Tool (List SetPart)
  | 0, _ => return []
  | _ + 1, [] => return []
  | fuel + 1, x :: rest => do
    let plain (x : Char × Bool) (rest : List (Char × Bool)) : Tool (List SetPart) := do
      match rest with
      | dash :: last :: rest =>
        if isBare '-' dash then
          if last.1 < x.1 then
            let shown (c : Char) : Octets := if Octets.isPrint c then [c] else '\\' :: Octets.padLeftWith '0' 3 (Octets.inBase 8 c.toNat)
            giveUp (ascii "range-endpoints of '" ++ shown x.1 ++ ['-'] ++ shown last.1 ++ ascii "' are in reverse collating sequence order")
          return .range x.1 last.1 :: (← readParts fuel rest)
        else return .one x.1 :: (← readParts fuel (dash :: last :: rest))
      | rest => return .one x.1 :: (← readParts fuel rest)
    if !isBare '[' x then plain x rest
    else
      match rest with
      | y :: more =>
        match (if isBare ':' y || isBare '=' y then upTo y.1 more else none) with
        | some (inner, behind) =>
          let name := inner.map Prod.fst
          if y.1 = ':' then
            if name.isEmpty then giveUp (ascii "missing character class name '[::]'")
            else if (classOctets? (String.ofList name)).isNone then giveUp (ascii "invalid character class " ++ quoted name)
            else return .named (String.ofList name) :: (← readParts fuel behind)
          else
            match name with
            | [] => giveUp (ascii "missing equivalence class character '[==]'")
            | [c] => return .same c :: (← readParts fuel behind)
            | _ => giveUp (name ++ ascii ": equivalence class operand must be a single character")
        | none =>
          match repetition? rest with
          | some (c, count, behind) =>
            let digits := count.map Prod.fst
            if digits.isEmpty then return .copies c none :: (← readParts fuel behind)
            else
              let isOctal := digits.head? = some '0'
              if digits.all (if isOctal then Octets.isOctal else Char.isDigit) then
                let n := Octets.valueIn (if isOctal then 8 else 10) digits
                return .copies c (if n = 0 then none else some n) :: (← readParts fuel behind)
              else giveUp (ascii "invalid repeat count " ++ quoted digits ++ ascii " in [c*n] construct")
          | none => plain x rest
      | [] => plain x rest

/-- The octets of a part.  A repetition without a count is as often as `fill`. -/
def SetPart.octets (fill : Nat) : SetPart → List Char
  | .one c | .same c => [c]
  | .range a b => (List.range (b.toNat + 1 - a.toNat)).map fun n => Char.ofNat (a.toNat + n)
  | .named name => (classOctets? name).getD []
  | .copies c (some n) => List.replicate n c
  | .copies c none => List.replicate fill c

def SetPart.isOpen : SetPart → Bool
  | .copies _ none => true
  | _ => false

def readSet (o : Octets) : Tool (List SetPart) := do
  match (readEscapes (o.length + 1) o).getLast?, o.reverse with
  | some ('\\', false), '\\' :: _ =>
    complain (ascii "warning: an unescaped backslash at end of string is not portable")
  | _, _ => pure ()
  readParts (o.length + 1) (readEscapes (o.length + 1) o)

/-- A class of letters in one case, with its place in the set. -/
def caseClasses (fill : Nat) (parts : List SetPart) : List (Nat × Bool) :=
  (parts.foldl (fun (found, place) p =>
    let found := match p with
      | .named "upper" => found ++ [(place, true)]
      | .named "lower" => found ++ [(place, false)]
      | _ => found
    (found, place + (p.octets fill).length)) (([] : List (Nat × Bool)), 0)).1

def octetsOf (fill : Nat) (parts : List SetPart) : List Char := parts.flatMap (SetPart.octets fill)

/-- The set to translate to, as long as the one to translate from. -/
def targetSet (truncates : Bool) (source : List Char) (parts : List SetPart) : Tool (List Char) := do
  if (parts.filter SetPart.isOpen).length > 1 then giveUp (ascii "only one [c*] repeat construct may appear in string2")
  if parts.any fun p => match p with
      | .same _ => true
      | _ => false then giveUp (ascii "[=c=] expressions may not appear in string2 when translating")
  let fixed := (octetsOf 0 parts).length
  let target := octetsOf (source.length - fixed) parts
  if target.isEmpty && !truncates && !source.isEmpty then giveUp (ascii "when not truncating set1, string2 must be non-empty")
  if truncates then return target
  else
    let last := target.getLast?.getD ' '
    return target ++ List.replicate (source.length - target.length) last

def trTool (args : List Octets) : Tool Unit := do
  let (given, operands) ← optionsWith true ["c|C|complement", "d|delete", "s|squeeze-repeats", "t|truncate-set1"] args
  let deletes := given.has "d"
  let squeezes := given.has "s"
  let least := if deletes = squeezes then 2 else 1
  let most := if deletes && !squeezes then 1 else 2
  if operands.length < least then
    match operands.getLast? with
    | none => misused (ascii "missing operand")
    | some last =>
      complain (ascii "missing operand after " ++ quoted last)
      mutter (ascii (if squeezes then "Two strings must be given when both deleting and squeezing repeats.\n"
        else "Two strings must be given when translating.\n"))
      pointToHelp
  if operands.length > most then
    complain (ascii "extra operand " ++ quoted ((operands[most]?).getD []))
    if operands.length = 2 then
      mutter (ascii "Only one string may be given when deleting without squeezing repeats.\n")
    pointToHelp
  let first := (operands[0]?).getD []
  let parts ← readSet first
  if parts.any SetPart.isOpen then giveUp (ascii "the [c*] repeat construct may not appear in string1")
  let all := (List.range 256).map Char.ofNat
  let own := octetsOf 0 parts
  let source := if given.has "c" then all.filter (!own.contains ·) else own
  let translates := !deletes && operands.length = 2
  let second ← (match operands[1]? with
    | some o => readSet o
    | none => pure [] : Tool (List SetPart))
  let badClass := translates && second.any fun p => match p with
    | .named "upper" | .named "lower" => false
    | .named _ => true
    | _ => false
  if badClass then
    giveUp (ascii "when translating, the only character classes that may appear in\nstring2 are 'upper' and 'lower'")
  let target ← (if translates then targetSet (given.has "t") source second else pure [] : Tool (List Char))
  if translates && !given.has "c" then
    -- classes of letters in the second set stand for the other case of classes in the first
    let befores := (caseClasses 0 parts).map Prod.fst
    if (caseClasses (source.length - (octetsOf 0 second).length) second).any fun x => !befores.contains x.1 then
      giveUp (ascii "misaligned [:upper:] and/or [:lower:] construct")
  if translates && given.has "c" && second.any (fun p => match p with
      | .named _ => true
      | _ => false) && target.eraseDups.length ≠ 1 then
    giveUp (ascii "when translating with complemented character classes,\nstring2 must map all characters in the domain to one")
  let pairs := source.zip target
  let table : Array Char := pairs.foldl (fun (t : Array Char) (a, b) => t.set! a.toNat b) all.toArray
  let squeezed : List Char := if !squeezes then []
    else if operands.length = 2 then (if translates then target else octetsOf 0 second) else source
  let deleted : Array Bool := (all.map fun c => deletes && source.contains c).toArray
  let isSqueezed : Array Bool := (all.map fun c => squeezed.contains c).toArray
  let (_, fault) ← foldPieces 0 (none : Option Char) fun last piece => do
    let (out, last) := piece.foldl (fun (out, last) c =>
      if deleted.getD c.toNat false then (out, last)
      else
        let c := table.getD c.toNat c
        if isSqueezed.getD c.toNat false && last = some c then (out, last) else (c :: out, some c)) (([] : Octets), last)
    say out.reverse
    return (last, (← get).lost.isNone)
  match fault with
  | some fault => failing (ascii "read error: " ++ reason fault)
  | none => return

end GrammarStudio.Tools
