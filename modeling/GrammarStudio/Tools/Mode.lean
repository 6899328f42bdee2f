import GrammarStudio.Tools.Paths

/-!
# Who may do what

* `ModeChange.read` — a mode as a number, or as letters that change one;
* `modeLetters` — a mode as nine letters;
* `chmodTool` — the tool.
-/

namespace GrammarStudio.Tools

open Machine Files

/-- One change: for whom, how, and which rights. -/
structure ModeStep where
  who : Nat
  /-- Nobody was named, so that the mask counts. -/
  masked : Bool
  sign : Char
  rights : Nat
  /-- The right to enter, for directories and what can be run already. -/
  conditional : Bool
  /-- The rights of these others. -/
  copied : Option Nat

inductive ModeChange where
  | exactly (mode : Nat)
  | steps (all : List ModeStep)

/-- The bits of some letters for persons. -/
def whoBits (letters : List Char) : Nat :=
  letters.foldl (fun m c => m ||| (match c with
    | 'u' => 0o4700
    | 'g' => 0o2070
    | 'o' => 0o1007
    | _ => 0o7777)) 0

/-- Reads the changes for some persons, one after the other. -/
def readModeSteps (who : List Char) : (fuel : Nat) → Octets → Option (List ModeStep)
  | 0, _ => none
  | _ + 1, [] => some []
  | fuel + 1, sign :: rest =>
    if sign = '+' || sign = '-' || sign = '=' then do
      let letters := rest.takeWhile fun c => (ascii "rwxXst").contains c
      let behind := rest.drop letters.length
      let (copied, behind) : Option Nat × Octets := match letters, behind with
        | [], 'u' :: more => (some 6, more)
        | [], 'g' :: more => (some 3, more)
        | [], 'o' :: more => (some 0, more)
        | _, more => (none, more)
      let bits := letters.foldl (fun m c => m ||| (match c with
        | 'r' => 0o444
        | 'w' => 0o222
        | 'x' => 0o111
        | 's' => 0o6000
        | 't' => 0o1000
        | _ => 0)) 0
      let others ← readModeSteps who fuel behind
      return { who := if who.isEmpty then 0o7777 else whoBits who, masked := who.isEmpty, sign, rights := bits
               conditional := letters.contains 'X', copied } :: others
    else none

def ModeChange.read (o : Octets) : Option ModeChange :=
  if !o.isEmpty && o.all Octets.isOctal then
    let n := Octets.valueIn 8 o
    if n ≤ 0o7777 then some (.exactly n) else none
  else do
    let steps ← (Octets.splitOn ',' o).mapM fun part =>
      let who := part.takeWhile fun c => (ascii "ugoa").contains c
      let rest := part.drop who.length
      if rest.isEmpty then none else readModeSteps who (rest.length + 1) rest
    return .steps steps.flatten

/-- A mode changed. -/
def ModeChange.apply (isDirectory : Bool) (mask mode : Nat) : ModeChange → Nat
  | .exactly n => if isDirectory then n ||| (mode &&& 0o6000) else n
  | .steps all => all.foldl (fun mode s =>
      let rights := s.rights ||| (if s.conditional && (isDirectory || mode &&& 0o111 ≠ 0) then 0o111 else 0)
      let rights := match s.copied with
        | some shift =>
          let three := mode / 2 ^ shift % 8
          rights ||| three * 0o111
        | none => rights
      let bits := rights &&& s.who
      let bits := if s.masked then bits - (bits &&& mask) else bits
      match s.sign with
      | '+' => mode ||| bits
      | '-' => mode - (mode &&& bits)
      | _ =>
        let cleared := if s.masked then 0o777 else s.who &&& (if isDirectory then 0o1777 else 0o7777)
        (mode - (mode &&& cleared)) ||| bits) mode

/-- A mode as nine letters. -/
def modeLetters (mode : Nat) : Octets :=
  let has (bit : Nat) : Bool := mode &&& bit ≠ 0
  let three (shift special : Nat) (small large : Char) : Octets :=
    [if has (4 * 2 ^ shift) then 'r' else '-', if has (2 * 2 ^ shift) then 'w' else '-',
      if has special then (if has (2 ^ shift) then small else large) else if has (2 ^ shift) then 'x' else '-']
  three 6 0o4000 's' 'S' ++ three 3 0o2000 's' 'S' ++ three 0 0o1000 't' 'T'

/-- Four octal digits of a mode. -/
def modeDigits (mode : Nat) : Octets := Octets.padLeftWith '0' 4 (Octets.inBase 8 mode)

/-- The letter of a kind of file. -/
def kindLetter : Kind → Char
  | .file => '-'
  | .directory => 'd'
  | .link => 'l'
  | .device => 'c'
  | .fifo => 'p'

/-- A directory and all that is in it, itself first.  The fuel bounds the depth. -/
def allInside : (fuel : Nat) → Octets → Tool (List Octets)
  | 0, path => return [path]
  | fuel + 1, path => do
    match ← ask (.inspect path false) with
    | .ok info =>
      if info.kind = .directory then
        let names := ((← ask (.list path)).toOption).getD []
        let mut all : List Octets := [path]
        for name in names do
          all := all ++ (← allInside fuel (joined path name))
        return all
      else return [path]
    | .error _ => return [path]

def chmodTool (args : List Octets) : Tool Unit := do
  -- a mode that takes rights away looks like options
  let isMode (a : Octets) : Bool := match a with
    | '-' :: c :: _ => (ascii "rwxXstugoa,+=-01234567").contains c && c ≠ '-'
    | _ => false
  let taken := (args.takeWhile (· ≠ ['-', '-'])).find? isMode
  let (given, operands) ← options
    ["c|changes", "f|silent|quiet", "R|recursive", "v|verbose", "reference=", "no-preserve-root", "preserve-root"]
    (match taken with
    | some a => args.erase a
    | none => args)
  let (text, operands) : Option Octets × List Octets := match taken with
    | some a => (some a, operands)
    | none => if given.has "reference" then (none, operands) else (operands.head?, operands.tail)
  match text with
  | none => if !given.has "reference" then misused (ascii "missing operand")
  | some text => if operands.isEmpty then misused (ascii "missing operand after " ++ quoted text)
  let change ← (match text with
    | some text => do
      match ModeChange.read text with
      | some c => return c
      | none => misused (ascii "invalid mode: " ++ quoted text)
    | none => do
      let name := (given.value? "reference").getD []
      match ← ask (.inspect name true) with
      | .ok info => return .exactly info.mode
      | .error fault => giveUp (ascii "failed to get attributes of " ++ shellWordAlways name ++ ascii ": " ++ reason fault) : Tool ModeChange)
  let mask ← ask (.mask none)
  for name in operands do
    match ← ask (.inspect name true) with
    | .error fault =>
      if !given.has "f" then complain (ascii "cannot access " ++ shellWordAlways name ++ ascii ": " ++ reason fault)
      setStatus 1
    | .ok _ =>
      for path in (← (if given.has "R" then allInside 100 name else pure [name] : Tool (List Octets))) do
        match ← ask (.inspect path (path = name)) with
        | .error _ => pure ()
        | .ok info =>
          if info.kind ≠ .link then
            let mode := change.apply (info.kind = .directory) mask info.mode
            let _ ← ask (.setMode path mode)
            let told (verb : String) : Octets :=
              ascii "mode of " ++ shellWordAlways path ++ ascii verb ++ modeDigits info.mode ++ ascii " (" ++ modeLetters info.mode ++ [')']
            if mode ≠ info.mode && (given.has "v" || given.has "c") then
              say (told " changed from " ++ ascii " to " ++ modeDigits mode ++ ascii " (" ++ modeLetters mode ++ ascii ")\n")
            else if given.has "v" then say (told " retained as " ++ ['\n'])

end GrammarStudio.Tools
