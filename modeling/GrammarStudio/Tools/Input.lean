import GrammarStudio.Tools.Options

/-!
# What a tool reads

* `withInput`, `forInputs` — the files a tool is to read; a dash is the standard input;
* `foldPieces`, `foldLines` — all that can be read, as it comes or line by line;
* `content` — all of it at once;
* `Sequel` — lines, read in turn with those of others;
* `multiple?` — what the letters behind a number multiply it by;
* `Amount.read` — a number with such letters;
* `amount` — the same, where a tool ends if there is none.

Lines are handed on as soon as they are there, so that a tool can work on an input without end.
-/

namespace GrammarStudio.Tools

open Machine Files

/-- Goes through what can be read, piece by piece, until the step says that it is enough. -/
def foldPiecesOn {σ : Type} (descriptor : Nat) (step : σ → Octets → Tool (σ × Bool)) :
    (fuel : Nat) → σ → Tool (σ × Option Fault)
  | 0, s => return (s, none)
  | fuel + 1, s => do
    match ← ask (.read descriptor blockSize) with
    | .error fault => return (s, some fault)
    | .ok [] => return (s, none)
    | .ok o =>
      let (s, goesOn) ← step s o
      if goesOn then foldPiecesOn descriptor step fuel s else return (s, none)

def foldPieces {σ : Type} (descriptor : Nat) (s : σ) (step : σ → Octets → Tool (σ × Bool)) : Tool (σ × Option Fault) :=
  foldPiecesOn descriptor step endless s

/-- The whole lines of a piece, and what is left behind the last one. -/
def cutLines (ender : Char) (o : Octets) : List Octets × Octets :=
  o.foldr (fun c (lines, rest) =>
    if c = ender then
      ([c] :: lines, rest)
    else
      match lines with
      | [] => ([], c :: rest)
      | line :: others => ((c :: line) :: others, rest)) ([], [])

/-- Goes through some lines. -/
def foldList {σ α : Type} (step : σ → α → Tool (σ × Bool)) : σ → List α → Tool (σ × Bool)
  | s, [] => return (s, true)
  | s, a :: rest => do
    let (s, goesOn) ← step s a
    if goesOn then foldList step s rest else return (s, false)

/-- Goes through the lines that can be read, each with its end, which only the last may lack. -/
def foldLines {σ : Type} (ender : Char) (descriptor : Nat) (s : σ) (step : σ → Octets → Tool (σ × Bool)) :
    Tool (σ × Option Fault) := do
  let ((s, rest, goesOn), fault) ← foldPieces descriptor (s, ([] : Octets), true) fun (s, rest, _) piece => do
    if piece.contains ender then
      let (lines, left) := cutLines ender (rest ++ piece)
      let (s, goesOn) ← foldList step s lines
      return ((s, left, goesOn), goesOn)
    else return ((s, rest ++ piece, true), true)
  if goesOn && !rest.isEmpty then
    let (s, _) ← step s rest
    return (s, fault)
  else return (s, fault)

/-- All that can be read. -/
def content (descriptor : Nat) : Tool (Except Fault Octets) := (Work.readAll descriptor : Work (Except Fault Octets))

/-- Opens an input and uses it; a dash is the standard input.  `complaint` words the fault when it cannot be
opened. -/
def withInput (complaint : Octets → Fault → Octets) (name : Octets) (use : Nat → Tool Unit) : Tool Unit := do
  if name = ['-'] then use 0
  else
    match ← (Work.openToRead name : Work (Except Fault Nat)) with
    | .error fault => failing (complaint name fault)
    | .ok d =>
      use d
      (Work.close d : Work Unit)

/-- The usual wording: the name and the reason. -/
def nameAndReason (name : Octets) (fault : Fault) : Octets := nameShown name ++ ascii ": " ++ reason fault

/-- The inputs of a tool: its operands, or else the standard input. -/
def inputsOf (operands : List Octets) : List Octets := if operands.isEmpty then [['-']] else operands

/-- Uses one input after the other. -/
def forInputs (operands : List Octets) (use : Octets → Nat → Tool Unit) : Tool Unit := do
  for name in inputsOf operands do
    withInput nameAndReason name (use name)

/-- Says what was wrong while an input was read. -/
def checkRead (name : Octets) (fault : Option Fault) : Tool Unit := do
  match fault with
  | some fault => failing (nameAndReason name fault)
  | none => return

/-! ### Line by line -/

/-- What is read line by line, in turn with others. -/
structure Sequel where
  descriptor : Nat
  lines : List Octets := []
  rest : Octets := []
  ended : Bool := false

/-- The next line, and what was wrong if there is none. -/
def Sequel.nextOn (ender : Char) : (fuel : Nat) → Sequel → Tool (Option Octets × Option Fault × Sequel)
  | 0, s => return (none, none, s)
  | fuel + 1, s => do
    match s.lines with
    | line :: others => return (some line, none, { s with lines := others })
    | [] =>
      if s.ended then
        if s.rest.isEmpty then return (none, none, s) else return (some s.rest, none, { s with rest := [] })
      else
        match ← ask (.read s.descriptor blockSize) with
        | .error fault => return (none, some fault, { s with ended := true })
        | .ok [] => nextOn ender fuel { s with ended := true }
        | .ok o =>
          if o.contains ender then
            let (lines, rest) := cutLines ender (s.rest ++ o)
            nextOn ender fuel { s with lines, rest }
          else nextOn ender fuel { s with rest := s.rest ++ o }

def Sequel.next (ender : Char) (s : Sequel) : Tool (Option Octets × Option Fault × Sequel) := s.nextOn ender endless

/-- Opens a source; a dash is the standard input. -/
def openSource (name : Octets) : Tool (Except Fault Sequel) := do
  if name = ['-'] then return .ok { descriptor := 0 }
  else
    match ← (Work.openToRead name : Work (Except Fault Nat)) with
    | .ok descriptor => return .ok { descriptor }
    | .error fault => return .error fault

/-- A line without its end. -/
def bare (ender : Char) (line : Octets) : Octets := if line.getLast? = some ender then line.dropLast else line

/-! ### Numbers as arguments -/

/-- The letters of powers, in their order. -/
def powerLetters : List Char := ascii "KMGTPEZYRQ"

/-- What the letters behind a number multiply it by: powers of 1024, or of 1000 where a `B` follows. -/
def multiple? (suffix : Octets) : Option Nat :=
  match suffix with
  | [] => some 1
  | ['b'] => some 512
  | letter :: rest =>
    let letter := if letter = 'k' then 'K' else if letter = 'm' then 'M' else letter
    match powerLetters.idxOf? letter with
    | none => none
    | some n =>
      if rest.isEmpty || rest = ascii "iB" then some (1024 ^ (n + 1))
      else if rest = ['B'] then some (1000 ^ (n + 1))
      else none

/-- What comes of reading a number. -/
inductive Amount where
  | number (n : Nat)
  | tooLarge
  | none
  deriving DecidableEq, Repr

/-- The largest number that fits. -/
def largestAmount : Nat := 2 ^ 64 - 1

/-- Reads a number, with letters behind it where they are allowed. -/
def Amount.read (suffixes : Bool) (o : Octets) : Amount :=
  let o := o.dropWhile Octets.isSpace
  let o := if o.head? = some '+' then o.drop 1 else o
  let digits := o.takeWhile Char.isDigit
  let suffix := o.drop digits.length
  match (if suffixes then multiple? suffix else if suffix.isEmpty then some 1 else Option.none) with
  | Option.none => .none
  | some m =>
    if digits.isEmpty then (if suffix.isEmpty || !suffixes then .none else .number m)
    else
      let n := Octets.valueIn 10 digits * m
      if n > largestAmount then .tooLarge else .number n

/-- A number as an argument.  A tool that gets none says so and ends; `what` tells what it should be. -/
def amount (suffixes : Bool) (what : String) (o : Octets) : Tool Nat := do
  match Amount.read suffixes o with
  | .number n => return n
  | .tooLarge => giveUp (ascii "invalid " ++ ascii what ++ ascii ": " ++ quoted o ++ ascii ": Value too large for defined data type")
  | .none => giveUp (ascii "invalid " ++ ascii what ++ ascii ": " ++ quoted o)

/-- A number between bounds. -/
def amountWithin (least most : Nat) (what : String) (o : Octets) : Tool Nat := do
  match Amount.read false o with
  | .number n =>
    if n < least || n > most then
      giveUp (ascii "invalid " ++ ascii what ++ ascii ": " ++ quoted o ++ ascii (if n > most && most > 1000000 then ": Value too large for defined data type" else ": Numerical result out of range"))
    else return n
  | .tooLarge => giveUp (ascii "invalid " ++ ascii what ++ ascii ": " ++ quoted o ++ ascii ": Value too large for defined data type")
  | .none => giveUp (ascii "invalid " ++ ascii what ++ ascii ": " ++ quoted o)

end GrammarStudio.Tools
