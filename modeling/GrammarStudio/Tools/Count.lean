import GrammarStudio.Tools.Input

/-!
# Counting lines, words and octets

* `Counts` — what is counted, and `Counts.add` of one more piece;
* `wcTool` — the counts of files.
-/

namespace GrammarStudio.Tools

open Machine Files

structure Counts where
  lines : Nat := 0
  words : Nat := 0
  octets : Nat := 0
  longest : Nat := 0
  column : Nat := 0
  inWord : Bool := false

namespace Counts

/-- One more octet.  What cannot be printed belongs to no word. -/
def add (k : Counts) (c : Char) : Counts :=
  let k := { k with octets := k.octets + 1 }
  let ended (k : Counts) : Counts := { k with inWord := false, words := if k.inWord then k.words + 1 else k.words }
  if c = '\n' || c = '\r' || c = '\x0c' then
    ended { k with lines := if c = '\n' then k.lines + 1 else k.lines, longest := max k.longest k.column, column := 0 }
  else if c = '\t' then ended { k with column := k.column + 8 - k.column % 8 }
  else if c = ' ' then ended { k with column := k.column + 1 }
  else if c = '\x0b' then ended k
  else if Octets.isPrint c then { k with inWord := true, column := k.column + 1 }
  else k

def finish (k : Counts) : Counts :=
  { k with words := if k.inWord then k.words + 1 else k.words, inWord := false, longest := max k.longest k.column }

def plus (a b : Counts) : Counts :=
  { lines := a.lines + b.lines, words := a.words + b.words, octets := a.octets + b.octets, longest := max a.longest b.longest }

end Counts

/-- Which counts are shown. -/
structure Shown where
  lines : Bool
  words : Bool
  characters : Bool
  octets : Bool
  longest : Bool

def Shown.values (s : Shown) (k : Counts) : List Nat :=
  (if s.lines then [k.lines] else []) ++ (if s.words then [k.words] else []) ++ (if s.characters then [k.octets] else []) ++
    (if s.octets then [k.octets] else []) ++ if s.longest then [k.longest] else []

/-- The width of the counts, which is that of the size of all files together; other than files make it larger. -/
def countWidth (single : Bool) (names : List Octets) : Tool Nat := do
  if names.length = 1 && single then return 1
  let mut total := 0
  let mut least := 1
  let mut firstFails := false
  for (n, name) in (List.range names.length).zip names do
    match ← (if name = ['-'] then ask (.describe 0) else ask (.inspect name true) : Tool (Except Fault Info)) with
    | .ok info => if info.kind = .file then total := total + info.size else least := 7
    | .error _ => if n = 0 then firstFails := true
  let _ := firstFails
  return max least (Octets.ofNat total).length

def wcTool (args : List Octets) : Tool Unit := do
  let (given, operands) ← options
    ["c|bytes", "m|chars", "l|lines", "w|words", "L|max-line-length", "files0-from="] args
  let has := given.has
  let any := has "c" || has "m" || has "l" || has "w" || has "L"
  let shown : Shown :=
    { lines := has "l" || !any, words := has "w" || !any, characters := has "m", octets := has "c" || !any, longest := has "L" }
  let operands ← (match given.value? "files0-from" with
    | none => pure operands
    | some list => do
      match operands with
      | extra :: _ =>
        complain (ascii "extra operand " ++ quoted extra)
        mutter (ascii "file operands cannot be combined with --files0-from\n")
        pointToHelp
      | [] =>
        match ← (if list = ['-'] then content 0 else (Work.slurp list : Work (Except Fault Octets)) : Tool (Except Fault Octets)) with
        | .ok o => pure ((Octets.splitOn '\x00' (bare '\x00' o)).filter (!·.isEmpty))
        | .error fault => giveUp (ascii "cannot open " ++ shellWordAlways list ++ ascii " for reading: " ++ reason fault) : Tool (List Octets))
  let width ← countWidth ((shown.values {}).length = 1) (inputsOf operands)
  let line (k : Counts) (name : Octets) : Octets :=
    [' '].intercalate ((shown.values k).map fun n => Octets.padLeft width (Octets.ofNat n)) ++
      (if name.isEmpty then [] else ' ' :: name) ++ ['\n']
  let mut total : Counts := {}
  for name in inputsOf operands do
    let opened ← (if name = ['-'] then pure (.ok 0) else (Work.openToRead name : Work (Except Fault Nat)) : Tool (Except Fault Nat))
    match opened with
    | .error fault => failing (nameAndReason name fault)
    | .ok d =>
      let (k, fault) ← foldPieces d ({} : Counts) fun k piece => return (piece.foldl Counts.add k, true)
      checkRead name fault
      let k := k.finish
      say (line k (if operands.isEmpty then [] else name))
      total := total.plus k
      if d ≠ 0 then (Work.close d : Work Unit)
  if operands.length > 1 then say (line total (ascii "total"))

end GrammarStudio.Tools
