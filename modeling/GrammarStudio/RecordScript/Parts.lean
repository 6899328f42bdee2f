import GrammarStudio.Machine.Octets
import GrammarStudio.Regex.Search

/-!
# Texts in parts

* `Separator` — what stands between the parts of a text;
* `Separator.parts` — the parts, such as the fields of a record;
* `Separator.record?` — the first record of an input;
* `replaced` — a text with the matches of an expression replaced.
-/

namespace GrammarStudio.RecordScript

open Machine Regex

inductive Separator where
  /-- Blanks, and nothing counts before the first part or behind the last one. -/
  | blanks
  /-- Nothing: each character is a part. -/
  | nothing
  | char (c : Char)
  | fitting (f : Finder)
  /-- Empty lines, for records only. -/
  | emptyLines

/-! ### Matches -/

/-- The first match from a place on. -/
def firstMatch (f : Finder) (text : Array Char) (from_ : Nat) : Option Span :=
  (f.search? true { text } from_).bind (·.span? 0)

/-- The parts between matches that are not empty.  `start` is where the part at hand begins. -/
def partsBetween (f : Finder) (text : Array Char) : (fuel : Nat) → (start from_ : Nat) → List Octets
  | 0, start, _ => [(text.extract start text.size).toList]
  | fuel + 1, start, from_ =>
    match firstMatch f text from_ with
    | none => [(text.extract start text.size).toList]
    | some (a, b) =>
      if a = b then
        if a < text.size then partsBetween f text fuel start (a + 1) else [(text.extract start text.size).toList]
      else (text.extract start a).toList :: partsBetween f text fuel b b

/-- The parts of a text; an empty text has none. -/
def Separator.parts (s : Separator) (o : Octets) : List Octets :=
  if o.isEmpty then []
  else
    match s with
    | .blanks => Octets.words o
    | .nothing => o.map fun c => [c]
    | .char c => Octets.splitOn c o
    | .fitting f => partsBetween f o.toArray (o.length + 1) 0 0
    | .emptyLines => Octets.splitOn '\n' o

/-! ### Records -/

/-- The text up to two line feeds in a row, and what is behind all that follow. -/
def upToEmptyLine : Octets → Option (Octets × Octets)
  | '\n' :: '\n' :: rest => some ([], rest.dropWhile (· == '\n'))
  | c :: rest => (upToEmptyLine rest).map fun (o, more) => (c :: o, more)
  | [] => none

/-- The first record of what has been read, and what is behind it.  `ended` says that nothing more will come; as long
as more may come, a record that might go on is none yet. -/
def Separator.record? (s : Separator) (ended : Bool) (o : Octets) : Option (Octets × Octets) :=
  let rest : Option (Octets × Octets) := if ended && !o.isEmpty then some (o, []) else none
  match s with
  | .char c =>
    let record := o.takeWhile (· ≠ c)
    match o.drop record.length with
    | _ :: behind => some (record, behind)
    | [] => rest
  | .fitting f =>
    let text := o.toArray
    match firstMatch f text 0 with
    | some (a, b) =>
      if a < b && (b < text.size || ended) then some (o.take a, o.drop b) else rest
    | none => rest
  | .emptyLines =>
    let o := o.dropWhile (· == '\n')
    match upToEmptyLine o with
    | some (record, behind) => if behind.isEmpty && !ended then none else some (record, behind)
    | none => if ended && !o.isEmpty then some (Octets.dropEnd (· == '\n') o, []) else none
  | .blanks | .nothing => rest

/-! ### Replacing -/

/-- The parts of a replacement: texts, and places for what was matched. -/
def replacementParts : Octets → List (Option Octets)
  | [] => []
  | '\\' :: '&' :: rest => some ['&'] :: replacementParts rest
  | '\\' :: '\\' :: '&' :: rest => some ['\\'] :: none :: replacementParts rest
  | '&' :: rest => none :: replacementParts rest
  | c :: rest => some [c] :: replacementParts rest

/-- Replaces matches from a place on, the first one or all.  `ended` is where the last one ended; `done` holds what is
finished, the latest first. -/
def replaceFrom (f : Finder) (all : Bool) (by_ : List (Option Octets)) (text : Array Char) :
    (fuel : Nat) → (from_ : Nat) → (ended : Option Nat) → (count : Nat) → (done : List Octets) → Nat × Octets
  | 0, _, _, count, done => (count, done.reverse.flatten)
  | fuel + 1, from_, ended, count, done =>
    let part (a b : Nat) : Octets := (text.extract a b).toList
    match firstMatch f text from_ with
    | none => (count, (part from_ text.size :: done).reverse.flatten)
    | some (a, b) =>
      if a = b && ended = some a then
        -- nothing, right behind a match
        if a < text.size then replaceFrom f all by_ text fuel (a + 1) none count (part from_ (a + 1) :: done)
        else (count, (part from_ text.size :: done).reverse.flatten)
      else
        let own := by_.flatMap fun p => p.getD (part a b)
        let done := own :: part from_ a :: done
        if !all then (count + 1, (part b text.size :: done).reverse.flatten)
        else if a = b then
          if b < text.size then replaceFrom f all by_ text fuel (b + 1) none (count + 1) (part b (b + 1) :: done)
          else (count + 1, done.reverse.flatten)
        else replaceFrom f all by_ text fuel b (some b) (count + 1) done

/-- A text with its first match, or with all of them, replaced, and how many there were. -/
def replaced (f : Finder) (all : Bool) (replacement o : Octets) : Nat × Octets :=
  replaceFrom f all (replacementParts replacement) o.toArray (2 * o.length + 3) 0 none 0 []

end GrammarStudio.RecordScript
