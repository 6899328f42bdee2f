import GrammarStudio.Machine.Octets
import GrammarStudio.Regex.Basic

/-!
# Patterns

A pattern is matched against the whole of a text.  A star stands for anything, a question mark for one octet, brackets
for one of several; what was quoted stands for itself.

* `Marked` — octets that remember whether they were quoted;
* `Pattern`, `Pattern.ofMarked` — the pattern that marked octets spell;
* `Pattern.matches` — does a pattern fit?
* `Pattern.dropFront`, `Pattern.dropBack` — a text without what fits at one end.
-/

namespace GrammarStudio.Shell

open Machine Regex

/-- Octets, each with whether it was quoted. -/
abbrev Marked := List (Char × Bool)

namespace Marked

def octets (m : Marked) : Octets := m.map Prod.fst

def quoted (o : Octets) : Marked := o.map (·, true)

def unquoted (o : Octets) : Marked := o.map (·, false)

end Marked

/-- One step of a pattern. -/
inductive PatternStep where
  | anything
  | one
  | oneOf (negated : Bool) (ranges : List (Char × Char))
  | exactly (c : Char)
  deriving DecidableEq, Repr

abbrev Pattern := List PatternStep

namespace Pattern

/-- The name of a class, up to its end. -/
def className : Marked → Option (List Char × Marked)
  | (':', _) :: (']', _) :: rest => some ([], rest)
  | (c, _) :: rest => (className rest).map fun (cs, rest) => (c :: cs, rest)
  | [] => none

/-- What stands between brackets, behind the opening one; a closing bracket at the start stands for itself. -/
def ranges : (fuel : Nat) → (first : Bool) → Marked → Option (List (Char × Char) × Marked)
  | 0, _, _ => none
  | _ + 1, _, [] => none
  | fuel + 1, first, (c, q) :: rest =>
    if c = ']' && !q && !first then some ([], rest)
    else
      let continue_ (found : List (Char × Char)) (rest : Marked) :=
        (ranges fuel false rest).map fun (more, rest) => (found ++ more, rest)
      match (if c = '[' && !q then rest else []) with
      | (':', false) :: inner =>
        match className inner with
        | some (name, rest) => continue_ ((CharSet.named? (String.ofList name)).getD []) rest
        | none => continue_ [(c, c)] rest
      | _ =>
        match rest with
        | ('-', false) :: (d, q') :: rest' =>
          if d = ']' && !q' then continue_ [(c, c)] rest else continue_ [(c, d)] rest'
        | _ => continue_ [(c, c)] rest

/-- One step at the head of a marked text. -/
def step (c : Char) (quoted : Bool) (rest : Marked) : PatternStep × Marked :=
  if quoted then (.exactly c, rest)
  else
    match c with
    | '*' => (.anything, rest)
    | '?' => (.one, rest)
    | '[' =>
      let (negated, inner) := match rest with
        | ('!', false) :: inner => (true, inner)
        | ('^', false) :: inner => (true, inner)
        | inner => (false, inner)
      match ranges (inner.length + 1) true inner with
      | some (rs, rest) => (.oneOf negated rs, rest)
      | none => (.exactly '[', rest)
    | '\\' =>
      match rest with
      | (d, _) :: rest => (.exactly d, rest)
      | [] => (.exactly '\\', [])
    | c => (.exactly c, rest)

/-- The pattern that a marked text spells. -/
def ofMarkedFrom : (fuel : Nat) → Marked → Pattern
  | 0, _ => []
  | _ + 1, [] => []
  | fuel + 1, (c, q) :: rest =>
    let (s, rest) := step c q rest
    s :: ofMarkedFrom fuel rest

def ofMarked (m : Marked) : Pattern := ofMarkedFrom (m.length + 1) m

/-- Does one octet fit one step? -/
def fits (c : Char) : PatternStep → Bool
  | .anything => true
  | .one => true
  | .oneOf negated ranges => (ranges.any fun r => r.1 ≤ c && c ≤ r.2) != negated
  | .exactly d => c == d

/-- Every end of a list, the whole list first. -/
def ends : Octets → List Octets
  | [] => [[]]
  | c :: rest => (c :: rest) :: ends rest

/-- Does the pattern fit the whole text? -/
def «matches» : Pattern → Octets → Bool
  | [], o => o.isEmpty
  | .anything :: p, o => (ends o).any («matches» p)
  | _ :: _, [] => false
  | s :: p, c :: rest => fits c s && «matches» p rest

/-- The text without what fits at its front: as little as possible, or as much. -/
def dropFront (p : Pattern) (longest : Bool) (o : Octets) : Octets :=
  let lengths := List.range (o.length + 1)
  let fit := fun n => «matches» p (o.take n)
  match (if longest then lengths.reverse else lengths).find? fit with
  | some n => o.drop n
  | none => o

/-- The text without what fits at its back. -/
def dropBack (p : Pattern) (longest : Bool) (o : Octets) : Octets :=
  let lengths := List.range (o.length + 1)
  let fit := fun n => «matches» p (o.drop n)
  match (if longest then lengths else lengths.reverse).find? fit with
  | some n => o.take n
  | none => o

/-- The text that a marked text without signs of a pattern stands for. -/
def literal : Marked → Octets
  | ('\\', false) :: (c, _) :: rest => c :: literal rest
  | (c, _) :: rest => c :: literal rest
  | [] => []

/-- Is there anything in a marked text that does not stand for itself? -/
def isPattern (m : Marked) : Bool := m.any fun (c, q) => !q && (c == '*' || c == '?' || c == '[')

end Pattern

end GrammarStudio.Shell
