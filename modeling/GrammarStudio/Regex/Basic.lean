/-!
# Regular expressions

* `CharSet` — the characters that stand in one place;
* `Expr` — regular expressions;
* `Step`, `Finder` — an expression as steps of a search, one after the other.
-/

namespace GrammarStudio.Regex

/-- Characters, as ranges; or all others. -/
structure CharSet where
  ranges : List (Char × Char)
  negated : Bool := false
  deriving DecidableEq, Repr, Inhabited

namespace CharSet

def has (s : CharSet) (c : Char) : Bool := (s.ranges.any fun r => r.1 ≤ c && c ≤ r.2) != s.negated

def single (c : Char) : CharSet := ⟨[(c, c)], false⟩

/-- The set with the other case of each of its letters. -/
def bothCases (s : CharSet) : CharSet :=
  let letters := (List.range 26).map fun n => (Char.ofNat (97 + n), Char.ofNat (65 + n))
  let plain : CharSet := ⟨s.ranges, false⟩
  let more := letters.flatMap fun (l, u) =>
    (if plain.has l then [(u, u)] else []) ++ (if plain.has u then [(l, l)] else [])
  { s with ranges := s.ranges ++ more }

/-- The characters of a class with a name. -/
def named? : String → Option (List (Char × Char))
  | "digit" => some [('0', '9')]
  | "alpha" => some [('a', 'z'), ('A', 'Z')]
  | "alnum" => some [('a', 'z'), ('A', 'Z'), ('0', '9')]
  | "lower" => some [('a', 'z')]
  | "upper" => some [('A', 'Z')]
  | "space" => some [(' ', ' '), ('\t', '\r')]
  | "blank" => some [(' ', ' '), ('\t', '\t')]
  | "punct" => some [('!', '/'), (':', '@'), ('[', '\x60'), ('\x7b', '~')]
  | "xdigit" => some [('0', '9'), ('a', 'f'), ('A', 'F')]
  | "cntrl" => some [('\x00', '\x1f'), ('\x7f', '\x7f')]
  | "print" => some [(' ', '~')]
  | "graph" => some [('!', '~')]
  | _ => none

def wordRanges : List (Char × Char) := [('a', 'z'), ('A', 'Z'), ('0', '9'), ('_', '_')]

def spaceRanges : List (Char × Char) := [(' ', ' '), ('\t', '\r')]

end CharSet

/-- What holds between two characters. -/
inductive Border where
  | textStart
  | textEnd
  /-- At the end, or before a line feed that is the last character. -/
  | nearEnd
  | lineStart
  | lineEnd
  | wordStart
  | wordEnd
  | wordEdge
  | noWordEdge
  /-- What is before is no part of a word. -/
  | noWordBefore
  /-- What is behind is no part of a word. -/
  | noWordBehind
  deriving DecidableEq, Repr

/-- A regular expression. -/
inductive Expr where
  | empty
  | set (s : CharSet)
  | border (b : Border)
  | seq (first second : Expr)
  | either (first second : Expr)
  /-- So many times, as often as possible or as seldom. -/
  | times (least : Nat) (most : Option Nat) (greedy : Bool) (inner : Expr)
  | group (number : Nat) (inner : Expr)
  /-- What a group fitted last. -/
  | again (number : Nat)
  /-- What follows does, or does not, fit. -/
  | ahead (fits : Bool) (inner : Expr)
  deriving Repr, Inhabited

/-- One step of a search. -/
inductive Step where
  | one (s : CharSet)
  | border (b : Border)
  /-- Goes on at two places, the better one first. -/
  | split (better worse : Nat)
  | jump (target : Nat)
  | save (slot : Nat)
  /-- Notes the place where a round of a loop begins. -/
  | mark
  /-- Fails if nothing has been passed since a mark. -/
  | advance (mark : Nat)
  | again (group : Nat)
  /-- Looks ahead with the steps from here to the next end, and goes on at `next`. -/
  | look (fits : Bool) (next : Nat)
  | finish
  deriving Inhabited

/-- An expression that is ready to be searched for. -/
structure Finder where
  steps : Array Step
  groups : Nat
  ignoresCase : Bool
  /-- Does what follows hang on what a group fitted? -/
  remembers : Bool

namespace Expr

def groups : Expr → Nat
  | .group n e => max n e.groups
  | .seq a b | .either a b => max a.groups b.groups
  | .times _ _ _ e | .ahead _ e => e.groups
  | _ => 0

def remembers : Expr → Bool
  | .again _ | .ahead _ _ => true
  | .seq a b | .either a b => a.remembers || b.remembers
  | .times _ _ _ e | .group _ e => e.remembers
  | _ => false

/-- Can the expression fit nothing? -/
def isNullable : Expr → Bool
  | .set _ => false
  | .seq a b => a.isNullable && b.isNullable
  | .either a b => a.isNullable || b.isNullable
  | .times least _ _ e => least = 0 || e.isNullable
  | .group _ e => e.isNullable
  | _ => true

/-- Puts so many copies of something one behind the other. -/
def copies (f : Array Step → Array Step) : Nat → Array Step → Array Step
  | 0, steps => steps
  | n + 1, steps => copies f n (f steps)

/-- The steps of an expression, behind those that are there. -/
def compile (ignoresCase : Bool) : Expr → Array Step → Array Step
  | .empty, out => out
  | .set s, out => out.push (.one (if ignoresCase then s.bothCases else s))
  | .border b, out => out.push (.border b)
  | .seq a b, out => b.compile ignoresCase (a.compile ignoresCase out)
  | .group n e, out => (e.compile ignoresCase (out.push (.save (2 * n)))).push (.save (2 * n + 1))
  | .again n, out => out.push (.again n)
  | .either a b, out =>
    let here := out.size
    let left := (a.compile ignoresCase (out.push default)).push default
    let right := b.compile ignoresCase left
    (right.setIfInBounds here (.split (here + 1) left.size)).setIfInBounds (left.size - 1) (.jump right.size)
  | .ahead fits e, out =>
    let here := out.size
    let inner := (e.compile ignoresCase (out.push default)).push .finish
    inner.setIfInBounds here (.look fits inner.size)
  | .times least most greedy e, out =>
    let choose (a b : Nat) : Step := if greedy then .split a b else .split b a
    let out := copies (e.compile ignoresCase) least out
    match most with
    | none =>
      let here := out.size
      let inner :=
        if e.isNullable then ((e.compile ignoresCase ((out.push default).push .mark)).push (.advance (here + 1))).push (.jump here)
        else (e.compile ignoresCase (out.push default)).push (.jump here)
      inner.setIfInBounds here (choose (here + 1) inner.size)
    | some most =>
      -- each further copy can be left out, and all behind it with it
      copies (fun out =>
        let here := out.size
        let inner := e.compile ignoresCase (out.push default)
        inner.setIfInBounds here (choose (here + 1) inner.size)) (most - least) out

def toFinder (e : Expr) (ignoresCase : Bool) : Finder :=
  { steps := (e.compile ignoresCase #[]).push .finish
    groups := e.groups
    ignoresCase
    remembers := e.remembers }

end Expr

end GrammarStudio.Regex
