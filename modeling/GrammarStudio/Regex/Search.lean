import GrammarStudio.Regex.Basic

/-!
# Searching for a regular expression

An expression is searched for at one place of a text after the other.  At each, either the first way that fits is
taken, or the longest; of the longest ways the first.

* `Finder.reach?` — how far the longest way leads;
* `Finder.fit?` — a way from a place, with what each group fitted;
* `Finder.search?` — the first place where there is one.

The steps that can be reached at a place are the same however they were reached, unless groups are remembered; so no
step is tried twice at one place.
-/

namespace GrammarStudio.Regex

abbrev Span := Nat × Nat

/-- What each group fitted; the whole is group zero. -/
abbrev Groups := Array (Option Nat)

/-- Is the character one of a word? -/
def isWordChar (c : Char) : Bool := c.isAlphanum || c == '_'

def Border.holds (text : Array Char) (startsLine endsLine : Bool) (at_ : Nat) : Border → Bool
  | .textStart => at_ = 0 && startsLine
  | .textEnd => at_ = text.size && endsLine
  | .nearEnd => at_ = text.size || (at_ + 1 = text.size && text[at_]? == some '\n')
  | .lineStart => (at_ = 0 && startsLine) || (at_ > 0 && text[at_ - 1]? == some '\n')
  | .lineEnd => (at_ = text.size && endsLine) || text[at_]? == some '\n'
  | .wordStart => !wordBefore && wordBehind
  | .wordEnd => wordBefore && !wordBehind
  | .wordEdge => wordBefore != wordBehind
  | .noWordEdge => wordBefore == wordBehind
  | .noWordBefore => !wordBefore
  | .noWordBehind => !wordBehind
where
  wordBefore : Bool := at_ > 0 && (text[at_ - 1]?).any isWordChar
  wordBehind : Bool := (text[at_]?).any isWordChar

/-- A text that is searched, with whether its two ends count as ends of a line. -/
structure Subject where
  text : Array Char
  startsLine : Bool := true
  endsLine : Bool := true

namespace Finder

/-! ### The longest way -/

/-- All steps that can be gone on with at one place, behind those that are known.  `pending` are those to be followed. -/
def closure (r : Finder) (s : Subject) (at_ : Nat) :
    (fuel : Nat) → (pending : List Nat) → (seen : Array Bool) → List Nat → Array Bool × List Nat
  | 0, _, seen, ready => (seen, ready)
  | _ + 1, [], seen, ready => (seen, ready)
  | fuel + 1, pc :: pending, seen, ready =>
    if (seen[pc]?).getD true then closure r s at_ fuel pending seen ready
    else
      let seen := seen.setIfInBounds pc true
      match r.steps[pc]? with
      | some (.split a b) => closure r s at_ fuel (a :: b :: pending) seen ready
      | some (.jump a) => closure r s at_ fuel (a :: pending) seen ready
      | some (.save _) | some .mark | some (.advance _) => closure r s at_ fuel ((pc + 1) :: pending) seen ready
      | some (.border b) =>
        if b.holds s.text s.startsLine s.endsLine at_ then closure r s at_ fuel ((pc + 1) :: pending) seen ready
        else closure r s at_ fuel pending seen ready
      | some _ => closure r s at_ fuel pending seen (pc :: ready)
      | none => closure r s at_ fuel pending seen ready

def isFinish : Step → Bool
  | .finish => true
  | _ => false

/-- How far the longest way from some steps leads. -/
def reachOn (r : Finder) (s : Subject) : (fuel : Nat) → (at_ : Nat) → List Nat → (best : Option Nat) → Option Nat
  | 0, _, _, best => best
  | fuel + 1, at_, pcs, best =>
    let (_, ready) := closure r s at_ (4 * r.steps.size + 4) pcs (Array.replicate r.steps.size false) []
    if ready.isEmpty then best
    else
      let best := if ready.any fun pc => (r.steps[pc]?).any isFinish then some at_ else best
      match s.text[at_]? with
      | none => best
      | some c =>
        let next := ready.filterMap fun (pc : Nat) =>
          match r.steps[pc]? with
          | some (.one chars) => if chars.has c then some (pc + 1) else none
          | _ => none
        if next.isEmpty then best else reachOn r s fuel (at_ + 1) next best

/-- How far the longest way from a place leads. -/
def reach? (r : Finder) (s : Subject) (at_ : Nat) : Option Nat := reachOn r s (s.text.size + 2 - at_) at_ [0] none

/-! ### One way -/

/-- A way that is still to be tried. -/
structure Branch where
  pc : Nat
  at_ : Nat
  groups : Groups
  /-- Where the rounds of loops began, by the step that began them. -/
  marks : List (Nat × Nat) := []

def groupText (s : Subject) (groups : Groups) (n : Nat) : Option (List Char) := do
  let a ← (← groups[2 * n]?)
  let b ← (← groups[2 * n + 1]?)
  return (s.text.extract a b).toList

/-- Do the characters stand in the text from a place on? -/
def standsAt (ignoresCase : Bool) (text : Array Char) : List Char → Nat → Bool
  | [], _ => true
  | c :: rest, n =>
    (text[n]?).any (fun d => c == d || (ignoresCase && c.toLower == d.toLower)) && standsAt ignoresCase text rest (n + 1)

/-- Follows the ways one after the other until one comes to its end — at `target`, if there is one.  Where groups are
remembered nothing is known of a step that has been tried before; otherwise it is not tried again. -/
def follow (r : Finder) (s : Subject) (target : Option Nat) :
    (depth fuel : Nat) → List Branch → (seen : Array Bool) → Option Branch
  | 0, _, _, _ => none
  | _, 0, _, _ => none
  | _, _, [], _ => none
  | depth + 1, fuel + 1, b :: pending, seen =>
    let cell := b.pc * (s.text.size + 1) + b.at_
    if !r.remembers && (seen[cell]?).getD true then follow r s target (depth + 1) fuel pending seen
    else
      let seen := if r.remembers then seen else seen.setIfInBounds cell true
      match r.steps[b.pc]? with
      | none => follow r s target (depth + 1) fuel pending seen
      | some (.one chars) =>
        if (s.text[b.at_]?).any chars.has then
          follow r s target (depth + 1) fuel ({ b with pc := b.pc + 1, at_ := b.at_ + 1 } :: pending) seen
        else follow r s target (depth + 1) fuel pending seen
      | some (.border border) =>
        if border.holds s.text s.startsLine s.endsLine b.at_ then
          follow r s target (depth + 1) fuel ({ b with pc := b.pc + 1 } :: pending) seen
        else follow r s target (depth + 1) fuel pending seen
      | some (.split x y) =>
        follow r s target (depth + 1) fuel ({ b with pc := x } :: { b with pc := y } :: pending) seen
      | some (.jump x) => follow r s target (depth + 1) fuel ({ b with pc := x } :: pending) seen
      | some (.save slot) =>
        follow r s target (depth + 1) fuel
          ({ b with pc := b.pc + 1, groups := b.groups.setIfInBounds slot (some b.at_) } :: pending) seen
      | some .mark =>
        follow r s target (depth + 1) fuel ({ b with pc := b.pc + 1, marks := (b.pc, b.at_) :: b.marks } :: pending) seen
      | some (.advance start) =>
        if b.marks.lookup start = some b.at_ then follow r s target (depth + 1) fuel pending seen
        else follow r s target (depth + 1) fuel ({ b with pc := b.pc + 1 } :: pending) seen
      | some (.again n) =>
        match groupText s b.groups n with
        | some part =>
          if standsAt r.ignoresCase s.text part b.at_ then
            follow r s target (depth + 1) fuel ({ b with pc := b.pc + 1, at_ := b.at_ + part.length } :: pending) seen
          else follow r s target (depth + 1) fuel pending seen
        | none => follow r s target (depth + 1) fuel pending seen
      | some (.look fits next) =>
        match follow r s none depth fuel [{ b with pc := b.pc + 1 }] seen with
        | some found =>
          if fits then follow r s target (depth + 1) fuel ({ b with pc := next, groups := found.groups } :: pending) seen
          else follow r s target (depth + 1) fuel pending seen
        | none =>
          if fits then follow r s target (depth + 1) fuel pending seen
          else follow r s target (depth + 1) fuel ({ b with pc := next } :: pending) seen
      | some .finish =>
        if target.all (· = b.at_) then some b else follow r s target (depth + 1) fuel pending seen

/-- How many steps a search takes at most, from one place. -/
def effort : Nat := 4000000

def wayTo (r : Finder) (s : Subject) (at_ : Nat) (target : Option Nat) : Option (Nat × Groups) :=
  let cells := if r.remembers then 0 else r.steps.size * (s.text.size + 1)
  let start : Branch := { pc := 0, at_, groups := Array.replicate (2 * r.groups + 2) none }
  (follow r s target 50 effort [start] (Array.replicate cells false)).map fun b =>
    (b.at_, (b.groups.setIfInBounds 0 (some at_)).setIfInBounds 1 (some b.at_))

/-- A way from a place: the longest, or the first.  Where groups are remembered the longest is looked for from the end
of the text on. -/
def fit? (r : Finder) (longest : Bool) (s : Subject) (at_ : Nat) : Option Groups :=
  if !longest then (wayTo r s at_ none).map Prod.snd
  else if r.remembers then
    match wayTo r s at_ none with
    | none => none
    | some first =>
      let ends := (List.range (s.text.size - first.1)).map fun n => s.text.size - n
      match ends.findSome? fun e => wayTo r s at_ (some e) with
      | some found => some found.2
      | none => some first.2
  else
    match r.reach? s at_ with
    | none => none
    | some e => (wayTo r s at_ (some e)).map Prod.snd

def searchOn (r : Finder) (longest : Bool) (s : Subject) : (fuel : Nat) → Nat → Option Groups
  | 0, _ => none
  | fuel + 1, at_ =>
    match r.fit? longest s at_ with
    | some groups => some groups
    | none => searchOn r longest s fuel (at_ + 1)

/-- Does any way that begins at a place or behind it come to an end?  `pcs` are the steps of those that began before. -/
def endsFrom (r : Finder) (s : Subject) : (fuel : Nat) → (at_ : Nat) → (pcs : List Nat) → Bool
  | 0, _, _ => false
  | fuel + 1, at_, pcs =>
    let (_, ready) := closure r s at_ (4 * r.steps.size + 4 + pcs.length) (0 :: pcs) (Array.replicate r.steps.size false) []
    if ready.any fun pc => (r.steps[pc]?).any isFinish then true
    else
      match s.text[at_]? with
      | none => false
      | some c =>
        endsFrom r s fuel (at_ + 1) (ready.filterMap fun (pc : Nat) =>
          match r.steps[pc]? with
          | some (.one chars) => if chars.has c then some (pc + 1) else none
          | _ => none)

/-- The first place from one on where the expression fits. -/
def search? (r : Finder) (longest : Bool) (s : Subject) (from_ : Nat) : Option Groups :=
  if from_ > s.text.size then none
  else if !r.remembers && !endsFrom r s (s.text.size + 1 - from_) from_ [] then none
  else searchOn r longest s (s.text.size + 1 - from_) from_

/-- Does the expression fit anywhere? -/
def isIn (r : Finder) (text : List Char) : Bool :=
  let s : Subject := { text := text.toArray }
  if r.remembers then (r.search? false s 0).isSome else endsFrom r s (s.text.size + 1) 0 []

end Finder

/-- Where a group fitted. -/
def Groups.span? (g : Groups) (n : Nat) : Option Span := do
  let a ← (← g[2 * n]?)
  let b ← (← g[2 * n + 1]?)
  return (a, b)

end GrammarStudio.Regex
