import GrammarStudio.Machine.Octets
import GrammarStudio.Regex.Search

/-!
# Commands on lines

A script of commands is gone through for each line of an input.  A line is held in a space of its own while commands
work on it.

* `Address`, `Until`, `Selector` — the lines that a command is for;
* `Piece`, `Substitution` — what is put in for a match;
* `Action`, `Command`, `Script` — commands, in a row; blocks and jumps name the place where they lead.
-/

namespace GrammarStudio.LineScript

open Machine

/-- An expression; where there is none, the one that was looked for last. -/
abbrev Sought := Option Regex.Finder

inductive Address where
  | number (n : Nat)
  | last
  | matching (r : Sought)
  /-- Every so many lines, from one on. -/
  | every (first step : Nat)

/-- Where lines from an address on end. -/
inductive Until where
  | number (n : Nat)
  | last
  | matching (r : Sought)
  /-- So many lines further. -/
  | further (n : Nat)
  /-- At the next multiple of a number. -/
  | multiple (n : Nat)

structure Selector where
  first : Option Address := none
  second : Option Until := none
  negated : Bool := false

/-- How letters are changed. -/
inductive Casing where
  | asIs
  | upper
  | lower
  deriving DecidableEq, Repr

/-- A part of what is put in: some text, and what a group fitted. -/
structure Piece where
  text : Octets
  group : Option Nat := none
  casing : Casing := .asIs
  /-- How the first letter is changed. -/
  first : Casing := .asIs

structure Substitution where
  sought : Sought
  pieces : List Piece
  global : Bool := false
  /-- From which match on. -/
  number : Nat := 1
  prints : Bool := false
  /-- Runs what comes out. -/
  runs : Bool := false
  file : Option Octets := none
  /-- The greatest group that is put in. -/
  greatest : Nat := 0

inductive Action where
  /-- The commands up to a place, for the lines that are selected. -/
  | block (behind : Nat)
  | blockEnd
  | append (text : Octets)
  | insert (text : Octets)
  | change (text : Octets)
  /-- To a place, or to the end. -/
  | jump (target : Option Nat)
  | jumpIfChanged (target : Option Nat)
  | jumpUnlessChanged (target : Option Nat)
  | delete
  | deleteFirst
  | run (command : Octets)
  | fileName
  | get (adds : Bool)
  | hold (adds : Bool)
  | exchange
  | list (width : Option Nat)
  | next (adds : Bool)
  | print
  | printFirst
  | quit (prints : Bool) (status : Nat)
  | readFile (name : Octets)
  | readLine (name : Octets)
  | substitute (s : Substitution)
  | writeFile (name : Octets) (firstOnly : Bool)
  | replace (table : List (Char × Char))
  | empty
  | number
  | nothing

structure Command where
  selector : Selector
  action : Action

/-- The commands of a script. -/
structure Script where
  commands : Array Command
  /-- Nothing is printed that no command prints. -/
  quiet : Bool := false

end GrammarStudio.LineScript
