import GrammarStudio.Machine.Octets
import GrammarStudio.Regex.Basic

/-!
# Scripts for records

A script says what is done with the records of its input: each rule has a pattern, which selects records, and actions.

* `Expr`, `Target` — expressions, and what can be assigned to;
* `Statement` — actions;
* `Rule`, `Function`, `Script` — a whole script.

Names are resolved: a variable is known by its place among those of the script, or among the arguments of its
function.
-/

namespace GrammarStudio.RecordScript

open Machine

/-- Where a variable is held. -/
inductive Place where
  | shared (n : Nat)
  /-- An argument of the function at hand. -/
  | own (n : Nat)
  deriving DecidableEq, Repr, Inhabited

inductive Arith where
  | add
  | subtract
  | multiply
  | divide
  | remainder
  | power
  deriving DecidableEq, Repr

inductive Relation where
  | less
  | atMost
  | equal
  | unequal
  | greater
  | atLeast
  deriving DecidableEq, Repr

def Relation.holds : Relation → Ordering → Bool
  | .less, o => o == .lt
  | .atMost, o => o != .gt
  | .equal, o => o == .eq
  | .unequal, o => o != .eq
  | .greater, o => o == .gt
  | .atLeast, o => o != .lt

/-- The functions that every script has. -/
inductive Builtin where
  | length
  | substr
  | index
  | sprintf
  | split
  | sub
  | gsub
  | matchText
  | lower
  | upper
  | sine
  | cosine
  | arcTangent
  | exponential
  | logarithm
  | root
  | integer
  | random
  | seed
  | close
  | flush
  | system
  | time
  | timeText
  | timeOf
  deriving DecidableEq, Repr

mutual

inductive Expr where
  | number (x : Float)
  | text (o : Octets)
  /-- A regular expression by itself: does the record match? -/
  | sought (f : Regex.Finder)
  | value (t : Target)
  /-- Assigns, together with an operation. -/
  | assign (t : Target) (op : Option Arith) (e : Expr)
  /-- One more or one less; the value is that before, or that after. -/
  | step (t : Target) (up givesNew : Bool)
  | choose (test yes no : Expr)
  | either (a b : Expr)
  | both (a b : Expr)
  | isIn (keys : List Expr) (table : Place)
  /-- Does a text match? -/
  | fits (negated : Bool) (e pattern : Expr)
  | compare (r : Relation) (a b : Expr)
  | join (a b : Expr)
  | reckon (op : Arith) (a b : Expr)
  | negation (e : Expr)
  | minus (e : Expr)
  | plus (e : Expr)
  | call (function : Nat) (args : List Expr)
  | builtin (b : Builtin) (args : List Expr)
  /-- Reads the next record of the input. -/
  | getline (t : Option Target)
  /-- Reads a line of a file. -/
  | getlineFrom (file : Expr) (t : Option Target)
  /-- Reads a line that a command writes. -/
  | getlineOf (command : Expr) (t : Option Target)

/-- What can be assigned to. -/
inductive Target where
  | variable (p : Place)
  | field (e : Expr)
  | element (table : Place) (keys : List Expr)

end

instance : Inhabited Expr := ⟨.number 0⟩

/-- Where output goes that does not go to the standard output. -/
inductive Outlet where
  | file (name : Expr)
  | append (name : Expr)
  | command (e : Expr)

inductive Statement where
  | nothing
  | eval (e : Expr)
  | print (args : List Expr) (outlet : Option Outlet)
  | printf (args : List Expr) (outlet : Option Outlet)
  | delete (table : Place) (keys : List Expr)
  | clear (table : Place)
  | block (body : List Statement)
  | branch (test : Expr) (yes no : Statement)
  | whileTrue (test : Expr) (body : Statement)
  | untilFalse (body : Statement) (test : Expr)
  | counted (start : Statement) (test : Option Expr) (step body : Statement)
  | forKeys (t : Place) (table : Place) (body : Statement)
  | leaveLoop
  | nextRound
  | nextRecord
  | nextFile
  | quit (status : Option Expr)
  | giveBack (e : Option Expr)

instance : Inhabited Statement := ⟨.nothing⟩

/-- Which records a rule is for. -/
inductive Pattern where
  | start
  | finish
  | every
  | when (e : Expr)
  /-- From a record to another; each range has a number of its own. -/
  | range (number : Nat) (first last : Expr)

structure Rule where
  pattern : Pattern
  /-- Where there are no actions, the record is printed. -/
  body : Option Statement

structure Function where
  arguments : Nat
  /-- Which of the arguments are tables. -/
  tables : List Nat := []
  body : Statement := .nothing
  deriving Inhabited

structure Script where
  /-- The names of the variables, by their places. -/
  names : Array String
  rules : List Rule
  functions : Array Function
  ranges : Nat

/-! ### Variables that mean something to the script's runs -/

/-- Their names, in the order of their places. -/
def knownNames : List String :=
  ["NF", "NR", "FNR", "FS", "OFS", "ORS", "RS", "SUBSEP", "CONVFMT", "OFMT", "FILENAME", "RSTART", "RLENGTH", "ENVIRON",
    "ARGC", "ARGV"]

def fieldCount : Nat := 0
def recordNumber : Nat := 1
def fileRecordNumber : Nat := 2
def fieldSeparator : Nat := 3
def outputFieldSeparator : Nat := 4
def outputRecordSeparator : Nat := 5
def recordSeparator : Nat := 6
def keySeparator : Nat := 7
def conversionFormat : Nat := 8
def outputFormat : Nat := 9
def fileName : Nat := 10
def matchStart : Nat := 11
def matchLength : Nat := 12
def argumentCount : Nat := 14
def argumentTable : Nat := 15

end GrammarStudio.RecordScript
