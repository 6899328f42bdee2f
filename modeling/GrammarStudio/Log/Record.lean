/-!
# Records

A record is written on one line: how urgent it is, what happened, and named values.

* `Level` — the five levels, from the most to the least urgent;
* `Threshold` — the level up to which records are written; none is written when there is no such level;
* `Threshold.offset` — a threshold moved by a number of steps;
* `Value`, `Record` — a record;
* `Record.line` — how it is written.
-/

namespace GrammarStudio.Log

/-! ### How loud a record is -/

/-- The urgency of a record. -/
inductive Level where
  | error
  | warn
  | info
  | debug
  | trace
  deriving DecidableEq, Repr, Inhabited

namespace Level

/-- Every level, the most urgent first. -/
def all : List Level := [.error, .warn, .info, .debug, .trace]

/-- Counts from one, the most urgent level. -/
def rank : Level → Nat
  | .error => 1
  | .warn => 2
  | .info => 3
  | .debug => 4
  | .trace => 5

def name : Level → String
  | .error => "error"
  | .warn => "warn"
  | .info => "info"
  | .debug => "debug"
  | .trace => "trace"

def ofName? (name : String) : Option Level := all.find? fun l => l.name == name

@[simp] theorem ofName?_name (l : Level) : ofName? l.name = some l := by cases l <;> decide

end Level

/-- The least urgent level that is written. -/
abbrev Threshold := Option Level

namespace Threshold

/-- Is a record of this level written? -/
def allows (t : Threshold) (l : Level) : Bool := t.any fun most => l.rank ≤ most.rank

def rank (t : Threshold) : Nat := (t.map Level.rank).getD 0

/-- The threshold of a rank.  Past either end of the scale stands its end. -/
def ofRank (n : Int) : Threshold := Level.all.findRev? fun l => decide ((l.rank : Int) ≤ n)

/-- A threshold moved towards louder records, or away from them. -/
def offset (t : Threshold) (steps : Int) : Threshold := ofRank (t.rank + steps)

def name (t : Threshold) : String := (t.map Level.name).getD "off"

end Threshold

/-! ### What a record says -/

/-- A value of a record.  A word of the program's own stands between quotes, a text from outside as it is. -/
inductive Value where
  | word (w : String)
  | text (t : String)
  | number (n : Nat)
  | flag (b : Bool)
  deriving DecidableEq, Repr

def Value.written : Value → String
  | .word w => "\"" ++ w ++ "\""
  | .text t => t
  | .number n => n.repr
  | .flag b => if b then "true" else "false"

/-- The name under which this program writes its records. -/
def ownSource : String := "peg_playground"

/-- Something that happened. -/
structure Record where
  level : Level
  message : String
  fields : List (String × Value) := []
  /-- The part of the program that tells it; the program itself where that is empty. -/
  part : String := ""
  deriving DecidableEq, Repr

namespace Record

/-- How a level is marked: five columns wide, to the right. -/
def mark : Level → String
  | .error => "ERROR"
  | .warn => " WARN"
  | .info => " INFO"
  | .debug => "DEBUG"
  | .trace => "TRACE"

/-- The line of a record. -/
def line (r : Record) : String :=
  mark r.level ++ " " ++ r.message ++ String.join (r.fields.map fun (name, value) => " " ++ name ++ "=" ++ value.written) ++
    "\n"

example : (Record.mk .info "ready" [("count", .number 2), ("mode", .word "all")] "").line =
    " INFO ready count=2 mode=\"all\"\n" := by decide +kernel

/-- Where a record comes from. -/
def source (r : Record) : String := if r.part.isEmpty then ownSource else ownSource ++ "::" ++ r.part

end Record

end GrammarStudio.Log
