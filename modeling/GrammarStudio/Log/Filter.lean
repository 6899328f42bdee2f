import GrammarStudio.Log.Record

/-!
# Which records are written

A filter is a list of rules.  A rule names a source and the level up to which that source's records are written; a rule
without a source is about all.  The rule with the longest fitting source decides.

* `Rule`, `Filter` — with `Filter.allows`;
* `Rule.parse` — the rule that a text sets, or what is wrong with it;
* `Filter.parse` — the filter that a text sets;
* `Filter.written` — the lines of the records that pass.
-/

namespace GrammarStudio.Log

/-- A level for all records of a source. -/
structure Rule where
  source : Option String := none
  /-- Values that a record must have. -/
  fields : List String := []
  /-- Is the rule about stretches of work, and about no single record? -/
  stretches : Bool := false
  threshold : Threshold
  deriving DecidableEq, Repr

abbrev Filter := List Rule

/-- What is wrong with the text of a rule. -/
inductive RuleFault where
  | malformed
  | unknownLevel
  deriving DecidableEq, Repr

def RuleFault.message : RuleFault → String
  | .malformed => "invalid filter directive"
  | .unknownLevel =>
    "error parsing level filter: expected one of \"off\", \"error\", \"warn\", \"info\", \"debug\", \"trace\", or a number 0-5"

/-- A threshold by its name, in any case, or by its rank. -/
def Threshold.ofText? (text : String) : Option Threshold :=
  let digits := match text.toList with
    | '+' :: rest => rest
    | letters => letters
  if !digits.isEmpty && digits.all Char.isDigit then
    let n : Nat := digits.foldl (fun (n : Nat) c => n * 10 + (c.toNat - 48)) 0
    if n = 0 then some none else (Level.all.find? (·.rank = n)).map some
  else
    let name := text.toLower
    if name = "off" then some none
    else if name = "" then some (some .error)
    else (Level.ofName? name).map some

namespace Rule

/-- The threshold behind an equals sign; nothing there lets all pass. -/
def thresholdBehind (level : List Char) : Except RuleFault Threshold :=
  if level.isEmpty then .ok (some .trace)
  else match Threshold.ofText? (String.ofList level) with
    | some threshold => .ok threshold
    | none => .error .unknownLevel

/-- What stands behind a source: nothing, or an equals sign and a level. -/
def behindSource (r : Rule) : List Char → Except RuleFault Rule
  | [] => .ok r
  | '=' :: level => do .ok { r with threshold := ← thresholdBehind level }
  | _ => .error .malformed

/-- The rule of a text: a level, a source, or both with an equals sign between.  A source alone lets all pass.  Behind a
source there can be the name of a stretch of work in brackets, with values that are asked for in braces. -/
def parse (text : String) : Except RuleFault Rule :=
  let letters := text.toList
  let begins (c : Char) : Bool := c = '-' || c = ':' || c = '_' || c.isAlphanum || c.toNat > 127
  match letters with
  | [] => .error .malformed
  | first :: _ =>
    if first ≠ '[' && !begins first then .error .malformed
    else
      let source := letters.takeWhile fun c => c ≠ '=' && c ≠ '['
      let named : Option String := if source.isEmpty then none else some (String.ofList source)
      match letters.drop source.length with
      | [] =>
        match Threshold.ofText? text with
        | some threshold => .ok { threshold }
        | none => .ok { source := some text, threshold := some .trace }
      | '[' :: rest =>
        let stretch := rest.takeWhile fun c => c ≠ ']' && c ≠ '{'
        match rest.drop stretch.length with
        | ']' :: behind => behindSource { source := named, stretches := true, threshold := some .trace } behind
        | '{' :: inner =>
          let field := inner.takeWhile (· ≠ '}')
          let name := field.takeWhile (· ≠ '=')
          match inner.drop field.length with
          | '}' :: ']' :: behind =>
            if field.isEmpty then .error .malformed
            else
              behindSource
                { source := named, fields := [String.ofList name], stretches := !stretch.isEmpty || field.contains '='
                  threshold := some .trace } behind
          | _ => .error .malformed
        | _ => .error .malformed
      | behind => behindSource { source := named, threshold := some .trace } behind

/-- Is the rule about a record? -/
def fits (r : Rule) (record : Record) : Bool :=
  !r.stretches && r.source.all (record.source.startsWith ·) && r.fields.all fun f => record.fields.any (·.1 = f)

/-- How closely a rule says what it is about: the length of its source, and then the number of its values. -/
def closeness (r : Rule) : Nat × Nat := ((r.source.map (·.utf8ByteSize + 1)).getD 0, r.fields.length)

end Rule

namespace Filter

/-- Everything up to a level. -/
def upTo (threshold : Threshold) : Filter := [{ threshold }]

/-- The texts of rules, which have commas between them. -/
def texts (text : String) : List String := (text.splitOn ",").filter (· ≠ "")

/-- The filter that a text sets; a text without a rule leaves the usual one. -/
def parse (usual : Threshold) (text : String) : Filter :=
  let rules := (texts text).filterMap fun t => (Rule.parse t).toOption
  if rules.isEmpty then upTo usual else rules

/-- What is said of the rules in a text that are none. -/
def complaints (text : String) : String :=
  String.join ((texts text).map fun t =>
    match Rule.parse t with
    | .ok _ => ""
    | .error fault => "ignoring \x60" ++ t ++ "\x60: " ++ fault.message ++ "\n")

/-- The rule that decides about a record: of the closest ones the last. -/
def decisive? (f : Filter) (record : Record) : Option Rule :=
  (f.filter (·.fits record)).foldl (fun best r =>
    match best with
    | none => some r
    | some b =>
      let (x, m) := b.closeness
      let (y, n) := r.closeness
      if x < y || (x = y && m ≤ n) then some r else some b) none

def allows (f : Filter) (record : Record) : Bool :=
  match f.decisive? record with
  | some r => r.threshold.allows record.level
  | none => false

/-- The lines of the records that pass. -/
def written (f : Filter) (records : List Record) : String :=
  String.join ((records.filter f.allows).map Record.line)

end Filter

end GrammarStudio.Log
