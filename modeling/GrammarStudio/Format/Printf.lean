import GrammarStudio.Format.Directive

/-!
# Writing arguments as a format says

A backslash in a format begins an escape, a percent sign a directive.  The format is used again while there are
arguments left.

* `Style` — what differs between the programs that do this;
* `Written` — what is written, and what is complained about;
* `write` — a format with its arguments.
-/

namespace GrammarStudio.Format

open Machine Number

/-- What is wrong with an argument that should be a number. -/
inductive BadNumber where
  | none
  | partly
  | outOfRange
  deriving DecidableEq, Repr

structure Style where
  formatEscapes : Escapes
  argumentEscapes : Escapes
  layout : Layout
  badNumber : BadNumber → (argument : Octets) → Octets
  invalid : (directive : Octets) → Octets
  missing : (directive : Octets) → Octets
  /-- A way to write a text so that a shell reads it as one word. -/
  quoted : Option (Octets → Octets)
  /-- The status of a format that cannot be used. -/
  invalidStatus : Nat
  /-- The status of a number that is too large. -/
  rangeStatus : Nat
  /-- An empty argument is no number. -/
  emptyIsBad : Bool
  /-- What is said of arguments that no directive takes. -/
  excess : Option (Octets → Octets)
  /-- Letters for the width of a number, which say nothing. -/
  lengthLetters : List Char

structure Written where
  /-- The latest piece first. -/
  pieces : List Octets := []
  complaints : List Octets := []
  status : Nat := 0
  args : List Octets
  stopped : Bool := false

namespace Written

def output (w : Written) : Octets := w.pieces.reverse.flatten

def put (w : Written) (o : Octets) : Written := { w with pieces := o :: w.pieces }

def complain (w : Written) (message : Octets) (status : Nat) : Written :=
  { w with complaints := w.complaints ++ [message], status }

/-- The next argument. -/
def take (w : Written) : Option Octets × Written := (w.args.head?, { w with args := w.args.tail })

end Written

/-- The character behind a quote, as a number. -/
def quotedNumber? (o : Octets) : Option Int :=
  match o with
  | '"' :: rest | '\'' :: rest => some ((rest.head?.map Char.toNat).getD 0)
  | _ => none

/-- The next argument as a whole number. -/
def integerArgument (s : Style) (signed : Bool) (w : Written) : Int × Written :=
  match w.take with
  | (none, w) => (0, w)
  | (some o, w) =>
    match quotedNumber? o with
    | some n => (n, w)
    | none =>
      if o.isEmpty && !s.emptyIsBad then (0, w)
      else
        match readInteger o with
        | none => (0, w.complain (s.badNumber .none o) 1)
        | some (n, rest) =>
          let clamped : Int := if signed then Octets.clamp64 n
            else if n > 18446744073709551615 || n < -18446744073709551615 then 18446744073709551615 else n
          if !rest.isEmpty then (clamped, w.complain (s.badNumber .partly o) 1)
          else if clamped ≠ n then (clamped, w.complain (s.badNumber .outOfRange o) (max w.status s.rangeStatus))
          else (n, w)

/-- The next argument as a number that may have a fraction. -/
def floatArgument (s : Style) (w : Written) : Wide × Written :=
  match w.take with
  | (none, w) => (.zero, w)
  | (some o, w) =>
    match quotedNumber? o with
    | some n => (.ofInt n, w)
    | none =>
      if o.isEmpty && !s.emptyIsBad then (.zero, w)
      else
        match Wide.read s.layout (o.dropWhile Octets.isSpace) with
        | none => (.zero, w.complain (s.badNumber .none o) 1)
        | some (x, rest) =>
          if rest.isEmpty then (x, w) else (x, w.complain (s.badNumber .partly o) 1)

/-- Writes one directive, and gives what is behind it. -/
def writeDirective (s : Style) (behindPercent : Octets) (w : Written) : Written × Octets :=
  let (t, rest) := Template.read behindPercent
  let (width, w) : Option Int × Written := match t.width with
    | some .fromArgument => let (n, w) := integerArgument s true w; (some n, w)
    | _ => (none, w)
  let (precision, w) : Option Int × Written := match t.precision with
    | some .fromArgument => let (n, w) := integerArgument s true w; (some n, w)
    | _ => (none, w)
  let lengthLetters := rest.takeWhile s.lengthLetters.contains
  match rest.drop lengthLetters.length with
  | [] =>
    ({ w.complain (s.missing ('%' :: t.source ++ lengthLetters)) s.invalidStatus with stopped := true }, [])
  | conversion :: behind =>
    let d := t.directive width precision conversion
    let nextText : Octets × Written := let (o, w) := w.take; (o.getD [], w)
    match conversion with
    | 's' => let (o, w) := nextText; (w.put (d.text o), behind)
    | 'c' => let (o, w) := nextText; (w.put (d.fill (o.headD '\x00' :: [])), behind)
    | 'b' =>
      let (o, w) := nextText
      let (o, ended) := s.argumentEscapes.unescape o
      ({ w.put (d.text o) with stopped := ended }, behind)
    | 'd' | 'i' => let (n, w) := integerArgument s true w; (w.put (d.signed n), behind)
    | 'o' | 'u' | 'x' | 'X' => let (n, w) := integerArgument s false w; (w.put (d.unsigned n), behind)
    | 'a' | 'A' | 'e' | 'E' | 'f' | 'F' | 'g' | 'G' => let (x, w) := floatArgument s w; (w.put (d.floating x), behind)
    | _ =>
      match conversion, s.quoted with
      | 'q', some quote => let (o, w) := nextText; (w.put (d.text (quote o)), behind)
      | _, _ =>
        let source := '%' :: t.source ++ lengthLetters ++ [conversion]
        ({ w.complain (s.invalid source) s.invalidStatus with stopped := true }, [])

/-- Writes one pass over a format. -/
def writeOnce (s : Style) : (fuel : Nat) → Octets → Written → Written
  | 0, _, w => w
  | _ + 1, [], w => w
  | fuel + 1, '\\' :: rest, w =>
    match s.formatEscapes.one rest with
    | none => { w with stopped := true }
    | some (o, rest) => writeOnce s fuel rest (w.put o)
  | fuel + 1, '%' :: '%' :: rest, w => writeOnce s fuel rest (w.put ['%'])
  | fuel + 1, '%' :: rest, w =>
    let (w, behind) := writeDirective s rest w
    if w.stopped then w else writeOnce s fuel behind w
  | fuel + 1, c :: rest, w => writeOnce s fuel rest (w.put [c])

/-- Writes passes over a format, until the arguments are used up. -/
def writeAll (s : Style) (format : Octets) : (fuel : Nat) → Written → Written
  | 0, w => w
  | fuel + 1, w =>
    let after := writeOnce s (format.length + 1) format w
    if after.stopped || after.args.isEmpty then after
    else if after.args.length = w.args.length then
      match s.excess, after.args with
      | some message, extra :: _ => { after with complaints := after.complaints ++ [message extra] }
      | _, _ => after
    else writeAll s format fuel after

def write (s : Style) (format : Octets) (args : List Octets) : Written := writeAll s format (args.length + 1) { args }

end GrammarStudio.Format
