import GrammarStudio.Regex.Basic

/-!
# Reading regular expressions

There are two ways to write regular expressions: in the basic one the operators but for the star need a backslash, in
the extended one a backslash takes their meaning from them.

* `Flavour` — a way to write expressions;
* `Fault`, `Fault.message` — why a text is no expression;
* `read` — the expression that a text writes.
-/

namespace GrammarStudio.Regex

/-- What a repetition sign means where there is nothing to be repeated. -/
inductive Dangling where
  | itself
  | nothing
  | fault
  deriving DecidableEq, Repr

structure Flavour where
  extended : Bool
  /-- A backslash with a letter names a character, between brackets as well. -/
  spelled : Bool := false
  /-- A backslash with a letter names a class or a border. -/
  classes : Bool := true
  dangling : Dangling := .itself
  /-- A brace that begins no count stands for itself. -/
  looseBraces : Bool := false
  /-- There are no counts, and each brace stands for itself. -/
  plainBraces : Bool := false
  /-- A parenthesis that closes nothing stands for itself. -/
  looseClosing : Bool := false
  /-- Each branch has to say something. -/
  fullBranches : Bool := false
  /-- A count where nothing can be repeated is a fault. -/
  leadingBrace : Bool := false
  /-- Borders of lines are looked for everywhere, and no set has a line feed. -/
  perLine : Bool := false
  ignoresCase : Bool := false

inductive Fault where
  | openGroup
  | closedGroup
  | openBracket
  | openBrace
  | badCount
  /-- The greater count comes first. -/
  | wrongOrder
  | tooBig
  | nothingToRepeat
  | badRange
  | badClass
  | trailingBackslash
  | badReference
  | badCollation
  | badPattern
  deriving DecidableEq, Repr

def Fault.message : Fault → String
  | .openGroup => "Unmatched ( or \\("
  | .closedGroup => "Unmatched ) or \\)"
  | .openBracket => "Unmatched [, [^, [:, [., or [="
  | .openBrace => "Unmatched \\\x7b"
  | .badCount | .wrongOrder => "Invalid content of \\\x7b\\\x7d"
  | .tooBig => "Regular expression too big"
  | .nothingToRepeat => "Invalid preceding regular expression"
  | .badRange => "Invalid range end"
  | .badClass => "Invalid character class name"
  | .trailingBackslash => "Trailing backslash"
  | .badReference => "Invalid back reference"
  | .badCollation => "Invalid collation character"
  | .badPattern => "Invalid regular expression"

/-! ### Between brackets -/

/-- The character that a letter behind a backslash names. -/
def spelledChar? : Char → Option Char
  | 'n' => some '\n'
  | 't' => some '\t'
  | 'r' => some '\r'
  | 'a' => some '\x07'
  | 'b' => some '\x08'
  | 'f' => some '\x0c'
  | 'v' => some '\x0b'
  | _ => none

/-- An octal number of up to three digits. -/
def octal (s : List Char) : Nat × List Char :=
  let digits := (s.take 3).takeWhile fun c => '0' ≤ c && c ≤ '7'
  (digits.foldl (fun n c => n * 8 + (c.toNat - 48)) 0 % 256, s.drop digits.length)

/-- A character that a backslash spells, or the one behind it. -/
def spelled : List Char → Char × List Char
  | [] => ('\\', [])
  | c :: rest =>
    match spelledChar? c with
    | some d => (d, rest)
    | none =>
      if '0' ≤ c && c ≤ '7' then
        let (n, rest) := octal (c :: rest)
        (Char.ofNat n, rest)
      else (c, rest)

/-- The text up to two closing signs such as `:]`. -/
def untilPair (mark : Char) : List Char → Option (List Char × List Char)
  | c :: ']' :: rest => if c = mark then some ([], rest) else (untilPair mark (']' :: rest)).map fun (t, r) => (c :: t, r)
  | c :: rest => (untilPair mark rest).map fun (t, r) => (c :: t, r)
  | [] => none

/-- One end of a range, or a whole class. -/
inductive Item where
  | char (c : Char)
  | ranges (rs : List (Char × Char))

def item (f : Flavour) : List Char → Except Fault (Item × List Char)
  | [] => .error .openBracket
  | '[' :: mark :: rest =>
    if mark = ':' || mark = '=' || mark = '.' then
      match untilPair mark rest with
      | none => .error .openBracket
      | some (name, rest) =>
        if mark = ':' then
          match CharSet.named? (String.ofList name) with
          | some rs => .ok (.ranges rs, rest)
          | none => .error .badClass
        else
          match name with
          | [c] => .ok (if mark = '=' then .ranges [(c, c)] else .char c, rest)
          | _ => .error .badCollation
    else .ok (.char '[', mark :: rest)
  | '\\' :: rest =>
    if f.spelled && !rest.isEmpty then
      let (c, rest) := spelled rest
      .ok (.char c, rest)
    else .ok (.char '\\', rest)
  | c :: rest => .ok (.char c, rest)

/-- The ranges up to the closing bracket, which stands for itself at the beginning. -/
def items (f : Flavour) : (fuel : Nat) → (first : Bool) → List Char → Except Fault (List (Char × Char) × List Char)
  | 0, _, _ => .error .openBracket
  | _, _, [] => .error .openBracket
  | fuel + 1, first, c :: rest =>
    if c = ']' && !first then .ok ([], rest)
    else do
      let (a, rest) ← item f (c :: rest)
      match a, rest with
      | .char a, '-' :: d :: more =>
        if d = ']' then
          let (rs, rest) ← items f fuel false rest
          .ok ((a, a) :: rs, rest)
        else do
          match ← item f (d :: more) with
          | (.char b, rest) =>
            if b < a then .error .badRange
            else
              let (rs, rest) ← items f fuel false rest
              .ok ((a, b) :: rs, rest)
          | (.ranges _, _) => .error .badRange
      | .char a, rest =>
        let (rs, rest) ← items f fuel false rest
        .ok ((a, a) :: rs, rest)
      | .ranges own, rest =>
        let (rs, rest) ← items f fuel false rest
        .ok (own ++ rs, rest)

/-- What stands behind an opening bracket. -/
def bracket (f : Flavour) (s : List Char) : Except Fault (Expr × List Char) := do
  let (negated, inner) := match s with
    | '^' :: inner => (true, inner)
    | inner => (false, inner)
  if inner.isEmpty then throw .badPattern
  let (rs, rest) ← items f (inner.length + 1) true inner
  .ok (.set ⟨if negated && f.perLine then ('\n', '\n') :: rs else rs, negated⟩, rest)

/-! ### Counts -/

def natFrom (s : List Char) : Option Nat × List Char :=
  let digits := s.takeWhile Char.isDigit
  (if digits.isEmpty then none else some (digits.foldl (fun n c => n * 10 + (c.toNat - 48)) 0), s.drop digits.length)

/-- A count behind its opening brace. -/
def count (f : Flavour) (s : List Char) : Except Fault (Nat × Option Nat × List Char) :=
  let closed (least : Nat) (most : Option Nat) (rest : List Char) : Except Fault (Nat × Option Nat × List Char) :=
    match f.extended, rest with
    | true, '\x7d' :: rest => .ok (least, most, rest)
    | false, '\\' :: '\x7d' :: rest => .ok (least, most, rest)
    | _, [] => .error .openBrace
    | _, _ => .error .badCount
  let checked : Except Fault (Nat × Option Nat × List Char) → Except Fault (Nat × Option Nat × List Char)
    | .ok (least, most, rest) =>
      if most.any (· < least) then .error .wrongOrder
      else if least > 32767 || most.any (· > 32767) then .error .tooBig
      else .ok (least, most, rest)
    | fault => fault
  match natFrom s with
  | (least, ',' :: rest) =>
    let (most, rest) := natFrom rest
    checked (closed (least.getD 0) most rest)
  | (some n, rest) => checked (closed n (some n) rest)
  | (none, []) => .error .openBrace
  | (none, _) => .error .badCount

/-! ### Expressions -/

/-- What a backslash in front of a character means. -/
def escaped (f : Flavour) (c : Char) : Option Expr :=
  if f.classes then
    match c with
    | 'w' => some (.set ⟨CharSet.wordRanges, false⟩)
    | 'W' => some (.set ⟨CharSet.wordRanges, true⟩)
    | 's' => some (.set ⟨CharSet.spaceRanges, false⟩)
    | 'S' => some (.set ⟨CharSet.spaceRanges, true⟩)
    | 'b' => some (.border .wordEdge)
    | 'B' => some (.border .noWordEdge)
    | '<' => some (.border .wordStart)
    | '>' => some (.border .wordEnd)
    | '\x60' => some (.border .textStart)
    | '\'' => some (.border .textEnd)
    | _ => none
  else none

def lineStart (f : Flavour) : Expr := .border (if f.perLine then .lineStart else .textStart)

def lineEnd (f : Flavour) : Expr := .border (if f.perLine then .lineEnd else .textEnd)

def anyChar (f : Flavour) : Expr := .set ⟨if f.perLine then [('\n', '\n')] else [], true⟩

/-- Does a branch end here? -/
def endsBranch (f : Flavour) (inGroup : Bool) : List Char → Bool
  | [] => true
  | '|' :: _ => f.extended
  | ')' :: _ => f.extended && inGroup
  | '\\' :: '|' :: _ => !f.extended
  | '\\' :: ')' :: _ => !f.extended && inGroup
  | _ => false

/-- The repetition at the front: its counts, and what is behind it.  `none` means that there is none. -/
def repetition (f : Flavour) : List Char → Except Fault (Option (Nat × Option Nat) × List Char)
  | '*' :: rest => .ok (some (0, none), rest)
  | s@('+' :: rest) => .ok (if f.extended then (some (1, none), rest) else (none, s))
  | s@('?' :: rest) => .ok (if f.extended then (some (0, some 1), rest) else (none, s))
  | s@('\x7b' :: rest) =>
    if !f.extended || f.plainBraces then .ok (none, s)
    else
      match count f rest with
      | .ok (least, most, rest) => .ok (some (least, most), rest)
      | .error fault => if f.looseBraces && (fault = .openBrace || fault = .badCount) then .ok (none, s) else .error fault
  | s@('\\' :: c :: rest) =>
    if f.extended then .ok (none, s)
    else if c = '+' then .ok (some (1, none), rest)
    else if c = '?' then .ok (some (0, some 1), rest)
    else if c = '\x7b' then do
      let (least, most, rest) ← count f rest
      .ok (some (least, most), rest)
    else .ok (none, s)
  | s => .ok (none, s)

/-- All repetitions behind an expression. -/
def repeated (f : Flavour) : (fuel : Nat) → Expr → List Char → Except Fault (Expr × List Char)
  | 0, e, s => .ok (e, s)
  | fuel + 1, e, s => do
    match ← repetition f s with
    | (none, rest) => .ok (e, rest)
    | (some (least, most), rest) => repeated f fuel (.times least most true e) rest

mutual

/-- Branches up to the end of the group.  `opened` is how many groups have begun, and `closed` which have ended. -/
def branches (f : Flavour) : (fuel : Nat) → (depth opened : Nat) → List Char → Except Fault (Expr × Nat × List Char)
  | 0, _, _, _ => .error .tooBig
  | fuel + 1, depth, opened, s => do
    let (e, opened, rest) ← pieces f fuel depth opened true .empty s
    if f.fullBranches && !rest.isEmpty && rest.length = s.length then throw .nothingToRepeat
    match f.extended, rest with
    | true, '|' :: rest => do
      if f.fullBranches && rest.isEmpty then throw .nothingToRepeat
      let (d, opened, rest) ← branches f fuel depth opened rest
      .ok (.either e d, opened, rest)
    | false, '\\' :: '|' :: rest => do
      let (d, opened, rest) ← branches f fuel depth opened rest
      .ok (.either e d, opened, rest)
    | _, rest => .ok (e, opened, rest)

/-- The pieces of a branch, behind those that are there. -/
def pieces (f : Flavour) :
    (fuel : Nat) → (depth opened : Nat) → (first : Bool) → Expr → List Char → Except Fault (Expr × Nat × List Char)
  | 0, _, _, _, _, _ => .error .tooBig
  | fuel + 1, depth, opened, first, before, s =>
    if endsBranch f (depth > 0) s then .ok (before, opened, s)
    else do
      -- a repetition sign where nothing can be repeated
      let start ← if first then repetition f s else .ok (none, s)
      match start, f.dangling, s with
      | (some _, rest), .nothing, _ => pieces f fuel depth opened true before rest
      | (some _, _), .fault, _ => .error .nothingToRepeat
      | (some _, _), .itself, '\\' :: c :: rest =>
        if c = '\x7b' && f.leadingBrace then .error .nothingToRepeat
        else do
          let (e, rest) ← repeated f fuel (.set (.single c)) rest
          pieces f fuel depth opened false (.seq before e) rest
      | (some _, _), .itself, c :: rest => do
        let (e, rest) ← repeated f fuel (.set (.single c)) rest
        pieces f fuel depth opened false (.seq before e) rest
      | _, _, _ => do
        let (e, opened, stillFirst, rest) ← atom f fuel depth opened first s
        if stillFirst then pieces f fuel depth opened true (.seq before e) rest
        else do
          let (e, rest) ← repeated f (rest.length + 1) e rest
          pieces f fuel depth opened false (.seq before e) rest

/-- One thing that can be repeated, or a border that cannot. -/
def atom (f : Flavour) :
    (fuel : Nat) → (depth opened : Nat) → (first : Bool) → List Char → Except Fault (Expr × Nat × Bool × List Char)
  | 0, _, _, _, _ => .error .tooBig
  | fuel + 1, depth, opened, first, s => do
    let group (rest : List Char) : Except Fault (Expr × Nat × Bool × List Char) := do
      let number := opened + 1
      let (e, opened, rest) ← branches f fuel (depth + 1) number rest
      match f.extended, rest with
      | true, ')' :: rest => .ok (.group number e, opened, false, rest)
      | false, '\\' :: ')' :: rest => .ok (.group number e, opened, false, rest)
      | _, _ => .error .openGroup
    match s with
    | [] => .ok (.empty, opened, false, [])
    | '[' :: rest => do
      let (e, rest) ← bracket f rest
      .ok (e, opened, false, rest)
    | '.' :: rest => .ok (anyChar f, opened, false, rest)
    | '^' :: rest =>
      if f.extended then .ok (lineStart f, opened, f.dangling ≠ .itself, rest)
      else if first then .ok (lineStart f, opened, true, rest)
      else .ok (.set (.single '^'), opened, false, rest)
    | '$' :: rest =>
      if f.extended || endsBranch f (depth > 0) rest then .ok (lineEnd f, opened, false, rest)
      else .ok (.set (.single '$'), opened, false, rest)
    | '(' :: rest => if f.extended then group rest else .ok (.set (.single '('), opened, false, rest)
    | ['\\'] => .error .trailingBackslash
    | '\\' :: c :: rest =>
      if c = '(' && !f.extended then group rest
      else if c = ')' && !f.extended then .error .closedGroup
      else if '1' ≤ c && c ≤ '9' && !f.spelled then
        let n := c.toNat - 48
        if n > opened then .error .badReference else .ok (.again n, opened, false, rest)
      else
        match escaped f c with
        | some e => .ok (e, opened, false, rest)
        | none =>
          if f.spelled then
            let (c, rest) := spelled (c :: rest)
            .ok (.set (.single c), opened, false, rest)
          else .ok (.set (.single c), opened, false, rest)
    | c :: rest =>
      if c = ')' && f.extended && depth = 0 && f.dangling ≠ .nothing && !f.looseClosing then .error .closedGroup
      else .ok (.set (.single c), opened, false, rest)

end

/-- The expression that a text writes. -/
def read (f : Flavour) (s : List Char) : Except Fault Expr := do
  let (e, _, rest) ← branches f (4 * s.length + 8) 0 0 s
  if rest.isEmpty then .ok e else .error .closedGroup

/-- A finder for what a text writes. -/
def Finder.ofText (f : Flavour) (s : List Char) : Except Fault Finder := do
  .ok ((← read f s).toFinder f.ignoresCase)

end GrammarStudio.Regex
