import GrammarStudio.Number.Written
import GrammarStudio.Tools.Input

/-!
# The order of lines

* `Measure` — the ways to compare two texts;
* `Key`, `Key.cut` — the part of a line that is compared;
* `compareLines` — the order of two lines;
* `sortTool` — lines in their order.
-/

namespace GrammarStudio.Tools

open Machine Files Number

/-! ### Comparing texts -/

def compareOctets : Octets → Octets → Ordering
  | [], [] => .eq
  | [], _ :: _ => .lt
  | _ :: _, [] => .gt
  | a :: as, b :: bs => if a = b then compareOctets as bs else if a < b then .lt else .gt

/-- A decimal number at the front of a text: its sign, and its digits before and behind the point. -/
def leadingNumber (o : Octets) : Bool × Octets × Octets :=
  let o := o.dropWhile fun c => c = ' ' || c = '\t' || c = '\n'
  let (negative, o) := match o with
    | '-' :: rest => (true, rest)
    | o => (false, o)
  let whole := o.takeWhile Char.isDigit
  let part := match o.drop whole.length with
    | '.' :: rest => rest.takeWhile Char.isDigit
    | _ => []
  (negative, whole, part)

/-- The number of digits before and behind a point, as a fraction of so many places. -/
def scaled (places : Nat) (n : Bool × Octets × Octets) : Int :=
  let value := Octets.valueIn 10 (n.2.1 ++ n.2.2 ++ List.replicate (places - n.2.2.length) '0')
  if n.1 then -(value : Int) else value

def compareNumbers (a b : Bool × Octets × Octets) : Ordering :=
  let places := max a.2.2.length b.2.2.length
  compare (scaled places a) (scaled places b)

/-- The place of a multiplier among the letters of powers. -/
def powerOf (o : Octets) : Nat :=
  let o := o.dropWhile fun c => c = ' ' || c = '\t' || c = '\n'
  let o := if o.head? = some '-' then o.drop 1 else o
  let rest := (o.dropWhile Char.isDigit)
  let rest := match rest with
    | '.' :: rest => rest.dropWhile Char.isDigit
    | rest => rest
  match rest with
  | c :: _ => (((if c = 'k' then 'K' else c) |> powerLetters.idxOf?).map (· + 1)).getD 0
  | [] => 0

def compareHuman (a b : Octets) : Ordering :=
  let x := leadingNumber a
  let y := leadingNumber b
  let sign (n : Bool × Octets × Octets) : Int :=
    let v := scaled n.2.2.length n
    if v < 0 then -1 else if v > 0 then 1 else 0
  if sign x ≠ sign y then compare (sign x) (sign y)
  else
    let powers := compare (powerOf a) (powerOf b)
    let powers := if sign x < 0 then powers.swap else powers
    if powers ≠ .eq then powers else compareNumbers x y

/-- The names of months, as they begin. -/
def monthNames : List String :=
  ["JAN", "FEB", "MAR", "APR", "MAY", "JUN", "JUL", "AUG", "SEP", "OCT", "NOV", "DEC"]

def monthOf (o : Octets) : Nat :=
  let o := Octets.upper ((o.dropWhile fun c => c = ' ' || c = '\t').take 3)
  ((monthNames.idxOf? (String.ofList o)).map (· + 1)).getD 0

/-- The rank of a text among numbers with fractions: no number, no value, or a number. -/
def compareGeneral (a b : Octets) : Ordering :=
  let value (o : Octets) : Nat × Option Wide :=
    match Wide.read extended (o.dropWhile Octets.isSpace) with
    | none => (0, none)
    | some (.undefined _, _) => (1, none)
    | some (w, _) => (2, some w)
  match value a, value b with
  | (2, some x), (2, some y) => compareWide x y
  | (m, _), (n, _) => compare m n
where
  compareWide (x y : Wide) : Ordering :=
    let rank (w : Wide) : Int := match w with
      | .infinite negative => if negative then -1 else 1
      | _ => 0
    if rank x ≠ rank y || rank x ≠ 0 then compare (rank x) (rank y)
    else
      match x, y with
      | .finite a, .finite b => Wide.compare a b
      | _, _ => .eq

/-- The rank of a sign in names with versions: ends and digits first, then letters, then all others. -/
def versionRank (c : Option Char) : Int :=
  match c with
  | none => 0
  | some '~' => -1
  | some c => if c.isDigit then 0 else if c.isAlpha then c.toNat else c.toNat + 256

/-- Compares names with versions: texts and numbers in turn. -/
def compareVersionsOn : (fuel : Nat) → Octets → Octets → Ordering
  | 0, _, _ => .eq
  | fuel + 1, a, b =>
    if a.isEmpty && b.isEmpty then .eq
    else
      let rec texts : (fuel : Nat) → Octets → Octets → Ordering × Octets × Octets
        | 0, a, b => (.eq, a, b)
        | fuel + 1, a, b =>
          let open_ (o : Octets) : Bool := match o with
            | c :: _ => !c.isDigit
            | [] => false
          if open_ a || open_ b then
            let x := versionRank a.head?
            let y := versionRank b.head?
            if x ≠ y then (compare x y, a, b) else texts fuel a.tail b.tail
          else (.eq, a, b)
      let (first, a, b) := texts (a.length + b.length + 1) a b
      if first ≠ .eq then first
      else
        let digits (o : Octets) : Octets := o.takeWhile Char.isDigit
        let x := Octets.valueIn 10 (digits a)
        let y := Octets.valueIn 10 (digits b)
        if x ≠ y then compare x y
        else compareVersionsOn fuel (a.drop (digits a).length) (b.drop (digits b).length)

/-- A name without endings such as `.tar.gz`. -/
def withoutEndings (o : Octets) : Octets :=
  let rec go : (fuel : Nat) → Octets → Octets
    | 0, o => o
    | fuel + 1, o =>
      let ending := (o.reverse.takeWhile fun c => c.isAlphanum || c = '~').reverse
      let before := o.take (o.length - ending.length)
      match ending, before.getLast? with
      | c :: _, some '.' =>
        if (c.isAlpha || c = '~') && before.length > 1 then go fuel before.dropLast else o
      | _, _ => o
  go o.length o

def compareVersions (a b : Octets) : Ordering :=
  let special (o : Octets) : Nat := if o.isEmpty then 0 else if o = ['.'] then 1 else if o = ['.', '.'] then 2
    else if o.head? = some '.' then 3 else 4
  if special a ≠ special b || special a < 3 then compare (special a) (special b)
  else
    let x := withoutEndings a
    let y := withoutEndings b
    let n := a.length + b.length + 2
    let first := compareVersionsOn n x y
    if first ≠ .eq then first else compareVersionsOn n a b

/-! ### Keys -/

/-- How keys are compared. -/
inductive Measure where
  | octets
  | numeric
  | general
  | human
  | month
  | version
  | random
  deriving DecidableEq, Repr

structure Manner where
  measures : List Measure := []
  skipsBefore : Bool := false
  skipsAfter : Bool := false
  dictionary : Bool := false
  folds : Bool := false
  printable : Bool := false
  reverses : Bool := false
  deriving DecidableEq

def Manner.measure (m : Manner) : Measure := m.measures.head?.getD .octets

def Manner.isPlain (m : Manner) : Bool :=
  m.measures.isEmpty && !m.skipsBefore && !m.skipsAfter && !m.dictionary && !m.folds && !m.printable && !m.reverses

/-- The part of lines between a place and another.  Fields and characters count from zero; the end is behind so many
fields and characters. -/
structure Key where
  field : Nat := 0
  character : Nat := 0
  lastField : Option Nat := none
  lastCharacter : Nat := 0
  manner : Manner := {}

def isGap (c : Char) : Bool := c = ' ' || c = '\t' || c = '\n'

/-- Passes over so many fields. -/
def dropFields (separator : Option Char) : Nat → Octets → Octets
  | 0, o => o
  | n + 1, o =>
    match separator with
    | some c => dropFields separator n ((o.dropWhile (· ≠ c)).drop 1)
    | none => dropFields separator n ((o.dropWhile isGap).dropWhile (!isGap ·))

/-- What is left behind so many fields, where the separator of the last one stays unless more follows. -/
def dropLastFields (separator : Option Char) (more : Bool) : Nat → Octets → Octets
  | 0, o => o
  | n + 1, o =>
    match separator with
    | some c =>
      let rest := o.dropWhile (· ≠ c)
      dropLastFields separator more n (if n > 0 || more then rest.drop 1 else rest)
    | none => dropLastFields separator more n ((o.dropWhile isGap).dropWhile (!isGap ·))

/-- The part of a line that a key is about. -/
def Key.cut (k : Key) (separator : Option Char) (line : Octets) : Octets :=
  let begin_ := dropFields separator k.field line
  let begin_ := if k.manner.skipsBefore then begin_.dropWhile isGap else begin_
  let begin_ := begin_.drop k.character
  match k.lastField with
  | none => begin_
  | some last =>
    let rest := dropLastFields separator (k.lastCharacter > 0) (if k.lastCharacter = 0 then last + 1 else last) line
    let rest := if k.lastCharacter > 0 && k.manner.skipsAfter then rest.dropWhile isGap else rest
    let rest := if k.lastCharacter > 0 then rest.drop k.lastCharacter else rest
    begin_.take (begin_.length - rest.length)

def compareKeys (m : Manner) (a b : Octets) : Ordering :=
  let reduced (o : Octets) : Octets :=
    let o := if m.dictionary then o.filter fun c => c.isAlphanum || c = ' ' || c = '\t' else o
    let o := if m.printable then o.filter Octets.isPrint else o
    if m.folds then Octets.upper o else o
  let order := match m.measure with
    | .numeric => compareNumbers (leadingNumber a) (leadingNumber b)
    | .general => compareGeneral a b
    | .human => compareHuman a b
    | .month => compare (monthOf a) (monthOf b)
    | .version => compareVersions (reduced a) (reduced b)
    | .octets | .random => compareOctets (reduced a) (reduced b)
  if m.reverses then order.swap else order

/-- How lines are sorted. -/
structure Sorting where
  keys : List Key
  separator : Option Char := none
  /-- Lines whose keys are equal keep their order. -/
  stable : Bool := false
  unique : Bool := false
  reverses : Bool := false

def Sorting.compareByKeys (s : Sorting) (a b : Octets) : Ordering :=
  s.keys.foldl (fun order k => if order ≠ .eq then order else compareKeys k.manner (k.cut s.separator a) (k.cut s.separator b)) .eq

def Sorting.compareLines (s : Sorting) (a b : Octets) : Ordering :=
  let order := s.compareByKeys a b
  if order ≠ .eq then order
  else if !s.keys.isEmpty && (s.stable || s.unique) then .eq
  else
    let order := compareOctets a b
    if s.reverses then order.swap else order

/-! ### The tool -/

def mannerLetters : String := "bdfghiMnRrV"

/-- A manner with one more letter.  Blanks are skipped before or behind. -/
def Manner.add (m : Manner) (before after : Bool) (c : Char) : Manner :=
  match c with
  | 'b' => { m with skipsBefore := m.skipsBefore || before, skipsAfter := m.skipsAfter || after }
  | 'd' => { m with dictionary := true }
  | 'f' => { m with folds := true }
  | 'i' => { m with printable := true }
  | 'r' => { m with reverses := true }
  | 'g' => { m with measures := m.measures ++ [.general] }
  | 'h' => { m with measures := m.measures ++ [.human] }
  | 'M' => { m with measures := m.measures ++ [.month] }
  | 'n' => { m with measures := m.measures ++ [.numeric] }
  | 'R' => { m with measures := m.measures ++ [.random] }
  | _ => { m with measures := m.measures ++ [.version] }

/-- The letters of a manner that cannot go together. -/
def Manner.conflict? (m : Manner) : Option Octets :=
  let kinds := m.measures.eraseDups
  let has (x : Measure) : Bool := kinds.contains x
  let others := if has .version || has .random || m.dictionary || m.printable then 1 else 0
  let numbers := (kinds.filter fun x => x ≠ .version && x ≠ .random).length
  if numbers + others > 1 then
    some ((if m.dictionary then ['d'] else []) ++ (if m.folds then ['f'] else []) ++ (if has .general then ['g'] else []) ++
      (if has .human then ['h'] else []) ++ (if m.printable && !m.dictionary then ['i'] else []) ++ (if has .month then ['M'] else []) ++
      (if has .numeric then ['n'] else []) ++ (if has .random then ['R'] else []) ++ (if has .version then ['V'] else []))
  else none

/-- Reads a key: a place, letters, and perhaps one more place with letters. -/
def readKey (o : Octets) : Tool Key := do
  let bad {α : Type} (what : String) : Tool α :=
    giveUp (ascii what ++ ascii ": invalid field specification " ++ quoted o)
  let number (what : String) (s : Octets) : Tool (Nat × Octets) := do
    let digits := s.takeWhile Char.isDigit
    if digits.isEmpty then giveUp (ascii what ++ ascii ": invalid count at start of " ++ quoted s)
    return (min (Octets.valueIn 10 digits) largestAmount, s.drop digits.length)
  let letters (m : Manner) (before : Bool) (s : Octets) : Manner × Octets :=
    let own := s.takeWhile (mannerLetters.toList.contains ·)
    (own.foldl (fun m c => m.add before (!before) c) m, s.drop own.length)
  let (field, s) ← number "invalid number at field start" o
  if field = 0 then bad "field number is zero"
  let (character, s) ← (match s with
    | '.' :: rest => do
      let (n, s) ← number "invalid number after '.'" rest
      if n = 0 then bad "character offset is zero" else return (n - 1, s)
    | s => pure (0, s) : Tool (Nat × Octets))
  let (m, s) := letters {} true s
  match s with
  | ',' :: rest =>
    let (last, s) ← number "invalid number after ','" rest
    if last = 0 then bad "field number is zero"
    let (lastCharacter, s) ← (match s with
      | '.' :: rest => number "invalid number after '.'" rest
      | s => pure (0, s) : Tool (Nat × Octets))
    let (m, s) := letters m false s
    if !s.isEmpty then bad "stray character in field spec"
    return { field := field - 1, character, lastField := some (last - 1), lastCharacter, manner := m }
  | [] => return { field := field - 1, character, manner := m }
  | _ => bad "stray character in field spec"

/-- An old key, with a plus sign before its fields, which count from zero. -/
def oldKey? (o : Octets) : Option Octets :=
  match o with
  | '+' :: c :: rest =>
    if c.isDigit then
      let digits := (c :: rest).takeWhile Char.isDigit
      let behind := (c :: rest).drop digits.length
      let behind := match behind with
        | '.' :: more =>
          let n := more.takeWhile Char.isDigit
          '.' :: Octets.ofNat (Octets.valueIn 10 n + 1) ++ more.drop n.length
        | other => other
      some (Octets.ofNat (Octets.valueIn 10 digits + 1) ++ behind)
    else none
  | _ => none

/-- The separator that an argument names. -/
def separatorArgument (o : Octets) : Tool Char := do
  match o with
  | [] => giveUp (ascii "empty tab")
  | [c] => return c
  | ['\\', '0'] => return '\x00'
  | o => giveUp (ascii "multi-character tab " ++ quoted o)

/-- The lines of the inputs, each with its end. -/
def linesOf (ender : Char) (operands : List Octets) : Tool (List Octets) := do
  let mut all : List (List Octets) := []
  for name in inputsOf operands do
    let opened ← (if name = ['-'] then pure (.ok 0) else (Work.openToRead name : Work (Except Fault Nat)) : Tool (Except Fault Nat))
    match opened with
    | .error fault => giveUp (ascii "cannot read: " ++ nameAndReason name fault)
    | .ok d =>
      match ← content d with
      | .error fault => giveUp (ascii "read failed: " ++ nameAndReason name fault)
      | .ok o =>
        let (lines, rest) := cutLines ender o
        all := (if rest.isEmpty then lines else lines ++ [rest]).map (bare ender) :: all
      if d ≠ 0 then (Work.close d : Work Unit)
  return all.reverse.flatten

/-- The first line that is out of order, with its number. -/
def disorder? (s : Sorting) : (number : Nat) → List Octets → Option (Nat × Octets)
  | _, [] => none
  | _, [_] => none
  | n, a :: b :: rest =>
    let order := s.compareLines a b
    if order = .gt || (s.unique && order = .eq) then some (n + 1, b) else disorder? s (n + 1) (b :: rest)

/-- Lines without those whose keys are equal to those of the line before. -/
def withoutEquals (s : Sorting) : List Octets → List Octets
  | [] => []
  | a :: rest =>
    (rest.foldl (fun (kept, last) line => if s.compareLines last line = .eq then (kept, last) else (line :: kept, line))
      ([a], a)).1.reverse

/-- The words that some options take, with what they stand for. -/
def wordFor (option : String) (words : List (List String × Char)) (o : Octets) : Tool Char := do
  let all := words.flatMap fun w => w.1.map (·, w.2)
  match all.find? fun w => w.1.toList = o with
  | some w => return w.2
  | none =>
    match all.filter fun w => o.isPrefixOf w.1.toList with
    | [w] => return w.2
    | found =>
      complain (ascii (if found.isEmpty then "invalid" else "ambiguous") ++ ascii " argument " ++ quoted o ++ ascii " for " ++ quoted (ascii option))
      mutter (ascii "Valid arguments are:\n")
      for w in words do
        mutter (ascii "  - " ++ (ascii ", ").intercalate (w.1.map fun n => quoted n.toList) ++ ['\n'])
      modify fun c => { c with failure := 1 }
      pointToHelp

def sortTool (args : List Octets) : Tool Unit := do
  let args := args.flatMap fun a => match oldKey? a with
    | some key => [['-', 'k'], key]
    | none => [a]
  let (given, operands) ← options
    ["b|ignore-leading-blanks", "d|dictionary-order", "f|ignore-case", "g|general-numeric-sort", "h|human-numeric-sort",
      "i|ignore-nonprinting", "M|month-sort", "n|numeric-sort", "R|random-sort", "r|reverse", "V|version-sort", "sort=",
      "batch-size=", "c", "check=?", "C", "compress-program=", "debug", "files0-from=", "k|key=", "m|merge", "o|output=",
      "s|stable", "S|buffer-size=", "t|field-separator=", "T|temporary-directory=", "u|unique", "parallel=",
      "random-source=", "z|zero-terminated"] args
  let mut m : Manner := {}
  let mut keys : List Key := []
  let mut separator : Option Char := none
  for (name, o) in given do
    match name.toList with
    | [c] =>
      if mannerLetters.toList.contains c then m := m.add true true c
      else if c = 'k' then keys := keys ++ [← readKey o]
      else if c = 't' then
        let sep ← separatorArgument o
        if separator.any (· ≠ sep) then giveUp (ascii "incompatible tabs")
        separator := some sep
    | _ =>
      if name = "sort" then
        let c ← wordFor "--sort" [(["general-numeric"], 'g'), (["human-numeric"], 'h'), (["month"], 'M'), (["numeric"], 'n'),
          (["random"], 'R'), (["version"], 'V')] o
        m := m.add true true c
  let checking ← (match given.lastOf ["c", "check", "C"] with
    | some "check" => do
      match (given.value? "check").getD [] with
      | [] => return some false
      | o =>
        let w ← wordFor "--check" [(["quiet", "silent"], 'C'), (["diagnose-first"], 'c')] o
        return some (w = 'C')
    | some letter => pure (some (letter = "C"))
    | none => pure none : Tool (Option Bool))
  let inherited := keys.map fun k => if k.manner.isPlain then { k with manner := m } else k
  let inherited := if inherited.isEmpty && !(m.isPlain || m = { reverses := true }) then [{ manner := m }] else inherited
  for k in inherited do
    match k.manner.conflict? with
    | some letters => giveUp (ascii "options '-" ++ letters ++ ascii "' are incompatible")
    | none => pure ()
  let s : Sorting := { keys := inherited, separator, stable := given.has "s", unique := given.has "u", reverses := m.reverses }
  let ender := if given.has "z" then '\x00' else '\n'
  match checking with
  | some quiet =>
    match operands with
    | _ :: extra :: _ => giveUp (ascii "extra operand " ++ quoted extra ++ ascii (if quiet then " not allowed with -C" else " not allowed with -c"))
    | _ =>
      let lines ← linesOf ender operands
      match disorder? s 1 lines with
      | none => return
      | some (n, line) =>
        if !quiet then complain ((operands.head?.getD ['-']) ++ ':' :: Octets.ofNat n ++ ascii ": disorder: " ++ line)
        finish 1
  | none =>
    let lines ← linesOf ender operands
    let sorted := lines.mergeSort fun a b => s.compareLines a b ≠ .gt
    let sorted := if s.unique then withoutEquals s sorted else sorted
    match given.value? "o" with
    | some path =>
      match ← (Work.openToWrite path : Work (Except Fault Nat)) with
      | .error fault => giveUp (ascii "open failed: " ++ nameAndReason path fault)
      | .ok d => (Work.put d (sorted.flatMap fun l => l ++ [ender]) : Work Unit)
    | none =>
      for line in sorted do
        say (line ++ [ender])

end GrammarStudio.Tools
