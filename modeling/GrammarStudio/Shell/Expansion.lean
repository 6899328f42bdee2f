import GrammarStudio.Shell.Arithmetic
import GrammarStudio.Shell.Pattern
import GrammarStudio.Shell.Spawn
import GrammarStudio.Shell.State

/-!
# Putting in

A word becomes fields: parameters, outputs of scripts and values of expressions are put in, what was put in without
quotes is split, and what then is a pattern gives the files that it fits.

* `Fields` — fields, while they are built;
* `Fields.addSplit` — adds a value and ends fields where separators stand in it;
* `filesOf` — the files of a field that is a pattern;
* `evaluateText` — the value of an expression;
* `addParts` — the fields of parts, behind those that are there;
* `expand` — the fields of a word;
* `joined`, `patternOf` — a word as one text, or as a pattern, where nothing is split.
-/

namespace GrammarStudio.Shell

open Machine Files

/-! ### Fields -/

/-- Fields that are complete, the latest first, and the one that is not. -/
structure Fields where
  done : List Marked := []
  current : Option Marked := none
  /-- A blank has ended the last field, and a separator behind it ends nothing more. -/
  afterBlank : Bool := false

namespace Fields

/-- Goes on with the current field, or begins one. -/
def add (f : Fields) (m : Marked) : Fields := { f with current := some (f.current.getD [] ++ m), afterBlank := false }

/-- Ends the current field, if there is one. -/
def finish (f : Fields) : Fields :=
  match f.current with
  | some m => { done := m :: f.done, current := none }
  | none => { f with afterBlank := false }

/-- Adds a character that may be a separator.  Blanks never make an empty field. -/
def addChar (separators : Octets) (f : Fields) (c : Char) : Fields :=
  if !separators.contains c then f.add [(c, false)]
  else if Octets.isBlank c then (if f.current.isSome then { f.finish with afterBlank := true } else f)
  else if f.current.isSome then f.finish
  else if f.afterBlank then { f with afterBlank := false }
  else (f.add []).finish

def addSplit (separators : Octets) (f : Fields) (o : Octets) : Fields := o.foldl (addChar separators) f

def all (f : Fields) : List Marked := f.finish.done.reverse

end Fields

/-! ### Files of a pattern -/

/-- Cuts a marked text at its slashes. -/
def pathSteps (m : Marked) : List Marked :=
  m.foldr (fun x steps =>
    match steps with
    | [] => [[x]]
    | step :: others => if x.1 = '/' then [] :: step :: others else (x :: step) :: others) [[]]

def isThere (path : Octets) : Work Bool := do
  match ← Work.ask (.inspect path false) with
  | .ok _ => return true
  | .error _ => return false

mutual

/-- The names that fit the steps of a path, from a place that is spelled `before`. -/
def namesOfPath (hiddenToo dotsToo : Bool) : List Marked → (before : Octets) → Work (List Octets)
  | [], before => return [before]
  | step :: rest, before => do
    let slash : Octets := if rest.isEmpty then [] else ['/']
    if Pattern.isPattern step then
      match ← Work.ask (.list (if before.isEmpty then ['.'] else before)) with
      | .error _ => return []
      | .ok names =>
        let pattern := Pattern.ofMarked step
        let startsHidden := step.head? == some ('.', false) || step.head? == some ('.', true)
        let names := (if startsHidden && dotsToo then [['.'], ['.', '.']] else []) ++ names
        let fitting := names.filter fun n => (hiddenToo || startsHidden || n.head? ≠ some '.') && pattern.matches n
        namesOfAll hiddenToo dotsToo rest before slash (fitting.mergeSort fun a b => !(b < a))
    else
      let path := before ++ (Pattern.literal step) ++ slash
      if rest.isEmpty then (do if step.isEmpty || (← isThere path) then return [path] else return [])
      else namesOfPath hiddenToo dotsToo rest path

def namesOfAll (hiddenToo dotsToo : Bool) (rest : List Marked) (before slash : Octets) : List Octets → Work (List Octets)
  | [] => return []
  | name :: others => do
    let path := before ++ name ++ slash
    let own ← (do
      if rest.isEmpty then return [path]
      else
        match ← Work.ask (.inspect path true) with
        | .ok info => if info.kind = .directory then namesOfPath hiddenToo dotsToo rest path else return []
        | .error _ => return [])
    return own ++ (← namesOfAll hiddenToo dotsToo rest before slash others)

end

/-- The files of a field that is a pattern: with those that begin with a point, and with the directory itself and the
one above it, where that is asked for. -/
def filesOf (hiddenToo dotsToo : Bool) (m : Marked) : Work (List Octets) :=
  match pathSteps m with
  | [] :: steps =>
    if steps.isEmpty then return [] else namesOfPath hiddenToo dotsToo (steps.dropWhile List.isEmpty) ['/']
  | steps => namesOfPath hiddenToo dotsToo steps []

/-! ### Expressions -/

/-- The variable or item that a name in an expression stands for. -/
def lookPlace (s : State) (index : Octets → Option Int) (name : Octets) : Option Octets :=
  let base := name.takeWhile (· ≠ '[')
  if base.length = name.length then
    match Octets.nat? name with
    | some _ => s.param? name
    | none => s.lookUp name
  else
    let inner := (name.drop (base.length + 1)).dropLast
    match s.value? base with
    | some (.map items) => items.lookup inner
    | some (.list items) => do items.lookup (← index inner).toNat
    | some (.text o) => do if (← index inner) = 0 then some o else none
    | none => none

/-- Sets what a name in an expression stands for. -/
def assignPlace (s : State) (index : Octets → Option Int) (name value : Octets) : Sh Unit := do
  let base := name.takeWhile (· ≠ '[')
  if base.length = name.length then assignText name value
  else
    let inner := (name.drop (base.length + 1)).dropLast
    match s.value? base with
    | some (.map items) => assignValue base (.map (items.filter (·.1 ≠ inner) ++ [(inner, value)]))
    | some (.list items) => assignValue base (.list (putItem ((index inner).getD 0).toNat value items))
    | some (.text o) => assignValue base (.list (putItem ((index inner).getD 0).toNat value [(0, o)]))
    | none => assignValue base (.list [(((index inner).getD 0).toNat, value)])

/-- The number an index stands for, as far as it can be known without anything being set. -/
def indexNumber (s : State) : (depth : Nat) → Octets → Option Int
  | 0, _ => none
  | depth + 1, text =>
    match Arithmetic.evaluate true (lookPlace s (indexNumber s depth)) text with
    | .ok (n, _) => some n
    | .error _ => none

/-- The value of an expression.  `command` is the name under which it complains. -/
def evaluateText (text : Octets) : Sh Int := do
  let s ← get
  let rich := s.dialect = .rich
  let index := indexNumber s 8
  match Arithmetic.evaluate rich (lookPlace s index) text with
  | .ok (n, assigned) =>
    for (name, value) in assigned.reverse do
      assignPlace (← get) index name (Octets.ofInt value)
    return n
  | .error fault => failWith (if rich then fault.richMessage text else fault.message text)

/-! ### Values -/

/-- What a parameter stands for: one text or none, or several. -/
inductive Got where
  | one (o : Option Octets)
  | many (items : List Octets) (star : Bool)

def Got.isUsable (g : Got) (emptyToo : Bool) : Bool :=
  match g with
  | .one (some o) => !(emptyToo && o.isEmpty)
  | .one none => false
  | .many items _ => !items.isEmpty && !(emptyToo && items.all List.isEmpty)

/-- The words between quotes that a shell would read as the text. -/
def quotedText (o : Octets) : Octets :=
  if o.any fun c => c < ' ' || c ≥ '\x7f' then
    ascii "$'" ++ o.flatMap (fun c =>
      match c with
      | '\n' => ascii "\\n"
      | '\t' => ascii "\\t"
      | '\r' => ascii "\\r"
      | '\x07' => ascii "\\a"
      | '\x08' => ascii "\\b"
      | '\x0c' => ascii "\\f"
      | '\x0b' => ascii "\\v"
      | '\x1b' => ascii "\\E"
      | '\'' => ascii "\\'"
      | '\\' => ascii "\\\\"
      | c => if c < ' ' || c ≥ '\x7f' then '\\' :: Octets.padLeftWith '0' 3 (Octets.inBase 8 c.toNat) else [c]) ++ ['\'']
  else '\'' :: o.flatMap (fun c => if c = '\'' then ascii "'\\''" else [c]) ++ ['\'']

/-- A text with some letters in the other case: the first or all of those that fit a pattern. -/
def recased (upper all : Bool) (pattern : Option Pattern) (o : Octets) : Octets :=
  let fits (c : Char) : Bool := match pattern with
    | some p => p.matches [c]
    | none => true
  let change (c : Char) : Char := if fits c then (if upper then c.toUpper else c.toLower) else c
  match o with
  | [] => []
  | c :: rest => change c :: (if all then rest.map change else rest)

/-- The longest part that fits at the front, if any does. -/
def fitAtFront (p : Pattern) (o : Octets) : Option Nat := ((List.range (o.length + 1)).reverse).find? fun n => p.matches (o.take n)

/-- A text with another text for the first place where a pattern fits, or for all. -/
def replaced (p : Pattern) (other : Octets) (all : Bool) : (fuel : Nat) → Octets → Octets
  | 0, o => o
  | fuel + 1, o =>
    match fitAtFront p o, o with
    | some (n + 1), o =>
      let rest := o.drop (n + 1)
      other ++ (if all then (if rest.isEmpty then [] else replaced p other all fuel rest) else rest)
    | _, [] => []
    | _, c :: rest => c :: replaced p other all fuel rest

/-- The places of a section in something so long: where it begins and how long it is.  `none` means that the length
makes no sense. -/
def sectionOf (size : Nat) (offset : Int) (length : Option Int) : Option (Nat × Nat) :=
  let start : Int := if offset < 0 then size + offset else offset
  if start < 0 || start > size then some (0, 0)
  else
    match length with
    | none => some (start.toNat, size - start.toNat)
    | some n =>
      let stop : Int := if n < 0 then size + n else start + n
      if stop < start then none else some (start.toNat, (stop - start).toNat)

/-! ### Parts -/

/-- How parts are put together. -/
structure Manner where
  /-- Do values fall into several fields? -/
  splits : Bool
  /-- Does that hold of the plain text too? -/
  splitsText : Bool := false

def textOf (f : Fields) : Marked := f.current.getD []

/-- Adds a value: split unless it is quoted, or unless nothing is split here. -/
def addValue (m : Manner) (quoted : Bool) (o : Octets) (f : Fields) : Sh Fields := do
  if quoted then return f.add (Marked.quoted o)
  else if m.splits then return f.addSplit (← get).separators o
  else return if o.isEmpty then f else f.add (Marked.unquoted o)

/-- Adds several values: between them a field ends. -/
def addItems (m : Manner) (quoted : Bool) (f : Fields) : List Octets → Sh Fields
  | [] => pure f
  | [a] => addValue m quoted a f
  | a :: rest => do addItems m quoted (← addValue m quoted a f).finish rest

/-- Adds what a parameter stands for. -/
def addGot (m : Manner) (quoted : Bool) (f : Fields) : Got → Sh Fields
  | .one o => addValue m quoted (o.getD []) f
  | .many items star => do
    let between := match (← get).lookUp (ascii "IFS") with
      | some o => o.take 1
      | none => [' ']
    if !m.splits then addValue m quoted ((if star then between else [' ']).intercalate items) f
    else if quoted && star then addValue m true (between.intercalate items) f
    else addItems m quoted f items

/-- The home of a user. -/
def homeOf (s : State) (user : Octets) : Option Octets :=
  if user.isEmpty then s.lookUp (ascii "HOME")
  else if user = ascii "root" then some (ascii "/root")
  else if user = ['+'] && s.dialect = .rich then some s.here
  else if user = ['-'] && s.dialect = .rich then s.lookUp (ascii "OLDPWD")
  else none

/-- A word with a tilde at its front replaced by a home. -/
def withHome (s : State) (colonEnds : Bool) : Word → Word
  | .text ('~' :: o) false :: rest =>
    let user := o.takeWhile fun c => c ≠ '/' && !(colonEnds && c = ':')
    let after := o.drop user.length
    if after.isEmpty && !rest.isEmpty then .text ('~' :: o) false :: rest
    else
      match homeOf s user with
      | some home => .text home true :: (if after.isEmpty then rest else .text after false :: rest)
      | none => .text ('~' :: o) false :: rest
  | w => w

/-- The same, and also behind the name and the sign of an assignment. -/
def withHomes (s : State) : Word → Word
  | .text o false :: rest =>
    let name := o.takeWhile isNameChar
    match o.drop name.length with
    | '=' :: '~' :: more =>
      if s.dialect = .rich && isName name then .text (name ++ ['=']) false :: withHome s true (.text ('~' :: more) false :: rest)
      else withHome s false (.text o false :: rest)
    | _ => withHome s false (.text o false :: rest)
  | w => w

/-- Complains about a parameter that has no value. -/
def unset {α : Type} (name : Octets) : Sh α := do
  if ← isRichShell then
    complain ((if name.all Char.isDigit then ['$'] else []) ++ name ++ ascii ": unbound variable")
    throw (.leave (if (← get).isSubshell then 1 else 127))
  else failWith (name ++ ascii ": parameter not set")

/-- The name of an item, for complaints. -/
def placeName (name : Octets) (index : Option Octets) : Octets :=
  match index with
  | some i => name ++ '[' :: i ++ [']']
  | none => name

def isAllIndex : Option Word → Option Bool
  | some [.text ['@'] _] => some false
  | some [.text ['*'] _] => some true
  | _ => none

mutual

/-- The fields of parts, behind those that are there.  Where nothing splits there is at most one. -/
def addParts (r : Runner) : (fuel : Nat) → Manner → Fields → Word → Sh Fields
  | 0, _, f, _ => pure f
  | _ + 1, _, f, [] => pure f
  | fuel + 1, m, f, part :: rest => do
    let f ← addPart r fuel m f part
    addParts r fuel m f rest

/-- Parts as one marked text. -/
def marked (r : Runner) : (fuel : Nat) → Word → Sh Marked
  | 0, _ => pure []
  | fuel + 1, w => do return textOf (← addParts r fuel { splits := false } {} w)

/-- The item of a variable at an index. -/
def itemAt (r : Runner) : (fuel : Nat) → Octets → Word → Sh (Option Octets × Octets)
  | 0, _, _ => pure (none, [])
  | fuel + 1, name, index => do
    let own := (← marked r fuel index).octets
    match (← get).value? name with
    | some (.map items) => return (items.lookup own, own)
    | value =>
      let n ← evaluateText own
      match value with
      | some (.list items) =>
        let n := if n < 0 then n + 1 + ((items.getLast?.map Prod.fst).getD 0 : Nat) else n
        return (if n < 0 then none else items.lookup n.toNat, own)
      | some (.text o) => return (if n = 0 || n = -1 then some o else none, own)
      | _ => return (none, own)

/-- What a parameter stands for, and how it is called. -/
def got (r : Runner) : (fuel : Nat) → Octets → Option Word → Sh (Got × Octets)
  | 0, name, _ => pure (.one none, name)
  | fuel + 1, name, index => do
    let s ← get
    match index with
    | none =>
      if name = ['@'] then return (.many s.args false, name)
      else if name = ['*'] then return (.many s.args true, name)
      else return (.one (s.param? name), name)
    | some w =>
      match isAllIndex index with
      | some star => return (.many (((s.value? name).map Value.all).getD []) star, name)
      | none =>
        let (o, own) ← itemAt r fuel name w
        return (.one o, placeName name (some own))

def addPart (r : Runner) : (fuel : Nat) → Manner → Fields → Part → Sh Fields
  | 0, _, f, _ => pure f
  | fuel + 1, m, f, part => do
    match part with
    | .text o quoted =>
      if m.splitsText && !quoted && m.splits then return f.addSplit (← get).separators o
      else return f.add (o.map (·, quoted))
    | .quotes own =>
      let before := f
      let f ← addParts r fuel m f own
      -- quotes make a field, unless there are no arguments for it
      let hasArguments := own.any fun
        | .param name _ index _ _ _ => name = ['@'] || isAllIndex index = some false
        | _ => false
      if f.current.isNone && f.done.length = before.done.length && !hasArguments then return f.add [] else return f
    | .process writes script =>
      let (source, sink) ← ask .makePipe
      let number ← fork r do
        if writes then
          closeDescriptor source
          moveDescriptor sink 1
        else
          closeDescriptor sink
          moveDescriptor source 0
        r.run true script
      modify fun s => { s with jobs := number :: s.jobs }
      closeDescriptor (if writes then sink else source)
      -- a number that is in nobody's way
      let own := if writes then source else sink
      let kept ← ask (.duplicate own 63)
      closeDescriptor own
      match kept with
      | .ok n =>
        modify fun s => { s with kept := n :: s.kept }
        return f.add (Marked.quoted (ascii "/dev/fd/" ++ Octets.ofNat n))
      | .error _ => return f
    | .output script quoted =>
      let o ← capture r script
      addValue m quoted o f
    | .number expression quoted =>
      let text ← marked r fuel expression
      let n ← evaluateText text.octets
      addValue m quoted (Octets.ofInt n) f
    | .length name index quoted =>
      let (value, called) ← got r fuel name index
      match value with
      | .many items _ => addValue m quoted (Octets.ofNat items.length) f
      | .one (some o) => addValue m quoted (Octets.ofNat o.length) f
      | .one none =>
        let needed := (← get).isOn 'u'
        if needed then unset called else addValue m quoted ['0'] f
    | .names name index quoted =>
      let s ← get
      let names := match index with
        | some _ => ((s.value? name).map Value.places).getD []
        | none => ((s.named.filter fun v => name.isPrefixOf v.name).map Variable.name).mergeSort fun a b => !(b < a)
      addItems m quoted f names
    | .param name indirect index change operands quoted =>
      let (name, index) ← (if indirect then do
          let (target, _) ← got r fuel name index
          match target with
          | .one (some o) =>
            let base := o.takeWhile (· ≠ '[')
            if base.length < o.length then
              pure (base, some [Part.text ((o.drop (base.length + 1)).dropLast) true])
            else pure (o, none)
          | _ => pure ([], none)
        else pure (name, index) : Sh (Octets × Option Word))
      let (value, called) ← got r fuel name index
      let operand : Word := operands.head?.getD []
      let instead : Sh Fields := do
        let f' ← addParts r fuel { m with splitsText := true } f operand
        return if quoted && f'.current.isNone && f'.done.length = f.done.length then f'.add [] else f'
      let unchanged : Sh Fields := do
        match value with
        | .one none => return if quoted then f.add [] else f
        | value => addGot m quoted f value
      let mapped (change : Octets → Octets) : Sh Fields := do
        match value with
        | .one none =>
          let needed := (← get).isOn 'u'
          if needed then unset called else return if quoted then f.add [] else f
        | .one (some o) => addValue m quoted (change o) f
        | .many items star => addGot m quoted f (.many (items.map change) star)
      match change with
      | none =>
        match value with
        | .one none =>
          let needed := (← get).isOn 'u' && name ≠ ['!']
          if needed then unset called else unchanged
        | _ => unchanged
      | some .malformed =>
        if ← isRichShell then
          report ((← complaintHead) ++ ascii "$\x7b" ++ name ++ (← marked r fuel operand).octets ++ ascii "\x7d: bad substitution\n")
          throw (.discarded 1)
        else failWith (ascii "Bad substitution")
      | some (.orElse emptyToo) => if value.isUsable emptyToo then unchanged else instead
      | some (.ifSet emptyToo) =>
        if value.isUsable emptyToo then instead else return if quoted then f.add [] else f
      | some (.orAssign emptyToo) =>
        if value.isUsable emptyToo then unchanged
        else
          let text ← marked r fuel operand
          if !isName name then
            if ← isRichShell then failWith ('$' :: name ++ ascii ": cannot assign in this way")
            else failWith (name ++ ascii ": bad variable name")
          match index with
          | some w =>
            let (_, own) ← itemAt r fuel name w
            let s ← get
            assignPlace s (indexNumber s 8) (placeName name (some own)) text.octets
          | none => assignText name text.octets
          addValue m quoted text.octets f
      | some (.orFail emptyToo) =>
        if value.isUsable emptyToo then unchanged
        else
          let text ← marked r fuel operand
          let message := if !operand.isEmpty then text.octets
            else ascii (if emptyToo then "parameter null or not set" else "parameter not set")
          if ← isRichShell then
            complain (called ++ ascii ": " ++ message)
            throw (.leave (if (← get).isSubshell then 1 else 127))
          else
            let message := if operand.isEmpty && emptyToo then ascii "parameter not set or null" else message
            failWith (called ++ ascii ": " ++ message)
      | some (.dropFront longest) =>
        let p := Pattern.ofMarked (← marked r fuel operand)
        mapped (p.dropFront longest)
      | some (.dropBack longest) =>
        let p := Pattern.ofMarked (← marked r fuel operand)
        mapped (p.dropBack longest)
      | some (.replace all front back) =>
        let p := Pattern.ofMarked (← marked r fuel operand)
        let other ← marked r fuel ((operands.drop 1).head?.getD [])
        mapped fun o =>
          if front then (match fitAtFront p o with
            | some n => other.octets ++ o.drop n
            | none => o)
          else if back then
            (match (List.range (o.length + 1)).find? fun n => p.matches (o.drop n) with
            | some n => o.take n ++ other.octets
            | none => o)
          else if p.isEmpty then o
          else replaced p other.octets all (o.length + 1) o
      | some (.section bounded) =>
        let offset ← evaluateText (← marked r fuel operand).octets
        let length ← (if bounded then do return some (← evaluateText (← marked r fuel ((operands.drop 1).head?.getD [])).octets)
          else pure none : Sh (Option Int))
        let negative : Sh Fields := failWith (Octets.ofInt (length.getD 0) ++ ascii ": substring expression < 0")
        match value with
        | .one o =>
          let o := o.getD []
          match sectionOf o.length offset length with
          | some (start, count) => addValue m quoted ((o.drop start).take count) f
          | none => negative
        | .many items star =>
          let own := (← get).name
          let items := if (name = ['@'] || name = ['*']) && index.isNone then own :: items else items
          match sectionOf items.length offset length with
          | some (start, count) => addGot m quoted f (.many ((items.drop start).take count) star)
          | none => negative
      | some (.recase upper all) =>
        let text ← marked r fuel operand
        let p := if operand.isEmpty then none else some (Pattern.ofMarked text)
        mapped (recased upper all p)
      | some (.rendered how) =>
        match how with
        | 'Q' => mapped quotedText
        | 'U' => mapped Octets.upper
        | 'L' => mapped Octets.lower
        | 'u' => mapped (recased true false none)
        | 'E' => mapped fun o => spelledText o.length.succ o
        | _ => unchanged

end

/-- How deep words nest. -/
def wordFuel : Nat := 100000

/-! ### Alternatives between braces -/

/-- Parts with the characters of their unquoted text each on its own. -/
def spread (w : Word) : Word := w.flatMap fun
  | .text o false => o.map fun c => .text [c] false
  | part => [part]

def isChar (c : Char) : Part → Bool
  | .text [d] false => c == d
  | _ => false

/-- The parts up to the brace that closes one, cut at its commas. -/
def alternatives : (depth : Nat) → (current : Word) → Word → Option (List Word × Word)
  | _, _, [] => none
  | depth, current, part :: rest =>
    if isChar '{' part then alternatives (depth + 1) (current ++ [part]) rest
    else if isChar '\x7d' part then
      if depth = 0 then some ([current], rest) else alternatives (depth - 1) (current ++ [part]) rest
    else if isChar ',' part && depth = 0 then
      (alternatives 0 [] rest).map fun (others, after) => (current :: others, after)
    else alternatives depth (current ++ [part]) rest

/-- The numbers or letters from one to another. -/
def rangeWords (o : Octets) : Option (List Octets) :=
  let pieces := (Octets.splitOn '.' o)
  match pieces with
  | a :: [] :: b :: more =>
    let step : Option Int := match more with
      | [] => some 1
      | [[], c] => Octets.number? c
      | _ => none
    match step, Octets.number? a, Octets.number? b with
    | some step, some x, some y =>
      let step := if step = 0 then 1 else step.natAbs
      let count := (x - y).natAbs / step + 1
      let padded := (a.dropWhile (· == '-')).head? = some '0' && a.length > 1 && x ≠ 0 ||
        (b.dropWhile (· == '-')).head? = some '0' && b.length > 1
      let width := if padded then max a.length b.length else 0
      some ((List.range count).map fun (n : Nat) =>
        let v : Int := if x ≤ y then x + n * step else x - n * step
        let digits := Octets.ofNat v.natAbs
        (if v < 0 then ['-'] else []) ++ List.replicate (width - digits.length - (if v < 0 then 1 else 0)) '0' ++ digits)
    | some step, none, none =>
      match a, b with
      | [x], [y] =>
        if x.isAlpha && y.isAlpha then
          let step := if step = 0 then 1 else step.natAbs
          let count := ((x.toNat : Int) - y.toNat).natAbs / step + 1
          some ((List.range count).map fun n => [Char.ofNat (if x ≤ y then x.toNat + n * step else x.toNat - n * step)])
        else none
      | _, _ => none
    | _, _, _ => none
  | _ => none

/-- The words that braces make of one; of spread parts. -/
def braceWords : (fuel : Nat) → Word → List Word
  | 0, w => [w]
  | _ + 1, [] => [[]]
  | fuel + 1, part :: rest =>
    if isChar '{' part then
      match alternatives 0 [] rest with
      | some (inner, after) =>
        let own : Option (List Word) := match inner with
          | [one] =>
            let o := one.flatMap fun
              | .text o false => o
              | _ => ['\x00']
            (rangeWords o).map fun ws => ws.map fun o => [.text o false]
          | several => some (several.flatMap (braceWords fuel))
        match own with
        | some words =>
          let tails := braceWords fuel after
          words.flatMap fun w => tails.map fun t => w ++ t
        | none => (braceWords fuel rest).map (part :: ·)
      | none => (braceWords fuel rest).map (part :: ·)
    else (braceWords fuel rest).map (part :: ·)

/-- Joins plain characters again. -/
def gathered : Word → Word
  | [] => []
  | .text a false :: rest =>
    match gathered rest with
    | .text b false :: more => .text (a ++ b) false :: more
    | more => .text a false :: more
  | part :: rest => part :: gathered rest

def bracesOf (w : Word) : List Word :=
  if w.any fun
    | .text o false => o.contains '{'
    | _ => false
  then
    let spreadWord := spread w
    (braceWords (spreadWord.length + 1) spreadWord).map gathered
  else [w]

/-! ### Words -/

/-- The files that fields stand for. -/
def filesOfAll (plainNames : Bool) (switches : List String) : List Marked → Work (List Octets)
  | [] => return []
  | m :: rest => do
    let own ← (do
      if plainNames || !Pattern.isPattern m then return [m.octets]
      else
        match ← filesOf (switches.contains "dotglob") (!switches.contains "globskipdots") m with
        | [] => return if switches.contains "nullglob" then [] else [m.octets]
        | found => return found)
    return own ++ (← filesOfAll plainNames switches rest)

/-- The fields of a word. -/
def expandOne (r : Runner) (w : Word) : Sh (List Octets) := do
  let f ← addParts r wordFuel { splits := true } {} (withHomes (← get) w)
  let s ← get
  (filesOfAll (s.isOn 'f') s.switches f.all : Work (List Octets))

/-- The fields of words. -/
def expandAll (r : Runner) : List Word → Sh (List Octets)
  | [] => pure []
  | w :: rest => do
    let own ← expandOne r w
    let more ← expandAll r rest
    return own ++ more

def expand (r : Runner) (w : Word) : Sh (List Octets) := do
  if (← isRichShell) && (← get).isOn 'B' then expandAll r (bracesOf w) else expandOne r w

/-- A word as one text. -/
def joined (r : Runner) (w : Word) : Sh Octets := do
  return (← marked r wordFuel (withHome (← get) false w)).octets

/-- The value of an assignment: a home may also stand behind a colon. -/
def assignedText (r : Runner) (w : Word) : Sh Octets := do
  let s ← get
  let w := (withHome s true w).flatMap fun
    | .text o false =>
      if o.contains '~' && o.contains ':' then
        (colonParts o).flatMap fun p => withHome s true [.text p false]
      else [.text o false]
    | part => [part]
  return (← marked r wordFuel w).octets
where
  /-- Cuts a text behind its colons. -/
  colonParts (o : Octets) : List Octets :=
    o.foldr (fun c parts =>
      match parts with
      | [] => [[c]]
      | p :: others => if c = ':' then [c] :: p :: others else (c :: p) :: others) []

def patternOf (r : Runner) (w : Word) : Sh Pattern := do
  return Pattern.ofMarked (← marked r wordFuel (withHome (← get) false w))

end GrammarStudio.Shell
