import GrammarStudio.Tools.Input

/-!
# Tools that show files, or parts of them

* `catTool`, `teeTool`, `yesTool` — all of it, in one or more places, or the same without end;
* `headTool`, `tailTool` — the beginning or the end;
* `tacTool`, `revTool` — lines, or characters, from the last to the first.
-/

namespace GrammarStudio.Tools

open Machine Files

/-! ### All of it -/

/-- How a file is shown. -/
structure Showing where
  numbers : Bool
  numbersFilled : Bool
  ends : Bool
  tabs : Bool
  invisible : Bool
  squeezes : Bool

def Showing.isPlain (s : Showing) : Bool :=
  !(s.numbers || s.numbersFilled || s.ends || s.tabs || s.invisible || s.squeezes)

/-- An octet in signs that can be seen. -/
def visible (c : Char) : Octets :=
  let plain (n : Nat) : Octets :=
    if n < 32 then ['^', Char.ofNat (n + 64)] else if n = 127 then ['^', '?'] else [Char.ofNat n]
  if c.toNat ≥ 128 then 'M' :: '-' :: plain (c.toNat - 128) else plain c.toNat

/-- A line as it is shown. -/
def Showing.line (s : Showing) (line : Octets) : Octets :=
  let ended := line.getLast? = some '\n'
  (bare '\n' line).flatMap (fun c =>
    if c = '\t' then (if s.tabs then ['^', 'I'] else [c]) else if s.invisible then visible c else [c]) ++
    (if ended then (if s.ends then ['$', '\n'] else ['\n']) else [])

/-- Where the showing of lines stands. -/
structure ShownLines where
  number : Nat := 1
  /-- How many empty lines came last. -/
  empties : Nat := 0
  /-- The last file ended inside a line. -/
  isOpen : Bool := false

def catTool (args : List Octets) : Tool Unit := do
  let (given, operands) ← options
    ["A|show-all", "b|number-nonblank", "e", "E|show-ends", "n|number", "s|squeeze-blank", "t", "T|show-tabs", "u",
      "v|show-nonprinting"] args
  let has := given.has
  let s : Showing :=
    { numbers := has "n", numbersFilled := has "b", ends := has "A" || has "e" || has "E"
      tabs := has "A" || has "t" || has "T", invisible := has "A" || has "e" || has "t" || has "v", squeezes := has "s" }
  let mut state : ShownLines := {}
  for name in inputsOf operands do
    let opened ← (if name = ['-'] then pure (.ok 0) else (Work.openToRead name : Work (Except Fault Nat)) : Tool (Except Fault Nat))
    match opened with
    | .error fault => failing (nameAndReason name fault)
    | .ok d =>
      if s.isPlain then
        let (_, fault) ← foldPieces d () fun _ piece => do
          say piece
          flush
          return ((), (← get).lost.isNone)
        checkRead name fault
      else
        let (now, fault) ← foldLines '\n' d state fun state line => do
          let empty := line = ['\n'] && !state.isOpen
          let empties := if empty then state.empties + 1 else 0
          if s.squeezes && empties > 1 then return ({ state with empties }, true)
          else
            let numbered := !state.isOpen && (if s.numbersFilled then !empty else s.numbers)
            if numbered then say (Octets.padLeft 6 (Octets.ofNat state.number) ++ ['\t'])
            say (s.line line)
            return ({ number := if numbered then state.number + 1 else state.number, empties
                      isOpen := line.getLast? ≠ some '\n' }, true)
        state := now
        checkRead name fault
      if d ≠ 0 then (Work.close d : Work Unit)
  if (inputsOf operands).contains ['-'] then
    match ← ask (.describe 0) with
    | .ok _ => return
    | .error fault => failing (ascii "closing standard input: " ++ reason fault)

def teeTool (args : List Octets) : Tool Unit := do
  let (given, operands) ← options ["a|append", "i|ignore-interrupts", "p", "output-error=?"] args
  let mut targets : List Nat := []
  for name in operands do
    match ← ask (.openFile name { writes := true, creates := true, truncates := !given.has "a", appends := given.has "a" } 0o666) with
    | .ok d => targets := targets ++ [d]
    | .error fault => failing (nameAndReason name fault)
  let (_, fault) ← foldPieces 0 () fun _ piece => do
    say piece
    flush
    for d in targets do
      (Work.put d piece : Work Unit)
    return ((), true)
  checkRead (ascii "read error") fault

def yesTool (args : List Octets) : Tool Unit := do
  let (_, operands) ← optionsWith true [] args
  let line := [' '].intercalate (if operands.isEmpty then [['y']] else operands) ++ ['\n']
  let block := (List.replicate (8192 / line.length + 1) line).flatten
  let rec go : Nat → Tool Unit
    | 0 => return
    | fuel + 1 => do
      say block
      if (← get).lost.isNone then go fuel
  go endless

/-! ### Beginnings and ends -/

/-- What a part of a file is counted in. -/
structure Portion where
  octets : Bool := false
  count : Nat := 10
  /-- All but so many, or from so many on. -/
  fromOther : Bool := false
  ender : Char := '\n'

/-- Shows what comes before a file, where there are several. -/
def showTitle (several : Bool) (isFirst : Bool) (name : Octets) : Tool Unit := do
  if several then
    say ((if isFirst then [] else ['\n']) ++ ascii "==> " ++ (if name = ['-'] then ascii "standard input" else name) ++ ascii " <==\n")

/-- The beginning of what can be read. -/
def showHead (p : Portion) (d : Nat) : Tool (Option Fault) := do
  if p.fromOther then
    match ← content d with
    | .error fault => return some fault
    | .ok o =>
      if p.octets then say (o.take (o.length - p.count))
      else
        let (lines, rest) := cutLines p.ender o
        let lines := if rest.isEmpty then lines else lines ++ [rest]
        say (lines.take (lines.length - p.count)).flatten
      return none
  else if p.octets then
    let rec go : (fuel : Nat) → Nat → Tool (Option Fault)
      | 0, _ => return none
      | fuel + 1, left => do
        if left = 0 then return none
        match ← ask (.read d (min left 8192)) with
        | .error fault => return some fault
        | .ok [] => return none
        | .ok o =>
          say o
          go fuel (left - o.length)
    go endless p.count
  else if p.count = 0 then return none
  else
    let (_, fault) ← foldPieces d p.count fun left piece => do
      let (lines, rest) := cutLines p.ender piece
      if lines.length ≥ left then
        let shown := (lines.take left).flatten
        say shown
        -- what was read too far is left to those who read next
        let _ ← ask (.seek d .current (-(piece.length - shown.length : Nat)))
        return (0, false)
      else
        say (lines.flatten ++ rest)
        return (left - lines.length, true)
    return fault

/-- Shows parts of files. -/
def showPortions (show_ : Nat → Tool (Option Fault)) (quiet verbose : Bool) (operands : List Octets) : Tool Unit := do
  let several := verbose || (!quiet && operands.length > 1)
  let mut isFirst := true
  for name in inputsOf operands do
    let opened ← (if name = ['-'] then pure (.ok 0) else (Work.openToRead name : Work (Except Fault Nat)) : Tool (Except Fault Nat))
    match opened with
    | .error fault => failing (ascii "cannot open " ++ shellWordAlways name ++ ascii " for reading: " ++ reason fault)
    | .ok d =>
      showTitle several isFirst name
      isFirst := false
      match ← show_ d with
      | some fault =>
        failing (ascii "error reading " ++ (if name = ['-'] then ascii "'standard input'" else shellWordAlways name) ++ ascii ": " ++ reason fault)
      | none => pure ()
      if d ≠ 0 then (Work.close d : Work Unit)

/-- Arguments in which a number behind the first dash is spelled out as an option. -/
def spelledOut (args : List Octets) : Tool (List Octets) := do
  match args with
  | ('-' :: c :: more) :: rest =>
    if c.isDigit then
      let digits := (c :: more).takeWhile Char.isDigit
      let letters := (c :: more).drop digits.length
      let isKnown (c : Char) : Bool := (ascii "bkmclqvz").contains c
      match letters.find? (!isKnown ·) with
      | some letter => misused (ascii "invalid trailing option -- " ++ [letter])
      | none =>
        let unit := letters.filter fun c => (ascii "bkm").contains c
        let octets := letters.any fun c => (ascii "bkmc").contains c
        let others := letters.filter fun c => (ascii "qvz").contains c
        return (if octets then ['-', 'c'] else ['-', 'n']) :: (digits ++ unit) ::
          ((others.map fun c => ['-', c]) ++ rest)
    else return args
  | _ => return args

def headTool (args : List Octets) : Tool Unit := do
  let args ← spelledOut args
  let (given, operands) ← options
    ["n|lines=", "c|bytes=", "q|quiet|silent", "v|verbose", "z|zero-terminated"] args
  let mut p : Portion := { ender := if given.has "z" then '\x00' else '\n' }
  for (name, o) in given do
    if name = "n" || name = "c" then
      let octets := name = "c"
      let fromOther := o.head? = some '-'
      let count ← amount true (if octets then "number of bytes" else "number of lines") (if fromOther then o.drop 1 else o)
      p := { p with octets, fromOther, count }
  let last := given.lastOf ["q", "v"]
  showPortions (showHead p) (last = some "q") (last = some "v") operands

/-- The end of what can be read. -/
def showTail (p : Portion) (d : Nat) : Tool (Option Fault) := do
  if p.fromOther then
    -- from so many on; what comes before is passed over
    if p.octets then
      let (_, fault) ← foldPieces d (p.count - 1) fun skip piece => do
        say (piece.drop skip)
        return (skip - piece.length, true)
      return fault
    else
      let (_, fault) ← foldLines p.ender d (p.count - 1) fun skip line => do
        if skip = 0 then say line
        return (skip - 1, true)
      return fault
  else
    match ← content d with
    | .error fault => return some fault
    | .ok o =>
      if p.octets then say (o.drop (o.length - p.count))
      else
        let (lines, rest) := cutLines p.ender o
        let lines := if rest.isEmpty then lines else lines ++ [rest]
        say (lines.drop (lines.length - p.count)).flatten
      return none

/-- A first argument of an old kind: a sign, a number, and letters. -/
def oldTailArgument? (args : List Octets) : Option (Portion × List Octets) :=
  match args with
  | (sign :: more) :: rest =>
    let digits := more.takeWhile Char.isDigit
    let letters := more.drop digits.length
    let isLetters := letters.isEmpty || (ascii "bcl").contains (letters.head?.getD ' ') && letters.length = 1
    let isOld := rest.length ≤ 1 || (rest.head? = some ['-', '-'] && rest.length ≤ 2)
    if (sign = '+' || (sign = '-' && !digits.isEmpty)) && isLetters && isOld && !more.isEmpty then
      let unit := if letters = ['b'] then 512 else 1
      some ({ octets := letters = ['c'] || letters = ['b']
              fromOther := sign = '+'
              count := (if digits.isEmpty then 10 else Octets.valueIn 10 digits) * unit }, rest)
    else none
  | _ => none

def tailTool (args : List Octets) : Tool Unit := do
  let (old, args) := match oldTailArgument? args with
    | some (p, rest) => (some p, rest)
    | none => (none, args)
  match args with
  | ('-' :: c :: _) :: _ =>
    if c.isDigit then giveUp (ascii "option used in invalid context -- " ++ [c])
  | _ => pure ()
  let (given, operands) ← options
    ["n|lines=", "c|bytes=", "q|quiet|silent", "v|verbose", "z|zero-terminated", "f|follow=?", "F", "retry", "pid=",
      "s|sleep-interval=", "max-unchanged-stats="] args
  let mut p : Portion := old.getD {}
  if given.has "z" then p := { p with ender := '\x00' }
  for (name, o) in given do
    if name = "n" || name = "c" then
      let octets := name = "c"
      let fromOther := o.head? = some '+'
      let digits := if fromOther || o.head? = some '-' then o.drop 1 else o
      let count ← amount true (if octets then "number of bytes" else "number of lines") digits
      p := { p with octets, fromOther, count }
  let last := given.lastOf ["q", "v"]
  showPortions (showTail p) (last = some "q") (last = some "v") operands

/-! ### Turned around -/

/-- Pieces that each end with a separator. -/
def piecesEndingIn (separator : Octets) : (fuel : Nat) → Octets → List Octets
  | 0, o => [o]
  | fuel + 1, o =>
    match Octets.find? separator 0 o with
    | none => if o.isEmpty then [] else [o]
    | some n => o.take (n + separator.length) :: piecesEndingIn separator fuel (o.drop (n + separator.length))

/-- Pieces that each begin with a separator, but for the first. -/
def piecesBeginningWith (separator : Octets) (o : Octets) : List Octets :=
  let pieces := piecesEndingIn separator (o.length + 1) o
  let bares := pieces.map fun x => if separator.isSuffixOf x then x.take (x.length - separator.length) else x
  let closed := separator.isSuffixOf o && !o.isEmpty
  let bares := if closed then bares ++ [[]] else bares
  match bares with
  | [] => []
  | first :: rest => (if first.isEmpty then [] else [first]) ++ rest.map (separator ++ ·)

def tacTool (args : List Octets) : Tool Unit := do
  let (given, operands) ← options ["b|before", "r|regex", "s|separator="] args
  let separator := (given.value? "s").getD ['\n']
  let separator := if separator.isEmpty then ['\x00'] else separator
  for name in inputsOf operands do
    withInput (fun name fault => ascii "failed to open " ++ shellWordAlways name ++ ascii " for reading: " ++ reason fault) name fun d => do
      match ← content d with
      | .error fault => failing (nameShown name ++ ascii ": read error: " ++ reason fault)
      | .ok o =>
        let pieces := if given.has "b" then piecesBeginningWith separator o else piecesEndingIn separator (o.length + 1) o
        say pieces.reverse.flatten

def revTool (args : List Octets) : Tool Unit := do
  let (given, operands) ← options ["0|zero"] args
  let ender := if given.has "0" then '\x00' else '\n'
  for name in inputsOf operands do
    withInput (fun name fault => ascii "cannot open " ++ name ++ ascii ": " ++ reason fault) name fun d => do
      let (_, fault) ← foldLines ender d () fun _ line => do
        say ((bare ender line).reverse ++ (if line.getLast? = some ender then [ender] else []))
        return ((), true)
      match fault with
      | some fault => failing (name ++ ascii ": " ++ reason fault)
      | none => pure ()

end GrammarStudio.Tools
