import GrammarStudio.Tools.Input
import GrammarStudio.Tools.Launching

/-!
# Arguments that are read

A tool reads items from its input, and runs a program again and again with as many of them as it may take.

* `Scanner` — the items of an input, with quotes and backslashes;
* `Gathering` — the program with the items gathered for it;
* `xargsTool` — the tool.
-/

namespace GrammarStudio.Tools

open Machine Files

/-! ### Items -/

/-- What is found in an input. -/
inductive Found where
  | item (o : Octets)
  | lineEnd
  | last
  | unmatched (mark : Char)

/-- Where in an item a scanner is. -/
inductive Inside where
  | blanks
  | plain
  | quotes (mark : Char)
  | escape
  deriving DecidableEq

structure Scanner where
  inside : Inside := .blanks
  /-- The item at hand, the latest octet first. -/
  item : Octets := []
  /-- Has the item been begun, be it with quotes that hold nothing? -/
  begun : Bool := false
  previous : Char := '\n'
  /-- Has anything been found on the line? -/
  isFirst : Bool := true

/-- How an input is cut into items. -/
structure Cut where
  /-- One item for each line. -/
  wholeLines : Bool := false
  /-- The item that stands for the end. -/
  ending : Option Octets := none

/-- One octet of an input. -/
def Scanner.step (cut : Cut) (s : Scanner) (c : Char) : Scanner × List Found :=
  let put : Scanner × List Found := ({ s with item := c :: s.item, begun := true, inside := .plain, previous := c }, [])
  let close (next : Scanner) (more : List Found) : Scanner × List Found :=
    let o := s.item.reverse
    if cut.ending = some o then (next, [.last]) else (next, .item o :: more)
  match s.inside with
  | .escape => put
  | .quotes mark =>
    if c = '\n' then (s, [.unmatched mark])
    else if c = mark then ({ s with inside := .plain, previous := c }, [])
    else ({ s with item := c :: s.item, previous := c }, [])
  | inside =>
    if inside = .blanks && Octets.isSpace c then ({ s with previous := c }, [])
    else if c = '\n' then
      if !s.begun then ({ s with inside := .blanks, previous := c }, if s.previous = ' ' || s.previous = '\t' then [] else [.lineEnd])
      else close { previous := c } (if s.previous = ' ' || s.previous = '\t' then [] else [.lineEnd])
    else if !cut.wholeLines && (c = ' ' || c = '\t') then close { previous := c, isFirst := false } []
    else if c = '\\' then ({ s with inside := .escape, begun := true, previous := c }, [])
    else if c = '\'' || c = '"' then ({ s with inside := .quotes c, begun := true, previous := c }, [])
    else put

/-- The end of an input. -/
def Scanner.finish (cut : Cut) (s : Scanner) : List Found :=
  match s.inside with
  | .quotes mark => if s.item.isEmpty then [] else [.unmatched mark]
  | _ =>
    if s.item.isEmpty then []
    else if cut.ending = some s.item.reverse then [.last]
    else [.item s.item.reverse]

/-- Some octets of an input. -/
def Scanner.feed (cut : Cut) (s : Scanner) (o : Octets) : Scanner × List Found :=
  let (s, found) := o.foldl (fun (s, found) c =>
    let (s, new) := s.step cut c
    (s, new.reverse ++ found)) (s, [])
  (s, found.reverse)

/-! ### The program -/

/-- The program that is run, and what is gathered for it. -/
structure Gathering where
  command : List Octets
  environment : List (Octets × Octets)
  most : Option Nat := none
  mostLines : Option Nat := none
  size : Nat := 131072
  exits : Bool := false
  shows : Bool := false
  /-- Does the program read what the tool reads? -/
  keepsInput : Bool := false
  place : Option Octets := none
  /-- The items, the latest first. -/
  items : List Octets := []
  held : Nat := 0
  lines : Nat := 0
  hasRun : Bool := false
  status : Nat := 0

/-- The size of arguments, each with an octet behind it. -/
def sizeOfArguments (args : List Octets) : Nat := (args.map fun a => a.length + 1).sum

/-- Where a program that cannot be run reports that. -/
def privateNumber : Nat := 10

/-- Runs a command, and gives its status for the tool, or ends the tool. -/
def runGathered (g : Gathering) (command : List Octets) : Tool Gathering := do
  match command with
  | [] => return g
  | name :: arguments =>
    flush
    if g.shows then mutter (Octets.dropEnd (· == ' ') (command.flatMap fun a => shellWord a ++ [' ']) ++ ['\n'])
    let told := (← get).name
    let (source, sink) ← ask .makePipe
    let body : Work Nat := do
      let report := ((← Work.ask (.duplicate sink privateNumber)).toOption).getD sink
      Work.close source
      Work.close sink
      if !g.keepsInput then
        Work.close 0
        let _ ← Work.openToRead (ascii "/dev/null")
      let fault ← Work.executeByName g.environment name arguments
      Work.put 2 (told ++ ascii ": " ++ name ++ ascii ": " ++ reason fault ++ ['\n'])
      Work.put report ['!']
      return launchStatus fault
    let child ← (Work.fork body : Work Nat)
    (Work.close sink : Work Unit)
    let report ← content source
    (Work.close source : Work Unit)
    match ← ask (.wait (some child) true false) with
    | .ended _ (.status n) =>
      if report.toOption.any (!·.isEmpty) then finish n
      if n = 255 then
        complain (name ++ ascii ": exited with status 255; aborting")
        finish 124
      return { g with hasRun := true, status := if n = 0 then g.status else 123 }
    | .ended _ (.signal n) =>
      complain (name ++ ascii ": terminated by signal " ++ Octets.ofNat n)
      finish 125
    | _ => return g

/-- Runs the program with what is gathered. -/
def Gathering.run (g : Gathering) : Tool Gathering := do
  let g ← runGathered g (g.command ++ g.items.reverse)
  return { g with items := [], held := 0, lines := 0 }

/-- A word with an item in each of some places. -/
def putInto (place item : Octets) : (fuel : Nat) → Octets → Octets
  | 0, o => o
  | _ + 1, [] => []
  | fuel + 1, c :: rest =>
    if !place.isEmpty && place.isPrefixOf (c :: rest) then item ++ putInto place item fuel ((c :: rest).drop place.length)
    else c :: putInto place item fuel rest

def tooLongLine {α : Type} : Tool α := giveUp (ascii "argument line too long")

/-- Takes one more item. -/
def Gathering.take (g : Gathering) (item : Octets) : Tool Gathering := do
  match g.place with
  | some place =>
    let command := g.command.map fun w => putInto place item (w.length + 1) w
    if sizeOfArguments command > g.size then giveUp (ascii "argument list too long")
    runGathered g command
  | none =>
    let own := sizeOfArguments g.command
    if own + item.length + 1 > g.size then tooLongLine
    let g ← (if own + g.held + item.length + 1 > g.size then
        (if g.exits && (g.most.isSome || g.mostLines.isSome) then giveUp (ascii "argument list too long") else g.run)
      else pure g : Tool Gathering)
    let g := { g with items := item :: g.items, held := g.held + item.length + 1 }
    if g.most = some g.items.length then g.run else return g

/-- Takes what was found; gives whether more is wanted. -/
def Gathering.takeAll (g : Gathering) : List Found → Tool (Gathering × Bool)
  | [] => return (g, true)
  | .item o :: rest => do (← g.take o).takeAll rest
  | .lineEnd :: rest => do
    let g := { g with lines := g.lines + 1 }
    if g.mostLines.any (g.lines ≥ ·) then (← g.run).takeAll rest else g.takeAll rest
  | .last :: _ => return (g, false)
  | .unmatched mark :: _ => do
    if !g.items.isEmpty then
      let _ ← g.run
    giveUp (ascii (if mark = '"' then "unmatched double quote" else "unmatched single quote") ++
      ascii "; by default quotes are special to " ++ (← get).name ++ ascii " unless you use the -0 option")

/-- The end of what is read. -/
def Gathering.finish (g : Gathering) (always : Bool) : Tool Unit := do
  let g ← (if g.place.isNone && (!g.items.isEmpty || (always && !g.hasRun)) then g.run else pure g : Tool Gathering)
  setStatus g.status

/-- The octet that an option names. -/
def delimiter (o : Octets) : Tool Char := do
  match o with
  | [c] => return c
  | ['\\', c] =>
    match escapeNames.find? (·.2 = c) with
    | some (sign, _) => return sign
    | none =>
      if c = '\\' then return '\\'
      else if c = '0' then return '\x00'
      else giveUp (ascii "Invalid escape sequence " ++ o ++ ascii " in input delimiter specification.")
  | '\\' :: 'x' :: digits =>
    if digits.all Octets.isHex && Octets.valueIn 16 digits < 256 then return Char.ofNat (Octets.valueIn 16 digits)
    else giveUp (ascii "Invalid escape sequence " ++ o ++ ascii " in input delimiter specification; character values must not exceed ff.")
  | '\\' :: digits =>
    if digits.all Octets.isOctal && Octets.valueIn 8 digits < 256 then return Char.ofNat (Octets.valueIn 8 digits)
    else giveUp (ascii "Invalid escape sequence " ++ o ++ ascii " in input delimiter specification.")
  | _ =>
    giveUp (ascii "Invalid input delimiter specification " ++ o ++
      ascii ": the delimiter must be either a single character or an escape sequence starting with \\.")

/-- The value of an option that is a number. -/
def gatheringNumber (letter : String) (o : Octets) : Tool Nat := do
  match Octets.number? o with
  | none => misused (ascii "invalid number \"" ++ o ++ ascii "\" for -" ++ ascii letter ++ ascii " option")
  | some n =>
    if n < 1 then misused (ascii "value " ++ Octets.ofInt n ++ ascii " for -" ++ ascii letter ++ ascii " option should be >= 1")
    else return n.toNat

/-- Gathers the items of an input, cut by a sign or as the words of its lines. -/
def gather (g : Gathering) (cut : Cut) (ender : Option Char) (input : Nat) (always : Bool) : Tool Unit := do
  match ender with
  | some mark =>
    let ((g, _), _) ← foldLines mark input (g, true) fun (g, _) line => do
      let (g, goesOn) ← g.takeAll [.item (bare mark line), .lineEnd]
      return ((g, goesOn), goesOn)
    g.finish always
  | none =>
    let ((s, g, goesOn), _) ← foldPieces input (({} : Scanner), g, true) fun (s, g, _) piece => do
      let (s, found) := s.feed cut piece
      let (g, goesOn) ← g.takeAll found
      return ((s, g, goesOn), goesOn)
    let (g, _) ← (if goesOn then g.takeAll (s.finish cut) else pure (g, true) : Tool (Gathering × Bool))
    g.finish always

def xargsTool (args : List Octets) : Tool Unit := do
  let (given, operands) ← optionsWith true
    ["0|null", "a|arg-file=", "d|delimiter=", "E=", "e|eof=?", "I=", "i|replace=?", "L=", "l|max-lines=?", "n|max-args=",
      "P|max-procs=", "r|no-run-if-empty", "s|max-chars=", "t|verbose", "x|exit", "show-limits", "p|interactive",
      "o|open-tty", "process-slot-var="] args
  let mut g : Gathering :=
    { command := if operands.isEmpty then [ascii "echo"] else operands, environment := (← get).environment
      exits := given.has "x", shows := given.has "t", keepsInput := given.has "a" }
  let mut cut : Cut := {}
  let mut ender : Option Char := none
  for (option, o) in given do
    match option with
    | "0" => ender := some '\x00'
    | "d" => ender := some (← delimiter o)
    | "E" | "e" => cut := { cut with ending := if o.isEmpty then none else some o }
    | "I" | "i" =>
      if g.most.isSome then
        complain (ascii "warning: options --max-args and --replace/-I/-i are mutually exclusive, ignoring previous --max-args value")
      if g.mostLines.isSome then
        complain (ascii "warning: options --max-lines and --replace/-I/-i are mutually exclusive, ignoring previous --max-lines value")
      g := { g with place := some (if o.isEmpty then ascii "\x7b\x7d" else o), most := none, mostLines := none, exits := true }
    | "L" | "l" =>
      let n ← if o.isEmpty then pure 1 else gatheringNumber option o
      if g.most.isSome then
        complain (ascii "warning: options --max-args and --max-lines/-l are mutually exclusive, ignoring previous --max-args value")
      if g.place.isSome then
        complain (ascii "warning: options --replace and --max-lines/-l are mutually exclusive, ignoring previous --replace value")
      g := { g with mostLines := some n, most := none, place := none, exits := g.exits || option = "l" }
    | "n" =>
      let n ← gatheringNumber option o
      if g.mostLines.isSome then
        complain (ascii "warning: options --max-lines and --max-args/-n are mutually exclusive, ignoring previous --max-lines value")
      if n = 1 && g.place.isSome then pure ()
      else
        if g.place.isSome then
          complain (ascii "warning: options --replace and --max-args/-n are mutually exclusive, ignoring previous --replace value")
        g := { g with most := some n, mostLines := none, place := none }
    | "s" => g := { g with size := min (← gatheringNumber option o) 131072 }
    | "P" => if (Octets.number? o).isNone then let _ ← gatheringNumber option o
    | _ => pure ()
  cut := { cut with wholeLines := g.place.isSome }
  let input ← (match given.value? "a" with
    | none => pure 0
    | some name => do
      match ← ask (.openFile name { reads := true } 0) with
      | .ok d => pure d
      | .error fault => giveUp (ascii "Cannot open input file " ++ shellWordAlways name ++ ascii ": " ++ reason fault) : Tool Nat)
  gather g cut ender input (!given.has "r")

end GrammarStudio.Tools
