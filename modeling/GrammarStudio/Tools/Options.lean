import GrammarStudio.Machine.Octets
import GrammarStudio.Tools.Console

/-!
# The options of a tool

Options are letters behind a dash or words behind two; letters can be put together, and words can be cut short where
that is clear.  They can stand between the operands.  A complaint shows a name so that it can be told from the text
around it.

* `quoted` — a name between quotes, with escapes;
* `shellWord` — a name as a shell reads it, between quotes where it needs them;
* `Choice`, `Choices` — the options a tool has;
* `Choices.read` — options and operands of arguments;
* `Misuse` — what can be wrong with them, with its wording.
-/

namespace GrammarStudio.Tools

open Machine

/-! ### Names in complaints -/

/-- Letters of escapes. -/
def escapeNames : List (Char × Char) :=
  [('\x07', 'a'), ('\x08', 'b'), ('\x0c', 'f'), ('\n', 'n'), ('\r', 'r'), ('\t', 't'), ('\x0b', 'v')]

/-- An octet that cannot be printed, behind a backslash. -/
def escaped (c : Char) : Octets :=
  match escapeNames.lookup c with
  | some letter => ['\\', letter]
  | none => '\\' :: Octets.padLeftWith '0' 3 (Octets.inBase 8 c.toNat)

/-- Octets between two signs, with escapes. -/
def between (mark : Char) (o : Octets) : Octets :=
  mark :: o.flatMap (fun c =>
    if c = mark || c = '\\' then ['\\', c] else if Octets.isPrint c then [c] else escaped c) ++ [mark]

/-- A name between quotes. -/
def quoted (o : Octets) : Octets := between '\'' o

/-- Signs that mean something to a shell wherever they stand. -/
def isShellSign (c : Char) : Bool := (ascii " !\"$&'()*;<=>?[\\^\x60|").contains c

/-- Signs that mean the same between both kinds of quotes. -/
def isPlainSign (c : Char) : Bool := c.isAlphanum || (ascii " '%+,-./:]_\x7b\x7d@").contains c

/-- Does a shell read a word as something else? -/
def needsQuotes (colons : Bool) (o : Octets) : Bool :=
  o.isEmpty || o = ['{'] || o = ['}'] || o.head?.any (fun c => c = '#' || c = '~') ||
    o.any fun c => isShellSign c || !Octets.isPrint c || (colons && c = ':')

/-- Octets between single quotes.  What cannot be printed stands in a quotation of its own kind. -/
def singleQuotes (o : Octets) : Octets :=
  let rec go : (escapes : Bool) → Octets → Octets
    | _, [] => ['\'']
    | escapes, c :: rest =>
      if Octets.isPrint c then
        (if escapes then ['\'', '\''] else []) ++ (if c = '\'' then ascii "'\\''" else [c]) ++ go false rest
      else (if escapes then [] else ascii "'$'") ++ escaped c ++ go true rest
  '\'' :: go false o

/-- A word between quotes, as a shell reads it. -/
def shellWordAlways (o : Octets) : Octets :=
  if o.contains '\'' && o.all isPlainSign then '"' :: o ++ ['"'] else singleQuotes o

/-- A word as a shell reads it. -/
def shellWord (o : Octets) : Octets := if needsQuotes false o then shellWordAlways o else o

/-- A word as a shell reads it, where a colon follows. -/
def nameShown (o : Octets) : Octets := if needsQuotes true o then shellWordAlways o else o

/-! ### Options -/

/-- Does an option take a value? -/
inductive Takes where
  | nothing
  | value
  | maybe
  deriving DecidableEq, Repr

/-- An option by its names: letters, and words.  The first name is the one that the tool knows it by. -/
structure Choice where
  names : List String
  takes : Takes
  deriving Repr

abbrev Choices := List Choice

/-- Reads names with bars between them; a sign of equality at the end stands for a value, one more sign for a value
that may be missing. -/
def Choice.ofText (s : String) : Choice :=
  let letters := s.toList
  let takes : Takes := match letters.reverse with
    | '?' :: '=' :: _ => .maybe
    | '=' :: _ => .value
    | _ => .nothing
  let letters := Octets.dropEnd (fun c => c = '=' || c = '?') letters
  { takes, names := (Octets.splitOn '|' letters).map String.ofList }

/-- Options with their values, as they were given. -/
abbrev Given := List (String × Octets)

namespace Given

def has (g : Given) (name : String) : Bool := g.any (·.1 = name)

/-- The last value of an option. -/
def value? (g : Given) (name : String) : Option Octets := g.reverse.lookup name

/-- The last of some options that exclude each other. -/
def lastOf (g : Given) (names : List String) : Option String := (g.reverse.find? fun o => names.contains o.1).map Prod.fst

end Given

/-- What is wrong with arguments. -/
inductive Misuse where
  | unknownLetter (c : Char)
  | unknownWord (given : Octets)
  | ambiguous (given : Octets) (words : List String)
  | letterNeedsValue (c : Char)
  | wordNeedsValue (word : String)
  | wordTakesNone (word : String)
  deriving DecidableEq, Repr

def Misuse.message : Misuse → Octets
  | .unknownLetter c => ascii "invalid option -- '" ++ [c] ++ ['\'']
  | .unknownWord given => ascii "unrecognized option '" ++ given ++ ['\'']
  | .ambiguous given words =>
    ascii "option '" ++ given ++ ascii "' is ambiguous; possibilities:" ++ words.flatMap fun w => ascii " '--" ++ w.toList ++ ['\'']
  | .letterNeedsValue c => ascii "option requires an argument -- '" ++ [c] ++ ['\'']
  | .wordNeedsValue word => ascii "option '--" ++ word.toList ++ ascii "' requires an argument"
  | .wordTakesNone word => ascii "option '--" ++ word.toList ++ ascii "' doesn't allow an argument"

namespace Choices

/-- The option with a letter. -/
def byLetter (cs : Choices) (c : Char) : Option Choice := cs.find? fun x => x.names.contains (String.singleton c)

/-- The words of all options, each with its option. -/
def words (cs : Choices) : List (String × Choice) :=
  cs.flatMap fun x => (x.names.filter (·.length > 1)).map (·, x)

/-- The option that a word stands for, which may be cut short. -/
def byWord (cs : Choices) (word given : Octets) : Except Misuse (String × Choice) :=
  match cs.words.find? fun w => w.1.toList = word with
  | some found => .ok found
  | none =>
    match cs.words.filter fun w => word.isPrefixOf w.1.toList with
    | [] => .error (.unknownWord given)
    | first :: others =>
      if others.all fun w => w.2.names = first.2.names then .ok first
      else .error (.ambiguous given ((first :: others).map Prod.fst))

/-- Reads letters behind a dash. -/
def readLetters (cs : Choices) : Octets → List Octets → Except Misuse (Given × List Octets)
  | [], rest => .ok ([], rest)
  | c :: more, rest =>
    match cs.byLetter c with
    | none => .error (.unknownLetter c)
    | some x =>
      let name := x.names.head?.getD ""
      match x.takes with
      | .nothing => do
        let (given, rest) ← readLetters cs more rest
        .ok ((name, []) :: given, rest)
      | .maybe => .ok ([(name, more)], rest)
      | .value =>
        if !more.isEmpty then .ok ([(name, more)], rest)
        else
          match rest with
          | value :: rest => .ok ([(name, value)], rest)
          | [] => .error (.letterNeedsValue c)

/-- Reads a word behind two dashes. -/
def readWord (cs : Choices) (arg : Octets) (rest : List Octets) : Except Misuse (Given × List Octets) := do
  let word := (arg.drop 2).takeWhile (· ≠ '=')
  let value : Option Octets := if arg.length > word.length + 2 then some (arg.drop (word.length + 3)) else none
  let (full, x) ← cs.byWord word arg
  let name := x.names.head?.getD ""
  match x.takes, value with
  | .nothing, none => .ok ([(name, [])], rest)
  | .nothing, some _ => .error (.wordTakesNone full)
  | .maybe, value => .ok ([(name, value.getD [])], rest)
  | .value, some value => .ok ([(name, value)], rest)
  | .value, none =>
    match rest with
    | value :: rest => .ok ([(name, value)], rest)
    | [] => .error (.wordNeedsValue full)

/-- Options and operands of arguments.  A tool that runs others reads its own options only before the first operand. -/
def read (cs : Choices) (ownOnly : Bool) : (fuel : Nat) → List Octets → Except Misuse (Given × List Octets)
  | 0, args => .ok ([], args)
  | _ + 1, [] => .ok ([], [])
  | fuel + 1, arg :: rest =>
    match arg with
    | ['-', '-'] => .ok ([], rest)
    | '-' :: c :: more => do
      let (given, rest) ← if c = '-' then cs.readWord arg rest else cs.readLetters (c :: more) rest
      let (others, operands) ← read cs ownOnly fuel rest
      .ok (given ++ others, operands)
    | _ =>
      if ownOnly then .ok ([], arg :: rest)
      else do
        let (others, operands) ← read cs ownOnly fuel rest
        .ok (others, arg :: operands)

end Choices

/-- Says where to read more, and ends. -/
def pointToHelp {α : Type} : Tool α := do
  flush
  mutter (ascii "Try '" ++ (← get).name ++ ascii " --help' for more information.\n")
  finish (← get).failure

/-- Complains about the arguments, and ends. -/
def misused {α : Type} (message : Octets) : Tool α := do
  complain message
  pointToHelp

/-- The choices that every tool has beside its own. -/
def withUsual (texts : List String) : Choices := (texts ++ ["help", "version"]).map Choice.ofText

def optionsWith (ownOnly : Bool) (texts : List String) (args : List Octets) : Tool (Given × List Octets) := do
  match (withUsual texts).read ownOnly (args.length + 1) args with
  | .ok result => return result
  | .error misuse => misused misuse.message

/-- The options and operands of a tool. -/
def options (texts : List String) (args : List Octets) : Tool (Given × List Octets) := optionsWith false texts args

/-- Ends when there are no operands. -/
def needOperand (operands : List Octets) : Tool Unit := do
  if operands.isEmpty then misused (ascii "missing operand")

/-- Ends when there are more operands than the tool takes. -/
def atMost (n : Nat) (operands : List Octets) : Tool Unit := do
  match operands.drop n with
  | extra :: _ => misused (ascii "extra operand " ++ quoted extra)
  | [] => return

end GrammarStudio.Tools
