import GrammarStudio.Tools.Input

/-!
# Tools for paths

* `lastPart`, `aroundPart` — a path taken apart;
* `resolved` — a path without links and steps back;
* `basenameTool`, `dirnameTool`, `readlinkTool`, `realpathTool`, `pwdTool` — the tools.
-/

namespace GrammarStudio.Tools

open Machine Files

/-- A path without slashes at its end, but for the root. -/
def withoutSlashes (path : Octets) : Octets :=
  let o := Octets.dropEnd (· = '/') path
  if o.isEmpty && !path.isEmpty then ['/'] else o

/-- The last step of a path. -/
def lastPart (path : Octets) : Octets :=
  let o := withoutSlashes path
  if o = ['/'] then o else (o.reverse.takeWhile (· ≠ '/')).reverse

/-- The path around the last step. -/
def aroundPart (path : Octets) : Octets :=
  let o := withoutSlashes path
  if o = ['/'] then o
  else
    let before := (o.reverse.dropWhile (· ≠ '/')).reverse
    if before.isEmpty then ['.'] else withoutSlashes before

/-- A name in a directory. -/
def joined (directory name : Octets) : Octets :=
  if directory.getLast? = some '/' then directory ++ name else directory ++ '/' :: name

def basenameTool (args : List Octets) : Tool Unit := do
  let (given, operands) ← optionsWith true ["a|multiple", "s|suffix=", "z|zero"] args
  needOperand operands
  let several := given.has "a" || given.has "s"
  if !several then atMost 2 operands
  let ender := if given.has "z" then '\x00' else '\n'
  let cut (suffix name : Octets) : Octets :=
    let o := lastPart name
    if suffix.isSuffixOf o && o ≠ suffix then o.take (o.length - suffix.length) else o
  if several then
    for name in operands do say (cut ((given.value? "s").getD []) name ++ [ender])
  else say (cut ((operands[1]?).getD []) (operands.head?.getD []) ++ [ender])

def dirnameTool (args : List Octets) : Tool Unit := do
  let (given, operands) ← options ["z|zero"] args
  needOperand operands
  for name in operands do
    say ((if name.isEmpty then ['.'] else aroundPart name) ++ [if given.has "z" then '\x00' else '\n'])

/-- Which parts of a path there have to be. -/
inductive Existing where
  | all
  | allButLast
  | none
  deriving DecidableEq, Repr

/-- A path without links, steps back and double slashes, from the root on.  The fuel bounds the number of steps. -/
def resolveOn (existing : Existing) (followsLinks : Bool) : (fuel : Nat) → (done : Octets) → List Octets → Tool (Except Fault Octets)
  | 0, _, _ => return .error (.system 40)
  | _ + 1, done, [] => return .ok (if done.isEmpty then ['/'] else done)
  | fuel + 1, done, step :: rest => do
    if step = ['.'] then resolveOn existing followsLinks fuel done rest
    else if step = ['.', '.'] then
      resolveOn existing followsLinks fuel (Octets.dropEnd (· = '/') (Octets.dropEnd (· ≠ '/') done)) rest
    else
      let path := done ++ '/' :: step
      match ← ask (.inspect path false) with
      | .error fault =>
        let missing := fault = .notFound && match existing with
          | .all => false
          | .allButLast => rest.all (· = ['.'])
          | .none => true
        if missing || existing = .none then resolveOn existing followsLinks fuel path rest else return .error fault
      | .ok info =>
        if info.kind = .link && followsLinks then
          match ← ask (.target path) with
          | .ok target =>
            resolveOn existing followsLinks fuel (if target.head? = some '/' then [] else done) (Disk.steps target ++ rest)
          | .error fault => return .error fault
        else if info.kind ≠ .directory && !rest.isEmpty && existing ≠ .none then return .error .notADirectory
        else resolveOn existing followsLinks fuel path rest

def resolved (existing : Existing) (followsLinks : Bool) (path : Octets) : Tool (Except Fault Octets) := do
  if path.isEmpty then return .error .notFound
  else
    let here ← ask .here
    let start := if path.head? = some '/' then [] else Disk.steps here
    resolveOn existing followsLinks 1000 [] (start ++ Disk.steps path)

def readlinkTool (args : List Octets) : Tool Unit := do
  let (given, operands) ← options
    ["f|canonicalize", "e|canonicalize-existing", "m|canonicalize-missing", "n|no-newline", "q|quiet", "s|silent", "v|verbose",
      "z|zero"] args
  needOperand operands
  let ender : Octets := if given.has "z" then ['\x00'] else if given.has "n" && operands.length = 1 then [] else ['\n']
  for name in operands do
    let result ← (match given.lastOf ["f", "e", "m"] with
      | some "f" => resolved .allButLast true name
      | some "e" => resolved .all true name
      | some _ => resolved .none true name
      | none => ask (.target name) : Tool (Except Fault Octets))
    match result with
    | .ok o => say (o ++ ender)
    | .error fault =>
      if given.has "v" then complain (nameAndReason name fault)
      setStatus 1

/-- The way from one absolute path to another. -/
def wayFrom (base path : Octets) : Octets :=
  let rec go : List Octets → List Octets → List Octets
    | a :: as, b :: bs => if a = b then go as bs else (a :: as).map (fun _ => ['.', '.']) ++ b :: bs
    | as, bs => as.map (fun _ => ['.', '.']) ++ bs
  let steps := go (Disk.steps base) (Disk.steps path)
  if steps.isEmpty then ['.'] else ['/'].intercalate steps

def realpathTool (args : List Octets) : Tool Unit := do
  let (given, operands) ← options
    ["e|canonicalize-existing", "m|canonicalize-missing", "L|logical", "P|physical", "q|quiet", "relative-to=", "relative-base=",
      "s|strip|no-symlinks", "z|zero"] args
  needOperand operands
  let existing : Existing := match given.lastOf ["e", "m"] with
    | some "e" => .all
    | some _ => .none
    | none => .allButLast
  let base ← (match given.value? "relative-to" with
    | none => pure none
    | some b => do
      match ← resolved existing true b with
      | .ok o => return some o
      | .error fault => giveUp (nameAndReason b fault) : Tool (Option Octets))
  for name in operands do
    match ← resolved existing (!given.has "s") name with
    | .ok o =>
      let shown := match base with
        | some b => wayFrom b o
        | none => o
      say (shown ++ [if given.has "z" then '\x00' else '\n'])
    | .error fault =>
      if !given.has "q" then complain (nameAndReason name fault)
      setStatus 1

def pwdTool (args : List Octets) : Tool Unit := do
  let (_, _) ← options ["L|logical", "P|physical"] args
  say ((← ask .here) ++ ['\n'])

end GrammarStudio.Tools
