import GrammarStudio.Tools.Moving

/-!
# Tools that make files and directories

* `mkdirTool`, `mkfifoTool` — directories and pipes with names;
* `touchTool`, `truncateTool` — files with a time, or a size;
* `mktempTool` — a name that nobody else has.
-/

namespace GrammarStudio.Tools

open Machine Files

/-- The mode that an option asks for. -/
def modeOption (given : Given) (isDirectory : Bool) (usual : Nat) : Tool (Option Nat) := do
  match given.value? "m" with
  | none => return none
  | some text =>
    match ModeChange.read text with
    | some change => return some (change.apply isDirectory (← ask (.mask none)) usual)
    | none => giveUp (ascii "invalid mode " ++ quoted text)

/-- Makes a directory and those around it. -/
def makeAround (verbose : Bool) : (fuel : Nat) → Octets → Tool Bool
  | 0, _ => return false
  | fuel + 1, path => do
    match ← ask (.inspect path true) with
    | .ok info =>
      if info.kind = .directory then return true
      else
        failing (ascii "cannot create directory " ++ always path ++ ascii ": " ++
          reason (if fuel = 999 then .alreadyExists else .notADirectory))
        return false
    | .error fault =>
      let around := aroundPart path
      let ready ← (if fault = .notFound && around ≠ ['.'] && around ≠ ['/'] && !path.isEmpty then makeAround verbose fuel around
        else if fault = .notADirectory then makeAround verbose fuel around else pure true : Tool Bool)
      if !ready then return false
      match ← ask (.makeDirectory path 0o777) with
      | .ok () =>
        if verbose then say ((← get).name ++ ascii ": created directory " ++ always path ++ ['\n'])
        return true
      | .error fault =>
        failing (ascii "cannot create directory " ++ always path ++ ascii ": " ++ reason fault)
        return false

def mkdirTool (args : List Octets) : Tool Unit := do
  let (given, operands) ← options ["m|mode=", "p|parents", "v|verbose", "Z", "context=?"] args
  needOperand operands
  let mode ← modeOption given true 0o777
  for path in operands do
    let made ← (if given.has "p" then do
        let there := (← ask (.inspect path true)).toOption.isSome
        let made ← makeAround (given.has "v") 1000 path
        return made && !there
      else do
        match ← ask (.makeDirectory path 0o777) with
        | .ok () =>
          if given.has "v" then say ((← get).name ++ ascii ": created directory " ++ always path ++ ['\n'])
          return true
        | .error fault =>
          failing (ascii "cannot create directory " ++ always path ++ ascii ": " ++ reason fault)
          return false : Tool Bool)
    match mode with
    | some mode =>
      if made then
        let _ ← ask (.setMode path mode)
    | none => pure ()

def mkfifoTool (args : List Octets) : Tool Unit := do
  let (given, operands) ← options ["m|mode=", "Z", "context=?"] args
  needOperand operands
  let mode ← modeOption given false 0o666
  for path in operands do
    match ← ask (.makeFifo path 0o666) with
    | .error fault => failing (ascii "cannot create fifo " ++ always path ++ ascii ": " ++ reason fault)
    | .ok () =>
      match mode with
      | some mode =>
        let _ ← ask (.setMode path mode)
      | none => pure ()

def truncateTool (args : List Octets) : Tool Unit := do
  let (given, operands) ← options ["c|no-create", "o|io-blocks", "r|reference=", "s|size="] args
  if !given.has "s" && !given.has "r" then misused (ascii "you must specify either '--size' or '--reference'")
  if operands.isEmpty then misused (ascii "missing file operand")
  let text := (given.value? "s").getD ['0']
  let sign := text.head?.getD ' '
  let signed := (ascii "+-<>/%").contains sign
  let n ← amount true "number" (if signed then text.drop 1 else text)
  for path in operands do
    match ← ask (.openFile path { writes := true, creates := !given.has "c" } 0o666) with
    | .error fault =>
      if !(given.has "c" && fault = .notFound) then
        failing (ascii "cannot open " ++ always path ++ ascii " for writing: " ++ reason fault)
    | .ok d =>
      let old := ((← ask (.describe d)).toOption.map Info.size).getD 0
      let size := match sign with
        | '+' => old + n
        | '-' => old - n
        | '<' => min old n
        | '>' => max old n
        | '/' => if n = 0 then old else old / n * n
        | '%' => if n = 0 then old else (old + n - 1) / n * n
        | _ => n
      let _ ← ask (.resize d size)
      (Work.close d : Work Unit)

/-- Letters for names that nobody else has. -/
def nameLetters : Octets := ascii "abcdefghijklmnopqrstuvwxyzABCDEFGHIJKLMNOPQRSTUVWXYZ0123456789"

def freshLetters (seed : Nat) : Nat → Octets
  | 0 => []
  | n + 1 => nameLetters.getD (seed / 65536 % 62) 'a' :: freshLetters ((seed * 1103515245 + 12345) % 2147483648) n

def mktempTool (args : List Octets) : Tool Unit := do
  let (given, operands) ← options ["d|directory", "u|dry-run", "q|quiet", "suffix=", "p=", "tmpdir=?", "t"] args
  match operands with
  | _ :: _ :: _ => misused (ascii "too many templates")
  | _ => pure ()
  let template := operands.head?.getD (ascii "tmp.XXXXXXXXXX")
  let suffix := match given.value? "suffix" with
    | some o => o
    | none => (template.reverse.takeWhile (· ≠ 'X')).reverse
  let body := if (given.value? "suffix").isSome then template else template.take (template.length - suffix.length)
  let count := (body.reverse.takeWhile (· = 'X')).length
  if (given.value? "suffix").isSome && body.getLast? ≠ some 'X' then
    giveUp (ascii "with --suffix, template " ++ quoted template ++ ascii " must end in X")
  if count < 3 then giveUp (ascii "too few X's in template " ++ quoted template)
  if suffix.contains '/' then giveUp (ascii "invalid suffix " ++ quoted suffix ++ ascii ", contains directory separator")
  let usual := (← environmentValue? "TMPDIR").getD []
  let usual := if usual.isEmpty then ascii "/tmp" else usual
  let place : Option Octets := match given.value? "p", given.value? "tmpdir" with
    | some o, _ => some (if o.isEmpty then usual else o)
    | none, some o => some (if o.isEmpty then usual else o)
    | none, none => if given.has "t" || operands.isEmpty then some usual else none
  let seed ← ask .fresh
  let clock ← ask .now
  let name := body.take (body.length - count) ++ freshLetters (seed * 7919 + clock) count ++ suffix
  let path := match place with
    | some d => joined d name
    | none => name
  let shown := match place with
    | some d => joined d template
    | none => template
  if !given.has "u" then
    let made ← (if given.has "d" then ask (.makeDirectory path 0o700) else do
      match ← ask (.openFile path { writes := true, creates := true, exclusive := true } 0o600) with
      | .ok d =>
        (Work.close d : Work Unit)
        return .ok ()
      | .error fault => return .error fault : Tool (Except Fault Unit))
    match made with
    | .ok () => pure ()
    | .error fault =>
      if given.has "q" then finish 1
      giveUp (ascii (if given.has "d" then "failed to create directory via template " else "failed to create file via template ") ++
        quoted shown ++ ascii ": " ++ reason fault)
  say (path ++ ['\n'])

end GrammarStudio.Tools
