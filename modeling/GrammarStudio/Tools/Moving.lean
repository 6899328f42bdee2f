import GrammarStudio.Tools.Mode

/-!
# Tools that copy, move and remove

* `Target` — where files go: under a name, or into a directory;
* `cpTool`, `mvTool`, `lnTool` — copies, new names, more names;
* `rmTool`, `rmdirTool`, `unlinkTool` — names that are taken away.
-/

namespace GrammarStudio.Tools

open Machine Files

def always (o : Octets) : Octets := shellWordAlways o

def isDirectory (path : Octets) (follows : Bool) : Tool Bool := do
  match ← ask (.inspect path follows) with
  | .ok info => return info.kind = .directory
  | .error _ => return false

/-! ### Where files go -/

/-- Pairs of a file and the name it is to have.  A last operand that is a directory takes all others. -/
def targets (given : Given) (operands : List Octets) : Tool (List (Octets × Octets)) := do
  let into (directory : Octets) (files : List Octets) : List (Octets × Octets) :=
    files.map fun f => (f, joined directory (lastPart f))
  match given.value? "t" with
  | some directory =>
    if operands.isEmpty then misused (ascii "missing file operand")
    match ← ask (.inspect directory true) with
    | .ok info =>
      if info.kind = .directory then return into directory operands
      else giveUp (ascii "target directory " ++ always directory ++ ascii ": Not a directory")
    | .error fault => giveUp (ascii "target directory " ++ always directory ++ ascii ": " ++ reason fault)
  | none =>
    match operands with
    | [] => misused (ascii "missing file operand")
    | [one] => misused (ascii "missing destination file operand after " ++ always one)
    | operands =>
      let last := operands.getLast?.getD []
      let files := operands.dropLast
      if given.has "T" then
        match operands with
        | _ :: _ :: extra :: _ => misused (ascii "extra operand " ++ always extra)
        | _ => return files.map fun f => (f, last)
      else if ← isDirectory last true then return into last files
      else if files.length > 1 then
        match ← ask (.inspect last true) with
        | .ok _ => giveUp (ascii "target " ++ always last ++ ascii ": Not a directory")
        | .error fault => giveUp (ascii "target " ++ always last ++ ascii ": " ++ reason fault)
      else return files.map fun f => (f, last)

/-- Does someone agree?  There is nobody to ask, and so the answer is what can be read. -/
def agrees (question : Octets) : Tool Bool := do
  flush
  mutter ((← get).name ++ ascii ": " ++ question ++ ascii "? ")
  let (line, _) ← (Work.readLine 0 : Work (Octets × Bool))
  return line.head?.any fun c => c = 'y' || c = 'Y'

/-! ### Copies -/

structure Copying where
  recursive : Bool
  followsFirst : Bool
  followsInside : Bool
  preserves : Bool
  forces : Bool
  spares : Bool
  asks : Bool
  updates : Bool
  verbose : Bool
  links : Bool
  symbolic : Bool

/-- Keeps mode and time of a file. -/
def keepAttributes (c : Copying) (info : Info) (path : Octets) : Tool Unit := do
  if c.preserves && info.kind ≠ .link then
    let _ ← ask (.setMode path info.mode)
    let _ ← ask (.setTime path info.modified)

/-- Copies the content of a file. -/
def copyContent (c : Copying) (info : Info) (source target : Octets) : Tool Bool := do
  match ← (Work.openToRead source : Work (Except Fault Nat)) with
  | .error fault =>
    failing (ascii "cannot open " ++ always source ++ ascii " for reading: " ++ reason fault)
    return false
  | .ok d =>
    let open_ : Tool (Except Fault Nat) := ask (.openFile target { writes := true, creates := true, truncates := true } (info.mode &&& 0o777))
    let opened ← open_
    let opened ← (match opened with
      | .error fault => do
        if c.forces then
          let _ ← ask (.remove target)
          open_
        else return .error fault
      | .ok t => return .ok t : Tool (Except Fault Nat))
    match opened with
    | .error fault =>
      (Work.close d : Work Unit)
      let fault := if fault = .isADirectory && target.getLast? = some '/' then .notADirectory else fault
      failing (ascii "cannot create regular file " ++ always target ++ ascii ": " ++ reason fault)
      return false
    | .ok t =>
      let (_, fault) ← foldPieces d () fun _ piece => do
        (Work.put t piece : Work Unit)
        return ((), true)
      (Work.close d : Work Unit)
      (Work.close t : Work Unit)
      match fault with
      | some fault =>
        failing (ascii "error reading " ++ always source ++ ascii ": " ++ reason fault)
        return false
      | none =>
        keepAttributes c info target
        return true

/-- Is a path inside a directory, or the same? -/
def isWithin (directory : Nat) : (fuel : Nat) → Octets → Tool Bool
  | 0, _ => return false
  | fuel + 1, path => do
    match ← ask (.inspect path true) with
    | .ok info =>
      if info.node = directory then return true
      else
        match ← ask (.inspect (joined path (ascii "..")) true) with
        | .ok up => if up.node = info.node then return false else isWithin directory fuel (joined path (ascii ".."))
        | .error _ => isWithin directory fuel (aroundPart path)
    | .error _ => if path = ['.'] || path = ['/'] then return false else isWithin directory fuel (aroundPart path)

/-- Copies a file, or a directory with all that is in it.  The fuel bounds the depth. -/
def copyOne (c : Copying) : (fuel : Nat) → (top : Bool) → Octets → Octets → Tool Unit
  | 0, _, _, _ => return
  | fuel + 1, top, source, target => do
    match ← ask (.inspect source (if top then c.followsFirst else c.followsInside)) with
    | .error fault => failing (ascii "cannot stat " ++ always source ++ ascii ": " ++ reason fault)
    | .ok info =>
      if info.kind = .directory && !c.recursive then
        failing (ascii "-r not specified; omitting directory " ++ always source)
      else
        let there := (← ask (.inspect target true)).toOption
        let named := (← ask (.inspect target false)).toOption
        match there with
        | some other =>
          if other.node = info.node && !(c.links || c.symbolic) && info.kind ≠ .directory then
            failing (always source ++ ascii " and " ++ always target ++ ascii " are the same file")
            return
          if other.kind = .directory && info.kind ≠ .directory then
            failing (ascii "cannot overwrite directory " ++ always target ++ ascii " with non-directory")
            return
          if other.kind ≠ .directory && info.kind = .directory then
            failing (ascii "cannot overwrite non-directory " ++ always target ++ ascii " with directory " ++ always source)
            return
          if info.kind ≠ .directory then
            if c.spares then return
            if c.updates && other.modified ≥ info.modified then return
            if c.asks then
              if !(← agrees (ascii "overwrite " ++ always target)) then
                setStatus 1
                return
        | none =>
          match named with
          | some _ =>
            if info.kind ≠ .directory && info.kind ≠ .link && !c.forces then
              failing (ascii "not writing through dangling symlink " ++ always target)
              return
          | none => pure ()
        let tell : Tool Unit := do
          if c.verbose then say (always source ++ ascii " -> " ++ always target ++ ['\n'])
        match info.kind with
        | .directory =>
          if ← isWithin info.node 1000 (if there.isSome then target else aroundPart target) then
            failing (ascii "cannot copy a directory, " ++ always source ++ ascii ", into itself, " ++ always target)
          else
            let made ← (if there.isSome then pure (.ok ()) else ask (.makeDirectory target (info.mode ||| 0o700)) : Tool (Except Fault Unit))
            match made with
            | .error fault => failing (ascii "cannot create directory " ++ always target ++ ascii ": " ++ reason fault)
            | .ok () =>
              if there.isNone then tell
              match ← ask (.list source) with
              | .error fault => failing (ascii "cannot access " ++ always source ++ ascii ": " ++ reason fault)
              | .ok names =>
                for name in names do
                  copyOne c fuel false (joined source name) (joined target name)
                keepAttributes c info target
        | .link =>
          match ← ask (.target source) with
          | .error fault => failing (ascii "cannot read symbolic link " ++ always source ++ ascii ": " ++ reason fault)
          | .ok o =>
            if named.isSome then
              let _ ← ask (.remove target)
            match ← ask (.makeLink o target) with
            | .ok () => tell
            | .error fault => failing (ascii "cannot create symbolic link " ++ always target ++ ascii ": " ++ reason fault)
        | _ =>
          if c.links || c.symbolic then
            if named.isSome && c.forces then
              let _ ← ask (.remove target)
            let result ← (if c.symbolic then ask (.makeLink source target) else ask (.nameToo source target) : Tool (Except Fault Unit))
            match result with
            | .ok () => tell
            | .error fault =>
              failing (ascii "cannot create " ++ ascii (if c.symbolic then "symbolic link " else "hard link ") ++ always target ++
                (if c.symbolic then ascii " to " else ascii " to ") ++ always source ++ ascii ": " ++ reason fault)
          else
            tell
            let _ ← copyContent c info source target

def cpTool (args : List Octets) : Tool Unit := do
  let (given, operands) ← options
    ["a|archive", "attributes-only", "backup=?", "b", "copy-contents", "d", "f|force", "i|interactive", "H", "l|link",
      "L|dereference", "n|no-clobber", "P|no-dereference", "p", "preserve=?", "no-preserve=", "parents", "R|recursive", "r",
      "reflink=?", "remove-destination", "sparse=", "strip-trailing-slashes", "s|symbolic-link", "S|suffix=", "t|target-directory=",
      "T|no-target-directory", "u|update", "v|verbose", "x|one-file-system", "Z"] args
  let has := given.has
  let recursive := has "a" || has "R" || has "r"
  let follows := given.lastOf ["a", "d", "H", "L", "P"]
  let c : Copying :=
    { recursive
      followsFirst := follows = some "L" || follows = some "H" || (follows.isNone && !recursive)
      followsInside := follows = some "L"
      preserves := has "a" || has "p" || has "preserve"
      forces := has "f" || has "remove-destination"
      spares := given.lastOf ["n", "i", "f"] = some "n"
      asks := given.lastOf ["n", "i"] = some "i", updates := has "u", verbose := has "v", links := has "l", symbolic := has "s" }
  let pairs ← targets given operands
  let mut seen : List Octets := []
  for (source, target) in pairs do
    if seen.contains source then
      complain (ascii "warning: source " ++ ascii (if ← isDirectory source true then "directory " else "file ") ++ always source ++ ascii " specified more than once")
    else
      seen := source :: seen
      let last := lastPart source
      -- a directory itself is copied into what is there
      let target := if last = ['.'] || last = ['.', '.'] then Octets.dropEnd (· = '.') target else target
      copyOne c 1000 true source target

/-! ### New names -/

def mvTool (args : List Octets) : Tool Unit := do
  let (given, operands) ← options
    ["b", "backup=?", "f|force", "i|interactive", "n|no-clobber", "S|suffix=", "strip-trailing-slashes", "t|target-directory=",
      "T|no-target-directory", "u|update", "v|verbose", "Z"] args
  for (source, target) in ← targets given operands do
    match ← ask (.inspect source false) with
    | .error fault => failing (ascii "cannot stat " ++ always source ++ ascii ": " ++ reason fault)
    | .ok info =>
      let there := (← ask (.inspect target false)).toOption
      let go : Tool Unit := do
        match ← ask (.rename source target) with
        | .ok () => if given.has "v" then say (ascii "renamed " ++ always source ++ ascii " -> " ++ always target ++ ['\n'])
        | .error (.system 22) =>
          failing (ascii "cannot move " ++ always source ++ ascii " to a subdirectory of itself, " ++ always target)
        | .error fault => failing (ascii "cannot move " ++ always source ++ ascii " to " ++ always target ++ ascii ": " ++ reason fault)
      match there with
      | none => go
      | some other =>
        if other.node = info.node then
          if info.kind = .directory then
            failing (ascii "cannot move " ++ always source ++ ascii " to a subdirectory of itself, " ++ always (joined target (lastPart source)))
          else failing (always source ++ ascii " and " ++ always target ++ ascii " are the same file")
        else if given.lastOf ["n", "i", "f"] = some "n" then pure ()
        else if given.has "u" && other.modified ≥ info.modified then pure ()
        else if given.lastOf ["n", "i", "f"] = some "i" && !(← agrees (ascii "overwrite " ++ always target)) then setStatus 1
        else if info.kind = .directory && other.kind ≠ .directory then
          failing (ascii "cannot overwrite non-directory " ++ always target ++ ascii " with directory " ++ always source)
        else if info.kind ≠ .directory && other.kind = .directory then
          failing (ascii "cannot overwrite directory " ++ always target ++ ascii " with non-directory")
        else go

/-! ### More names -/

def lnTool (args : List Octets) : Tool Unit := do
  let (given, operands) ← options
    ["b", "backup=?", "d|directory", "F", "f|force", "i|interactive", "L|logical", "n|no-dereference", "P|physical", "r|relative",
      "s|symbolic", "S|suffix=", "t|target-directory=", "T|no-target-directory", "v|verbose"] args
  let pairs ← (match operands, given.value? "t" with
    | [one], none => pure [(one, joined ['.'] (lastPart one))]
    | _, _ => do
      let last := operands.getLast?.getD []
      -- a link to a directory can itself be replaced
      if given.has "n" && operands.length = 2 && ((← ask (.inspect last false)).toOption.any (·.kind = .link)) then
        return [(operands.head?.getD [], last)]
      targets given operands : Tool (List (Octets × Octets)))
  for (source, target) in pairs do
    let info := (← ask (.inspect source (given.has "L"))).toOption
    let source' ← (if given.has "r" && given.has "s" then do
        match ← resolved .none true source, ← resolved .none true (aroundPart target) with
        | .ok s, .ok t => return wayFrom t s
        | _, _ => return source
      else pure source : Tool Octets)
    let proceeds ← (if given.has "s" then pure true else do
      match ← ask (.inspect source (given.has "L")) with
      | .error fault =>
        failing (ascii "failed to access " ++ always source ++ ascii ": " ++ reason fault)
        return false
      | .ok info =>
        if info.kind = .directory then
          failing (nameShown source ++ ascii ": hard link not allowed for directory")
          return false
        else return true : Tool Bool)
    if proceeds then
      match (← ask (.inspect target false)).toOption with
      | some other =>
        if given.has "f" then
          if !given.has "s" && info.any (·.node = other.node) then
            failing (always source ++ ascii " and " ++ always target ++ ascii " are the same file")
          else if other.kind = .directory then failing (nameShown target ++ ascii ": cannot overwrite directory")
          else
            let _ ← ask (.remove target)
      | none => pure ()
      match ← (if given.has "s" then ask (.makeLink source' target) else ask (.nameToo source target) : Tool (Except Fault Unit)) with
      | .ok () => if given.has "v" then say (always target ++ ascii (if given.has "s" then " -> " else " => ") ++ always source' ++ ['\n'])
      | .error fault =>
        failing (ascii (if given.has "s" then "failed to create symbolic link " else "failed to create hard link ") ++ always target ++
          (if given.has "s" || fault = .alreadyExists then [] else ascii " => " ++ always source) ++ ascii ": " ++ reason fault)

/-! ### Names that are taken away -/

structure Removing where
  recursive : Bool
  empties : Bool
  forces : Bool
  asks : Bool
  verbose : Bool

/-- What a file is, in a question. -/
def kindText (info : Info) : Octets :=
  ascii (match info.kind with
    | .file => if info.size = 0 then "regular empty file" else "regular file"
    | .directory => "directory"
    | .link => "symbolic link"
    | .device => "character special file"
    | .fifo => "fifo")

/-- Removes a file, or a directory with all that is in it.  Gives whether it is gone. -/
def removeOne (r : Removing) : (fuel : Nat) → Octets → Tool Bool
  | 0, _ => return false
  | fuel + 1, path => do
    let fails (fault : Fault) : Tool Bool := do
      failing (ascii "cannot remove " ++ always path ++ ascii ": " ++ reason fault)
      return false
    match ← ask (.inspect path false) with
    | .error fault =>
      if r.forces && (fault = .notFound || fault = .notADirectory) then return true else fails fault
    | .ok info =>
      if info.kind = .directory then
        if !r.recursive && !r.empties then fails .isADirectory
        else
          let names := ((← ask (.list path)).toOption).getD []
          if !r.recursive && !names.isEmpty then fails (.system 39)
          else
            if r.asks && !names.isEmpty then
              if !(← agrees (ascii "descend into directory " ++ always path)) then return false
            let mut all := true
            for name in names do
              if !(← removeOne r fuel (joined path name)) then all := false
            if !all then return false
            if r.asks then
              if !(← agrees (ascii "remove directory " ++ always path)) then return false
            match ← ask (.removeDirectory path) with
            | .ok () =>
              if r.verbose then say (ascii "removed directory " ++ always path ++ ['\n'])
              return true
            | .error fault => fails fault
      else
        if r.asks then
          if !(← agrees (ascii "remove " ++ kindText info ++ [' '] ++ always path)) then return false
        match ← ask (.remove path) with
        | .ok () =>
          if r.verbose then say (ascii "removed " ++ always path ++ ['\n'])
          return true
        | .error fault => fails fault

def rmTool (args : List Octets) : Tool Unit := do
  let (given, operands) ← options
    ["f|force", "i", "I", "interactive=?", "one-file-system", "no-preserve-root", "preserve-root=?", "r|recursive", "R", "d|dir",
      "v|verbose"] args
  let forces := given.lastOf ["f", "i", "I"] = some "f"
  if operands.isEmpty && !forces then misused (ascii "missing operand")
  let recursive := given.has "r" || given.has "R"
  let r : Removing :=
    { recursive, empties := given.has "d", forces, asks := given.lastOf ["f", "i", "I"] = some "i", verbose := given.has "v" }
  for path in operands do
    let last := lastPart path
    if recursive && (last = ['.'] || last = ['.', '.']) then
      failing (ascii "refusing to remove '.' or '..' directory: skipping " ++ always path)
    else if recursive && !given.has "no-preserve-root" && Disk.steps path = [] && path.head? = some '/' then
      failing (ascii "it is dangerous to operate recursively on " ++ always path)
      complain (ascii "use --no-preserve-root to override this failsafe")
    else
      let _ ← removeOne r 1000 path

def rmdirTool (args : List Octets) : Tool Unit := do
  let (given, operands) ← options ["ignore-fail-on-non-empty", "p|parents", "v|verbose"] args
  needOperand operands
  for path in operands do
    let rec go : (fuel : Nat) → (first : Bool) → Octets → Tool Unit
      | 0, _, _ => return
      | fuel + 1, first, path => do
        if given.has "v" then say ((← get).name ++ ascii ": removing directory, " ++ always path ++ ['\n'])
        match ← ask (.removeDirectory path) with
        | .ok () =>
          let around := aroundPart path
          if given.has "p" && around ≠ ['.'] && around ≠ ['/'] then go fuel false around
        | .error fault =>
          if !(given.has "ignore-fail-on-non-empty" && fault = .system 39) then
            failing (ascii (if first then "failed to remove " else "failed to remove directory ") ++ always path ++ ascii ": " ++ reason fault)
    go 1000 true (if given.has "p" then withoutSlashes path else path)

def unlinkTool (args : List Octets) : Tool Unit := do
  let (_, operands) ← options [] args
  needOperand operands
  atMost 1 operands
  for path in operands do
    match ← ask (.remove path) with
    | .ok () => return
    | .error fault => giveUp (ascii "cannot unlink " ++ always path ++ ascii ": " ++ reason fault)

def linkTool (args : List Octets) : Tool Unit := do
  let (_, operands) ← options [] args
  match operands with
  | [] => misused (ascii "missing operand")
  | [one] => misused (ascii "missing operand after " ++ quoted one)
  | [a, b] =>
    match ← ask (.nameToo a b) with
    | .ok () => return
    | .error fault => giveUp (ascii "cannot create link " ++ always b ++ ascii " to " ++ always a ++ ascii ": " ++ reason fault)
  | _ :: _ :: extra :: _ => misused (ascii "extra operand " ++ quoted extra)

end GrammarStudio.Tools
