import GrammarStudio.Shell.Expansion

/-!
# Redirections

* `redirectAll` — carries out redirections, and says what they hide;
* `restore` — brings back what was hidden;
* `withRedirects` — a computation with redirections.
-/

namespace GrammarStudio.Shell

open Machine Files

/-- What redirections hide: each number with the one under which it is kept, if it was open. -/
abbrev Hidden := List (Nat × Option Nat)

/-- Keeps what a number stands for under a private one. -/
def keep (n : Nat) : Sh (Option Nat) := do
  match ← ask (.duplicate n 10) with
  | .ok m => return some m
  | .error _ => return none

def restore : Hidden → Sh Unit
  | [] => return
  | (n, kept) :: rest => do
    match kept with
    | some m => moveDescriptor m n
    | none => closeDescriptor n
    restore rest

/-- Why a file cannot be opened. -/
def openReason (rich creates : Bool) (fault : Fault) : Octets :=
  match fault with
  | .system 2 | .system 20 =>
    if rich then reason fault else ascii (if creates then "Directory nonexistent" else "No such file")
  | fault => reason fault

def openProblem (creates : Bool) (name : Octets) (fault : Fault) : Sh Octets := do
  let rich ← isRichShell
  if rich then return name ++ ascii ": " ++ reason fault
  else return ascii (if creates then "cannot create " else "cannot open ") ++ name ++ ascii ": " ++ openReason rich creates fault

/-- Carries out one redirection to a target, unless there is a problem. -/
def redirectTo (n : Nat) (kind : RedirectKind) (target : Octets) : Sh (Option Octets) := do
  let opened (creates : Bool) (how : Opening) : Sh (Option Octets) := do
    match ← ask (.openFile target how 0o666) with
    | .ok d =>
      moveDescriptor d n
      return none
    | .error fault => return some (← openProblem creates target fault)
  let duplicated (m : Nat) : Sh (Option Octets) := do
    match ← ask (.replace m n) with
    | .ok () => return none
    | .error fault => return some (Octets.ofNat m ++ ascii ": " ++ reason fault)
  let both (appends : Bool) : Sh (Option Octets) := do
    match ← opened true { writes := true, creates := true, truncates := !appends, appends } with
    | none =>
      let _ ← ask (.replace 1 2)
      return none
    | problem => return problem
  let written : Sh (Option Octets) := opened true { writes := true, creates := true, truncates := true }
  match kind with
  | .read => opened false { reads := true }
  | .readWrite => opened true { reads := true, writes := true, creates := true }
  | .append => opened true { writes := true, creates := true, appends := true }
  | .clobber => written
  | .writeBoth => both false
  | .appendBoth => both true
  | .write =>
    if (← get).isOn 'C' then
      match ← ask (.inspect target true) with
      | .ok info =>
        if info.kind = .file then
          if ← isRichShell then return some (target ++ ascii ": cannot overwrite existing file")
          else return some (ascii "cannot create " ++ target ++ ascii ": File exists")
        else written
      | .error _ => written
    else written
  | .duplicateInput | .duplicateOutput =>
    if target = ['-'] then
      closeDescriptor n
      return none
    else
      let rich ← isRichShell
      match Octets.nat? target with
      | some m =>
        if !rich && target.length > 1 then failWith (ascii "Syntax error: Bad fd number")
        else duplicated m
      | none =>
        if rich then
          if kind = .duplicateOutput && n = 1 then both false
          else return some (target ++ ascii ": ambiguous redirect")
        else failWith (ascii "Syntax error: Bad fd number")
  | .here _ | .hereWord =>
    let (source, sink) ← ask .makePipe
    if target.length ≤ 4096 then (Work.put sink target : Work Unit)
    else
      -- more than a pipe may hold is written beside the shell
      let write : Work Nat := do
        Work.put sink target
        return 0
      let _ ← (Work.fork (do let _ ← Work.ask (.close source); write) : Work Nat)
    closeDescriptor sink
    moveDescriptor source n
    return none

/-- The text a redirection leads to. -/
def targetText (r : Runner) (redirect : Redirect) : Sh (Except Octets Octets) := do
  match redirect.kind with
  | .here index => return .ok (← joined r (((← get).texts[index]?).getD []))
  | .hereWord => return .ok ((← joined r redirect.target) ++ ['\n'])
  | _ =>
    if ← isRichShell then
      match ← expand r redirect.target with
      | [one] => return .ok one
      | _ => return .error ((spelledParts 5 redirect.target) ++ ascii ": ambiguous redirect")
    else return .ok (← joined r redirect.target)

/-- The numbers that a redirection changes. -/
def changedBy (redirect : Redirect) (target : Octets) : List Nat :=
  match redirect.kind with
  | .writeBoth | .appendBoth => [1, 2]
  | .duplicateOutput => if redirect.descriptor = 1 && (Octets.nat? target).isNone && target ≠ ['-'] then [1, 2] else [redirect.descriptor]
  | _ => [redirect.descriptor]

def keepAll : List Nat → Sh Hidden
  | [] => return []
  | n :: rest => do
    let kept ← keep n
    return (n, kept) :: (← keepAll rest)

/-- Carries out redirections, from first to last; what they hide is kept.  Behind it stands whether all could be
carried out. -/
def redirectAll (r : Runner) (keeps : Bool) : List Redirect → Hidden → Sh (Hidden × Bool)
  | [], hidden => return (hidden, true)
  | redirect :: rest, hidden => do
    match ← targetText r redirect with
    | .error problem =>
      complain problem
      return (hidden, false)
    | .ok target =>
      let fresh := (changedBy redirect target).filter fun n => !(hidden.any (·.1 = n))
      let hidden ← (if keeps then do return (← keepAll fresh) ++ hidden else pure hidden : Sh Hidden)
      match ← redirectTo redirect.descriptor redirect.kind target with
      | none => redirectAll r keeps rest hidden
      | some problem =>
        complain problem
        return (hidden, false)

/-- Does something and then something else, even when the first is left before its end. -/
def andFinally (act after : Sh Unit) : Sh Unit := do
  let result ← (ExceptT.lift act.run : Sh (Except Jump Unit))
  after
  match result with
  | .ok () => return
  | .error jump => throw jump

/-- A computation with redirections, which are taken back afterwards; another one, when they cannot be carried out. -/
def withRedirects (r : Runner) (redirects : List Redirect) (act otherwise : Sh Unit) : Sh Unit := do
  if redirects.isEmpty then act
  else
    let (hidden, done) ← redirectAll r true redirects []
    if done then andFinally act (restore hidden)
    else
      restore hidden
      otherwise

end GrammarStudio.Shell
