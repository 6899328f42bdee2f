import GrammarStudio.ObjectScript.Library.System

/-!
# Paths as texts

* `joinedPath`, `splitPath`, `normalPath` — paths made of others;
* `pathLibrary`, `pathFunction?` — the library about them.
-/

namespace GrammarStudio.ObjectScript

open Machine Files Tools

/-- The last part of a path, and what stands before it. -/
def splitPath (g : Glyphs) : Glyphs × Glyphs :=
  let tail := (g.reverse.takeWhile (· ≠ 47)).reverse
  let head := g.take (g.length - tail.length)
  let bare := (head.reverse.dropWhile (· = 47)).reverse
  (if bare.isEmpty then head else bare, tail)

def joinPaths (a b : Glyphs) : Glyphs :=
  if b.head? = some 47 then b
  else if a.isEmpty || a.getLast? = some 47 then a ++ b
  else a ++ 47 :: b

/-- The part of a name from its last point on. -/
def splitSuffix (g : Glyphs) : Glyphs × Glyphs :=
  let (_, name) := splitPath g
  let after := (name.reverse.takeWhile (· ≠ 46)).reverse
  let before := name.take (name.length - after.length - 1)
  if after.length = name.length || before.all (· = 46) then (g, [])
  else (g.take (g.length - after.length - 1), 46 :: after)

/-- A path without empty steps and steps that lead nowhere. -/
def normalPath (g : Glyphs) : Glyphs :=
  if g.isEmpty then [46]
  else
    let slashes := (g.takeWhile (· = 47)).length
    let start : Nat := if slashes = 0 then 0 else if slashes = 2 then 2 else 1
    let steps := splitOn [47] (g.length + 1) none g
    let kept := steps.foldl (fun (kept : List Glyphs) step =>
      if step.isEmpty || step = [46] then kept
      else if step = [46, 46] then
        match kept with
        | [] => if start > 0 then [] else [step]
        | last :: more => if last = [46, 46] then step :: kept else more
      else step :: kept) []
    let body := (kept.reverse.intersperse [47]).flatten
    let path := List.replicate start 47 ++ body
    if path.isEmpty then [46] else path

/-- A path from the root. -/
def absolutePath (g : Glyphs) : Run Glyphs := do
  if g.head? = some 47 then return normalPath g
  else return normalPath (joinPaths (Glyphs.ofSystem (← system .here)) g)

/-- A path without links. -/
def realPathOn : (fuel : Nat) → (done : Glyphs) → List Glyphs → Run Glyphs
  | 0, done, _ => return done
  | _ + 1, done, [] => return (if done.isEmpty then [47] else done)
  | fuel + 1, done, step :: rest => do
    if step.isEmpty || step = [46] then realPathOn fuel done rest
    else if step = [46, 46] then
      let up := (splitPath done).1
      realPathOn fuel (if up = [47] then [] else up) rest
    else
      let path := done ++ 47 :: step
      match ← system (.target (Glyphs.toSystem path)) with
      | .ok target =>
        let target := Glyphs.ofSystem target
        let steps := splitOn [47] (target.length + 1) none target
        realPathOn fuel (if target.head? = some 47 then [] else done) (steps ++ rest)
      | .error _ => realPathOn fuel path rest

def realPath (g : Glyphs) : Run Glyphs := do
  let whole ← if g.head? = some 47 then pure g else pure (joinPaths (Glyphs.ofSystem (← system .here)) g)
  realPathOn 400 [] (splitOn [47] (whole.length + 1) none whole)

/-- The path from one place to another. -/
def relativePath (path start : Glyphs) : Run Glyphs := do
  let steps (g : Glyphs) : List Glyphs := (splitOn [47] (g.length + 1) none g).filter (!·.isEmpty)
  let a := steps (← absolutePath start)
  let b := steps (← absolutePath path)
  let common := ((a.zip b).takeWhile fun (x, y) => x = y).length
  let all := List.replicate (a.length - common) [46, 46] ++ b.drop common
  return if all.isEmpty then [46] else (all.intersperse [47]).flatten

/-- What is common to the beginnings of all. -/
def commonStart {α : Type} [DecidableEq α] (gs : List (List α)) : List α :=
  match gs with
  | [] => []
  | g :: rest => rest.foldl (fun (p : List α) q => ((p.zip q).takeWhile fun (x, y) => decide (x = y)).map Prod.fst) g

/-! ### The library -/

def pathLibrary : Run (List (String × Value)) := do
  return functionsOf "os.path" ("join basename dirname split splitext exists lexists isfile isdir islink isabs abspath normpath realpath relpath expanduser " ++
      "expandvars getsize getmtime getatime getctime commonprefix commonpath samefile ismount normcase splitdrive") ++
    [("sep", textValue "/"), ("pathsep", textValue ":"), ("curdir", textValue "."), ("pardir", textValue ".."), ("extsep", textValue "."),
      ("altsep", .none), ("devnull", textValue "/dev/null"), ("defpath", textValue "/bin:/usr/bin"), ("supports_unicode_filenames", .bool false)]

/-- The value of a name in the environment that the script sees. -/
def environmentWord? (name : Glyphs) : Run (Option Glyphs) := do
  match ← libraryValue "os" "environ" with
  | .thing n =>
    match ← look n with
    | .dict d _ _ =>
      match d.get? (3 :: name.map Int.ofNat) with
      | some (_, .text g) => return some g
      | _ => return none
    | _ => return none
  | _ => return (← tool (environmentValue? (Glyphs.toString name))).map Glyphs.ofSystem

/-- A text with the values of names behind dollar signs. -/
def withValues : (fuel : Nat) → Glyphs → Run Glyphs
  | 0, g => return g
  | fuel + 1, g => do
    match g with
    | [] => return []
    | 36 :: 123 :: rest =>
      let name := rest.takeWhile (· ≠ 125)
      match rest.drop name.length with
      | _ :: behind =>
        match ← environmentWord? name with
        | some v => return v ++ (← withValues fuel behind)
        | none => return [36, 123] ++ name ++ 125 :: (← withValues fuel behind)
      | [] => return g
    | 36 :: rest =>
      let name := rest.takeWhile fun n => Glyphs.isDigit n || (65 ≤ n && n ≤ 90) || (97 ≤ n && n ≤ 122) || n = 95
      match ← environmentWord? name with
      | some v => return v ++ (← withValues fuel (rest.drop name.length))
      | none => return 36 :: name ++ (← withValues fuel (rest.drop name.length))
    | n :: rest => return n :: (← withValues fuel rest)

/-- What is known of the node that a path leads to. -/
def inspected (v : Value) (o : Octets) (follows : Bool) : Run Info := do answered [v] (← system (.inspect o follows))

def pathFunction? [Caller] [Resumer] (name : String) (given : Given) : Run (Option Value) := do
  let give (v : Value) : Run (Option Value) := return some v
  let v := given.first
  let isOctets := (← octetsOf? v).isSome
  let wrap (g : Glyphs) : Value := if isOctets then .octets (Glyphs.toSystem g) else .text g
  let path : Run Glyphs := do
    if given.args.isEmpty then typeError (name ++ "() missing 1 required positional argument: '" ++ (if name == "join" then "a" else if name == "isfile" || name == "exists" then "path" else if name == "isdir" then "s" else "p") ++ "'")
    pathGlyphs v
  let info? (follows : Bool) : Run (Option Info) := do
    let o ← match ← coreOf v with
      | .int n => do return (← system (.describe n.toNat)).toOption
      | _ => do pure (Glyphs.toSystem (← path))
    if o.contains '\x00' then return none
    return (← system (.inspect o follows)).toOption
  match name with
  | "join" =>
    let first ← path
    let rest ← (given.args.drop 1).mapM fun w => do
      match ← coreOf w with
      | .int _ | .float _ | .none | .bool _ => typeError ("join() argument must be str, bytes, or os.PathLike object, not '" ++ (← kindNameOf w) ++ "'")
      | _ => pathGlyphs w
    give (wrap (rest.foldl joinPaths first))
  | "basename" => do return some (wrap (splitPath (← path)).2)
  | "dirname" => do return some (wrap (splitPath (← path)).1)
  | "split" =>
    let (a, b) := splitPath (← path)
    give (.tuple [wrap a, wrap b])
  | "splitext" =>
    let (a, b) := splitSuffix (← path)
    give (.tuple [wrap a, wrap b])
  | "splitdrive" => do return some (.tuple [wrap [], wrap (← path)])
  | "exists" => do return some (.bool (← info? true).isSome)
  | "lexists" => do return some (.bool (← info? false).isSome)
  | "isfile" => do return some (.bool ((← info? true).any fun i => i.kind = .file))
  | "isdir" => do return some (.bool ((← info? true).any fun i => i.kind = .directory))
  | "islink" => do return some (.bool ((← info? false).any fun i => i.kind = .link))
  | "ismount" => do return some (.bool (normalPath (← path) = [47]))
  | "isabs" => do return some (.bool ((← path).head? = some 47))
  | "abspath" => do return some (wrap (← absolutePath (← path)))
  | "normpath" => do return some (wrap (normalPath (← path)))
  | "normcase" => do return some (wrap (← path))
  | "realpath" => do return some (wrap (← realPath (← path)))
  | "relpath" =>
    let start ← match given.get? 1 "start" with
      | some .none | none => pure [46]
      | some w => pathGlyphs w
    let g ← path
    if g.isEmpty then valueError "no path specified"
    do return some (wrap (← relativePath g start))
  | "expanduser" =>
    let g ← path
    match g with
    | 126 :: rest =>
      if rest.isEmpty || rest.head? = some 47 then
        let home := (← environmentWord? (glyphs "HOME")).getD (glyphs "/root")
        give (wrap (home ++ rest))
      else give (wrap g)
    | g => give (wrap g)
  | "expandvars" =>
    let g ← path
    do return some (wrap (← withValues (g.length + 1) g))
  | "getsize" | "getmtime" | "getatime" | "getctime" =>
    let line : Nat := match name with
      | "getsize" => 50
      | "getmtime" => 55
      | "getatime" => 60
      | _ => 65
    alongLibrary [{ file := "<frozen genericpath>", line, name }] do
      let info ← inspected v (← pathOctets v) true
      return some (if name == "getsize" then .ofNat info.size else .float (Float.ofNat info.modified / 1000000.0))
  | "samefile" =>
    let a ← inspected v (← pathOctets v) true
    let w := given.getD 1 "f2" .none
    let b ← inspected w (← pathOctets w) true
    give (.bool (a.node = b.node))
  | "commonprefix" =>
    let items ← (← collect v).mapM pathGlyphs
    give (.text (commonStart items))
  | "commonpath" =>
    let items ← (← collect v).mapM pathGlyphs
    if items.isEmpty then valueError "commonpath() arg is an empty sequence"
    let steps (g : Glyphs) : List Glyphs := (splitOn [47] (g.length + 1) none g).filter fun s => !s.isEmpty && s ≠ [46]
    let rooted := items.map fun g => g.head? == some 47
    if rooted.any (· ≠ rooted.headD true) then valueError "Can't mix absolute and relative paths"
    let common := commonStart (items.map steps)
    give (.text ((if rooted.headD false then [47] else []) ++ (common.intersperse [47]).flatten))
  | _ => return none

end GrammarStudio.ObjectScript
