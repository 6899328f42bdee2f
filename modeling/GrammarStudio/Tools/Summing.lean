import GrammarStudio.Digest.Basic
import GrammarStudio.Tools.Order

/-!
# Tools for sums and digests

* `Algorithm` — a digest with its names;
* `digestTool` — the digests of files, and their check;
* `cksumTool`, `sumTool` — checksums.
-/

namespace GrammarStudio.Tools

open Machine Files Digest

/-- A digest, with the name it is told by. -/
structure Algorithm where
  title : String
  digest : ByteArray → List UInt8

def hexOf (bytes : List UInt8) : Octets := bytes.flatMap fun b => Octets.padLeftWith '0' 2 (Octets.inBase 16 b.toNat)

def algorithms : List (String × Algorithm) :=
  [("md5", ⟨"MD5", md5⟩), ("sha1", ⟨"SHA1", sha1⟩), ("sha224", ⟨"SHA224", sha224⟩), ("sha256", ⟨"SHA256", sha256⟩),
    ("sha384", ⟨"SHA384", sha384⟩), ("sha512", ⟨"SHA512", sha512⟩), ("blake2b", ⟨"BLAKE2b", blake⟩)]

/-- The content of an input. -/
def inputContent (name : Octets) : Tool (Except Fault Octets) := do
  if name = ['-'] then content 0 else (Work.slurp name : Work (Except Fault Octets))

/-- A name in which signs that end lines have a backslash, and whether there are any. -/
def escapedName (name : Octets) : Octets × Bool :=
  let special := name.any fun c => c = '\n' || c = '\\' || c = '\r'
  (name.flatMap fun c => if c = '\n' then ['\\', 'n'] else if c = '\r' then ['\\', 'r'] else if c = '\\' then ['\\', '\\'] else [c], special)

/-- One line with a digest and a name. -/
def digestLine (a : Algorithm) (tagged binary : Bool) (ender : Char) (digest name : Octets) : Octets :=
  let (shown, special) := if ender = '\n' then escapedName name else (name, false)
  (if special then ['\\'] else []) ++
    (if tagged then a.title.toList ++ ascii " (" ++ shown ++ ascii ") = " ++ digest
    else digest ++ (if binary then [' ', '*'] else [' ', ' ']) ++ shown) ++ [ender]

/-- The digest and the name of a line that is to be checked. -/
def readDigestLine (a : Algorithm) (line : Octets) : Option (Octets × Octets) :=
  let line := line.dropWhile fun c => c = ' ' || c = '\t'
  let (line, special) := match line with
    | '\\' :: rest => (rest, true)
    | line => (line, false)
  let length := 2 * (a.digest .empty).length
  let name (o : Octets) : Octets := if !special then o else
    let rec go : Octets → Octets
      | '\\' :: 'n' :: rest => '\n' :: go rest
      | '\\' :: 'r' :: rest => '\r' :: go rest
      | '\\' :: '\\' :: rest => '\\' :: go rest
      | c :: rest => c :: go rest
      | [] => []
    go o
  let head := a.title.toList ++ ascii " ("
  if head.isPrefixOf line then
    let digest := (line.reverse.takeWhile Octets.isHex).reverse
    let before := line.take (line.length - digest.length)
    let mark := ascii ") = "
    if digest.length = length && mark.isSuffixOf before then
      some (digest, name ((before.take (before.length - mark.length)).drop head.length))
    else none
  else
    let digest := line.takeWhile Octets.isHex
    match line.drop digest.length with
    | ' ' :: mark :: rest =>
      if digest.length = length && (mark = ' ' || mark = '*') && !rest.isEmpty then some (digest, name rest) else none
    | _ => none

/-- Which lines of a check are told. -/
structure Checking where
  quiet : Bool
  silent : Bool
  strict : Bool
  warns : Bool
  ignoresMissing : Bool

def counted (n : Nat) (one many : String) : Octets := Octets.ofNat n ++ ascii (if n = 1 then one else many)

/-- Checks the digests that a file lists. -/
def checkDigests (a : Algorithm) (k : Checking) (list : Octets) : Tool Unit := do
  match ← inputContent list with
  | .error fault => failing (nameAndReason list fault)
  | .ok o =>
    let mut misformed := 0
    let mut unreadable := 0
    let mut wrong := 0
    let mut right := 0
    let mut formed := 0
    for (n, line) in (List.range (Octets.bareLines o).length).zip (Octets.bareLines o) do
      if line.head? ≠ some '#' then
        match readDigestLine a line with
        | none =>
          misformed := misformed + 1
          if k.warns then
            complain (nameShown list ++ ascii ": " ++ Octets.ofNat (n + 1) ++ ascii ": improperly formatted " ++ a.title.toList ++ ascii " checksum line")
        | some (digest, name) =>
          formed := formed + 1
          let (shown, special) := escapedName name
          let shown := if special then '\\' :: shown else shown
          match ← inputContent name with
          | .error fault =>
            if !(k.ignoresMissing && fault = .notFound) then
              complain (nameAndReason name fault)
              unreadable := unreadable + 1
              if !k.silent then say (shown ++ ascii ": FAILED open or read\n")
          | .ok o =>
            if hexOf (a.digest (Octets.bytes o)) = Octets.lower digest then
              right := right + 1
              if !k.silent && !k.quiet then say (shown ++ ascii ": OK\n")
            else
              wrong := wrong + 1
              if !k.silent then say (shown ++ ascii ": FAILED\n")
    if formed = 0 then
      complain (nameShown list ++ ascii ": no properly formatted checksum lines found")
      setStatus 1
    else
      if !k.silent then
        if misformed > 0 then
          complain (ascii "WARNING: " ++ counted misformed " line is improperly formatted" " lines are improperly formatted")
        if unreadable > 0 then
          complain (ascii "WARNING: " ++ counted unreadable " listed file could not be read" " listed files could not be read")
        if wrong > 0 then
          complain (ascii "WARNING: " ++ counted wrong " computed checksum did NOT match" " computed checksums did NOT match")
        if k.ignoresMissing && right = 0 then complain (nameShown list ++ ascii ": no file was verified")
      if unreadable > 0 || wrong > 0 || (k.strict && misformed > 0) || (k.ignoresMissing && right = 0) then setStatus 1

def digestTool (a : Algorithm) (args : List Octets) : Tool Unit := do
  let (given, operands) ← options
    ["b|binary", "c|check", "t|text", "tag", "z|zero", "ignore-missing", "quiet", "status", "strict", "w|warn"] args
  let has := given.has
  if has "c" then
    if has "tag" then misused (ascii "the --tag option is meaningless when verifying checksums")
    if has "z" then misused (ascii "the --zero option is not supported when verifying checksums")
    for list in inputsOf operands do
      checkDigests a ⟨has "quiet", has "status", has "strict", has "w", has "ignore-missing"⟩ list
  else
    for name in ["ignore-missing", "status", "warn", "quiet", "strict"] do
      if has (if name = "warn" then "w" else name) then
        misused (ascii ("the --" ++ name ++ " option is meaningful only when verifying checksums"))
    for name in inputsOf operands do
      match ← inputContent name with
      | .error fault => failing (nameAndReason name fault)
      | .ok o => say (digestLine a (has "tag") (given.lastOf ["b", "t"] = some "b") (if has "z" then '\x00' else '\n') (hexOf (a.digest (Octets.bytes o))) name)

/-- A number, a size and a name, where one was given. -/
def sumLine (single : Bool) (parts : List Octets) (name : Octets) : Octets :=
  [' '].intercalate (if single then parts else parts ++ [name])

def sumTool (args : List Octets) : Tool Unit := do
  let (given, operands) ← options ["r", "s|sysv"] args
  for name in inputsOf operands do
    match ← inputContent name with
    | .error fault => failing (nameAndReason name fault)
    | .ok o =>
      let data := Octets.bytes o
      let parts := if given.lastOf ["r", "s"] = some "s" then
          [Octets.ofNat (plainSum data), Octets.ofNat ((data.size + 511) / 512)]
        else [Octets.padLeftWith '0' 5 (Octets.ofNat (rotatingSum data)), Octets.padLeft 5 (Octets.ofNat ((data.size + 1023) / 1024))]
      say (sumLine operands.isEmpty parts name ++ ['\n'])

def cksumTool (args : List Octets) : Tool Unit := do
  let (given, operands) ← options
    ["a|algorithm=", "c|check", "l|length=", "tag", "untagged", "z|zero", "ignore-missing", "quiet", "status", "strict", "w|warn",
      "debug"] args
  let names := ["bsd", "sysv", "crc"] ++ algorithms.map Prod.fst ++ ["sm3"]
  let algorithm ← (match given.value? "a" with
    | none => pure "crc"
    | some o => do
      match names.find? fun w => w.toList = o with
      | some w => return w
      | none =>
        let _ ← wordFor "--algorithm" (names.map fun w => ([w], 'x')) o
        return ((names.find? fun w => o.isPrefixOf w.toList).getD "crc") : Tool String)
  for name in inputsOf operands do
    match algorithms.lookup algorithm with
    | some a =>
      if given.has "c" then
        checkDigests a ⟨given.has "quiet", given.has "status", given.has "strict", given.has "w", given.has "ignore-missing"⟩ name
      else
        match ← inputContent name with
        | .error fault => failing (nameAndReason name fault)
        | .ok o => say (digestLine a (given.lastOf ["tag", "untagged"] ≠ some "untagged") false (if given.has "z" then '\x00' else '\n') (hexOf (a.digest (Octets.bytes o))) name)
    | none =>
      match ← inputContent name with
      | .error fault => failing (nameAndReason name fault)
      | .ok o =>
        let data := Octets.bytes o
        let parts := match algorithm with
          | "bsd" => [Octets.padLeftWith '0' 5 (Octets.ofNat (rotatingSum data)), Octets.padLeft 5 (Octets.ofNat ((data.size + 1023) / 1024))]
          | "sysv" => [Octets.ofNat (plainSum data), Octets.ofNat ((data.size + 511) / 512)]
          | _ => [Octets.ofNat (crc data), Octets.ofNat data.size]
        say (sumLine operands.isEmpty parts name ++ ['\n'])

end GrammarStudio.Tools
