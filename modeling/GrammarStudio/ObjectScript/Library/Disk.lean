import GrammarStudio.ObjectScript.Library.Paths

/-!
# Files and directories

* `diskNames`, `diskFunction?` — what the library of the operating system does with files;
* `statValue` — what is known of a file.
-/

namespace GrammarStudio.ObjectScript

open Machine Files Tools

def kindBits : Machine.Kind → Nat
  | .file => 0o100000
  | .directory => 0o040000
  | .link => 0o120000
  | .device => 0o020000
  | .fifo => 0o010000

/-- What is known of a file. -/
def statValue (i : Info) : Run Value := do
  let time : Value := .float (Float.ofNat i.modified / 1000000.0)
  let whole : Value := .ofNat (i.modified / 1000000)
  let parts : List (String × Value) :=
    [("st_mode", .ofNat (kindBits i.kind + i.mode)), ("st_ino", .ofNat i.node), ("st_dev", .int 2049), ("st_nlink", .ofNat i.names), ("st_uid", .int 0),
      ("st_gid", .int 0), ("st_size", .ofNat i.size), ("st_atime", whole), ("st_mtime", whole), ("st_ctime", whole)]
  let names : Names := Ordered.ofList (parts ++ [("st_atime", time), ("st_mtime", time), ("st_ctime", time),
    ("st_atime_ns", .ofNat (i.modified * 1000)), ("st_mtime_ns", .ofNat (i.modified * 1000)), ("st_ctime_ns", .ofNat (i.modified * 1000)),
    ("st_blksize", .int 4096), ("st_blocks", .ofNat ((i.size + 4095) / 4096 * 8))])
  alloc (.instance_ (.kind "os.stat_result") names (.tuple (parts.map Prod.snd)))

/-- The functions about files, and the numbers that they take. -/
def diskNames : List (String × Value) :=
  functionsOf "os" ("getcwd getcwdb chdir listdir mkdir makedirs rmdir removedirs remove unlink rename renames replace stat lstat fstat access umask symlink " ++
      "readlink link chmod chown lchown fchmod utime truncate ftruncate lseek fsync fdatasync sync open close read write dup dup2 pipe fdopen isatty walk scandir mkfifo " ++
      "fsencode fsdecode fspath set_inheritable get_inheritable set_blocking closerange sendfile statvfs pread") ++
    [("F_OK", .int 0), ("R_OK", .int 4), ("W_OK", .int 2), ("X_OK", .int 1), ("O_RDONLY", .int 0), ("O_WRONLY", .int 1), ("O_RDWR", .int 2),
      ("O_CREAT", .int 64), ("O_EXCL", .int 128), ("O_NOCTTY", .int 256), ("O_TRUNC", .int 512), ("O_APPEND", .int 1024), ("O_NONBLOCK", .int 2048),
      ("O_SYNC", .int 1052672), ("O_CLOEXEC", .int 524288), ("O_DIRECTORY", .int 65536), ("SEEK_SET", .int 0), ("SEEK_CUR", .int 1), ("SEEK_END", .int 2),
      ("sep", textValue "/"), ("linesep", textValue "\n"), ("pathsep", textValue ":"), ("curdir", textValue "."), ("pardir", textValue ".."),
      ("extsep", textValue "."), ("altsep", .none), ("devnull", textValue "/dev/null"), ("defpath", textValue "/bin:/usr/bin")]

def descriptorOf [Caller] (v : Value) : Run Nat := do
  let n ← match ← indexOf? v with
    | some n => pure n
    | none =>
      match ← member? v "fileno" with
      | some f => integerOf (← Caller.call f {})
      | none => typeError ("an integer is required (got type " ++ (← kindNameOf v) ++ ")")
  if n < 0 then raiseFault (.system 9) []
  return n.toNat

def makingLine (line : Nat) : LibraryLine := { file := "<frozen os>", line, name := "makedirs" }

/-- Makes directories, and those above them. -/
def makeDirectories (mode : Nat) (tolerates : Bool) : (fuel : Nat) → Glyphs → Run Unit
  | 0, _ => return
  | fuel + 1, g => do
    let bare := (g.reverse.dropWhile (· = 47)).reverse
    let (head, _) := splitPath bare
    if !head.isEmpty && head ≠ [47] then
      match ← system (.inspect (Glyphs.toSystem head) true) with
      | .ok _ => pure ()
      | .error _ => alongLibrary [makingLine 215] (makeDirectories mode true fuel head)
    let path := Glyphs.toSystem g
    match ← system (.makeDirectory path mode) with
    | .ok _ => return
    | .error fault =>
      let isThere : Bool ← do
        match ← system (.inspect path true) with
        | .ok i => pure (i.kind = .directory)
        | .error _ => pure false
      if tolerates && isThere then return
      else alongLibrary [makingLine 225] (raiseFault (if isThere then .system 17 else fault) [.text g])

/-- Can a file be used in a way? -/
def allowsUse (i : Info) (wanted : Nat) : Bool := wanted &&& 1 = 0 || i.kind = .directory || i.mode &&& 0o111 ≠ 0

def diskFunction? [Caller] [Resumer] (name : String) (given : Given) : Run (Option Value) := do
  let give (v : Value) : Run (Option Value) := return some v
  let nothing : Run (Option Value) := return some .none
  let a := given.first
  let second (word : String) : Value := given.getD 1 word .none
  let isOctets := (← octetsOf? a).isSome
  let wrap (o : Octets) : Value := if isOctets then .octets o else .text (Glyphs.ofSystem o)
  let optional (usual : Octets) : Run (Value × Octets) := do
    match given.get? 0 "path" with
    | none | some .none => return (textValue ".", usual)
    | some v => return (v, ← pathOctets v)
  let withPath (act : Octets → Run (Except Fault Unit)) : Run (Option Value) := do
    match given.get? 0 "path" with
    | none => typeError (name ++ "() missing required argument 'path' (pos 1)")
    | some v =>
      answered [v] (← act (← pathOctets v))
      nothing
  let withTwo (act : Octets → Octets → Run (Except Fault Unit)) : Run (Option Value) := do
    let a := given.getD 0 "src" .none
    let b := given.getD 1 "dst" .none
    answered [a, b] (← act (← pathOctets a) (← pathOctets b))
    nothing
  match name with
  | "getcwd" => do return some (.text (Glyphs.ofSystem (← system .here)))
  | "getcwdb" => do return some (.octets (← system .here))
  | "chdir" => withPath fun o => system (.enter o)
  | "listdir" =>
    let (v, o) ← optional ['.']
    let names ← answered [v] (← system (.list o))
    do return some (← newList (names.map wrap))
  | "scandir" =>
    let (v, o) ← optional ['.']
    let names ← answered [v] (← system (.list o))
    let entries ← names.mapM fun n =>
      alloc (.record "posix.DirEntry" (Ordered.ofList [("name", wrap n), ("path", wrap (pathIn o n))]))
    some <$> newCourse (.items entries) "posix.ScandirIterator"
  | "mkdir" =>
    let mode ← match given.get? 1 "mode" with
      | some m => Int.toNat <$> integerOf m
      | none => pure 0o777
    withPath fun o => system (.makeDirectory o mode)
  | "makedirs" =>
    let v := given.getD 0 "name" .none
    let g ← pathGlyphs v
    let mode ← match given.get? 1 "mode" with
      | some m => Int.toNat <$> integerOf m
      | none => pure 0o777
    if g.isEmpty then raiseFault (.system 2) [v]
    makeDirectories mode (← truth (given.getD 2 "exist_ok" (.bool false))) (g.length + 2) g
    nothing
  | "rmdir" => withPath fun o => system (.removeDirectory o)
  | "removedirs" => withPath fun o => system (.removeDirectory o)
  | "remove" | "unlink" => withPath fun o => system (.remove o)
  | "rename" | "replace" | "renames" => withTwo fun a b => system (.rename a b)
  | "link" => withTwo fun a b => system (.nameToo a b)
  | "symlink" => withTwo fun a b => system (.makeLink a b)
  | "readlink" => do return some (wrap (← answered [a] (← system (.target (← pathOctets a)))))
  | "mkfifo" => withPath fun o => system (.makeFifo o 0o666)
  | "stat" | "lstat" =>
    let v := given.getD 0 "path" .none
    match ← coreOf v with
    | .int n => some <$> (do statValue (← answered [] (← system (.describe n.toNat))))
    | _ =>
      let follows := name == "stat" && !((given.named.lookup "follow_symlinks").any fun v => v matches .bool false)
      some <$> (do statValue (← inspected v (← pathOctets v) follows))
  | "fstat" => some <$> (do statValue (← answered [] (← system (.describe (← descriptorOf a)))))
  | "access" =>
    let o ← pathOctets a
    let wanted ← integerOf (second "mode")
    match ← system (.inspect o true) with
    | .ok i => give (.bool (allowsUse i wanted.toNat))
    | .error _ => give (.bool false)
  | "umask" =>
    let n ← integerOf a
    let before ← system (.mask (some (n.toNat &&& 0o777)))
    give (.ofNat before)
  | "chmod" =>
    let mode ← integerOf (second "mode")
    match ← coreOf a with
    | .int _ => nothing
    | _ => withPath fun o => system (.setMode o (mode.toNat &&& 0o7777))
  | "fchmod" | "chown" | "lchown" | "fsync" | "fdatasync" | "sync" | "set_inheritable" | "set_blocking" => nothing
  | "get_inheritable" => give (.bool false)
  | "utime" =>
    let time ← match given.get? 1 "times" with
      | some (.tuple [_, m]) => do pure (millionths (← secondsOf m))
      | _ => system .now
    withPath fun o => system (.setTime o time)
  | "truncate" =>
    let size ← integerOf (second "length")
    let o ← pathOctets a
    let d ← answered [a] (← system (.openFile o { writes := true } 0))
    answered [] (← system (.resize d size.toNat))
    let _ ← system (.close d)
    nothing
  | "ftruncate" =>
    let size ← integerOf (second "length")
    answered [] (← system (.resize (← descriptorOf a) size.toNat))
    nothing
  | "lseek" =>
    let whence ← integerOf (given.getD 2 "how" (.int 0))
    let w : Whence := if whence = 0 then .start else if whence = 1 then .current else .finish
    do return some (.ofNat (← answered [] (← system (.seek (← descriptorOf a) w (← integerOf (second "position"))))))
  | "open" =>
    let o ← pathOctets a
    let flags := (← integerOf (second "flags")).toNat
    let mode ← match given.get? 2 "mode" with
      | some m => Int.toNat <$> integerOf m
      | none => pure 0o777
    let way := flags &&& 3
    let how : Opening :=
      { reads := way ≠ 1, writes := way ≠ 0, appends := flags &&& 1024 ≠ 0, creates := flags &&& 64 ≠ 0, truncates := flags &&& 512 ≠ 0
        exclusive := flags &&& 128 ≠ 0 }
    do return some (.ofNat (← answered [a] (← system (.openFile o how mode))))
  | "close" =>
    answered [] (← system (.close (← descriptorOf a)))
    nothing
  | "closerange" =>
    let low ← integerOf a
    let high ← integerOf (second "")
    for i in List.range (min high.toNat 1024 - low.toNat) do
      let _ ← system (.close (low.toNat + i))
    nothing
  | "read" =>
    let n ← integerOf (second "length")
    if n < 0 then raiseFault (.system 22) []
    do return some (.octets (← answered [] (← system (.read (← descriptorOf a) n.toNat))))
  | "write" =>
    let d ← descriptorOf a
    match ← octetsOf? (second "data") with
    | some o =>
      if !o.isEmpty then answered [] (← system (.write d o))
      give (.ofNat o.length)
    | none => typeError ("a bytes-like object is required, not '" ++ (← kindNameOf (second "data")) ++ "'")
  | "dup" => do return some (.ofNat (← answered [] (← system (.duplicate (← descriptorOf a) 3))))
  | "dup2" =>
    let target ← descriptorOf (second "fd2")
    answered [] (← system (.replace (← descriptorOf a) target))
    give (.ofNat target)
  | "pipe" =>
    let (r, w) ← system .makePipe
    give (.tuple [.ofNat r, .ofNat w])
  | "fdopen" => some <$> opened given
  | "isatty" => give (.bool false)
  | "walk" =>
    let o ← pathOctets (given.getD 0 "top" .none)
    some <$> newCourse (.walking [o] true) "generator"
  | "fsencode" => do return some (.octets (Glyphs.toSystem (← pathGlyphs a)))
  | "fsdecode" => do return some (.text (← pathGlyphs a))
  | "fspath" =>
    match ← coreOf a with
    | .text g => give (.text g)
    | .octets o => give (.octets o)
    | _ => do return some (.text (← pathGlyphs a))
  | _ => return none

end GrammarStudio.ObjectScript
