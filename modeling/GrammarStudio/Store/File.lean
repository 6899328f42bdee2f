import GrammarStudio.Files.Tree
import GrammarStudio.Store.Basic
import GrammarStudio.Store.Quoted

/-!
# A store in a file

The entries live in memory and the file is written anew whenever one changes.  A write that would change nothing is not
made.  If the file cannot be written, the entry gets its old value back, so that the same write is tried again next time.

* `FileStore` — where the file is, and what the store holds;
* `FileStore.open` — the entries of a file; a file that cannot be used counts as empty;
* `FileStore.set` — one write, in the files as they are at that moment;
* `Mounted` — a file store together with the files, as a `Store`.
-/

namespace GrammarStudio

open Files Store

/-- A store in the file with this name. -/
structure FileStore where
  path : String
  entries : Entries
  deriving DecidableEq, Repr

namespace FileStore

/-- What is told of a file whose text is no object of strings. -/
def complaint? [Wording] (t : Tree) (path : String) : Option String :=
  match t.readText path with
  | .ok text => if (Entries.parse? text).isNone then some (Wording.store text) else none
  | .error _ => none

/-- Opens the store: a file that is missing, unreadable or spoiled counts as empty. -/
def «open» (t : Tree) (path : String) : FileStore :=
  match t.readText path with
  | .ok text => ⟨path, (Entries.parse? text).getD []⟩
  | .error _ => ⟨path, []⟩

/-- Writes all entries to the file, and makes the directory for it. -/
def flush (t : Tree) (s : FileStore) : Tree × Except WriteError Unit :=
  match t.makeRoomFor s.path with
  | (t, .error cause) => (t, .error ⟨s.path, cause⟩)
  | (t, .ok ()) =>
    match t.write s.path (Entries.render s.entries).toUTF8 with
    | (t, .error cause) => (t, .error ⟨s.path, cause⟩)
    | (t, .ok ()) => (t, .ok ())

/-- Puts a text under a key.  The file is written with it, and if that fails the entry is undone. -/
def set (t : Tree) (s : FileStore) (key value : String) : Tree × FileStore × Except WriteError Unit :=
  let previous := s.entries.get? key
  if previous = some value then (t, s, .ok ())
  else
    let changed : FileStore := { s with entries := s.entries.insert key value }
    match flush t changed with
    | (t, .ok ()) => (t, changed, .ok ())
    | (t, .error e) => (t, { changed with entries := changed.entries.restore key previous }, .error e)

end FileStore

/-- A file store and the files it lives in. -/
structure Mounted where
  tree : Tree
  store : FileStore

/-- Opens the store in a file of a tree. -/
def Mounted.open (tree : Tree) (path : String) : Mounted := ⟨tree, FileStore.open tree path⟩

/-- Closes the store and opens it again. -/
def Mounted.reopen (m : Mounted) : Mounted := Mounted.open m.tree m.store.path

instance : Store Mounted where
  get m key := m.store.entries.get? key
  set m key value :=
    let (tree, store, result) := FileStore.set m.tree m.store key value
    (⟨tree, store⟩, result)

/-- The store of a session: in memory or in a file. -/
inductive AnyStore where
  | memory (m : Memory)
  | file (m : Mounted)

instance : Store AnyStore where
  get
    | .memory m, key => Store.get m key
    | .file m, key => Store.get m key
  set
    | .memory m, key, value =>
      let (m, result) := Store.set m key value
      (.memory m, result)
    | .file m, key, value =>
      let (m, result) := Store.set m key value
      (.file m, result)

namespace AnyStore

/-- Opens the store anew; what was only in memory is gone. -/
def reopen : AnyStore → AnyStore
  | .memory _ => .memory {}
  | .file m => .file m.reopen

end AnyStore

end GrammarStudio
