import Mathlib
import GrammarStudio.Proofs.Files.Tree
import GrammarStudio.Proofs.Store.Lawful
import GrammarStudio.Proofs.Store.Quoted

/-!
# What a store in a file leaves on disk

A store in a file holds its entries in memory, too, and others can change the files between two of its writes.  A write
that puts another value under a key writes the whole file.  A write that would change nothing in memory is not made, and
so it succeeds whatever has become of the file.

* `Access`, `Mounted.after` — writes, reopenings and changes by others, and the store after a list of them;
* `Mounted.OnDisk` — the file reads as the entries in memory;
* `FileStore.flush_cases`, `Mounted.set_cases` — the ways the file is written, or a value;
* `Mounted.OnDisk.after` — what is on disk stays there until someone else changes the files;
* `Mounted.set_onDisk_iff` — when a write that succeeds is on disk;
* `Mounted.answers_as_memory` — without changes by others, the store is a store in memory that is never closed.
-/

namespace GrammarStudio

open Files Store

/-- What can happen to a store in a file. -/
inductive Store.Access where
  | set (key value : String)
  | reopen
  /-- Someone else changes the files. -/
  | outside (tree : Tree)

/-- Is it something that the store does itself? -/
def Store.Access.isOwn : Access → Bool
  | .set _ _ | .reopen => true
  | .outside _ => false

/-- The key and the value of a write. -/
def Store.Access.write? : Access → Option (String × String)
  | .set key value => some (key, value)
  | .reopen | .outside _ => none

/-! ### The file -/

namespace FileStore

/-- The path of a store does not depend on the file. -/
@[simp] theorem open_path (t : Tree) (path : String) : (FileStore.open t path).path = path := by
  unfold FileStore.open
  split <;> rfl

theorem open_of_readText {t : Tree} {path text : String} (h : t.readText path = .ok text) :
    FileStore.open t path = ⟨path, (Entries.parse? text).getD []⟩ := by
  rw [FileStore.open, h]

/-- The entries of a file stand in order. -/
theorem open_sorted (t : Tree) (path : String) : (FileStore.open t path).entries.Sorted := by
  unfold FileStore.open
  split
  · rename_i text _
    cases hparse : Entries.parse? text with
    | none => exact List.Pairwise.nil
    | some entries =>
      obtain ⟨pairs, -, rfl⟩ := Entries.parse?_eq_some_iff.mp hparse
      exact Entries.Sorted.ofPairs pairs
  · exact List.Pairwise.nil

/-- **The two ways the writing of a file can go.**  It is written; or room has been made for it, at most. -/
theorem flush_cases (t : Tree) (s : FileStore) :
    (∃ e, flush t s = ((t.makeRoomFor s.path).1, .error e)) ∨
      ((t.makeRoomFor s.path).1.write s.path (Entries.render s.entries).toUTF8).2 = .ok () ∧
        flush t s = (((t.makeRoomFor s.path).1.write s.path (Entries.render s.entries).toUTF8).1, .ok ()) := by
  unfold flush
  rcases t.makeRoomFor s.path with ⟨t₁, e | ⟨⟩⟩
  · exact .inl ⟨_, rfl⟩
  · dsimp only
    rcases hwrite : t₁.write s.path (Entries.render s.entries).toUTF8 with ⟨t₂, e | ⟨⟩⟩
    · have hsame := Tree.write_error (congrArg Prod.snd hwrite)
      rw [hwrite] at hsame
      dsimp only at hsame
      rw [hsame]
      exact .inl ⟨_, rfl⟩
    · exact .inr ⟨rfl, rfl⟩

/-- **A file that was written holds the entries.** -/
theorem readText_flush {t : Tree} {s : FileStore} (h : (flush t s).2 = .ok ()) :
    (flush t s).1.readText s.path = .ok (Entries.render s.entries) := by
  rcases flush_cases t s with ⟨e, hflush⟩ | ⟨hwrite, hflush⟩
  · rw [hflush] at h
    cases h
  · rw [hflush]
    exact Tree.readText_write hwrite

/-- A file that could not be written leaves new directories behind, at most. -/
theorem flush_grows {t : Tree} {s : FileStore} {e : WriteError} (h : (flush t s).2 = .error e) :
    t.Grows (flush t s).1 := by
  rcases flush_cases t s with ⟨e', hflush⟩ | ⟨-, hflush⟩
  · rw [hflush]
    exact Tree.makeRoomFor_grows t s.path
  · rw [hflush] at h
    cases h

end FileStore

namespace Mounted

/-! ### Accesses -/

/-- The store after an access. -/
def access (m : Mounted) : Access → Mounted
  | .set key value => (Store.set m key value).1
  | .reopen => m.reopen
  | .outside tree => { m with tree }

/-- How an access went. -/
def result (m : Mounted) : Access → Except WriteError Unit
  | .set key value => (Store.set m key value).2
  | .reopen | .outside _ => .ok ()

/-- The store after a list of accesses. -/
def after (m : Mounted) (history : List Access) : Mounted := history.foldl access m

/-- All accesses of a list go well. -/
def Succeeds (m : Mounted) : List Access → Prop
  | [] => True
  | a :: rest => m.result a = .ok () ∧ (m.access a).Succeeds rest

/-- **The file is there and reads as the entries in memory.** -/
def OnDisk (m : Mounted) : Prop :=
  ∃ text, m.tree.readText m.store.path = .ok text ∧ Entries.parse? text = some m.store.entries

/-- The store with another value under a key, before the file is written. -/
def changed (m : Mounted) (key value : String) : FileStore :=
  { m.store with entries := m.store.entries.insert key value }

variable {m : Mounted}

/-- **The three ways a write can go.**  A value that is there already is not written; another one is written with the
whole file; and if that fails, the store in memory is the old one again. -/
theorem set_cases (sorted : m.store.entries.Sorted) (key value : String) :
    (Store.get m key = some value ∧ Store.set m key value = (m, .ok ())) ∨
      Store.get m key ≠ some value ∧
        ((∃ t, FileStore.flush m.tree (m.changed key value) = (t, .ok ()) ∧
            Store.set m key value = (⟨t, m.changed key value⟩, .ok ())) ∨
          ∃ t e, FileStore.flush m.tree (m.changed key value) = (t, .error e) ∧
            Store.set m key value = (⟨t, m.store⟩, .error e)) := by
  by_cases hsame : m.store.entries.get? key = some value
  · refine .inl ⟨hsame, ?_⟩
    simp only [Store.set, FileStore.set, if_pos hsame]
  · refine .inr ⟨hsame, ?_⟩
    simp only [Store.set, FileStore.set, if_neg hsame, changed, sorted.restore_insert]
    rcases hflush : FileStore.flush m.tree { m.store with entries := m.store.entries.insert key value } with ⟨t, r⟩
    cases r with
    | ok => exact .inl ⟨t, rfl, rfl⟩
    | error e => exact .inr ⟨t, e, rfl, rfl⟩

/-! ### Entries in order -/

theorem access_sorted (h : m.store.entries.Sorted) (a : Access) : (m.access a).store.entries.Sorted := by
  cases a with
  | outside tree => exact h
  | reopen => exact FileStore.open_sorted m.tree m.store.path
  | set key value =>
    rw [access]
    rcases set_cases h key value with ⟨-, hset⟩ | ⟨-, ⟨t, -, hset⟩ | ⟨t, e, -, hset⟩⟩
    · rw [hset]
      exact h
    · rw [hset]
      exact h.insert key value
    · rw [hset]
      exact h

theorem after_sorted (h : m.store.entries.Sorted) (history : List Access) :
    (m.after history).store.entries.Sorted := by
  induction history generalizing m with
  | nil => exact h
  | cons a rest ih => exact ih (access_sorted h a)

/-! ### What is on disk -/

/-- A store that is on disk is the store that is opened there. -/
theorem OnDisk.reopen_eq (h : m.OnDisk) : m.reopen = m := by
  obtain ⟨text, hread, hparse⟩ := h
  rw [Mounted.reopen, Mounted.open, FileStore.open_of_readText hread, hparse]
  rfl

/-- **A file that was written is on disk.** -/
theorem onDisk_of_flush {s : FileStore} {t t' : Tree} (h : s.entries.Sorted)
    (hflush : FileStore.flush t s = (t', .ok ())) : (⟨t', s⟩ : Mounted).OnDisk := by
  have hread := FileStore.readText_flush (congrArg Prod.snd hflush)
  rw [hflush] at hread
  exact ⟨_, hread, Entries.parse?_render h⟩

/-- What the store does itself keeps it on disk, also a write that fails. -/
theorem OnDisk.access (h : m.OnDisk) (sorted : m.store.entries.Sorted) {a : Access} (own : a.isOwn = true) :
    (m.access a).OnDisk := by
  cases a with
  | outside tree => cases own
  | reopen =>
    rw [Mounted.access, h.reopen_eq]
    exact h
  | set key value =>
    rw [Mounted.access]
    rcases set_cases sorted key value with ⟨-, hset⟩ | ⟨-, ⟨t, hflush, hset⟩ | ⟨t, e, hflush, hset⟩⟩
    · rw [hset]
      exact h
    · rw [hset]
      exact onDisk_of_flush (sorted.insert key value) hflush
    · rw [hset]
      obtain ⟨text, hread, hparse⟩ := h
      have hgrows := FileStore.flush_grows (congrArg Prod.snd hflush)
      rw [hflush] at hgrows
      exact ⟨text, hgrows.readText hread, hparse⟩

/-- **What is on disk stays there until someone else changes the files.** -/
theorem OnDisk.after (h : m.OnDisk) (sorted : m.store.entries.Sorted) {history : List Access}
    (own : ∀ a ∈ history, a.isOwn = true) : (m.after history).OnDisk := by
  induction history generalizing m with
  | nil => exact h
  | cons a rest ih =>
    obtain ⟨ha, hrest⟩ := List.forall_mem_cons.mp own
    exact ih (h.access sorted ha) (access_sorted sorted a) hrest

/-- **When a write that succeeds is on disk.**  After any history of writes, reopenings and changes by others, a write
that succeeds holds its value in memory, and it is on disk exactly if the value is another one than before, or the
store was on disk already.  Then the store that is opened there is the same and holds the value, too, and it stays on
disk until someone else changes the files. -/
theorem set_onDisk_iff (tree : Tree) (path : String) (history : List Access) (key value : String)
    (ok : (Store.set ((Mounted.open tree path).after history) key value).2 = .ok ()) :
    let m := (Mounted.open tree path).after history
    let written := (Store.set m key value).1
    Store.get written key = some value ∧
      (written.OnDisk ↔ Store.get m key ≠ some value ∨ m.OnDisk) ∧
      (written.OnDisk → written.reopen = written ∧ Store.get written.reopen key = some value ∧
        ∀ later : List Access, (∀ a ∈ later, a.isOwn = true) → (written.after later).OnDisk) := by
  intro m written
  have sorted : m.store.entries.Sorted := after_sorted (FileStore.open_sorted tree path) history
  have hget : Store.get written key = some value := by
    have hlaw := Lawful.get_set m key value key ok
    rwa [if_pos rfl] at hlaw
  refine ⟨hget, ?_, fun hdisk => ⟨hdisk.reopen_eq, hdisk.reopen_eq.symm ▸ hget, fun later own => ?_⟩⟩
  · rcases set_cases sorted key value with ⟨hsame, hset⟩ | ⟨hnew, ⟨t, hflush, hset⟩ | ⟨t, e, -, hset⟩⟩
    · have heq : written = m := congrArg Prod.fst hset
      rw [heq]
      exact ⟨.inr, fun h => h.resolve_left (not_not_intro hsame)⟩
    · have heq : written = ⟨t, m.changed key value⟩ := congrArg Prod.fst hset
      rw [heq]
      exact ⟨fun _ => .inl hnew, fun _ => onDisk_of_flush (sorted.insert key value) hflush⟩
    · have hfailed := ok.symm.trans (congrArg Prod.snd hset)
      cases hfailed
  · exact hdisk.after (access_sorted sorted (.set key value)) own

/-- A write, after which someone removes the file. -/
def removal : List Access := [.set "a" "1", .outside ⟨[], []⟩]

theorem after_removal : (Mounted.open ⟨[], []⟩ "s").after removal = ⟨⟨[], []⟩, ⟨"s", [("a", "1")]⟩⟩ := by cbv

theorem readText_removed : Tree.readText ⟨[], []⟩ "s" = .error .notFound := by cbv

/-- Another value is on disk again, where the file was removed. -/
theorem set_onDisk_after_removal :
    let m := (Mounted.open ⟨[], []⟩ "s").after removal
    (Store.set m "a" "2").2 = .ok () ∧ Store.get m "a" ≠ some "2" ∧ (Store.set m "a" "2").1.OnDisk := by
  intro m
  have ok : (Store.set m "a" "2").2 = .ok () := by
    rw [show m = _ from after_removal]
    cbv
  have hnew : Store.get m "a" ≠ some "2" := by
    rw [show m = _ from after_removal]
    decide
  exact ⟨ok, hnew, (set_onDisk_iff ⟨[], []⟩ "s" removal "a" "2" ok).2.1.mpr (.inl hnew)⟩

/-- **Not every write that succeeds is on disk**: the file is gone, and the value is still there in memory. -/
theorem not_set_onDisk :
    ¬ ∀ (tree : Tree) (path : String) (history : List Access) (key value : String),
      let m := (Mounted.open tree path).after history
      (Store.set m key value).2 = .ok () → (Store.set m key value).1.OnDisk := by
  intro allOnDisk
  have hdisk := allOnDisk ⟨[], []⟩ "s" removal "a" "1"
  rw [after_removal] at hdisk
  obtain ⟨text, hread, -⟩ := hdisk rfl
  have hgone := hread.symm.trans readText_removed
  cases hgone

/-! ### A store that nobody else touches -/

/-- The writes of a list of accesses, in order. -/
def writesOf (history : List Access) : List (String × String) := history.filterMap Access.write?

/-- What the store does itself keeps it the one that is opened from its file, if it goes well. -/
theorem reopen_access (sorted : m.store.entries.Sorted) (h : m.reopen = m) {a : Access} (own : a.isOwn = true)
    (ok : m.result a = .ok ()) : (m.access a).reopen = m.access a := by
  cases a with
  | outside tree => cases own
  | reopen => rw [access, h, h]
  | set key value =>
    rw [result] at ok
    rw [access]
    rcases set_cases sorted key value with ⟨-, hset⟩ | ⟨-, ⟨t, hflush, hset⟩ | ⟨t, e, -, hset⟩⟩
    · rw [hset]
      exact h
    · rw [hset]
      exact (onDisk_of_flush (sorted.insert key value) hflush).reopen_eq
    · rw [hset] at ok
      cases ok

/-- A store that nobody else touches answers like one in memory that gets the same writes. -/
theorem get_after {memory : Memory} (sorted : m.store.entries.Sorted) (h : m.reopen = m)
    (same : ∀ key, Store.get m key = Store.get memory key) {history : List Access}
    (own : ∀ a ∈ history, a.isOwn = true) (ok : m.Succeeds history) (key : String) :
    Store.get (m.after history) key = Store.get (writeAll memory (writesOf history)) key := by
  induction history generalizing m memory with
  | nil => exact same key
  | cons a rest ih =>
    obtain ⟨ha, hrest⟩ := List.forall_mem_cons.mp own
    obtain ⟨hok, hoks⟩ := ok
    have hsorted := access_sorted sorted a
    have hreopen := reopen_access sorted h ha hok
    cases a with
    | outside tree => cases ha
    | reopen => exact ih hsorted hreopen (fun key => by rw [access, h, same]) hrest hoks
    | set k v =>
      have hset : ∀ key, Store.get (m.access (.set k v)) key = Store.get (Store.set memory k v).1 key := by
        intro key
        rw [access, Lawful.get_set m k v key hok, Lawful.get_set memory k v key rfl, same]
      exact ih hsorted hreopen hset hrest hoks

/-- **A store in a file answers like one in memory.**  What is written of a map opens as that map.  A file that spells
an object of texts opens as the map of its members, of which the last counts under each key; a file that cannot be read,
or spells nothing of the kind, opens empty.  After any writes that succeed, with reopenings between them and no changes
by others, each key is answered as in a store in memory that starts with the entries of the first opening, gets the
same writes, and is never closed. -/
theorem answers_as_memory (tree : Tree) (path : String) :
    (∀ (t : Tree) (s : FileStore), s.entries.Sorted → (FileStore.flush t s).2 = .ok () →
        FileStore.open (FileStore.flush t s).1 s.path = s) ∧
      (∀ (pairs : Entries) (text : String), Json.Padded (Entries.document pairs) text.toList →
        tree.readText path = .ok text → (FileStore.open tree path).entries = Entries.ofPairs pairs) ∧
      ((∀ text, tree.readText path = .ok text → ∀ pairs, ¬ Json.Padded (Entries.document pairs) text.toList) →
        (FileStore.open tree path).entries = []) ∧
      ∀ history : List Access, (∀ a ∈ history, a.isOwn = true) → (Mounted.open tree path).Succeeds history →
        ∀ key, Store.get ((Mounted.open tree path).after history) key =
          Store.get (writeAll (⟨(FileStore.open tree path).entries⟩ : Memory) (writesOf history)) key := by
  refine ⟨fun t s sorted hflush => ?_, fun pairs text hspelled hread => ?_, fun hother => ?_,
    fun history own ok key => ?_⟩
  · exact congrArg Mounted.store (onDisk_of_flush sorted (Prod.ext rfl hflush)).reopen_eq
  · rw [FileStore.open_of_readText hread, Entries.parse?_document hspelled]
    rfl
  · cases hread : tree.readText path with
    | error e => rw [FileStore.open, hread]
    | ok text =>
      rw [FileStore.open_of_readText hread, Entries.parse?_eq_none_iff.mpr (hother text hread)]
      rfl
  · have hopened : (Mounted.open tree path).reopen = Mounted.open tree path := by
      show Mounted.open tree (FileStore.open tree path).path = Mounted.open tree path
      rw [FileStore.open_path]
    exact get_after (FileStore.open_sorted tree path) hopened (fun _ => rfl) own ok key

/-! ### A file with a repeated name, and files that hold no map -/

/-- A store with some entries, in a tree with one file. -/
def alone (text : String) (entries : Entries) : Mounted := ⟨⟨[(["s"], .file text.toUTF8)], []⟩, ⟨"s", entries⟩⟩

theorem readText_alone (text : String) (entries : Entries) : (alone text entries).tree.readText "s" = .ok text := by
  have hwrite : Tree.write ⟨[], []⟩ "s" text.toUTF8 = (⟨[(["s"], .file text.toUTF8)], []⟩, .ok ()) := by cbv
  have hread := Tree.readText_write (congrArg Prod.snd hwrite)
  rwa [hwrite] at hread

theorem flush_alone (text : String) (entries : Entries) :
    FileStore.flush (alone text []).tree ⟨"s", entries⟩ = ((alone (Entries.render entries) []).tree, .ok ()) := by
  cbv

theorem set_alone {text : String} {entries : Entries} {key value : String} (h : entries.get? key ≠ some value) :
    Store.set (alone text entries) key value =
      (alone (Entries.render (entries.insert key value)) (entries.insert key value), .ok ()) := by
  have hflush := flush_alone text (entries.insert key value)
  simp only [alone] at hflush
  simp only [Store.set, FileStore.set, alone, if_neg h, hflush]

/-- A file in which a name is repeated. -/
def repeated : String := "\x7b\"a\":\"1\",\"a\":\"2\"\x7d"

theorem padded_repeated : Json.Padded (Entries.document [("a", "1"), ("a", "2")]) repeated.toList := by
  have hname : Json.StringWritten (Json.StringPart.ofText "a") ['a'] := .bare rfl
  have hvalue (text : String) (h : text.toList.all Json.isBare = true) :
      Json.Padded (.string (Json.StringPart.ofText text)) ('"' :: (text.toList ++ ['"'])) := .bare (.string (.bare h))
  exact .bare (.object (.more .nil hname .nil (hvalue "1" rfl) (.one .nil hname .nil (hvalue "2" rfl))))

/-- A file that ends inside of its object. -/
def broken : String := "\x7b\"a\":\"1\""

/-- A file in which a value is no text. -/
def counted : String := "\x7b\"a\":\"1\",\"b\":2\x7d"

/-- Writes with escapes in them, each of which a reopening follows. -/
def reopened : List Access := [.set "" "\"\\\x01\n😀", .reopen, .set "a" "", .reopen]

theorem reopen_alone {entries : Entries} (h : entries.Sorted) :
    (alone (Entries.render entries) entries).reopen = alone (Entries.render entries) entries :=
  OnDisk.reopen_eq ⟨_, readText_alone _ entries, Entries.parse?_render h⟩

theorem succeeds_reopened : (alone repeated [("a", "2")]).Succeeds reopened := by
  have sorted : Entries.Sorted [("a", "2")] := List.pairwise_singleton _ _
  have hfirst := @set_alone repeated [("a", "2")] "" "\"\\\x01\n😀" (by decide)
  have hsecond := @set_alone (Entries.render (Entries.insert "" "\"\\\x01\n😀" [("a", "2")]))
    (Entries.insert "" "\"\\\x01\n😀" [("a", "2")]) "a" "" (by decide)
  refine ⟨congrArg Prod.snd hfirst, rfl, ?_, rfl, trivial⟩
  show (Store.set (Store.set (alone repeated [("a", "2")]) "" "\"\\\x01\n😀").1.reopen "a" "").2 = .ok ()
  rw [hfirst, reopen_alone (sorted.insert _ _), hsecond]

/-- The last of two members counts, a file that holds no map opens empty, and what is written is there after each
reopening. -/
theorem answers_as_memory_of_repeated :
    let tree := (alone repeated []).tree
    let map : Entries := [("", "\x01"), ("a", "")]
    FileStore.open (FileStore.flush tree ⟨"s", map⟩).1 "s" = ⟨"s", map⟩ ∧
      (FileStore.open tree "s").entries = [("a", "2")] ∧ (FileStore.open ⟨[], []⟩ "s").entries = [] ∧
      (FileStore.open (alone broken []).tree "s").entries = [] ∧
      (FileStore.open (alone counted []).tree "s").entries = [] ∧
      (Mounted.open tree "s").Succeeds reopened ∧
      Store.get ((Mounted.open tree "s").after reopened) "" = some "\"\\\x01\n😀" ∧
      Store.get ((Mounted.open tree "s").after reopened) "a" = some "" := by
  intro tree map
  obtain ⟨hwritten, hspelled, -, hmemory⟩ := answers_as_memory tree "s"
  have hmap : map.Sorted := List.pairwise_pair.mpr (by decide)
  have hentries : (FileStore.open tree "s").entries = [("a", "2")] :=
    hspelled _ repeated padded_repeated (readText_alone repeated [])
  have hempty : (FileStore.open ⟨[], []⟩ "s").entries = [] := by
    refine (answers_as_memory ⟨[], []⟩ "s").2.2.1 fun text hread => ?_
    rw [readText_removed] at hread
    cases hread
  have hother (text : String) (h : Entries.parse? text = none) :
      (FileStore.open (alone text []).tree "s").entries = [] := by
    refine (answers_as_memory (alone text []).tree "s").2.2.1 fun other hread => ?_
    cases (readText_alone text []).symm.trans hread
    exact Entries.parse?_eq_none_iff.mp h
  have hopen : Mounted.open tree "s" = alone repeated [("a", "2")] := by
    rw [Mounted.open, FileStore.open_of_readText (readText_alone repeated []),
      Entries.parse?_document padded_repeated]
    rfl
  have hok : (Mounted.open tree "s").Succeeds reopened := hopen ▸ succeeds_reopened
  have hget := hmemory reopened (by decide) hok
  rw [hentries] at hget
  exact ⟨hwritten tree ⟨"s", map⟩ hmap (congrArg Prod.snd (flush_alone repeated map)), hentries, hempty,
    hother broken (by cbv), hother counted (by cbv), hok, (hget "").trans (by decide), (hget "a").trans (by decide)⟩

end Mounted

end GrammarStudio
