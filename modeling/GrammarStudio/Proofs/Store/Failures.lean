import GrammarStudio.Proofs.Store.Disk

/-!
# Writes that fail

The file of a store cannot always be written: the directory for it cannot be made, or something else is in its place.
Each attempt comes here with the files as it finds them, whatever others have made of them, and so any attempts of a
history may fail.  The new value is there before the file is written.  If that fails it is undone, and nothing is left
of the attempt in memory: the store is the one that the other attempts have made, and the same attempt, made again,
writes the file again.

* `FileStore.Attempt`, `FileStore.attempt`, `FileStore.result` — an attempt to put a value under a key;
* `FileStore.after`, `FileStore.succeeded` — a history of attempts, and the ones of them that succeed;
* `FileStore.attempt_cases` — the two ways an attempt can go;
* `FileStore.after_succeeded`, `FileStore.entries_after` — the attempts that fail leave no trace;
* `FileStore.get?_after_ne` — a value that no attempt has put under a key is not there;
* `FileStore.set_of_ne` — a value that is not there is written;
* `FileStore.failures_leave_no_trace` — all of it, for every store and every history.
-/

namespace GrammarStudio

open Files Store

namespace Store.Entries

/-- Of two values under the same key the later one stays. -/
theorem insert_insert (key old value : String) (entries : Entries) :
    insert key value (insert key old entries) = insert key value entries := by
  induction entries with
  | nil => simp [insert]
  | cons p rest ih =>
    obtain ⟨k, v⟩ := p
    by_cases hlt : key < k
    · simp only [insert, if_pos hlt, if_neg (String.lt_irrefl key), if_true]
    · by_cases heq : key = k
      · simp only [insert, if_neg hlt, if_pos heq, if_neg (String.lt_irrefl key), if_true]
      · simp only [insert, if_neg hlt, if_neg heq, ih]

/-- A value that is there already can be put there without a change. -/
theorem Sorted.insert_of_get? {entries : Entries} (h : entries.Sorted) {key value : String}
    (hget : entries.get? key = some value) : entries.insert key value = entries := by
  have hundone := h.restore_insert key value
  rwa [hget, restore, insert_insert] at hundone

end Store.Entries

namespace FileStore

/-- An attempt to put a value under a key, with the files as it finds them. -/
structure Attempt where
  tree : Tree
  key : String
  value : String

/-- What an attempt asks for. -/
def Attempt.write (a : Attempt) : String × String := (a.key, a.value)

/-- The store after an attempt. -/
def attempt (s : FileStore) (a : Attempt) : FileStore := (FileStore.set a.tree s a.key a.value).2.1

/-- How an attempt goes. -/
def result (s : FileStore) (a : Attempt) : Except WriteError Unit := (FileStore.set a.tree s a.key a.value).2.2

/-- The store after a history of attempts. -/
def after (s : FileStore) (history : List Attempt) : FileStore := history.foldl attempt s

/-- The attempts of a history that succeed. -/
def succeeded (s : FileStore) : List Attempt → List Attempt
  | [] => []
  | a :: rest =>
    match s.result a with
    | .ok () => a :: (s.attempt a).succeeded rest
    | .error _ => (s.attempt a).succeeded rest

variable {s : FileStore}

/-! ### One attempt -/

/-- **The two ways an attempt can go.**  It succeeds, and then its value is under its key and the rest is as before; or
it fails, which it does only with another value than the one that is there, and then the store is the old one again. -/
theorem attempt_cases (sorted : s.entries.Sorted) (a : Attempt) :
    (s.result a = .ok () ∧ s.attempt a = { s with entries := s.entries.insert a.key a.value }) ∨
      ∃ e, s.result a = .error e ∧ s.attempt a = s ∧ s.entries.get? a.key ≠ some a.value := by
  have hattempt : s.attempt a = (Store.set (⟨a.tree, s⟩ : Mounted) a.key a.value).1.store := rfl
  have hresult : s.result a = (Store.set (⟨a.tree, s⟩ : Mounted) a.key a.value).2 := rfl
  rw [hattempt, hresult]
  rcases Mounted.set_cases (m := ⟨a.tree, s⟩) sorted a.key a.value with
    ⟨hsame, hset⟩ | ⟨hnew, ⟨t, -, hset⟩ | ⟨t, e, -, hset⟩⟩
  · rw [hset, sorted.insert_of_get? hsame]
    exact .inl ⟨rfl, rfl⟩
  · rw [hset]
    exact .inl ⟨rfl, rfl⟩
  · rw [hset]
    exact .inr ⟨e, rfl, rfl, hnew⟩

/-- No attempt takes the entries out of their order. -/
theorem attempt_sorted (sorted : s.entries.Sorted) (a : Attempt) : (s.attempt a).entries.Sorted := by
  rcases attempt_cases sorted a with ⟨-, hput⟩ | ⟨_, -, hsame, -⟩
  · rw [hput]
    exact sorted.insert a.key a.value
  · rwa [hsame]

/-- An attempt that fails leaves the store as it was, and its value was not there. -/
theorem attempt_of_error (sorted : s.entries.Sorted) {a : Attempt} {e : WriteError} (h : s.result a = .error e) :
    s.attempt a = s ∧ s.entries.get? a.key ≠ some a.value := by
  rcases attempt_cases sorted a with ⟨hok, -⟩ | ⟨_, -, hsame, hnew⟩
  · rw [hok] at h
    cases h
  · exact ⟨hsame, hnew⟩

/-- **A value that is not there is written**, and the store is as the file is then. -/
theorem set_of_ne {key value : String} (h : s.entries.get? key ≠ some value) (t : Tree) :
    let changed : FileStore := { s with entries := s.entries.insert key value }
    (FileStore.set t s key value).1 = (flush t changed).1 ∧ (FileStore.set t s key value).2.2 = (flush t changed).2 ∧
      ((flush t changed).2 = .ok () → (FileStore.set t s key value).2.1 = changed) := by
  intro changed
  simp only [FileStore.set, if_neg h]
  rcases flush t changed with ⟨t', e | ⟨⟩⟩
  · refine ⟨rfl, rfl, fun hok => ?_⟩
    cases hok
  · exact ⟨rfl, rfl, fun _ => rfl⟩

/-! ### Histories -/

theorem succeeded_of_ok {a : Attempt} (h : s.result a = .ok ()) (rest : List Attempt) :
    s.succeeded (a :: rest) = a :: (s.attempt a).succeeded rest := by
  rw [succeeded, h]

theorem succeeded_of_error {a : Attempt} {e : WriteError} (h : s.result a = .error e) (hsame : s.attempt a = s)
    (rest : List Attempt) : s.succeeded (a :: rest) = s.succeeded rest := by
  rw [succeeded, h, hsame]

theorem after_sorted (sorted : s.entries.Sorted) (history : List Attempt) : (s.after history).entries.Sorted := by
  induction history generalizing s with
  | nil => exact sorted
  | cons a rest ih => exact ih (attempt_sorted sorted a)

/-- **The attempts that fail leave no trace.**  Without them the store is the same, and the others succeed as they do
with them. -/
theorem after_succeeded (sorted : s.entries.Sorted) (history : List Attempt) :
    s.after (s.succeeded history) = s.after history ∧ s.succeeded (s.succeeded history) = s.succeeded history := by
  induction history generalizing s with
  | nil => exact ⟨rfl, rfl⟩
  | cons a rest ih =>
    have hcons : s.after (a :: rest) = (s.attempt a).after rest := rfl
    obtain ⟨hafter, hagain⟩ := ih (attempt_sorted sorted a)
    rcases attempt_cases sorted a with ⟨hok, -⟩ | ⟨e, herror, hsame, -⟩
    · rw [succeeded_of_ok hok, succeeded_of_ok hok, hagain]
      exact ⟨hafter, rfl⟩
    · rw [hsame] at hcons hafter hagain
      rw [succeeded_of_error herror hsame, hcons]
      exact ⟨hafter, hagain⟩

/-- **The entries are those of the attempts that succeed**, one after the other. -/
theorem entries_after (sorted : s.entries.Sorted) (history : List Attempt) :
    (⟨(s.after history).entries⟩ : Memory) = writeAll ⟨s.entries⟩ ((s.succeeded history).map Attempt.write) := by
  induction history generalizing s with
  | nil => rfl
  | cons a rest ih =>
    have hcons : s.after (a :: rest) = (s.attempt a).after rest := rfl
    rw [hcons, ih (attempt_sorted sorted a)]
    rcases attempt_cases sorted a with ⟨hok, hput⟩ | ⟨e, herror, hsame, -⟩
    · rw [succeeded_of_ok hok, hput]
      rfl
    · rw [succeeded_of_error herror hsame, hsame]

/-- **A value that no attempt has put under a key is not there.** -/
theorem get?_after_ne (sorted : s.entries.Sorted) {key value : String} (h : s.entries.get? key ≠ some value)
    {history : List Attempt} (never : ∀ a ∈ s.succeeded history, a.write ≠ (key, value)) :
    (s.after history).entries.get? key ≠ some value := by
  induction history generalizing s with
  | nil => exact h
  | cons a rest ih =>
    refine ih (attempt_sorted sorted a) ?_ ?_
    all_goals rcases attempt_cases sorted a with ⟨hok, hput⟩ | ⟨e, herror, hsame, -⟩
    · rw [hput, Entries.get?_insert]
      split
      · rename_i heq
        rw [succeeded_of_ok hok] at never
        intro hvalue
        cases hvalue
        exact never a List.mem_cons_self (Prod.ext heq.symm rfl)
      · exact h
    · rwa [hsame]
    · rw [succeeded_of_ok hok] at never
      exact (List.forall_mem_cons.mp never).2
    · rw [succeeded_of_error herror hsame] at never
      rwa [hsame]

/-- **Writes that fail.**  For every store that is opened in a file, and every history of attempts, which find the files
in whatever states: the store is the one that the attempts that succeed make of it, which succeed without the others,
too; each key is answered as in a store in memory that gets their values; and an attempt that fails leaves the store as
it was.  When it is made again, the file is written and the attempt goes as that goes, unless one in between has put the
same value there.  If it succeeds then, its value is on disk. -/
theorem failures_leave_no_trace (tree : Tree) (path : String) (history : List Attempt) :
    let opened := FileStore.open tree path
    let s := opened.after history
    let done := opened.succeeded history
    (s = opened.after done ∧ opened.succeeded done = done ∧
        ∀ key, s.entries.get? key = Store.get (writeAll (⟨opened.entries⟩ : Memory) (done.map Attempt.write)) key) ∧
      ∀ (a : Attempt) (e : WriteError), s.result a = .error e →
        s.attempt a = s ∧
          ∀ (later : List Attempt) (t : Tree), (∀ b ∈ (s.attempt a).succeeded later, b.write ≠ a.write) →
            let s' := (s.attempt a).after later
            let written := flush t { s' with entries := s'.entries.insert a.key a.value }
            let again := FileStore.set t s' a.key a.value
            again.1 = written.1 ∧ again.2.2 = written.2 ∧
              (written.2 = .ok () →
                again.2.1.entries.get? a.key = some a.value ∧ (⟨again.1, again.2.1⟩ : Mounted).OnDisk) := by
  intro opened s done
  have hopened : opened.entries.Sorted := FileStore.open_sorted tree path
  have sorted : s.entries.Sorted := after_sorted hopened history
  obtain ⟨hafter, hagain⟩ := after_succeeded hopened history
  refine ⟨⟨hafter.symm, hagain, fun key => ?_⟩, fun a e herror => ?_⟩
  · exact congrArg (Store.get · key) (entries_after hopened history)
  · obtain ⟨hsame, hnew⟩ := attempt_of_error sorted herror
    refine ⟨hsame, fun later t never => ?_⟩
    rw [hsame] at never ⊢
    intro s' written again
    have sorted' : s'.entries.Sorted := after_sorted sorted later
    obtain ⟨htree, hresult, hput⟩ := set_of_ne (get?_after_ne sorted hnew never) t
    refine ⟨htree, hresult, fun hok => ?_⟩
    have hagain : again.2.1 = { s' with entries := s'.entries.insert a.key a.value } := hput hok
    rw [hagain, show again.1 = written.1 from htree]
    exact ⟨Entries.get?_insert_self _ _ _,
      Mounted.onDisk_of_flush (sorted'.insert a.key a.value) (Prod.ext rfl hok)⟩

/-- Where the directory of the store is a file, and later where its own file is a directory, nothing can be written. -/
example :
    let attempts : List Attempt := [⟨⟨[(["d"], .file ⟨#[]⟩)], []⟩, "a", "1"⟩, ⟨⟨[], []⟩, "a", "2"⟩,
      ⟨⟨[(["d"], .directory), (["d", "s"], .directory)], []⟩, "a", "3"⟩]
    ((FileStore.open ⟨[], []⟩ "d/s").succeeded attempts).map Attempt.write = [("a", "2")] := by
  cbv

end FileStore

end GrammarStudio
