import GrammarStudio.Store.File

/-!
# Laws of a store

What a session relies on is small: a write that succeeds is found again, and it touches no other key.  Every store of
the library is lawful in this sense, also one in a file, whose writes can fail.

* `Entries.get?_insert` — an insertion as a change of one key;
* `Store.Lawful` — the law, with the instances `Memory`, `Journal`, `Mounted` and `AnyStore`;
* `Store.Reliable` — a store none of whose writes fails, however many come one after the other.
-/

namespace GrammarStudio

namespace Store

/-! ### Entries -/

theorem Entries.get?_insert_of_ne {key other : String} (h : other ≠ key) (value : String) (entries : Entries) :
    Entries.get? (Entries.insert key value entries) other = Entries.get? entries other := by
  have hne : (other == key) = false := by simpa using h
  induction entries with
  | nil => simp [Entries.insert, Entries.get?, hne]
  | cons p rest ih =>
    obtain ⟨k, v⟩ := p
    rw [Entries.insert]
    split
    · simp only [Entries.get?, List.lookup_cons, hne]
    · split
      · rename_i heq
        subst heq
        simp only [Entries.get?, List.lookup_cons, hne]
      · simp only [Entries.get?, List.lookup_cons]
        split
        · rfl
        · exact ih

/-- An insertion changes the value of its key and of no other. -/
theorem Entries.get?_insert (key value other : String) (entries : Entries) :
    Entries.get? (Entries.insert key value entries) other =
      if other = key then some value else Entries.get? entries other := by
  split
  · rename_i h
    subst h
    exact Entries.get?_insert_self other value entries
  · rename_i h
    exact Entries.get?_insert_of_ne h value entries

/-! ### The law -/

/-- **A lawful store.**  A write that succeeds is found again, and it touches no other key. -/
class Lawful (σ : Type) [Store σ] : Prop where
  get_set : ∀ (store : σ) (key value other : String), (set store key value).2 = .ok () →
    get (set store key value).1 other = if other = key then some value else get store other

instance : Lawful Memory where
  get_set m key value other _ := Entries.get?_insert key value other m.entries

instance {σ : Type} [Store σ] [Lawful σ] : Lawful (Journal σ) where
  get_set j key value other h := by
    simp only [set, get] at h ⊢
    split at h
    · cases h
    · rename_i hr
      rw [if_neg hr]
      exact Lawful.get_set j.inner key value other h

/-- A write that is not made because the value is there already is a write all the same. -/
instance : Lawful Mounted where
  get_set m key value other h := by
    simp only [set, get, FileStore.set] at h ⊢
    split
    · rename_i hsame
      split
      · rename_i heq
        subst heq
        exact hsame
      · rfl
    · rename_i hnew
      rw [if_neg hnew] at h
      split
      · exact Entries.get?_insert key value other m.store.entries
      · rename_i herr
        rw [herr] at h
        cases h

instance : Lawful AnyStore where
  get_set
    | .memory m, key, value, other, h => Lawful.get_set m key value other h
    | .file m, key, value, other, h => Lawful.get_set m key value other h

/-! ### Stores whose writes succeed -/

section Reliable

variable {σ : Type} [Store σ]

/-- The store after some writes, one after the other. -/
def writeAll (store : σ) (writes : List (String × String)) : σ :=
  writes.foldl (fun store w => (set store w.1 w.2).1) store

/-- **A store whose writes succeed**, whatever was written before. -/
def Reliable (store : σ) : Prop :=
  ∀ (writes : List (String × String)) (key value : String), (set (writeAll store writes) key value).2 = .ok ()

theorem Reliable.set_ok {store : σ} (h : Reliable store) (key value : String) :
    (set store key value).2 = .ok () :=
  h [] key value

theorem Reliable.after_set {store : σ} (h : Reliable store) (key value : String) :
    Reliable (set store key value).1 :=
  fun writes => h ((key, value) :: writes)

/-- Writes succeed from every state of a kind in which they succeed and which they keep. -/
theorem Reliable.of_closed {P : σ → Prop} (ok : ∀ s key value, P s → (set s key value).2 = .ok ())
    (keeps : ∀ s key value, P s → P (set s key value).1) {store : σ} (h : P store) : Reliable store := by
  intro writes
  induction writes generalizing store with
  | nil => exact fun key value => ok store key value h
  | cons w rest ih => exact ih (keeps store w.1 w.2 h)

end Reliable

theorem Memory.reliable (m : Memory) : Reliable m :=
  .of_closed (P := fun _ => True) (fun _ _ _ _ => rfl) (fun _ _ _ _ => trivial) trivial

/-- A journal that does not refuse writes is as reliable as the store inside. -/
theorem Journal.reliable {σ : Type} [Store σ] {j : Journal σ} (accepts : j.refusing = false)
    (h : Reliable j.inner) : Reliable j := by
  refine .of_closed (P := fun j : Journal σ => j.refusing = false ∧ Reliable j.inner) ?_ ?_ ⟨accepts, h⟩
  · intro j key value ⟨haccepts, hinner⟩
    simp only [set, haccepts, Bool.false_eq_true, if_false]
    exact hinner.set_ok key value
  · intro j key value ⟨haccepts, hinner⟩
    simp only [set, haccepts, Bool.false_eq_true, if_false]
    exact ⟨trivial, hinner.after_set key value⟩

end Store

end GrammarStudio
