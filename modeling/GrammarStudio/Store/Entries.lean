/-!
# Entries under keys

A finite map from texts to texts, as the list of its pairs.  The pairs stand in ascending order of their keys, by code
point, and no key stands twice; every operation keeps that.

* `Entries` — the map, with `Entries.get?`, `Entries.insert` and `Entries.erase`;
* `Entries.restore` — what undoes an insertion;
* `Entries.Sorted` — the order the operations keep.
-/

namespace GrammarStudio.Store

/-- A map from texts to texts. -/
abbrev Entries := List (String × String)

namespace Entries

/-- The value under a key. -/
def get? (entries : Entries) (key : String) : Option String := entries.lookup key

/-- Puts a value under a key, over the one that was there. -/
def insert (key value : String) : Entries → Entries
  | [] => [(key, value)]
  | (k, v) :: rest =>
    if key < k then (key, value) :: (k, v) :: rest
    else if key = k then (key, value) :: rest
    else (k, v) :: insert key value rest

/-- Takes a key out, with its value. -/
def erase (key : String) : Entries → Entries
  | [] => []
  | (k, v) :: rest => if key = k then rest else (k, v) :: erase key rest

/-- Puts back what was under a key: the value that was there, or nothing. -/
def restore (key : String) (previous : Option String) (entries : Entries) : Entries :=
  match previous with
  | some old => insert key old entries
  | none => erase key entries

/-- The keys ascend. -/
def Sorted (entries : Entries) : Prop := entries.Pairwise fun a b => a.1 < b.1

/-- The map of a list of pairs in which a later pair replaces an earlier one of the same key. -/
def ofPairs (pairs : List (String × String)) : Entries :=
  pairs.foldl (fun entries p => insert p.1 p.2 entries) []

theorem get?_insert_self (key value : String) (entries : Entries) :
    get? (insert key value entries) key = some value := by
  induction entries with
  | nil => simp [insert, get?]
  | cons p rest ih =>
    obtain ⟨k, v⟩ := p
    by_cases h1 : key < k
    · simp [insert, get?, h1]
    · by_cases h2 : key = k
      · subst h2
        simp only [insert, h1, if_false, if_true, get?, List.lookup_cons, beq_self_eq_true]
      · have : (key == k) = false := by simpa using h2
        simp only [insert, h1, h2, if_false, get?, List.lookup_cons, this]
        exact ih

/-! ### The order is kept -/

/-- What an insertion adds is its own pair only. -/
theorem mem_insert {key value : String} {p : String × String} {entries : Entries}
    (h : p ∈ insert key value entries) : p = (key, value) ∨ p ∈ entries := by
  induction entries with
  | nil => exact .inl (by simpa [insert] using h)
  | cons q rest ih =>
    obtain ⟨k, v⟩ := q
    rw [insert] at h
    split at h
    · exact (List.mem_cons.mp h).imp_right id
    · split at h
      · exact (List.mem_cons.mp h).imp_right (List.mem_cons_of_mem _)
      · rcases List.mem_cons.mp h with h | h
        · exact .inr (h ▸ List.mem_cons_self)
        · exact (ih h).imp_right (List.mem_cons_of_mem _)

theorem Sorted.insert {entries : Entries} (h : Sorted entries) (key value : String) :
    Sorted (Entries.insert key value entries) := by
  induction entries with
  | nil => simp [Entries.insert, Sorted]
  | cons q rest ih =>
    obtain ⟨k, v⟩ := q
    obtain ⟨hk, hrest⟩ := List.pairwise_cons.mp h
    rw [Entries.insert]
    split
    · rename_i hlt
      refine List.pairwise_cons.mpr ⟨fun p hp => ?_, h⟩
      rcases List.mem_cons.mp hp with rfl | hp
      · exact hlt
      · exact String.lt_trans hlt (hk p hp)
    · rename_i hlt
      split
      · rename_i heq
        subst heq
        exact List.pairwise_cons.mpr ⟨hk, hrest⟩
      · rename_i hne
        refine List.pairwise_cons.mpr ⟨fun p hp => ?_, ih hrest⟩
        rcases mem_insert hp with rfl | hp
        · exact Std.lt_of_le_of_ne (String.not_lt.mp hlt) (Ne.symm hne)
        · exact hk p hp

theorem Sorted.ofPairs (pairs : List (String × String)) : Sorted (Entries.ofPairs pairs) := by
  suffices ∀ entries, Sorted entries → Sorted (pairs.foldl (fun e p => Entries.insert p.1 p.2 e) entries) from
    this [] List.Pairwise.nil
  induction pairs with
  | nil => exact fun _ h => h
  | cons p rest ih => exact fun entries h => ih _ (h.insert p.1 p.2)

/-! ### An insertion undone -/

/-- A key before all others has no value. -/
theorem get?_eq_none {key : String} {entries : Entries} (h : ∀ p ∈ entries, key < p.1) : get? entries key = none := by
  rw [get?, List.lookup_eq_none_iff]
  intro p hp
  simpa using fun heq : key = p.1 => String.lt_irrefl key (heq ▸ h p hp)

/-- **An insertion that is undone leaves no trace**, whether the key had a value before or not. -/
theorem Sorted.restore_insert {entries : Entries} (h : Sorted entries) (key value : String) :
    restore key (get? entries key) (Entries.insert key value entries) = entries := by
  induction entries with
  | nil => simp [get?, Entries.insert, restore, erase]
  | cons q rest ih =>
    obtain ⟨k, v⟩ := q
    obtain ⟨hk, hrest⟩ := List.pairwise_cons.mp h
    by_cases hlt : key < k
    · have hnone : get? ((k, v) :: rest) key = none := by
        exact get?_eq_none (List.forall_mem_cons.mpr ⟨hlt, fun p hp => String.lt_trans hlt (hk p hp)⟩)
      simp [hnone, Entries.insert, hlt, restore, erase]
    · by_cases heq : key = k
      · subst heq
        have hget : get? ((key, v) :: rest) key = some v := List.lookup_cons_self
        rw [hget, Entries.insert, if_neg hlt, if_pos rfl, restore, Entries.insert, if_neg hlt, if_pos rfl]
      · have hget : get? ((k, v) :: rest) key = get? rest key := by
          have hne : (key == k) = false := by simpa using heq
          simp only [get?, List.lookup_cons, hne]
        have hinner := ih hrest
        rw [hget, Entries.insert, if_neg hlt, if_neg heq]
        cases hprevious : get? rest key with
        | none =>
          rw [hprevious, restore] at hinner
          rw [restore, erase, if_neg heq, hinner]
        | some old =>
          rw [hprevious, restore] at hinner
          rw [restore, Entries.insert, if_neg hlt, if_neg heq, hinner]

end Entries

end GrammarStudio.Store
