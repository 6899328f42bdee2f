import GrammarStudio.Files.Tree
import Mathlib.Tactic.SplitIfs

/-!
# Reading a tree that has changed

A name is followed through directories only.  So a name stands for the same place as before when no directory has gone,
and a file that was there is read as before when only new places have come.

* `Tree.at?_put_of_ne` — a put changes one place;
* `Tree.resolve_of_directories` — a name stands for its place as long as the directories are there;
* `Tree.readText_write` — a text that was written is read;
* `Tree.Grows`, `Tree.makeRoomFor_grows`, `Tree.Grows.readText` — new directories hide no file.
-/

namespace GrammarStudio.Files.Tree

variable {t t' : Tree}

/-! ### Places -/

theorem lookup_filter_of_ne {p q : Place} (h : q ≠ p) (nodes : List (Place × Node)) :
    (nodes.filter (·.1 ≠ p)).lookup q = nodes.lookup q := by
  induction nodes with
  | nil => rfl
  | cons node rest ih =>
    obtain ⟨r, n⟩ := node
    by_cases hr : r = p
    · have hq : (q == r) = false := by simpa [hr] using h
      rw [List.filter_cons_of_neg (by simpa using hr), List.lookup_cons, hq]
      exact ih
    · rw [List.filter_cons_of_pos (by simpa using hr), List.lookup_cons, List.lookup_cons, ih]

/-- A put leaves the other places alone. -/
theorem at?_put_of_ne (t : Tree) {p q : Place} (n : Node) (h : q ≠ p) : (t.put p n).at? q = t.at? q := by
  have hq : (q == p) = false := by simpa using h
  simp only [at?, put, List.lookup_cons, hq, lookup_filter_of_ne h]

/-- The root is no place for anything new. -/
theorem ne_nil_of_at? {p : Place} (h : t.at? p ≠ some .directory) : p ≠ [] := by
  rintro rfl
  exact h rfl

/-! ### Names -/

/-- The steps of a name lead to the same place while the directories are there. -/
theorem walk_of_directories (h : ∀ p, t.at? p = some .directory → t'.at? p = some .directory) {p q : Place}
    {steps : List String} (hwalk : t.walk p steps = .ok q) : t'.walk p steps = .ok q := by
  induction steps generalizing p with
  | nil => exact hwalk
  | cons step rest ih =>
    rw [walk] at hwalk ⊢
    cases hp : t.at? p with
    | none =>
      rw [hp] at hwalk
      cases hwalk
    | some node =>
      cases node with
      | file content =>
        rw [hp] at hwalk
        cases hwalk
      | directory =>
        rw [hp] at hwalk
        rw [h p hp]
        dsimp only at hwalk ⊢
        split_ifs at hwalk ⊢
        all_goals exact ih hwalk

/-- **A name stands for the same place while the directories are there.** -/
theorem resolve_of_directories (hhere : t'.here = t.here)
    (h : ∀ p, t.at? p = some .directory → t'.at? p = some .directory) {n : Name} {p : Place}
    (hresolve : t.resolve n = .ok p) : t'.resolve n = .ok p := by
  rw [resolve] at hresolve ⊢
  rw [hhere]
  split_ifs at hresolve ⊢
  all_goals exact walk_of_directories h hresolve

/-! ### Written files -/

section Write

variable {name : String} {content : ByteArray}

/-- A write that succeeds puts the file at the place of its name, which is no directory. -/
theorem write_ok (h : (t.write name content).2 = .ok ()) :
    ∃ p, (Name.ofText name).wantsDirectory = false ∧ t.resolve (Name.ofText name) = .ok p ∧
      t.at? p ≠ some .directory ∧ (t.write name content).1 = t.put p (.file content) := by
  unfold write at h ⊢
  cases hwants : (Name.ofText name).wantsDirectory with
  | true =>
    simp only [hwants, if_true, Bool.true_or] at h
    split at h <;> cases h
  | false =>
    simp only [hwants, Bool.false_eq_true, if_false, Bool.false_or] at h ⊢
    cases hresolve : t.resolve (Name.ofText name) with
    | error e =>
      rw [hresolve] at h
      cases h
    | ok p =>
      rw [hresolve] at h
      dsimp only at h ⊢
      split at h
      · cases h
      · rename_i hp
        rw [if_neg hp]
        exact ⟨p, trivial, rfl, by simpa using hp, rfl⟩

/-- A write that fails leaves the tree alone. -/
theorem write_error {cause : Fault} (h : (t.write name content).2 = .error cause) : (t.write name content).1 = t := by
  unfold write at h ⊢
  dsimp only at h ⊢
  split
  · rfl
  · rename_i p hresolve
    rw [hresolve] at h
    dsimp only at h
    split
    · rfl
    · rw [if_neg ‹_›] at h
      cases h

/-- **What was written is read.** -/
theorem read_write (h : (t.write name content).2 = .ok ()) : (t.write name content).1.read name = .ok content := by
  obtain ⟨p, hwants, hresolve, hp, htree⟩ := write_ok h
  have hdirectories : ∀ q, t.at? q = some .directory → (t.put p (.file content)).at? q = some .directory := by
    intro q hq
    have hne : q ≠ p := by
      rintro rfl
      exact hp hq
    rwa [at?_put_of_ne t _ hne]
  have hhere : (t.put p (.file content)).here = t.here := rfl
  have hresolve' := resolve_of_directories hhere hdirectories hresolve
  simp only [htree, read, hresolve', bind, Except.bind, at?_put_self t _ (ne_nil_of_at? hp), hwants,
    Bool.false_eq_true, if_false]

/-- A text that was written is read. -/
theorem readText_write {text : String} (h : (t.write name text.toUTF8).2 = .ok ()) :
    (t.write name text.toUTF8).1.readText name = .ok text := by
  have htext : String.fromUTF8? text.toUTF8 = some text := dif_pos text.isValidUTF8
  simp only [readText, read_write h, bind, Except.bind, htext]

end Write

/-! ### New directories -/

/-- A tree that holds what another one holds, and perhaps more. -/
structure Grows (t t' : Tree) : Prop where
  here : t'.here = t.here
  at? : ∀ p n, t.at? p = some n → t'.at? p = some n

theorem Grows.refl (t : Tree) : Grows t t := ⟨rfl, fun _ _ h => h⟩

theorem Grows.trans {t'' : Tree} (h : Grows t t') (h' : Grows t' t'') : Grows t t'' :=
  ⟨h'.here.trans h.here, fun p n hp => h'.at? p n (h.at? p n hp)⟩

/-- A file that is there is read as before. -/
theorem Grows.readText (h : Grows t t') {name text : String} (hread : t.readText name = .ok text) :
    t'.readText name = .ok text := by
  cases hresolve : t.resolve (Name.ofText name) with
  | error e => simp [Tree.readText, Tree.read, hresolve, bind, Except.bind] at hread
  | ok p =>
    have hresolve' : t'.resolve (Name.ofText name) = .ok p :=
      resolve_of_directories h.here (fun p => h.at? p .directory) hresolve
    cases hp : t.at? p with
    | none => simp [Tree.readText, Tree.read, hresolve, hp, bind, Except.bind] at hread
    | some node =>
      have hp' := h.at? p node hp
      have hsame : t'.read name = t.read name := by
        simp only [Tree.read, hresolve, hresolve', hp, hp', bind, Except.bind]
      rwa [Tree.readText, hsame, ← Tree.readText]

theorem makeDirectory_grows (t : Tree) (n : Name) : Grows t (t.makeDirectory n).1 := by
  unfold makeDirectory
  split
  · exact .refl t
  · rename_i p _
    split
    · exact .refl t
    · rename_i hfree
      refine ⟨rfl, fun q node hq => ?_⟩
      have hne : q ≠ p := by
        rintro rfl
        exact hfree (by rw [hq]; rfl)
      rwa [at?_put_of_ne t _ hne]

theorem makeDirectories_grows (t : Tree) (name : String) (fuel : Nat) : Grows t (t.makeDirectories name fuel).1 := by
  induction fuel generalizing t name with
  | zero => exact .refl t
  | succ fuel ih =>
    have hfirst := makeDirectory_grows t (Name.ofText name)
    rw [makeDirectories]
    split
    · exact .refl t
    · split
      · rename_i h
        rwa [h] at hfirst
      · rename_i t₁ h
        rw [h] at hfirst
        split
        · exact hfirst
        · rename_i around _
          have haround := hfirst.trans (ih t₁ around)
          split
          · rename_i h₂
            rwa [h₂] at haround
          · rename_i t₂ h₂
            rw [h₂] at haround
            have hlast := haround.trans (makeDirectory_grows t₂ (Name.ofText name))
            split
            · rename_i h₃
              rwa [h₃] at hlast
            · rename_i h₃
              rwa [h₃] at hlast
      · rename_i h
        rwa [h] at hfirst

/-- **Making room for a file hides no other.** -/
theorem makeRoomFor_grows (t : Tree) (name : String) : Grows t (t.makeRoomFor name).1 := by
  unfold makeRoomFor
  split
  · exact .refl t
  · exact makeDirectories_grows t _ _

end GrammarStudio.Files.Tree
