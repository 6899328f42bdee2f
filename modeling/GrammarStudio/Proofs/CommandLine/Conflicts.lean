import GrammarStudio.CommandLine.Parse
import Mathlib.Data.List.Basic

/-!
# Options that exclude each other

Three pairs exclude each other: a store and none, more records and fewer, a text on the command line and a text in a
file.  A level is looked at when it ends, by itself, so no pair stands at one level.  The first two pairs are known on
both sides of a subcommand, and what the two levels say together is looked at by nobody.

* `ReadAs` — the levels of a command line, each read by itself;
* `readAs_of_readLevels` — reading a command line gives its levels;
* `Levels.Split` — one option of a pair before the subcommand, and the other behind it;
* `exclusive_unless_split` — a pair is in force together exactly if it is split;
* `not_exclusive` — one option on either side is enough.
-/

namespace GrammarStudio.CommandLine

/-! ### One level -/

/-- Two steps that come to something come to it one after the other. -/
theorem exists_of_bind_eq_ok {ε α β : Type} {x : Except ε α} {f : α → Except ε β} {b : β} (h : x >>= f = .ok b) :
    ∃ a, x = .ok a ∧ f a = .ok b := by
  cases x with
  | error e => cases h
  | ok a => exact ⟨a, rfl, h⟩

namespace Level

variable {scope : Scope} {l l' : Level} {args : List String}

/-- A level that ends holds no conflict. -/
theorem conflicting_of_close (h : l.close scope = .ok l') : l'.conflicting = false := by
  obtain ⟨settled, -, h⟩ := exists_of_bind_eq_ok h
  split at h
  case isTrue => cases h
  case isFalse hfree =>
    split at h
    case isTrue => cases h
    case isFalse =>
      cases h
      exact eq_false_of_ne_true hfree

/-- **No conflict stands at one level.** -/
theorem conflicting_of_readAll (h : readAll scope l args = .ok l') : l'.conflicting = false := by
  induction args generalizing l with
  | nil => exact conflicting_of_close h
  | cons arg rest ih =>
    obtain ⟨next, -, h⟩ := exists_of_bind_eq_ok h
    exact ih h

/-- The pairs that a level without a conflict does not hold. -/
theorem conflicting_eq_false_iff :
    l.conflicting = false ↔
      ¬ (l.has .ephemeral = true ∧ l.has .storage = true) ∧ ¬ (l.has .verbose = true ∧ l.has .quiet = true) ∧
        ¬ (l.has .source = true ∧ 2 ≤ l.pathsGiven.length) := by
  simp only [conflicting, Bool.or_eq_false_iff, Bool.and_eq_false_iff, decide_eq_false_iff_not, not_and_or,
    Bool.not_eq_true, and_assoc]

end Level

/-! ### Both levels -/

/-- **The levels of a command line**: all of it, or what stands before a subcommand and what stands behind it, each
read by itself. -/
inductive ReadAs (start : Level) (args : List String) : Levels → Prop
  | alone {outer : Level} : Level.readAll .whole start args = .ok outer → ReadAs start args ⟨outer, none⟩
  | behind {before after : List String} {name : String} {scope : Scope} {outer inner : Level} :
      args = before ++ name :: after → Scope.ofName? name = some scope →
      Level.readAll .whole start before = .ok outer → Level.readAll scope {} after = .ok inner →
      ReadAs start args ⟨outer, some (scope, inner)⟩

theorem ReadAs.cons {start next : Level} {arg : String} {rest : List String} {levels : Levels}
    (hstep : start.step .whole arg = .ok next) (h : ReadAs next rest levels) : ReadAs start (arg :: rest) levels := by
  have hread : ∀ args, Level.readAll .whole start (arg :: args) = Level.readAll .whole next args := by
    intro args
    rw [Level.readAll, hstep]
    rfl
  cases h with
  | alone houter => exact .alone ((hread rest).trans houter)
  | @behind before after name scope outer inner hargs hname houter hinner =>
    have hsplit : arg :: rest = (arg :: before) ++ name :: after := by
      rw [hargs]
      rfl
    exact .behind hsplit hname ((hread before).trans houter) hinner

/-- Reading a command line gives its levels. -/
theorem readAs_of_readLevels {start : Level} {args : List String} {levels : Levels}
    (h : readLevels start args = .ok levels) : ReadAs start args levels := by
  induction args generalizing start with
  | nil =>
    obtain ⟨outer, houter, h⟩ := exists_of_bind_eq_ok h
    cases h
    exact .alone houter
  | cons arg rest ih =>
    rw [readLevels] at h
    split at h
    case isTrue => cases h
    case isFalse =>
      split at h
      case h_1 scope hscope =>
        -- the inner level is read to its end before the outer one is closed
        have hname : Scope.ofName? arg = some scope := by
          split at hscope
          · exact hscope
          · cases hscope
        obtain ⟨inner, hinner, h⟩ := exists_of_bind_eq_ok h
        obtain ⟨outer, houter, h⟩ := exists_of_bind_eq_ok h
        cases h
        exact .behind (List.nil_append (arg :: rest)).symm hname houter hinner
      case h_2 =>
        obtain ⟨next, hstep, h⟩ := exists_of_bind_eq_ok h
        exact .cons hstep (ih h)

/-- No level of a command line holds a conflict. -/
theorem ReadAs.conflicting {start : Level} {args : List String} {levels : Levels} (h : ReadAs start args levels) :
    ∀ level ∈ levels.byWeight, level.conflicting = false := by
  intro level hlevel
  cases h with
  | alone houter =>
    rw [List.mem_singleton.mp hlevel]
    exact Level.conflicting_of_readAll houter
  | behind _ _ houter hinner =>
    rcases List.mem_pair.mp hlevel with rfl | rfl
    · exact Level.conflicting_of_readAll hinner
    · exact Level.conflicting_of_readAll houter

namespace Levels

variable {levels : Levels} {o a b : Opt}

/-- One option stands before the subcommand, and the other behind it. -/
def Split (levels : Levels) (a b : Opt) : Prop :=
  ∃ scope inner, levels.inner = some (scope, inner) ∧
    (levels.outer.has a = true ∧ inner.has b = true ∨ levels.outer.has b = true ∧ inner.has a = true)

/-- An option is in force if one of the levels has it. -/
theorem has_iff : levels.has o = true ↔ ∃ level ∈ levels.byWeight, level.has o = true := by
  have hfirst : ∀ vs : List (List String),
      (!((vs.find? fun vs => !vs.isEmpty).getD []).isEmpty) = true ↔ ∃ v ∈ vs, (!v.isEmpty) = true := by
    intro vs
    cases hfind : vs.find? fun vs => !vs.isEmpty with
    | none =>
      rw [List.find?_eq_none] at hfind
      simpa using hfind
    | some v =>
      have hv := List.find?_some hfind
      exact ⟨fun _ => ⟨v, List.mem_of_find?_eq_some hfind, hv⟩, fun _ => hv⟩
  refine (hfirst _).trans ?_
  simp only [List.mem_map, exists_exists_and_eq_and]
  rfl

theorem isSome_value? : (levels.value? o).isSome = levels.has o := by
  rw [value?, has]
  cases levels.values o <;> rfl

theorem count_pos : 0 < levels.count o ↔ levels.has o = true := by
  rw [count, has]
  cases levels.values o with
  | nil => simp
  | cons v vs => exact iff_of_true (Nat.lt_min.mpr ⟨by decide, Nat.succ_pos _⟩) rfl

/-- **Two options that no level holds together are in force together exactly if they are split.** -/
theorem both_iff_split (h : ∀ level ∈ levels.byWeight, ¬ (level.has a = true ∧ level.has b = true)) :
    levels.has a = true ∧ levels.has b = true ↔ levels.Split a b := by
  rw [has_iff, has_iff, Split]
  unfold byWeight at h ⊢
  cases hinner : levels.inner with
  | none =>
    rw [hinner] at h
    simpa using h levels.outer List.mem_cons_self
  | some found =>
    obtain ⟨scope, inner⟩ := found
    rw [hinner] at h
    have hi := h inner List.mem_cons_self
    have ho := h levels.outer (List.mem_cons_of_mem _ List.mem_cons_self)
    simp only [List.mem_cons, List.not_mem_nil, or_false, exists_eq_or_imp, exists_eq_left, Option.some.injEq,
      Prod.mk.injEq]
    constructor
    · rintro ⟨ha | ha, hb | hb⟩
      · exact absurd ⟨ha, hb⟩ hi
      · exact ⟨scope, inner, ⟨rfl, rfl⟩, .inr ⟨hb, ha⟩⟩
      · exact ⟨scope, inner, ⟨rfl, rfl⟩, .inl ⟨ha, hb⟩⟩
      · exact absurd ⟨ha, hb⟩ ho
    · rintro ⟨_, _, ⟨rfl, rfl⟩, ⟨ha, hb⟩ | ⟨hb, ha⟩⟩
      · exact ⟨.inr ha, .inl hb⟩
      · exact ⟨.inl ha, .inr hb⟩

/-- What is checked has a text on the command line and one in a file only if a level holds both. -/
theorem checkOptions_exclusive {inner : Level} (h : inner.conflicting = false) :
    ¬ ((checkOptions inner).source.isSome = true ∧ (checkOptions inner).code.isSome = true) := by
  rintro ⟨hsource, hcode⟩
  refine (Level.conflicting_eq_false_iff.mp h).2.2 ⟨?_, ?_⟩
  · have hsome : ((inner.values .source).head?).isSome = true := hsource
    rw [Level.has]
    cases hvalues : inner.values .source with
    | nil =>
      rw [hvalues] at hsome
      cases hsome
    | cons v vs => rfl
  · have hsome : (inner.pathsGiven[1]?).isSome = true := hcode
    rwa [isSome_getElem?] at hsome

end Levels

/-! ### Command lines -/

/-- **Options that exclude each other, and when they do not.**  A command line that can be read is read level by level,
and no level holds a pair.  So a text on the command line is never given beside a text in a file; and a store beside
none, or more records beside fewer, are in force exactly if the one option stands before the subcommand and the other
behind it. -/
theorem exclusive_unless_split {args : List String} {i : Invocation} (h : parse args = .ok i) :
    ∃ levels, ReadAs {} args levels ∧ i = levels.invocation ∧
      (∀ level ∈ levels.byWeight, level.conflicting = false) ∧
      (∀ o, i.task = some (.check o) → ¬ (o.source.isSome = true ∧ o.code.isSome = true)) ∧
      (i.ephemeral = true ∧ i.storage.isSome = true ↔ levels.Split .ephemeral .storage) ∧
      (0 < i.verbosity.louder ∧ 0 < i.verbosity.quieter ↔ levels.Split .verbose .quiet) := by
  rw [parse] at h
  cases hread : readLevels {} args with
  | error e =>
    rw [hread] at h
    cases h
  | ok levels =>
    rw [hread] at h
    cases h
    have hreadAs : ReadAs {} args levels := readAs_of_readLevels hread
    have hfree := hreadAs.conflicting
    have hpairs := fun level hlevel => Level.conflicting_eq_false_iff.mp (hfree level hlevel)
    refine ⟨levels, hreadAs, rfl, hfree, fun o htask => ?_, ?_, ?_⟩
    · obtain ⟨⟨scope, inner⟩, hinner, htask⟩ := Option.map_eq_some_iff.mp htask
      have hmem : inner ∈ levels.byWeight := by
        rw [Levels.byWeight, hinner]
        exact List.mem_cons_self
      cases scope with
      | check =>
        cases htask
        exact Levels.checkOptions_exclusive (hfree inner hmem)
      | gui | whole => cases htask
    · rw [← Levels.both_iff_split fun level hlevel => (hpairs level hlevel).1, ← Levels.isSome_value? (o := .storage)]
      rfl
    · rw [← Levels.both_iff_split fun level hlevel => (hpairs level hlevel).2.1, ← Levels.count_pos,
        ← Levels.count_pos]
      rfl

/-- A store before the subcommand, and none behind it. -/
theorem exclusive_unless_split_storage :
    let args := ["--storage=s", "check", "--ephemeral", "-q", "--source=x", "--", "g"]
    ∃ i, parse args = .ok i ∧ ∃ levels, ReadAs {} args levels ∧ levels.Split .ephemeral .storage ∧
      ¬ levels.Split .verbose .quiet := by
  intro args
  have h : parse args = .ok
      { task := some (.check { grammar := "g", source := some "x" }), storage := some "s", ephemeral := true
        verbosity := ⟨0, 1⟩ } := rfl
  obtain ⟨levels, hlevels, -, -, -, hstore, hrecords⟩ := exclusive_unless_split h
  exact ⟨_, h, levels, hlevels, hstore.mp ⟨rfl, rfl⟩, fun hsplit => absurd (hrecords.mpr hsplit).1 (by decide)⟩

/-- **Options that exclude each other can both be in force**: one on either side of the subcommand is enough. -/
theorem not_exclusive :
    ¬ ∀ (args : List String) (i : Invocation), parse args = .ok i →
      ¬ (i.ephemeral = true ∧ i.storage.isSome = true) ∧
      (∀ o, i.task = some (.check o) → ¬ (o.source.isSome = true ∧ o.code.isSome = true)) ∧
      ¬ (0 < i.verbosity.louder ∧ 0 < i.verbosity.quieter) := by
  intro exclusive
  have h : parse ["--ephemeral", "gui", "--storage", "s.json"] = .ok
      { task := some .gui, storage := some "s.json", ephemeral := true } := rfl
  exact (exclusive _ _ h).1 ⟨rfl, rfl⟩

end GrammarStudio.CommandLine
