import GrammarStudio.Proofs.CommandLine.Conflicts
import GrammarStudio.Proofs.CommandLine.Rows

/-!
# Every invocation can be written

An invocation has many command lines: its options stand in any order, each of those that both levels know wholly before
the subcommand or wholly behind it, a flag by its name or by its letter, and a choice that is the usual one is left out
or not.  Behind two hyphens the paths come last.  This file says which command lines those are, and that each is read as
the invocation.

* `Invocation.wanted`, `Invocation.Tells` — the values that the options of an invocation are given;
* `Invocation.Spelled` — the command lines of an invocation;
* `Invocation.Expressible` — no empty path, and no options that exclude each other;
* `Invocation.Expressible.fine`, `Invocation.Expressible.free` — a level can take its options, and holds no conflict;
* `readLevels_spelled`, `Levels.invocation_eq` — the levels of a command line tell of the invocation, and nothing else;
* `exists_spelled` — there is a command line;
* `parse_of_spelled` — and each of them is read as the invocation.
-/

namespace GrammarStudio

namespace CommandLine

/-! ### What is to be given -/

/-- A flag is given once or not at all. -/
def once (on : Bool) : List String := if on then [""] else []

/-- The word for a format. -/
def formatWord : Check.Format → String
  | .text => "text"
  | .html => "html"

/-- The values that the options of a check are given. -/
def checkWants (c : Check.Options) : Opt → List String
  | .source => c.source.toList
  | .optimize => [c.optimization.name]
  | .packrat => once c.packrat
  | .ast => once c.ast
  | .profile => once c.profile
  | .format => [formatWord c.format]
  | _ => []

/-- Does leaving the option out mean the same? -/
def checkImplies (c : Check.Options) : Opt → Bool
  | .optimize => c.optimization = .full
  | .format => c.format = .text
  | _ => false

namespace Invocation

/-- The values that the options of an invocation are given. -/
def wanted (i : Invocation) : Opt → List String
  | .config => i.config.toList
  | .engine => i.engine.toList
  | .engineArg => i.engineArgs
  | .storage => i.storage.toList
  | .ephemeral => once i.ephemeral
  | .verbose => List.replicate i.verbosity.louder ""
  | .quiet => List.replicate i.verbosity.quieter ""
  | .logLevel => (i.logLevel.map Log.Level.name).toList
  | o =>
    match i.task with
    | some (.check c) => checkWants c o
    | _ => []

def implies (i : Invocation) (o : Opt) : Bool :=
  match i.task with
  | some (.check c) => checkImplies c o
  | _ => false

/-- These values tell what the invocation says of an option. -/
def Tells (i : Invocation) (o : Opt) (values : List String) : Prop :=
  values = i.wanted o ∨ i.implies o = true ∧ values = []

end Invocation

/-! ### Command lines -/

/-- The name of a task's subcommand. -/
def Task.name : Task → String
  | .gui => "gui"
  | .check _ => "check"

/-- What stands behind the options of a subcommand. -/
def Task.operands : Task → List String
  | .gui => []
  | .check c => "--" :: c.grammar :: c.code.toList

/-- **The command lines of an invocation.**  Without a subcommand there is one row of options.  With one there are two,
and each option stands in the second, or, if it is known before the subcommand, wholly in the first. -/
inductive Invocation.Spelled (i : Invocation) : List String → Prop
  | alone {args : List String} {given : List Given} : i.task = none → Row args given →
      (∀ o, i.Tells o (valuesOf given o)) → i.Spelled args
  | behind {task : Task} {before after : List String} {first second : List Given} : i.task = some task →
      Row before first → Row after second →
      (∀ o, valuesOf first o = [] ∧ i.Tells o (valuesOf second o) ∨
        o.knownIn .whole = true ∧ i.Tells o (valuesOf first o) ∧ valuesOf second o = []) →
      i.Spelled (before ++ task.name :: (after ++ task.operands))

/-- What an invocation must be to have a command line. -/
structure Invocation.Expressible (i : Invocation) : Prop where
  config : i.config ≠ some ""
  storage : i.storage ≠ some ""
  store : ¬ (i.ephemeral = true ∧ i.storage.isSome = true)
  verbosity : i.verbosity.louder = 0 ∨ i.verbosity.quieter = 0
  check : ∀ c, i.task = some (.check c) →
    c.grammar ≠ "" ∧ c.code ≠ some "" ∧ ¬ (c.source.isSome = true ∧ c.code.isSome = true)

/-- The invocation with counts as they are kept: nobody counts past 255. -/
def Invocation.counted (i : Invocation) : Invocation :=
  { i with verbosity := ⟨min 255 i.verbosity.louder, min 255 i.verbosity.quieter⟩ }

/-! ### What is given can be taken -/

section Options

variable {i : Invocation} {o : Opt} {value : String} {values : List String} {given : List Given}

/-- Options that are not known before the subcommand are those of a check. -/
theorem Invocation.wanted_of_own (hown : o.knownIn .whole = false) :
    i.wanted o =
      match i.task with
      | some (.check c) => checkWants c o
      | _ => [] := by
  cases o <;> first | rfl | exact absurd hown (by decide)

/-- They are wanted by a check alone. -/
theorem Invocation.exists_check_of_wanted (hown : o.knownIn .whole = false) (h : i.wanted o ≠ []) :
    ∃ c, i.task = some (.check c) ∧ i.wanted o = checkWants c o := by
  rw [wanted_of_own hown] at h ⊢
  split at h
  case h_1 c htask => exact ⟨c, htask, rfl⟩
  case h_2 => exact absurd rfl h

/-- No request for help or for the version is wanted. -/
theorem Invocation.wanted_requests (i : Invocation) : i.wanted .help = [] ∧ i.wanted .version = [] := by
  simp only [wanted]
  constructor <;> split <;> rfl

/-- What a check wants is accepted. -/
theorem accepts_of_checkWants {c : Check.Options} (hown : o.knownIn .whole = false) (h : value ∈ checkWants c o) :
    o.accepts value = true := by
  cases o with
  | optimize =>
    rw [List.mem_singleton.mp h]
    cases c.optimization <;> rfl
  | format =>
    rw [List.mem_singleton.mp h]
    cases c.format <;> rfl
  | source | packrat | ast | profile | help | version => rfl
  | config | engine | engineArg | storage | ephemeral | verbose | quiet | logLevel => cases hown

/-- What an invocation wants is accepted: no path of it is empty. -/
theorem Invocation.Expressible.accepts (hi : i.Expressible) (h : value ∈ i.wanted o) : o.accepts value = true := by
  cases hwhole : o.knownIn .whole with
  | false =>
    obtain ⟨c, -, hwants⟩ := exists_check_of_wanted hwhole (List.ne_nil_of_mem h)
    rw [hwants] at h
    exact accepts_of_checkWants hwhole h
  | true =>
    cases o with
    | config =>
      have hpath : value ≠ "" := fun heq => hi.config (heq ▸ Option.mem_toList.mp h)
      exact decide_eq_true hpath
    | storage =>
      have hpath : value ≠ "" := fun heq => hi.storage (heq ▸ Option.mem_toList.mp h)
      exact decide_eq_true hpath
    | logLevel =>
      obtain ⟨level, -, rfl⟩ := Option.map_eq_some_iff.mp (Option.mem_toList.mp h)
      simp [Opt.accepts]
    | engine | engineArg | ephemeral | verbose | quiet | help | version => rfl
    | source | optimize | packrat | ast | profile | format => cases hwhole

theorem length_once (on : Bool) : (once on).length ≤ 1 := by cases on <;> decide

theorem length_checkWants (c : Check.Options) (o : Opt) : (checkWants c o).length ≤ 1 := by
  cases o <;> first | exact Nat.zero_le _ | exact Nat.le_refl _ | exact length_once _ | exact Option.length_toList_le

/-- An option that may not be repeated is wanted once at most. -/
theorem Invocation.length_wanted (hrep : o.repeatable = false) : (i.wanted o).length ≤ 1 := by
  cases hwhole : o.knownIn .whole with
  | false =>
    by_cases hwants : i.wanted o = []
    · rw [hwants]
      exact Nat.zero_le _
    · obtain ⟨c, -, hwants⟩ := exists_check_of_wanted hwhole hwants
      rw [hwants]
      exact length_checkWants c o
  | true =>
    cases o with
    | config | engine | storage | logLevel => exact Option.length_toList_le
    | ephemeral => exact length_once _
    | help => simp [i.wanted_requests]
    | version => simp [i.wanted_requests]
    | engineArg | verbose | quiet => cases hrep
    | source | optimize | packrat | ast | profile | format => cases hwhole

/-- What is told of an option is nothing, or all that is wanted. -/
theorem Invocation.Tells.eq_wanted (h : i.Tells o values) (hne : values ≠ []) : values = i.wanted o :=
  h.resolve_right fun himplied => hne himplied.2

/-- A level can take a row that tells all or nothing of each option, if it knows the options of the row. -/
theorem Invocation.Expressible.fine (hi : i.Expressible) {scope : Scope}
    (htells : ∀ o, valuesOf given o = [] ∨ i.Tells o (valuesOf given o))
    (hknown : ∀ o, i.wanted o ≠ [] → valuesOf given o ≠ [] → o.knownIn scope = true) : Fine scope given := by
  have hwanted : ∀ o, valuesOf given o ≠ [] → valuesOf given o = i.wanted o := fun o hne =>
    ((htells o).resolve_left hne).eq_wanted hne
  constructor
  · intro o value hg
    have hmem : value ∈ valuesOf given o := mem_valuesOf.mpr hg
    have hne : valuesOf given o ≠ [] := List.ne_nil_of_mem hmem
    rw [hwanted o hne] at hmem
    refine ⟨hknown o (List.ne_nil_of_mem hmem) hne, ?_, ?_, hi.accepts hmem⟩
    · rintro rfl
      rw [i.wanted_requests.1] at hmem
      cases hmem
    · rintro rfl
      rw [i.wanted_requests.2] at hmem
      cases hmem
  · intro o hrep
    by_cases hne : valuesOf given o = []
    · rw [hne]
      exact Nat.zero_le _
    · rw [hwanted o hne]
      exact length_wanted hrep

/-- **A level of such a row holds no conflict**, also with the paths of a check behind the row. -/
theorem Invocation.Expressible.free (hi : i.Expressible) {l : Level} {paths : List String}
    (hgiven : l.given = given ++ paths.map .path) (hnone : pathsOf given = [])
    (htells : ∀ o, valuesOf given o = [] ∨ i.Tells o (valuesOf given o))
    (hpaths : 2 ≤ paths.length → i.wanted .source = []) : l.conflicting = false := by
  have hwanted : ∀ o, l.has o = true → i.wanted o ≠ [] := by
    intro o ho
    rw [Level.has, Level.values_eq, hgiven, valuesOf_append, valuesOf_paths, List.append_nil] at ho
    have hne : valuesOf given o ≠ [] := by simpa using ho
    rwa [← ((htells o).resolve_left hne).eq_wanted hne]
  have hlength : l.pathsGiven = paths := by
    rw [Level.pathsGiven_eq, hgiven, pathsOf_append, hnone, pathsOf_paths, List.nil_append]
  refine Level.conflicting_eq_false_iff.mpr ⟨?_, ?_, ?_⟩
  · rintro ⟨hephemeral, hstorage⟩
    refine hi.store ⟨?_, ?_⟩
    · by_contra hoff
      exact hwanted .ephemeral hephemeral (by simp [wanted, once, hoff])
    · by_contra hnostore
      exact hwanted .storage hstorage (by simpa [wanted] using hnostore)
  · rintro ⟨hverbose, hquiet⟩
    rcases hi.verbosity with hzero | hzero
    · exact hwanted .verbose hverbose (by simp [wanted, hzero])
    · exact hwanted .quiet hquiet (by simp [wanted, hzero])
  · rintro ⟨hsource, htwo⟩
    rw [hlength] at htwo
    exact hwanted .source hsource (hpaths htwo)

end Options

/-! ### The levels of an invocation -/

namespace Levels

variable {i : Invocation} {levels : Levels} {o : Opt}

/-- Where one level tells of an option and the other does not, what it tells counts. -/
theorem values_alone (outer : Level) (o : Opt) : (⟨outer, none⟩ : Levels).values o = outer.values o := by
  simp only [values, byWeight, List.map_cons, List.map_nil]
  cases outer.values o <;> rfl

theorem values_of_outer_nil (outer : Level) (scope : Scope) (inner : Level) (h : outer.values o = []) :
    (⟨outer, some (scope, inner)⟩ : Levels).values o = inner.values o := by
  simp only [values, byWeight, List.map_cons, List.map_nil, h]
  cases inner.values o <;> rfl

theorem values_of_inner_nil (outer : Level) (scope : Scope) (inner : Level) (h : inner.values o = []) :
    (⟨outer, some (scope, inner)⟩ : Levels).values o = outer.values o := by
  simp only [values, byWeight, List.map_cons, List.map_nil, h]
  cases outer.values o <;> rfl

/-- **What the levels tell of every option is the invocation**, if they have its task. -/
theorem invocation_eq (htells : ∀ o, i.Tells o (levels.values o)) (htask : levels.task = i.task) :
    levels.invocation = i.counted := by
  have hwanted : ∀ o, o.knownIn .whole = true → levels.values o = i.wanted o := by
    intro o hknown
    refine (htells o).resolve_right fun himplied => ?_
    have hno : i.implies o = false := by
      unfold Invocation.implies
      split
      · cases o <;> first | rfl | cases hknown
      · rfl
    rw [hno] at himplied
    cases himplied.1
  have hflag : (once i.ephemeral).isEmpty = !i.ephemeral := by cases i.ephemeral <;> rfl
  have hlevel : (i.logLevel.map Log.Level.name).bind Log.Level.ofName? = i.logLevel := by
    cases i.logLevel <;> simp
  simp only [invocation, Invocation.counted, value?, has, count, htask, hwanted .config rfl, hwanted .engine rfl,
    hwanted .engineArg rfl, hwanted .storage rfl, hwanted .ephemeral rfl, hwanted .logLevel rfl,
    hwanted .verbose rfl, hwanted .quiet rfl, Invocation.wanted, Option.head?_toList, List.length_replicate, hflag,
    hlevel, Bool.not_not]

/-- What a level tells of a check's own options, with its paths, is the check. -/
theorem checkOptions_eq {c : Check.Options} {inner : Level} (htask : i.task = some (.check c))
    (htells : ∀ o, o.knownIn .whole = false → i.Tells o (inner.values o))
    (hpaths : inner.pathsGiven = c.grammar :: c.code.toList) : checkOptions inner = c := by
  have hown : ∀ o, o.knownIn .whole = false →
      inner.values o = checkWants c o ∨ checkImplies c o = true ∧ inner.values o = [] := by
    intro o ho
    have htold := htells o ho
    rw [Invocation.Tells, Invocation.implies, Invocation.wanted_of_own ho, htask] at htold
    exact htold
  have hsource : inner.values .source = checkWants c .source := (hown _ rfl).resolve_right (by simp [checkImplies])
  have hpackrat : inner.values .packrat = checkWants c .packrat := (hown _ rfl).resolve_right (by simp [checkImplies])
  have hast : inner.values .ast = checkWants c .ast := (hown _ rfl).resolve_right (by simp [checkImplies])
  have hprofile : inner.values .profile = checkWants c .profile := (hown _ rfl).resolve_right (by simp [checkImplies])
  have hoptimize : Optimization.ofName (((inner.values .optimize).head?).getD "") = c.optimization := by
    rcases hown .optimize rfl with h | ⟨himplied, h⟩
    · rw [h]
      exact Optimization.ofName_name c.optimization
    · rw [h, of_decide_eq_true himplied]
      rfl
  have hformat : (if (inner.values .format).head? = some "html" then Check.Format.html else .text) = c.format := by
    rcases hown .format rfl with h | ⟨himplied, h⟩
    · rw [h]
      show (if some (formatWord c.format) = some "html" then Check.Format.html else .text) = c.format
      cases c.format <;> rfl
    · rw [h, of_decide_eq_true himplied]
      rfl
  have hcode : (c.grammar :: c.code.toList)[1]? = c.code := by cases c.code <;> rfl
  have hflag : ∀ on, (once on).isEmpty = !on := by decide
  simp only [checkOptions, hpaths, hcode, hsource, hpackrat, hast, hprofile, hoptimize, hformat, Level.has, checkWants,
    Option.head?_toList, hflag, Bool.not_not, List.getElem?_cons_zero, Option.getD_some]

end Levels

/-! ### Each command line is read -/

section Reading

variable {i : Invocation}

/-- A level that a row of options fills ends as it stands, unless it is to have paths. -/
theorem close_row (hi : i.Expressible) {scope : Scope} {args : List String} {given : List Given} (hrow : Row args given)
    (hpart : ∀ o, valuesOf given o = [] ∨ i.Tells o (valuesOf given o)) (hscope : scope ≠ .check) :
    (({} : Level).giving given).close scope = .ok (({} : Level).giving given) := by
  have hgiven : (({} : Level).giving given).given = given ++ ([] : List String).map .path := by simp [Level.giving]
  have hfree : (({} : Level).giving given).conflicting = false :=
    hi.free hgiven hrow.pathsOf_eq hpart fun htwo => absurd htwo (by simp)
  exact Level.close_ok rfl hfree fun heq => absurd heq hscope

/-- Without a subcommand, the row of options is the outer level. -/
theorem readLevels_alone (hi : i.Expressible) (htask : i.task = none) {args : List String} {given : List Given}
    (hrow : Row args given) (htells : ∀ o, i.Tells o (valuesOf given o)) :
    readLevels {} args = .ok ⟨({} : Level).giving given, none⟩ := by
  have hpart : ∀ o, valuesOf given o = [] ∨ i.Tells o (valuesOf given o) := fun o => .inr (htells o)
  have hfine : Fine .whole given := by
    refine hi.fine hpart fun o hwants _ => ?_
    cases hwhole : o.knownIn .whole with
    | true => rfl
    | false =>
      obtain ⟨c, hcheck, -⟩ := Invocation.exists_check_of_wanted hwhole hwants
      rw [htask] at hcheck
      cases hcheck
  have hread : readLevels {} (args ++ []) = readLevels (({} : Level).giving given) [] :=
    readLevels_row hrow rfl rfl hfine
  rw [List.append_nil] at hread
  rw [hread, readLevels, close_row hi hrow hpart (by decide)]
  rfl

/-- The scope behind a task's subcommand. -/
def Task.scope : Task → Scope
  | .gui => .gui
  | .check _ => .check

/-- The paths behind a task's options. -/
def Task.paths : Task → List String
  | .gui => []
  | .check c => c.grammar :: c.code.toList

theorem Task.ofName?_name (task : Task) : Scope.ofName? task.name = some task.scope := by
  cases task <;> rfl

/-- What is wanted with a task is known behind its subcommand. -/
theorem Invocation.knownIn_of_wanted {task : Task} (htask : i.task = some task) {o : Opt} (hwants : i.wanted o ≠ []) :
    o.knownIn task.scope = true := by
  cases hwhole : o.knownIn .whole with
  | true =>
    have hversion : o ≠ .version := by
      rintro rfl
      exact hwants i.wanted_requests.2
    cases task <;> cases o <;> first | rfl | exact absurd rfl hversion | cases hwhole
  | false =>
    obtain ⟨c, hcheck, -⟩ := exists_check_of_wanted hwhole hwants
    rw [htask] at hcheck
    cases hcheck
    cases o <;> first | rfl | cases hwhole

/-- **The level behind a subcommand** is a row of options, and the paths of a check. -/
theorem exists_inner (hi : i.Expressible) {task : Task} (htask : i.task = some task) {args : List String}
    {given : List Given} (hrow : Row args given)
    (hpart : ∀ o, valuesOf given o = [] ∨ i.Tells o (valuesOf given o)) :
    ∃ inner, Level.readAll task.scope {} (args ++ task.operands) = .ok inner ∧
      inner.given = given ++ task.paths.map .path := by
  have hfine : Fine task.scope given := hi.fine hpart fun o hwants _ => Invocation.knownIn_of_wanted htask hwants
  have hread : Level.readAll task.scope {} (args ++ task.operands)
      = Level.readAll task.scope (({} : Level).giving given) task.operands :=
    Level.readAll_row hrow rfl rfl hfine
  have hgiven : ∀ paths : List String, ((({} : Level).giving given).giving (paths.map .path)).given
      = given ++ paths.map .path := fun paths => by simp [Level.giving]
  cases task with
  | gui =>
    have hclose : (({} : Level).giving given).close .gui = .ok (({} : Level).giving given) :=
      close_row hi hrow hpart (by decide)
    exact ⟨({} : Level).giving given, hread.trans hclose, by simp [Level.giving, Task.paths]⟩
  | check c =>
    obtain ⟨hgrammar, hcode, hexclusive⟩ := hi.check c htask
    have hfree : ((({} : Level).giving given).giving ((c.grammar :: c.code.toList).map .path)).conflicting = false := by
      refine hi.free (hgiven _) hrow.pathsOf_eq hpart fun htwo => ?_
      rw [Invocation.wanted_of_own rfl, htask]
      cases hcodes : c.code with
      | none =>
        rw [hcodes] at htwo
        exact absurd htwo (by simp)
      | some code =>
        have hnone : c.source = none := by
          cases hsource : c.source with
          | none => rfl
          | some source => exact absurd ⟨by simp [hsource], by simp [hcodes]⟩ hexclusive
        simp [checkWants, hnone]
    obtain ⟨inner, hinner, hpaths⟩ := Level.readAll_operands rfl rfl rfl hgrammar hcode hfree
    exact ⟨inner, hread.trans hinner, hpaths⟩

/-- A name of a task stands where a subcommand can stand. -/
theorem readLevels_task {l : Level} (hadmits : l.admitsSubcommand = true) (task : Task) (rest : List String) :
    readLevels l (task.name :: rest) = (do
      let inner ← Level.readAll task.scope {} rest
      .ok ⟨← l.close .whole, some (task.scope, inner)⟩) := by
  have hhelp : (task.name == "help") = false := by
    cases task with
    | gui => decide
    | check _ => rw [Task.name]; decide
  rw [readLevels, hhelp, Bool.and_false, if_neg Bool.false_ne_true, if_pos hadmits, task.ofName?_name]

/-- The levels with a subcommand are two rows, and the paths of a check. -/
theorem readLevels_behind (hi : i.Expressible) {task : Task} (htask : i.task = some task) {before after : List String}
    {first second : List Given} (hbefore : Row before first) (hafter : Row after second)
    (hfirst : ∀ o, valuesOf first o = [] ∨ o.knownIn .whole = true ∧ i.Tells o (valuesOf first o))
    (hsecond : ∀ o, valuesOf second o = [] ∨ i.Tells o (valuesOf second o)) :
    ∃ inner, readLevels {} (before ++ task.name :: (after ++ task.operands))
        = .ok ⟨({} : Level).giving first, some (task.scope, inner)⟩ ∧
      inner.given = second ++ task.paths.map .path := by
  have hpart : ∀ o, valuesOf first o = [] ∨ i.Tells o (valuesOf first o) := fun o => (hfirst o).imp_right And.right
  have hfine : Fine .whole first :=
    hi.fine hpart fun o _ hne => ((hfirst o).resolve_left hne).1
  have hread : readLevels {} (before ++ task.name :: (after ++ task.operands))
      = readLevels (({} : Level).giving first) (task.name :: (after ++ task.operands)) :=
    readLevels_row hbefore rfl rfl hfine
  have hclose : (({} : Level).giving first).close .whole = .ok (({} : Level).giving first) :=
    close_row hi hbefore hpart (by decide)
  obtain ⟨inner, hinner, hgiven⟩ := exists_inner hi htask hafter hsecond
  refine ⟨inner, ?_, hgiven⟩
  rw [hread, readLevels_task rfl, hinner, hclose]
  rfl

/-- **Each command line of an invocation has levels that tell of it.** -/
theorem readLevels_spelled (hi : i.Expressible) {args : List String} (h : i.Spelled args) :
    ∃ levels, readLevels {} args = .ok levels ∧ (∀ o, i.Tells o (levels.values o)) ∧ levels.task = i.task := by
  cases h with
  | @alone args given htask hrow htells =>
    refine ⟨_, readLevels_alone hi htask hrow htells, fun o => ?_, htask.symm⟩
    rw [Levels.values_alone]
    exact htells o
  | @behind task before after first second htask hbefore hafter hplaced =>
    have hfirst : ∀ o, valuesOf first o = [] ∨ o.knownIn .whole = true ∧ i.Tells o (valuesOf first o) := fun o =>
      (hplaced o).imp And.left fun hwhole => ⟨hwhole.1, hwhole.2.1⟩
    have hsecond : ∀ o, valuesOf second o = [] ∨ i.Tells o (valuesOf second o) := fun o =>
      (hplaced o).symm.imp (fun hwhole => hwhole.2.2) And.right
    obtain ⟨inner, hread, hgiven⟩ := readLevels_behind hi htask hbefore hafter hfirst hsecond
    have hvalues : ∀ o, inner.values o = valuesOf second o := fun o => by
      rw [Level.values_eq, hgiven, valuesOf_append, valuesOf_paths, List.append_nil]
    refine ⟨_, hread, fun o => ?_, ?_⟩
    · rcases hplaced o with ⟨hnone, htells⟩ | ⟨-, htells, hnone⟩
      · rwa [Levels.values_of_outer_nil (({} : Level).giving first) task.scope inner hnone, hvalues]
      · rwa [Levels.values_of_inner_nil (({} : Level).giving first) task.scope inner ((hvalues o).trans hnone)]
    · cases task with
      | gui => exact htask.symm
      | check c =>
        have hown : ∀ o, o.knownIn .whole = false → i.Tells o (inner.values o) := fun o ho => by
          rw [hvalues]
          exact ((hplaced o).resolve_right fun hwhole => by rw [hwhole.1] at ho; cases ho).2
        have hpaths : inner.pathsGiven = c.grammar :: c.code.toList := by
          rw [Level.pathsGiven_eq, hgiven, pathsOf_append, hafter.pathsOf_eq, pathsOf_paths]
          rfl
        rw [htask, ← Levels.checkOptions_eq htask hown hpaths]
        rfl

end Reading

/-! ### There is a command line -/

/-- An option by its long name, with its value behind an equals sign. -/
def Opt.written (o : Opt) (value : String) : String :=
  if o.takesValue then "--" ++ o.longName ++ "=" ++ value else "--" ++ o.longName

section Writing

variable (i : Invocation)

theorem gives_written {o : Opt} {value : String} (h : o.takesValue = false → value = "") :
    Gives (o.written value) [.option o value] := by
  cases htakes : o.takesValue with
  | true =>
    rw [Opt.written, if_pos htakes]
    exact .valued value htakes
  | false =>
    rw [Opt.written, if_neg (by simp [htakes]), h htakes]
    exact .flag htakes

/-- An option without a value is wanted without one. -/
theorem Invocation.eq_empty_of_wanted {o : Opt} (htakes : o.takesValue = false) {value : String}
    (h : value ∈ i.wanted o) : value = "" := by
  have honce : ∀ {on : Bool}, value ∈ once on → value = "" := by
    intro on h
    cases on with
    | false => cases h
    | true => exact List.mem_singleton.mp h
  cases hwhole : o.knownIn .whole with
  | false =>
    obtain ⟨c, -, hwants⟩ := exists_check_of_wanted hwhole (List.ne_nil_of_mem h)
    rw [hwants] at h
    cases o with
    | packrat | ast | profile => exact honce h
    | source | optimize | format => cases htakes
    | config | engine | engineArg | storage | ephemeral | verbose | quiet | logLevel | help | version => cases h
  | true =>
    cases o with
    | ephemeral => exact honce h
    | verbose | quiet => exact List.eq_of_mem_replicate h
    | help =>
      rw [i.wanted_requests.1] at h
      cases h
    | version =>
      rw [i.wanted_requests.2] at h
      cases h
    | config | engine | engineArg | storage | logLevel => cases htakes
    | source | optimize | packrat | ast | profile | format => cases hwhole

theorem Row.append {args args' : List String} {given given' : List Given} (h : Row args given)
    (h' : Row args' given') : Row (args ++ args') (given ++ given') := by
  induction h with
  | nil => exact h'
  | cons hgives _ ih =>
    rw [List.append_assoc]
    exact .cons hgives ih

/-- One option, as often as it is wanted. -/
theorem row_written {o : Opt} {values : List String} (h : ∀ value ∈ values, o.takesValue = false → value = "") :
    Row (values.map o.written) (values.map (.option o)) := by
  induction values with
  | nil => exact .nil
  | cons value values ih =>
    exact .cons (gives_written (h value (List.mem_cons_self ..))) (ih fun v hv => h v (List.mem_cons_of_mem _ hv))

/-- All that is wanted can be written in a row, option by option. -/
theorem row_wanted (os : List Opt) :
    Row (os.flatMap fun o => (i.wanted o).map o.written) (os.flatMap fun o => (i.wanted o).map (.option o)) := by
  induction os with
  | nil => exact .nil
  | cons o os ih =>
    rw [List.flatMap_cons, List.flatMap_cons]
    exact (row_written fun _ hvalue htakes => i.eq_empty_of_wanted htakes hvalue).append ih

theorem valuesOf_options (values : List String) (o o' : Opt) :
    valuesOf (values.map (.option o')) o = if o' = o then values else [] := by
  by_cases heq : o' = o
  · simp [valuesOf, Level.values, List.filterMap_map, heq]
  · simp [valuesOf, Level.values, List.filterMap_map, heq]

/-- Such a row gives each option what is wanted of it. -/
theorem valuesOf_wanted (o : Opt) :
    valuesOf (Opt.all.flatMap fun o => (i.wanted o).map (.option o)) o = i.wanted o := by
  simp only [Opt.all, List.flatMap_cons, List.flatMap_nil, valuesOf_append, valuesOf_options]
  cases o <;> simp [valuesOf, Level.values]

/-- **Every invocation has a command line**: all its options in one row, behind the subcommand if there is one. -/
theorem exists_spelled : ∃ args, i.Spelled args := by
  have hrow := row_wanted i Opt.all
  have htells : ∀ o, i.Tells o (valuesOf (Opt.all.flatMap fun o => (i.wanted o).map (.option o)) o) := fun o =>
    .inl (valuesOf_wanted i o)
  cases htask : i.task with
  | none => exact ⟨_, .alone htask hrow htells⟩
  | some task => exact ⟨_, .behind htask .nil hrow fun o => .inl ⟨rfl, htells o⟩⟩

end Writing

/-! ### The invocation that is read -/

/-- Counts that can be kept are kept. -/
theorem Invocation.counted_eq_self {i : Invocation} (hlouder : i.verbosity.louder ≤ 255)
    (hquieter : i.verbosity.quieter ≤ 255) : i.counted = i := by
  rw [counted, Nat.min_eq_right hlouder, Nat.min_eq_right hquieter]

/-- **Every invocation can be written, and each of its command lines is read as that invocation**: options in any order
on either side of the subcommand, values of any characters, and the paths behind two hyphens.  Only counts past 255 are
read as 255. -/
theorem parse_of_spelled (i : Invocation) (hi : i.Expressible) :
    (∃ args, i.Spelled args) ∧ ∀ args, i.Spelled args → parse args = .ok i.counted ∧
      (i.verbosity.louder ≤ 255 → i.verbosity.quieter ≤ 255 → parse args = .ok i) := by
  refine ⟨exists_spelled i, fun args hspelled => ?_⟩
  obtain ⟨levels, hread, htells, htask⟩ := readLevels_spelled hi hspelled
  have hparse : parse args = .ok i.counted := by
    rw [parse, hread]
    exact congrArg Except.ok (Levels.invocation_eq htells htask)
  refine ⟨hparse, fun hlouder hquieter => ?_⟩
  rw [hparse, Invocation.counted_eq_self hlouder hquieter]

/-- Values and paths that look like options, and options on both sides of the subcommand. -/
theorem parse_of_spelled_hyphens :
    let i : Invocation :=
      { task := some (.check { grammar := "-g", code := some "--", optimization := .off, packrat := true })
        engine := some "-x=y", engineArgs := ["", "--", "-v"], ephemeral := true, verbosity := ⟨2, 0⟩ }
    let args := ["-vv", "--engine=-x=y", "check", "--engine-arg=", "--packrat", "--engine-arg=--", "--opt=none",
      "--ephemeral", "--engine-arg=-v", "--", "-g", "--"]
    i.Expressible ∧ i.Spelled args ∧ parse args = .ok i := by
  intro i args
  have hi : i.Expressible :=
    { config := by decide
      storage := by decide
      store := by decide
      verbosity := .inr rfl
      check := by
        rintro c ⟨⟩
        decide }
  have hletters : List.Forall₂ (fun o c => o.letter? = some c) [Opt.verbose, .verbose] ['v', 'v'] :=
    .cons rfl (.cons rfl .nil)
  have hfirst : Row ["-vv", "--engine=-x=y"] _ :=
    .cons (.letters (by decide) hletters) (.cons (.valued (o := .engine) "-x=y" rfl) .nil)
  have hsecond : Row ["--engine-arg=", "--packrat", "--engine-arg=--", "--opt=none", "--ephemeral",
      "--engine-arg=-v"] _ :=
    .cons (.valued (o := .engineArg) "" rfl) (.cons (.flag (o := .packrat) rfl)
      (.cons (.valued (o := .engineArg) "--" rfl) (.cons (.valued (o := .optimize) "none" rfl)
        (.cons (.flag (o := .ephemeral) rfl) (.cons (.valued (o := .engineArg) "-v" rfl) .nil)))))
  have hspelled : i.Spelled args := by
    refine Invocation.Spelled.behind (i := i) rfl hfirst hsecond fun o => ?_
    cases o with
    | engine | verbose => exact .inr ⟨rfl, .inl rfl, rfl⟩
    | format => exact .inl ⟨rfl, .inr ⟨rfl, rfl⟩⟩
    | _ => exact .inl ⟨rfl, .inl rfl⟩
  exact ⟨hi, hspelled, ((parse_of_spelled i hi).2 args hspelled).2 (by decide) (by decide)⟩

end CommandLine

end GrammarStudio
