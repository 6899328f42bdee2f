import GrammarStudio.CommandLine.Parse
import Mathlib.Data.List.Forall2
import Mathlib.Data.List.TakeWhile

/-!
# Options in a row

An argument that gives options gives them in one of three ways: by a long name with a value behind an equals sign, by a
long name alone, or by letters.  A level takes a row of such arguments one by one and holds in the end what all of them
give, if it knows every option, each value is one that can be given, and only options that may be repeated are.

* `Gives`, `Row` — arguments and the options they give;
* `valuesOf`, `pathsOf` — the values of one option among what is given, and the paths;
* `Fine` — what a level can take;
* `Shape.of_valued`, `Shape.of_flag`, `Shape.of_letters` — how these arguments look, whatever the value holds;
* `Level.step_gives`, `Level.readAll_row`, `readLevels_row` — a level takes an argument, and a row of them;
* `Level.readAll_operands` — the paths behind two hyphens, which end a level.
-/

namespace GrammarStudio.CommandLine

/-! ### How options are written -/

/-- An argument that gives options, and the options with their values. -/
inductive Gives : String → List Given → Prop
  | valued {o : Opt} (value : String) : o.takesValue = true →
      Gives ("--" ++ o.longName ++ "=" ++ value) [.option o value]
  | flag {o : Opt} : o.takesValue = false → Gives ("--" ++ o.longName) [.option o ""]
  | letters {os : List Opt} {cs : List Char} : cs ≠ [] → List.Forall₂ (fun o c => o.letter? = some c) os cs →
      Gives (String.ofList ('-' :: cs)) (os.map (.option · ""))

/-- Arguments that give options, in a row. -/
inductive Row : List String → List Given → Prop
  | nil : Row [] []
  | cons {arg : String} {args : List String} {gs rest : List Given} : Gives arg gs → Row args rest →
      Row (arg :: args) (gs ++ rest)

/-- The values that one option has among those given, in order. -/
def valuesOf (given : List Given) (o : Opt) : List String := ({ given } : Level).values o

theorem Level.values_eq (l : Level) (o : Opt) : l.values o = valuesOf l.given o := rfl

@[simp] theorem valuesOf_append (gs gs' : List Given) (o : Opt) :
    valuesOf (gs ++ gs') o = valuesOf gs o ++ valuesOf gs' o :=
  List.filterMap_append

@[simp] theorem valuesOf_paths (ps : List String) (o : Opt) : valuesOf (ps.map .path) o = [] := by
  simp [valuesOf, Level.values, List.filterMap_map]

/-- The paths among what is given, in order. -/
def pathsOf (given : List Given) : List String := ({ given } : Level).pathsGiven

theorem Level.pathsGiven_eq (l : Level) : l.pathsGiven = pathsOf l.given := rfl

@[simp] theorem pathsOf_append (gs gs' : List Given) : pathsOf (gs ++ gs') = pathsOf gs ++ pathsOf gs' :=
  List.filterMap_append

@[simp] theorem pathsOf_paths (ps : List String) : pathsOf (ps.map .path) = ps := by
  simp [pathsOf, Level.pathsGiven, List.filterMap_map]

theorem mem_valuesOf {given : List Given} {o : Opt} {value : String} :
    value ∈ valuesOf given o ↔ Given.option o value ∈ given := by
  simp only [valuesOf, Level.values, List.mem_filterMap]
  constructor
  · rintro ⟨g, hg, hvalue⟩
    cases g with
    | path p => cases hvalue
    | option o' v =>
      dsimp only at hvalue
      split at hvalue
      · rename_i heq
        cases hvalue
        rwa [heq] at hg
      · cases hvalue
  · intro hg
    exact ⟨_, hg, by simp⟩

/-- A row gives options and no paths. -/
theorem Row.pathsOf_eq {args : List String} {given : List Given} (h : Row args given) : pathsOf given = [] := by
  induction h with
  | nil => rfl
  | cons hgives _ ih =>
    rw [pathsOf_append, ih, List.append_nil]
    cases hgives with
    | valued => rfl
    | flag => rfl
    | letters => simp [pathsOf, Level.pathsGiven, List.filterMap_map]

/-! ### How these arguments look -/

/-- No name holds the mark that ends it. -/
theorem longName_unmarked (o : Opt) : ∀ c ∈ o.longName.toList, (decide (c ≠ '=')) = true := by
  refine List.all_eq_true.mp ?_
  cases o <;> rfl

theorem longName_ne_nil (o : Opt) : o.longName.toList ≠ [] := by
  cases o <;> decide

theorem toList_valued (o : Opt) (value : String) :
    ("--" ++ o.longName ++ "=" ++ value).toList = '-' :: '-' :: (o.longName.toList ++ '=' :: value.toList) := by
  simp only [String.toList_append]
  simp

theorem toList_flag (o : Opt) : ("--" ++ o.longName).toList = '-' :: '-' :: o.longName.toList := by
  simp only [String.toList_append]
  rfl

namespace Level

/-- Two hyphens with something behind them are a long name, which an equals sign ends. -/
theorem Shape.of_long {arg : String} {rest : List Char} (h : arg.toList = '-' :: '-' :: rest) (hne : rest ≠ []) :
    Shape.of arg =
      match rest.dropWhile (· ≠ '=') with
      | [] => .long (String.ofList (rest.takeWhile (· ≠ '='))) none
      | _ :: value => .long (String.ofList (rest.takeWhile (· ≠ '='))) (some (String.ofList value)) := by
  rw [Shape.of, h]
  cases rest with
  | nil => exact absurd rfl hne
  | cons c cs => rfl

/-- **A value is read whole**, whatever it holds. -/
theorem Shape.of_valued (o : Opt) (value : String) :
    Shape.of ("--" ++ o.longName ++ "=" ++ value) = .long o.longName (some value) := by
  have htake : (o.longName.toList ++ '=' :: value.toList).takeWhile (· ≠ '=') = o.longName.toList := by
    rw [List.takeWhile_append_of_pos (longName_unmarked o)]
    simp
  have hdrop : (o.longName.toList ++ '=' :: value.toList).dropWhile (· ≠ '=') = '=' :: value.toList := by
    rw [List.dropWhile_append_of_pos (longName_unmarked o)]
    simp
  rw [Shape.of_long (toList_valued o value) (by simp), hdrop, htake]
  simp only [String.ofList_toList]

theorem Shape.of_flag (o : Opt) : Shape.of ("--" ++ o.longName) = .long o.longName none := by
  rw [Shape.of_long (toList_flag o) (longName_ne_nil o), List.dropWhile_eq_nil_iff.mpr (longName_unmarked o),
    List.takeWhile_eq_self_iff.mpr (longName_unmarked o)]
  simp only [String.ofList_toList]

theorem Shape.of_letters {c : Char} {cs : List Char} (h : c ≠ '-') :
    Shape.of (String.ofList ('-' :: c :: cs)) = .letters (c :: cs) := by
  rw [Shape.of, String.toList_ofList]
  split
  case h_1 heq => cases heq; exact absurd rfl h
  case h_2 heq => cases heq; exact absurd rfl h
  case h_3 heq => cases heq; rfl
  case h_4 heq => exact absurd rfl (heq _ _)

end Level

/-! ### Taking a row -/

/-- What a level can take: options that it knows, with values that they accept, and only repeatable ones twice. -/
structure Fine (scope : Scope) (given : List Given) : Prop where
  known : ∀ o value, Given.option o value ∈ given →
    o.knownIn scope = true ∧ o ≠ .help ∧ o ≠ .version ∧ o.accepts value = true
  once : ∀ o, o.repeatable = false → (valuesOf given o).length ≤ 1

theorem Fine.of_append {scope : Scope} {gs rest : List Given} (h : Fine scope (gs ++ rest)) : Fine scope gs := by
  refine ⟨fun o value hg => h.known o value (List.mem_append_left _ hg), fun o hrep => ?_⟩
  have honce := h.once o hrep
  rw [valuesOf_append, List.length_append] at honce
  omega

namespace Opt

/-- An option is found by its long name where it is known. -/
theorem ofLongName?_longName {scope : Scope} {o : Opt} (h : o.knownIn scope = true) :
    ofLongName? scope o.longName = some o := by
  cases o <;> cases scope <;> first | rfl | cases h

theorem ofLetter?_of_letter {scope : Scope} {o : Opt} {c : Char} (h : o.knownIn scope = true)
    (hletter : o.letter? = some c) : ofLetter? scope c = some o := by
  cases o <;> cases hletter <;> cases scope <;> first | rfl | cases h

/-- No option has a hyphen for its letter, and none with a letter takes a value. -/
theorem of_letter {o : Opt} {c : Char} (hletter : o.letter? = some c) : c ≠ '-' ∧ o.takesValue = false := by
  cases o <;> cases hletter <;> decide

end Opt

namespace Level

variable {scope : Scope} {l : Level} {o : Opt} {gs rest : List Given}

/-- The level with more options given. -/
def giving (l : Level) (gs : List Given) : Level := { l with given := l.given ++ gs }

theorem giving_giving (l : Level) (gs gs' : List Given) : (l.giving gs).giving gs' = l.giving (gs ++ gs') := by
  simp only [giving, List.append_assoc]

theorem settle_of_waiting (h : l.waiting = none) : l.settle = .ok l := by
  rw [settle, h]

/-- An option is taken if the level stays one that can take what it holds. -/
theorem take_option {value : String} (h : Fine scope (l.given ++ [.option o value])) :
    l.take (.option o value) = .ok (l.giving [.option o value]) := by
  obtain ⟨-, -, -, haccepts⟩ := h.known o value (List.mem_append_right _ (List.mem_singleton_self _))
  have hnew : (l.has o && !o.repeatable) = false := by
    cases hrep : o.repeatable with
    | true => simp
    | false =>
      have honce := h.once o hrep
      have hvalue : valuesOf [.option o value] o = [value] := by simp [valuesOf, values]
      rw [valuesOf_append, hvalue, List.length_append, List.length_singleton] at honce
      have hnone : valuesOf l.given o = [] := List.eq_nil_of_length_eq_zero (by omega)
      simp [has, values_eq, hnone]
  rw [take, hnew, haccepts]
  rfl

/-- An option without a value is taken as it is met. -/
theorem flag_ok (hwaiting : l.waiting = none) (h : Fine scope (l.given ++ [.option o ""])) :
    l.flag o = .ok (l.giving [.option o ""]) := by
  obtain ⟨-, hhelp, hversion, -⟩ := h.known o "" (List.mem_append_right _ (List.mem_singleton_self _))
  rw [flag, settle_of_waiting hwaiting, ← take_option h]
  cases o <;> first | rfl | exact absurd rfl hhelp | exact absurd rfl hversion

/-- Options are taken letter by letter. -/
theorem letters_ok {os : List Opt} {cs : List Char} (hletters : List.Forall₂ (fun o c => o.letter? = some c) os cs)
    (hwaiting : l.waiting = none) (h : Fine scope (l.given ++ os.map (.option · ""))) :
    l.letters scope cs = .ok (l.giving (os.map (.option · ""))) := by
  induction hletters generalizing l with
  | nil => simp [letters, giving]
  | @cons o c os cs hletter _ ih =>
    have hfirst : Fine scope (l.given ++ [.option o ""]) := by
      rw [List.map_cons, List.append_cons] at h
      exact h.of_append
    obtain ⟨hknown, -⟩ := hfirst.known o "" (List.mem_append_right _ (List.mem_singleton_self _))
    have hrest : Fine scope ((l.giving [.option o ""]).given ++ os.map (.option · "")) := by
      rw [giving, ← List.append_cons]
      exact h
    rw [letters, Opt.ofLetter?_of_letter hknown hletter]
    dsimp only
    rw [flag_ok hwaiting hfirst]
    refine (ih (l := l.giving [.option o ""]) hwaiting hrest).trans ?_
    rw [giving_giving]
    rfl

/-- Where nothing waits and the options have not ended, an argument is read by its looks. -/
theorem step_of_long {arg name : String} {value : Option String} (hwaiting : l.waiting = none)
    (hopen : l.optionsEnded = false) (hshape : Shape.of arg = .long name value) :
    l.step scope arg = l.long scope name value := by
  simp [step, hopen, wanting, hwaiting, hshape]

theorem step_of_letters {arg : String} {cs : List Char} (hwaiting : l.waiting = none)
    (hopen : l.optionsEnded = false) (hshape : Shape.of arg = .letters cs) :
    l.step scope arg = l.letters scope cs := by
  simp [step, hopen, wanting, hwaiting, hshape]

/-- **A level takes the options of one argument.** -/
theorem step_gives {arg : String} (hgives : Gives arg gs) (hwaiting : l.waiting = none)
    (hopen : l.optionsEnded = false) (h : Fine scope (l.given ++ gs)) :
    l.step scope arg = .ok (l.giving gs) := by
  cases hgives with
  | @valued o value htakes =>
    obtain ⟨hknown, -⟩ := h.known o value (List.mem_append_right _ (List.mem_singleton_self _))
    rw [step_of_long hwaiting hopen (Shape.of_valued o value)]
    simp only [long, Opt.ofLongName?_longName hknown, htakes, if_true, settle_of_waiting hwaiting]
    exact take_option h
  | @flag o htakes =>
    obtain ⟨hknown, -⟩ := h.known o "" (List.mem_append_right _ (List.mem_singleton_self _))
    rw [step_of_long hwaiting hopen (Shape.of_flag o)]
    simp only [long, Opt.ofLongName?_longName hknown, htakes, Bool.false_eq_true, if_false]
    exact flag_ok hwaiting h
  | @letters os cs hne hletters =>
    cases hletters with
    | nil => exact absurd rfl hne
    | @cons o c os cs hletter hrest =>
      rw [step_of_letters hwaiting hopen (Shape.of_letters (Opt.of_letter hletter).1)]
      exact letters_ok (.cons hletter hrest) hwaiting h

/-- **A level takes a row of options**, whatever follows. -/
theorem readAll_row {args more : List String} (hrow : Row args gs) (hwaiting : l.waiting = none)
    (hopen : l.optionsEnded = false) (h : Fine scope (l.given ++ gs)) :
    readAll scope l (args ++ more) = readAll scope (l.giving gs) more := by
  induction hrow generalizing l with
  | nil => simp [giving]
  | @cons arg args gs rest hgives _ ih =>
    rw [← List.append_assoc] at h
    rw [List.cons_append, readAll, step_gives hgives hwaiting hopen h.of_append]
    refine (ih (l := l.giving gs) hwaiting hopen h).trans ?_
    rw [giving_giving]

/-- A level ends if it holds no conflict and lacks nothing. -/
theorem close_ok {settled : Level} (hsettle : l.settle = .ok settled) (hfree : settled.conflicting = false)
    (hpaths : scope = .check → settled.pathsGiven ≠ []) : l.close scope = .ok settled := by
  have hthere : (decide (scope = .check) && settled.pathsGiven.isEmpty) = false := by
    by_cases hscope : scope = .check
    · simp [hpaths hscope]
    · simp [hscope]
  rw [close, hsettle]
  simp [bind, Except.bind, hfree, hthere]

/-- **The operands of a check end its level**: two hyphens, and then one path or two, whatever they look like. -/
theorem readAll_operands {grammar : String} {code : Option String} (hwaiting : l.waiting = none)
    (hopen : l.optionsEnded = false) (hnone : l.paths = 0) (hgrammar : grammar ≠ "") (hcode : code ≠ some "")
    (hfree : (l.giving ((grammar :: code.toList).map .path)).conflicting = false) :
    ∃ inner, readAll .check l ("--" :: grammar :: code.toList) = .ok inner ∧
      inner.given = l.given ++ (grammar :: code.toList).map .path := by
  have hending : l.step .check "--" = .ok { l with optionsEnded := true } := by
    have hshape : Shape.of "--" = .ending := by decide
    simp [step, hopen, wanting, hwaiting, hshape]
  have hfirst : ({ l with optionsEnded := true } : Level).step .check grammar
      = .ok { l with optionsEnded := true, waiting := some (.path grammar), paths := 1 } := by
    simp [step, positional, hnone, pathLimit, settle, hwaiting, bind, Except.bind]
  have hsettle : ∀ n, ({ l with optionsEnded := true, waiting := some (.path grammar), paths := n } : Level).settle
      = .ok { l with optionsEnded := true, waiting := none, paths := n, given := l.given ++ [.path grammar] } := by
    intro n
    simp [settle, take, hgrammar]
  rw [readAll, hending]
  simp only [bind, Except.bind]
  rw [readAll, hfirst]
  cases code with
  | none =>
    refine ⟨_, close_ok (hsettle 1) hfree fun _ => ?_, rfl⟩
    simp [pathsGiven]
  | some path =>
    have hpath : path ≠ "" := fun heq => hcode (congrArg some heq)
    have hsecond :
        ({ l with optionsEnded := true, waiting := some (.path grammar), paths := 1 } : Level).step .check path
        = .ok { l with
            optionsEnded := true, waiting := some (.path path), paths := 2, given := l.given ++ [.path grammar] } := by
      simp only [step, positional, pathLimit, if_true, hsettle]
      rfl
    simp only [bind, Except.bind, Option.toList_some]
    have hend : ({ l with
            optionsEnded := true, waiting := some (.path path), paths := 2, given := l.given ++ [.path grammar]
          } : Level).settle
        = .ok { l with
            optionsEnded := true, waiting := none, paths := 2, given := l.given ++ [.path grammar, .path path] } := by
      simp [settle, take, hpath]
    rw [readAll, hsecond]
    refine ⟨_, close_ok hend hfree fun _ => ?_, rfl⟩
    simp [pathsGiven]

end Level

/-- What gives options starts with a hyphen. -/
theorem Gives.head {arg : String} {gs : List Given} (h : Gives arg gs) : arg.toList.head? = some '-' := by
  cases h with
  | valued value _ => rw [toList_valued]; rfl
  | flag _ => rw [toList_flag]; rfl
  | letters _ _ => rw [String.toList_ofList]; rfl

/-- A name of a subcommand, or the word for help, starts with no hyphen. -/
theorem Gives.no_subcommand {arg : String} {gs : List Given} (h : Gives arg gs) :
    (arg == "help") = false ∧ Scope.ofName? arg = none := by
  have hother : ∀ name : String, name.toList.head? ≠ some '-' → arg ≠ name := by
    rintro name hname rfl
    exact hname h.head
  have hhelp := hother "help" (by decide)
  have hgui := hother "gui" (by decide)
  have hcheck := hother "check" (by decide)
  exact ⟨beq_eq_false_iff_ne.mpr hhelp, by rw [Scope.ofName?, if_neg hgui, if_neg hcheck]⟩

/-- **The outer level takes a row of options** on the way to a subcommand. -/
theorem readLevels_row {l : Level} {args more : List String} {gs : List Given} (hrow : Row args gs)
    (hwaiting : l.waiting = none) (hopen : l.optionsEnded = false) (h : Fine .whole (l.given ++ gs)) :
    readLevels l (args ++ more) = readLevels (l.giving gs) more := by
  induction hrow generalizing l with
  | nil => simp [Level.giving]
  | @cons arg args gs rest hgives _ ih =>
    rw [← List.append_assoc] at h
    obtain ⟨hhelp, hnone⟩ := hgives.no_subcommand
    rw [List.cons_append, readLevels, hhelp, Bool.and_false, hnone, if_neg (by simp), ite_self,
      Level.step_gives hgives hwaiting hopen h.of_append]
    refine (ih (l := l.giving gs) hwaiting hopen h).trans ?_
    rw [Level.giving_giving]

end GrammarStudio.CommandLine
