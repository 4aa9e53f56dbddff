import Mathlib.Algebra.GroupWithZero.Nat
import Mathlib.Data.List.Sort
import Grading.CommandLine.Command
import Grading.Proofs.Files.Loading
import Grading.Proofs.Library.Latest

/-!
# Views — what a library tells of its exercises

A library knows an exercise from the first addition to it on, with rules or without. The identifiers,
the numbers and the list of rules are about the exercises known; only whether an exercise has rules
asks for a rule. The views agree just when every exercise that is added to gets a rule.
-/

namespace Grading

open Grading.Files

/-! ## 1. Libraries that can be reached -/

def fileAdditions (read : DocumentReader) (tree : Tree) (path : Path) : List Addition :=
  match RuleSet.read read tree path with
  | .ok (some s) => [⟨s.exercise, s.rules, some path.text⟩]
  | _ => []

/-- The libraries that files and programs lead to, each with the additions made. -/
inductive Library.Reached : List Addition → Library → Prop
  | empty : Reached [] {}
  | add {as : List Addition} {l : Library} (h : Reached as l) (a : Addition) :
      Reached (as ++ [a]) (l.add a.exercise a.rules a.source).1
  | file {as : List Addition} {l l' : Library} {read : DocumentReader} {tree : Tree} {path : Path}
      {log log' : List Notice} (h : Reached as l)
      (hload : (loadFile read tree l path).run.run log = (.ok l', log')) :
      Reached (as ++ fileAdditions read tree path) l'

namespace Library

theorem addAll_append (l : Library) (as as' : List Addition) :
    (l.addAll (as ++ as')).1 = ((l.addAll as).1.addAll as').1 := by
  induction as generalizing l with
  | nil => rfl
  | cons a as ih => exact ih (l.add a.exercise a.rules a.source).1

/-- A file that is loaded makes its additions. -/
theorem eq_of_loadFile {read : DocumentReader} {tree : Tree} {l l' : Library} {path : Path}
    {log log' : List Notice} (h : (loadFile read tree l path).run.run log = (.ok l', log')) :
    l' = (l.addAll (fileAdditions read tree path)).1 := by
  unfold loadFile at h
  unfold fileAdditions
  split at h
  · exact nomatch congrArg Prod.fst h
  · next hread =>
    rw [hread]
    exact (Except.ok.inj (congrArg Prod.fst h)).symm
  · next s hread =>
    rw [hread]
    exact (Except.ok.inj (congrArg Prod.fst h)).symm

/-- Whatever leads to a library, it is that of its additions. -/
theorem Reached.eq {as : List Addition} {l : Library} (h : Reached as l) :
    l = (addAll {} as).1 := by
  induction h with
  | empty => rfl
  | add _ a ih =>
    rw [addAll_append, ← ih]
    rfl
  | file _ hload ih => rw [addAll_append, ← ih, eq_of_loadFile hload]

/-- Loading in steps leads on as each step does. -/
theorem reached_foldlM {α : Type} (step : Library → α → Loading Library) (added : α → List Addition)
    (h : ∀ {x as l l' log log'}, Reached as l → (step l x).run.run log = (.ok l', log') →
      Reached (as ++ added x) l')
    {xs : List α} {as : List Addition} {l l' : Library} {log log' : List Notice} (hl : Reached as l)
    (hload : (xs.foldlM step l).run.run log = (.ok l', log')) :
    Reached (as ++ xs.flatMap added) l' := by
  induction xs generalizing as l log with
  | nil =>
    obtain rfl := Except.ok.inj (congrArg Prod.fst hload)
    rwa [List.flatMap_nil, List.append_nil]
  | cons x xs ih =>
    rw [List.foldlM_cons, ExceptT.run_bind, StateT.run_bind] at hload
    rcases hstep : (step l x).run.run log with ⟨e | l₁, log₁⟩
    · rw [hstep] at hload
      exact nomatch congrArg Prod.fst hload
    · -- The rest goes on from the library of this step and from its log.
      rw [hstep] at hload
      rw [List.flatMap_cons, ← List.append_assoc]
      exact ih (h hl hstep) hload

/-- Loading a path amounts to the additions its files make. -/
theorem reached_loadPath {read : DocumentReader} {tree : Tree} {path : Path} {as : List Addition}
    {l l' : Library} {log log' : List Notice} (hl : Reached as l)
    (hload : (loadPath read tree l path).run.run log = (.ok l', log')) :
    Reached (as ++ ((ruleFiles? tree path).getD []).flatMap (fileAdditions read tree)) l' := by
  unfold loadPath at hload
  cases hfiles : ruleFiles? tree path with
  | none =>
    rw [hfiles] at hload
    obtain rfl := Except.ok.inj (congrArg Prod.fst hload)
    simpa using hl
  | some files =>
    rw [hfiles] at hload
    exact reached_foldlM (loadFile read tree) (fileAdditions read tree) .file hl hload

/-- A library that is loaded has the additions of its files, in the order of loading. -/
theorem reached_load {read : DocumentReader} {tree : Tree} {paths : List Path} {l : Library}
    (h : (load read tree paths).1 = .ok l) :
    Reached ((ruleFiles tree paths).flatMap (fileAdditions read tree)) l := by
  have hload : load read tree paths = (.ok l, (load read tree paths).2) := Prod.ext h rfl
  rw [ruleFiles, List.flatMap_assoc]
  exact reached_foldlM (loadPath read tree) _ reached_loadPath .empty hload

end Library

/-! ## 2. Exercises -/

def Library.known (l : Library) : List String := l.exercises.map (·.1)

namespace Library

theorem mem_known_add (l : Library) (exercise : String) (rules : List Rule) (source : Option String)
    (e : String) : e ∈ (l.add exercise rules source).1.known ↔ e = exercise ∨ e ∈ l.known := by
  unfold known Library.add
  rw [← Table.lookup_isSome, ← Table.lookup_isSome, Table.lookup_put]
  by_cases he : e = exercise <;> simp [he]

theorem mem_known_addAll (l : Library) (as : List Addition) (e : String) :
    e ∈ (l.addAll as).1.known ↔ e ∈ l.known ∨ ∃ a ∈ as, a.exercise = e := by
  induction as generalizing l with
  | nil => simp [addAll]
  | cons a as ih =>
    have hrest := ih (l.add a.exercise a.rules a.source).1
    rw [mem_known_add] at hrest
    simp only [List.mem_cons, exists_eq_or_imp]
    rw [show (l.addAll (a :: as)).1 = ((l.add a.exercise a.rules a.source).1.addAll as).1 from rfl,
      hrest]
    tauto

theorem nodup_known_addAll {l : Library} (h : l.known.Nodup) (as : List Addition) :
    (l.addAll as).1.known.Nodup := by
  induction as generalizing l with
  | nil => exact h
  | cons a as ih => exact ih (Table.nodup_keys_put h a.exercise _)

theorem ids_perm (l : Library) : l.ids.Perm l.known := List.mergeSort_perm _ _

theorem length_ids (l : Library) : l.ids.length = l.size := by
  rw [l.ids_perm.length_eq, known, List.length_map]
  rfl

/-! ## 3. Rules -/

/-- An exercise has rules just when some were added to it. -/
theorem hasRules_addAll (as : List Addition) (e : String) :
    (addAll {} as).1.hasRules e = true ↔ ∃ a ∈ as, a.exercise = e ∧ a.rules ≠ [] := by
  -- The last definitions of all are none only if there are none at all.
  have hkeeps := (keeps_addAll keeps_nil as).1 e
  have hadded : (addAll {} as).1.rules e = [] ↔ rulesFor e as = [] := by
    rw [← rules_definitionsFor, ← rules_definitions, List.map_eq_nil_iff, List.map_eq_nil_iff]
    exact hkeeps.eq_nil_iff
  unfold hasRules
  rw [Bool.not_eq_true', ← Bool.not_eq_true, List.isEmpty_iff, hadded, rulesFor,
    List.flatMap_eq_nil_iff]
  simp

theorem mem_rulesPerExercise {l : Library} {e : String} {n : Nat} :
    (e, n) ∈ l.rulesPerExercise ↔ e ∈ l.ids ∧ n = (l.rules e).length := by
  simp only [rulesPerExercise, List.mem_map, Prod.mk.injEq]
  constructor
  · rintro ⟨e', he, rfl, rfl⟩
    exact ⟨he, rfl⟩
  · rintro ⟨he, rfl⟩
    exact ⟨e, he, rfl, rfl⟩

theorem keys_rulesPerExercise (l : Library) : l.rulesPerExercise.map (·.1) = l.ids := by
  rw [rulesPerExercise, List.map_map]
  exact List.map_id _

theorem totalRules_eq (l : Library) :
    l.totalRules = (l.ids.map fun e => (l.rules e).length).sum := by
  unfold totalRules rulesPerExercise
  rw [← List.sum_eq_foldr, List.map_map]
  rfl

/-- The rules of all exercises are counted once each, in whatever order. -/
theorem sum_exercises {l : Library} (h : l.known.Nodup) :
    (l.exercises.map fun e => e.2.length).sum = (l.ids.map fun e => (l.rules e).length).sum := by
  -- The entry of an exercise is the one that a lookup finds, since no other has its key.
  have hcount : ∀ e ∈ l.exercises, e.2.length = (l.rules e.1).length := by
    intro e he
    unfold Library.rules
    rw [Table.lookup_of_mem h he]
    rfl
  rw [List.map_congr_left hcount, (l.ids_perm.map _).sum_nat, known, List.map_map]
  rfl

end Library

/-! ## 4. Views -/

structure Library.Views (as : List Addition) (l : Library) : Prop where
  sorted : l.ids.Pairwise (· ≤ ·)
  nodup : l.ids.Nodup
  mem_ids : ∀ e, e ∈ l.ids ↔ ∃ a ∈ as, a.exercise = e
  hasRules : ∀ e, l.hasRules e = true ↔ ∃ a ∈ as, a.exercise = e ∧ a.rules ≠ []
  size : l.size = l.ids.length
  perExercise : ∀ e n, (e, n) ∈ l.rulesPerExercise ↔ e ∈ l.ids ∧ n = (l.rules e).length
  perExerciseKeys : l.rulesPerExercise.map (·.1) = l.ids
  total : l.totalRules = (l.ids.map fun e => (l.rules e).length).sum
  shown : l.shown = "RuleLibrary(exercises=" ++ Nat.repr l.ids.length ++ ", rules=" ++
    Nat.repr l.totalRules ++ ")"

namespace Library

/-- After any additions the views agree with the exercises that were entered. -/
theorem views_addAll (as : List Addition) : Views as (addAll {} as).1 := by
  have hnodup : (addAll {} as).1.known.Nodup := nodup_known_addAll (l := {}) List.nodup_nil as
  constructor
  case sorted => exact List.pairwise_mergeSort' _ _
  case nodup => exact (ids_perm _).nodup_iff.mpr hnodup
  case mem_ids =>
    intro e
    rw [(ids_perm _).mem_iff, mem_known_addAll]
    simp [known]
  case hasRules => exact hasRules_addAll as
  case size => exact (length_ids _).symm
  case perExercise => exact fun _ _ => mem_rulesPerExercise
  case perExerciseKeys => exact keys_rulesPerExercise _
  case total => exact totalRules_eq _
  case shown =>
    unfold Library.shown
    rw [length_ids, ← List.sum_eq_foldr, sum_exercises hnodup, totalRules_eq]

end Library

theorem Library.Reached.views {as : List Addition} {l : Library} (h : Reached as l) : l.Views as := by
  rw [h.eq]
  exact views_addAll as

/-- Every exercise that is added to gets a rule, then or at another time. -/
def NoneEmpty (as : List Addition) : Prop :=
  ∀ a ∈ as, ∃ a' ∈ as, a'.exercise = a.exercise ∧ a'.rules ≠ []

/-- The exercises known are those with rules just when none that is added to stays without. -/
theorem Library.Views.agree_iff {as : List Addition} {l : Library} (h : l.Views as) :
    (∀ e, e ∈ l.ids ↔ l.hasRules e = true) ↔ NoneEmpty as := by
  constructor
  · intro hagree a ha
    have hknown : a.exercise ∈ l.ids := (h.mem_ids _).mpr ⟨a, ha, rfl⟩
    exact (h.hasRules _).mp ((hagree _).mp hknown)
  · intro hnone e
    rw [h.mem_ids, h.hasRules]
    constructor
    · rintro ⟨a, ha, rfl⟩
      exact hnone a ha
    · rintro ⟨a, ha, he, -⟩
      exact ⟨a, ha, he⟩

/-! ## 5. The list of rules -/

namespace CommandLine

/-- The exercises that are warned about. -/
def unruled (config : Config) (l : Library) : List String :=
  ((config.exercises.map (·.id)).filter (!l.ids.contains ·)).mergeSort (· ≤ ·)

def listing (h : Host) (config : Config) (l : Library) (warned : List String) : String :=
  h.screen.table (libraryGrid h l (config.exercises.map (·.id))) ++
    h.screen.line (Nat.repr l.totalRules ++ " rules across " ++ Nat.repr l.size ++ " exercises") ++
    String.join (warned.map fun id => h.warning ("Exercise " ++ id ++ " has no rules"))

structure Warns (config : Config) (as : List Addition) (l : Library) (warned : List String) : Prop where
  sorted : warned.Pairwise (· ≤ ·)
  mem : ∀ e, e ∈ warned ↔ e ∈ config.exercises.map (·.id) ∧ ∀ a ∈ as, a.exercise ≠ e
  agree : NoneEmpty as →
    ∀ e, e ∈ warned ↔ e ∈ config.exercises.map (·.id) ∧ l.hasRules e = false

theorem mem_unruled {config : Config} {l : Library} {e : String} :
    e ∈ unruled config l ↔ e ∈ config.exercises.map (·.id) ∧ e ∉ l.ids := by
  unfold unruled
  rw [List.mem_mergeSort, List.mem_filter, Bool.not_eq_true', ← Bool.not_eq_true,
    List.contains_iff_mem]

theorem warns_unruled (config : Config) {as : List Addition} {l : Library} (h : l.Views as) :
    Warns config as l (unruled config l) := by
  refine ⟨List.pairwise_mergeSort' _ _, fun e => ?_, fun hnone e => ?_⟩
  · rw [mem_unruled, h.mem_ids]
    simp
  · rw [mem_unruled, h.agree_iff.mpr hnone, Bool.not_eq_true]

/-- What a list of rules comes to: the error of the configuration or the library, or the table with the
warnings that the additions of the rule files leave. -/
inductive RulesListed (host : Host) (tree : Tree) (a : Arguments) : Step (Exit × String) → Prop
  | noConfig {e : Exit × String} (h : loadConfig host tree a = .error e) :
      RulesListed host tree a (.error e)
  | noLibrary {config : Config} {e : Exit × String} (hconfig : loadConfig host tree a = .ok config)
      (h : loadLibrary host tree config = .error e) : RulesListed host tree a (.error e)
  | table {config : Config} {as : List Addition} {l : Library} {warned : List String}
      (hconfig : loadConfig host tree a = .ok config) (hlibrary : loadLibrary host tree config = .ok l)
      (hadded : as = (ruleFiles tree config.resolvedRulesPaths).flatMap (fileAdditions host.read tree))
      (hreached : Library.Reached as l) (hwarns : Warns config as l warned) :
      RulesListed host tree a (.ok (.success, listing host config l warned))

theorem load_of_loadLibrary {host : Host} {tree : Tree} {config : Config} {l : Library}
    (h : loadLibrary host tree config = .ok l) :
    (Library.load host.read tree config.resolvedRulesPaths).1 = .ok l := by
  unfold loadLibrary at h
  split at h
  · next hload => rw [hload, Except.ok.inj h]
  · exact nomatch h
  · exact nomatch h

/-- The command that lists rules prints the exercises of the library it loaded. -/
theorem rulesListed (host : Host) (tree : Tree) (a : Arguments) :
    RulesListed host tree a (listRules host tree a) := by
  cases hconfig : loadConfig host tree a with
  | error e =>
    have hlist : listRules host tree a = .error e := by
      rw [listRules, hconfig]
      rfl
    rw [hlist]
    exact .noConfig hconfig
  | ok config =>
    have hlist : listRules host tree a = do
        let l ← loadLibrary host tree config
        return (.success, listing host config l (unruled config l)) := by
      rw [listRules, hconfig]
      rfl
    rw [hlist]
    cases hlibrary : loadLibrary host tree config with
    | error e => exact .noLibrary hconfig hlibrary
    | ok l =>
      have hreached := Library.reached_load (load_of_loadLibrary hlibrary)
      exact .table hconfig hlibrary rfl hreached (warns_unruled config hreached.views)

end CommandLine

/-! ## 6. All libraries -/

open CommandLine in
/-- What a library tells that files and programs lead to, by the additions made: an exercise is among
those known from its first addition on, it has rules just when some were added, and the numbers are
about the exercises known. So those known are those with rules just when each of them gets a rule. A
list of rules warns about the configured exercises that no rule file adds to; these are the ones
without rules if each exercise of a rule file gets a rule. -/
theorem views_agree_iff_none_empty {as : List Addition} {l : Library} (h : Library.Reached as l)
    (host : Host) (tree : Tree) (a : Arguments) :
    l.Views as ∧ ((∀ e, e ∈ l.ids ↔ l.hasRules e = true) ↔ NoneEmpty as) ∧
      RulesListed host tree a (listRules host tree a) :=
  ⟨h.views, h.views.agree_iff, rulesListed host tree a⟩

def CommandLine.plainHost : CommandLine.Host where
  read _ := .error .malformed
  print _ := ""
  validate base _ := .ok { base }
  launch _ _ _ _ := .missing
  screen := { escape := id, line := id, table := fun grid => String.join grid.rows.flatten, raw := id }

/-- An exercise that gets its rules by two additions, one of them without rules. -/
theorem views_agree_iff_none_empty_twice :
    let rule : Rule := { id := "r", appliesTo := "f" }
    let as : List Addition := [⟨"e", [], none⟩, ⟨"e", [rule], some "e.yaml"⟩]
    Library.Reached as (Library.addAll {} as).1 ∧ NoneEmpty as ∧
      ("e" ∈ (Library.addAll {} as).1.ids ↔ (Library.addAll {} as).1.hasRules "e" = true) := by
  intro rule as
  have hreached : Library.Reached as (Library.addAll {} as).1 := (Library.Reached.empty.add _).add _
  have hnone : NoneEmpty as := by simp [NoneEmpty, as]
  obtain ⟨-, hagree, -⟩ := views_agree_iff_none_empty hreached CommandLine.plainHost { root := "/" } {}
  exact ⟨hreached, hnone, hagree.mpr hnone "e"⟩

/-- An exercise to which only an empty list of rules was added is known and counted, has no rules, and
is never warned about. -/
theorem ids_without_rules :
    let l := (Library.add {} "e" []).1
    Library.Reached [⟨"e", [], none⟩] l ∧ "e" ∈ l.ids ∧ l.hasRules "e" = false ∧ l.size = 1 ∧
      l.rulesPerExercise = [("e", 0)] ∧ ∀ config, "e" ∉ CommandLine.unruled config l := by
  intro l
  have hreached : Library.Reached [⟨"e", [], none⟩] l := Library.Reached.empty.add _
  have hids : l.ids = ["e"] := List.mergeSort_singleton _
  have hmem : "e" ∈ l.ids := hids ▸ List.mem_singleton_self _
  have hcounted : l.rulesPerExercise = [("e", 0)] := by
    rw [Library.rulesPerExercise, hids]
    rfl
  refine ⟨hreached, hmem, rfl, rfl, hcounted, fun config hwarned => ?_⟩
  exact (CommandLine.mem_unruled.mp hwarned).2 hmem

end Grading
