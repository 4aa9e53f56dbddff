import Mathlib.Data.List.Forall2
import Grading.Proofs.Library.Register

/-!
# Latest — the last definition of a rule counts

Rules are added to a library in any order and as often as one likes. For each exercise the library
holds every identifier once, where it first came, with the last rule that was registered under it. Each
rule that takes the place of another is told of, and nothing else is.
-/

namespace Grading

/-! ## 1. Lists of which the last members count -/

section Lists

variable {α κ : Type} [BEq κ] {key : α → κ} {all held : List α} {a : α} {k : κ}

def lastWith (key : α → κ) (k : κ) (l : List α) : Option α := l.reverse.find? fun a => key a == k

theorem lastWith_append (l l' : List α) :
    lastWith key k (l ++ l') = (lastWith key k l').or (lastWith key k l) := by
  unfold lastWith
  rw [List.reverse_append, List.find?_append]

/-- Every key that there is is held once, in the order in which the keys first came, with the last
member that has it. -/
structure KeepsLatest (key : α → κ) (all held : List α) : Prop where
  keys : held.map key = (all.map key).eraseDups
  last : ∀ a ∈ held, lastWith key (key a) all = some a

namespace KeepsLatest

theorem nil : KeepsLatest key [] [] := ⟨rfl, nofun⟩

/-- What is held is determined. -/
theorem unique {held' : List α} (h : KeepsLatest key all held) (h' : KeepsLatest key all held') :
    held = held' := by
  have heq : ∀ {l : List α}, KeepsLatest key all l →
      (all.map key).eraseDups.filterMap (fun k => lastWith key k all) = l := by
    intro l hl
    rw [← hl.keys, List.filterMap_map]
    calc l.filterMap ((fun k => lastWith key k all) ∘ key)
      _ = l.filterMap some := List.filterMap_congr hl.last
      _ = l := List.filterMap_some
  rw [← heq h, heq h']

theorem map {β : Type} {f : β → α} {all held : List β} (h : KeepsLatest (fun b => key (f b)) all held) :
    KeepsLatest key (all.map f) (held.map f) := by
  constructor
  · rw [List.map_map, List.map_map]
    exact h.keys
  · intro a ha
    obtain ⟨b, hb, rfl⟩ := List.mem_map.mp ha
    unfold lastWith
    rw [← List.map_reverse, List.find?_map]
    exact congrArg (Option.map f) (h.last b hb)

end KeepsLatest

variable [LawfulBEq κ]

theorem eraseDups_concat_of_mem {l : List κ} (h : k ∈ l) : (l ++ [k]).eraseDups = l.eraseDups := by
  rw [List.eraseDups_append]
  simp [List.removeAll, h]

theorem eraseDups_concat_of_not_mem {l : List κ} (h : k ∉ l) :
    (l ++ [k]).eraseDups = l.eraseDups ++ [k] := by
  rw [List.eraseDups_append]
  simp [List.removeAll, h, List.eraseDups_cons]

theorem nodup_eraseDups (l : List κ) : l.eraseDups.Nodup := by
  induction l using List.reverseRecOn with
  | nil => exact List.nodup_nil
  | append_singleton l k ih =>
    by_cases h : k ∈ l
    · rwa [eraseDups_concat_of_mem h]
    · rw [eraseDups_concat_of_not_mem h]
      have hk : k ∉ l.eraseDups := fun hmem => h (List.mem_eraseDups.mp hmem)
      exact (List.perm_append_singleton k _).nodup_iff.mpr (List.nodup_cons.mpr ⟨hk, ih⟩)

theorem lastWith_concat_self (l : List α) (a : α) : lastWith key (key a) (l ++ [a]) = some a := by
  rw [lastWith_append]
  simp [lastWith]

theorem lastWith_concat_of_ne (l : List α) (h : key a ≠ k) :
    lastWith key k (l ++ [a]) = lastWith key k l := by
  rw [lastWith_append]
  simp [lastWith, h]

theorem lastWith_eq_none : lastWith key k all = none ↔ k ∉ all.map key := by
  simp [lastWith]

namespace KeepsLatest

theorem nodup (h : KeepsLatest key all held) : (held.map key).Nodup := by
  rw [h.keys]
  exact nodup_eraseDups _

/-- What is held under a key is the last member that has it. -/
theorem find?_eq (h : KeepsLatest key all held) (k : κ) :
    held.find? (fun a => key a == k) = lastWith key k all := by
  cases hfind : held.find? (fun a => key a == k) with
  | some a =>
    obtain rfl : key a = k := by simpa using List.find?_some hfind
    exact (h.last a (List.mem_of_find?_eq_some hfind)).symm
  | none =>
    refine (lastWith_eq_none.mpr fun hmem => ?_).symm
    rw [← List.mem_eraseDups, ← h.keys] at hmem
    obtain ⟨a, ha, hkey⟩ := List.mem_map.mp hmem
    exact List.find?_eq_none.mp hfind a ha (beq_iff_eq.mpr hkey)

theorem eq_nil_iff (h : KeepsLatest key all held) : held = [] ↔ all = [] := by
  have hkey : ∀ k, k ∈ held.map key ↔ k ∈ all.map key := by
    intro k
    rw [h.keys, List.mem_eraseDups]
  rw [← List.map_eq_nil_iff (f := key), ← List.map_eq_nil_iff (f := key) (l := all),
    List.eq_nil_iff_forall_not_mem, List.eq_nil_iff_forall_not_mem]
  exact forall_congr' fun k => not_congr (hkey k)

/-- When all members come once more, the same ones are held. -/
theorem append_self (h : KeepsLatest key all held) : KeepsLatest key (all ++ all) held := by
  constructor
  · have hnone : (all.map key).removeAll (all.map key) = [] := by simp [List.removeAll]
    rw [List.map_append, List.eraseDups_append, hnone, h.keys]
    simp
  · intro a ha
    rw [lastWith_append, h.last a ha]
    rfl

end KeepsLatest

end Lists

/-! ## 2. One definition -/

namespace Library

variable {exercise : String} {d : Definition} {all held : List Definition}

/-- Defining an id anew keeps the order of the ids. -/
theorem ids_define (h : d.id ∈ held.map Definition.id) :
    (define exercise d held).1.map Definition.id = held.map Definition.id := by
  induction held with
  | nil => exact nomatch h
  | cons old held ih =>
    rw [define_cons]
    by_cases heq : old.id = d.id
    · rw [if_pos heq, List.map_cons, List.map_cons, heq]
    · rw [if_neg heq]
      have hlater : d.id ∈ held.map Definition.id :=
        (List.mem_cons.mp h).resolve_left fun hid => heq hid.symm
      exact congrArg (_ :: ·) (ih hlater)

/-- Defining an id anew replaces its definition and keeps the others. -/
theorem mem_define (hnodup : (held.map Definition.id).Nodup) {x : Definition}
    (h : x ∈ (define exercise d held).1) : x = d ∨ x ∈ held ∧ x.id ≠ d.id := by
  induction held with
  | nil => exact .inl (List.mem_singleton.mp h)
  | cons old held ih =>
    obtain ⟨hold, hheld⟩ := List.nodup_cons.mp hnodup
    rw [define_cons] at h
    by_cases heq : old.id = d.id
    · rw [if_pos heq] at h
      rcases List.mem_cons.mp h with rfl | h
      · exact .inl rfl
      · -- The identifier comes once, so it is not among those behind.
        refine .inr ⟨List.mem_cons_of_mem _ h, fun hid => hold ?_⟩
        exact List.mem_map.mpr ⟨x, h, hid.trans heq.symm⟩
    · rw [if_neg heq] at h
      rcases List.mem_cons.mp h with rfl | h
      · exact .inr ⟨List.mem_cons_self, heq⟩
      · rcases ih hheld h with rfl | ⟨hmem, hid⟩
        · exact .inl rfl
        · exact .inr ⟨List.mem_cons_of_mem _ hmem, hid⟩

/-- A definition more keeps the last ones. -/
theorem keepsLatest_define (h : KeepsLatest Definition.id all held) :
    KeepsLatest Definition.id (all ++ [d]) (define exercise d held).1 := by
  constructor
  · rw [List.map_append, List.map_singleton]
    by_cases hmem : d.id ∈ held.map Definition.id
    · rw [ids_define hmem, h.keys, eraseDups_concat_of_mem]
      rwa [h.keys, List.mem_eraseDups] at hmem
    · rw [define_of_new exercise hmem, List.map_append, h.keys, eraseDups_concat_of_not_mem]
      · rfl
      · rwa [h.keys, List.mem_eraseDups] at hmem
  · intro x hx
    rcases mem_define h.nodup hx with rfl | ⟨hmem, hid⟩
    · exact lastWith_concat_self all x
    · rw [lastWith_concat_of_ne all hid.symm]
      exact h.last x hmem

/-- The notice of a definition tells of the one that it takes the place of. -/
theorem notices_define (exercise : String) (d : Definition) (held : List Definition) :
    (define exercise d held).2 =
      ((held.find? fun old => old.id == d.id).map fun old =>
        overrideNotice exercise d.id d.source old.source).toList := by
  induction held with
  | nil => rfl
  | cons old held ih =>
    rw [define_cons]
    by_cases heq : old.id = d.id
    · have hfound : (old.id == d.id) = true := beq_iff_eq.mpr heq
      rw [if_pos heq, List.find?_cons, hfound]
      rfl
    · have hother : (old.id == d.id) = false := beq_eq_false_iff_ne.mpr heq
      rw [if_neg heq, List.find?_cons, hother]
      exact ih

end Library

/-! ## 3. Registrations -/

structure Addition where
  exercise : String
  rules : List Rule
  source : Option String := none

structure Registration where
  exercise : String
  definition : Definition

def Registration.key (g : Registration) : String × String := (g.exercise, g.definition.id)

def Addition.registrations (a : Addition) : List Registration :=
  a.rules.map fun r => ⟨a.exercise, ⟨r, a.source⟩⟩

def definitionsFor (exercise : String) (gs : List Registration) : List Definition :=
  (gs.filter (·.exercise = exercise)).map (·.definition)

def rulesFor (exercise : String) (as : List Addition) : List Rule :=
  (as.filter (·.exercise = exercise)).flatMap (·.rules)

/-- The registrations that take the place of others, each behind the one that it overrides, which is the
last with its key; `before` are those already made. -/
def overrides (before : List Registration) : List Registration → List (Registration × Registration)
  | [] => []
  | g :: gs =>
    ((lastWith Registration.key g.key before).map (·, g)).toList ++ overrides (before ++ [g]) gs

/-- A warning that a registration takes the place of another, with the sources of both. -/
structure Notice.TellsOf (n : Notice) (p : Registration × Registration) : Prop where
  level : n.level = .warning
  text : n.text = "Duplicate rule '" ++ p.2.definition.id ++ "' for exercise '" ++ p.2.exercise ++
    "': " ++ p.2.definition.source.getD "code" ++ " overrides previous definition from " ++
    p.1.definition.source.getD "code"

theorem definitionsFor_append (exercise : String) (gs gs' : List Registration) :
    definitionsFor exercise (gs ++ gs') =
      definitionsFor exercise gs ++ definitionsFor exercise gs' := by
  unfold definitionsFor
  rw [List.filter_append, List.map_append]

theorem definitionsFor_registrations (exercise : String) (a : Addition) :
    definitionsFor exercise a.registrations =
      if a.exercise = exercise then a.rules.map fun r => ⟨r, a.source⟩ else [] := by
  unfold definitionsFor Addition.registrations
  by_cases he : a.exercise = exercise
  · simp [he, List.filter_map, Function.comp_def]
  · simp [he]

theorem overrides_append (before gs gs' : List Registration) :
    overrides before (gs ++ gs') = overrides before gs ++ overrides (before ++ gs) gs' := by
  induction gs generalizing before with
  | nil => simp [overrides]
  | cons g gs ih => simp [overrides, ih]

/-- The last definition of an identifier for an exercise is that of the last registration. -/
theorem lastWith_definitionsFor (g : Registration) (gs : List Registration) :
    lastWith Definition.id g.definition.id (definitionsFor g.exercise gs) =
      (lastWith Registration.key g.key gs).map (·.definition) := by
  unfold lastWith definitionsFor
  rw [← List.map_reverse, ← List.filter_reverse, List.find?_map, List.find?_filter]
  congr 2
  funext g'
  rw [Bool.eq_iff_iff]
  simp [Registration.key]

/-- A registration overrides another one unless its key is new. -/
theorem length_overrides (before gs : List Registration) :
    (overrides before gs).length + ((before ++ gs).map Registration.key).eraseDups.length =
      gs.length + (before.map Registration.key).eraseDups.length := by
  induction gs generalizing before with
  | nil => simp [overrides]
  | cons g gs ih =>
    have hkeys : (before ++ [g]).map Registration.key = before.map Registration.key ++ [g.key] :=
      List.map_append
    have hrest := ih (before ++ [g])
    rw [List.append_assoc, List.singleton_append, hkeys] at hrest
    rw [overrides, List.length_append, List.length_cons]
    by_cases hmem : g.key ∈ before.map Registration.key
    · rw [eraseDups_concat_of_mem hmem] at hrest
      obtain ⟨old, hold⟩ : ∃ old, lastWith Registration.key g.key before = some old := by
        apply Option.ne_none_iff_exists'.mp
        rwa [Ne, lastWith_eq_none, not_not]
      rw [hold]
      simp only [Option.map_some, Option.toList_some, List.length_singleton]
      omega
    · rw [eraseDups_concat_of_not_mem hmem, List.length_append, List.length_singleton] at hrest
      rw [lastWith_eq_none.mpr hmem]
      simp only [Option.map_none, Option.toList_none, List.length_nil]
      omega

/-! ## 4. Additions -/

namespace Library

def Keeps (l : Library) (gs : List Registration) : Prop :=
  ∀ exercise, KeepsLatest Definition.id (definitionsFor exercise gs) (l.definitions exercise)

def addAll (l : Library) : List Addition → Library × List Notice
  | [] => (l, [])
  | a :: as =>
    let (l, notices) := l.add a.exercise a.rules a.source
    let (l, more) := l.addAll as
    (l, notices ++ more)

theorem keeps_nil : Keeps {} [] := fun _ => .nil

theorem tellsOf_define {g : Registration} {before : List Registration} {held : List Definition}
    (h : KeepsLatest Definition.id (definitionsFor g.exercise before) held) :
    List.Forall₂ Notice.TellsOf (define g.exercise g.definition held).2
      ((lastWith Registration.key g.key before).map (·, g)).toList := by
  rw [notices_define, h.find?_eq, lastWith_definitionsFor]
  cases lastWith Registration.key g.key before with
  | none => exact .nil
  | some old => exact .cons ⟨rfl, rfl⟩ .nil

/-- The rules of an addition are registered one by one. -/
theorem keepsLatest_defineAll (exercise : String) (source : Option String) (rules : List Rule)
    {before : List Registration} {held : List Definition}
    (h : KeepsLatest Definition.id (definitionsFor exercise before) held) :
    KeepsLatest Definition.id
        (definitionsFor exercise (before ++ Addition.registrations ⟨exercise, rules, source⟩))
        (defineAll exercise source rules held).1 ∧
      List.Forall₂ Notice.TellsOf (defineAll exercise source rules held).2
        (overrides before (Addition.registrations ⟨exercise, rules, source⟩)) := by
  induction rules generalizing before held with
  | nil =>
    constructor
    · rwa [Addition.registrations, List.map_nil, List.append_nil]
    · exact .nil
  | cons r rules ih =>
    let g : Registration := ⟨exercise, ⟨r, source⟩⟩
    have hone : definitionsFor exercise [g] = [g.definition] := by simp [definitionsFor, g]
    have hstep : KeepsLatest Definition.id (definitionsFor exercise (before ++ [g]))
        (define exercise g.definition held).1 := by
      rw [definitionsFor_append, hone]
      exact keepsLatest_define h
    obtain ⟨hkeeps, htells⟩ := ih hstep
    rw [List.append_assoc] at hkeeps
    exact ⟨hkeeps, List.rel_append (tellsOf_define (g := g) h) htells⟩

/-- An addition keeps the latest definition of every id and tells of exactly those it overrides. -/
theorem keeps_add {l : Library} {gs : List Registration} (h : l.Keeps gs) (a : Addition) :
    (l.add a.exercise a.rules a.source).1.Keeps (gs ++ a.registrations) ∧
      List.Forall₂ Notice.TellsOf (l.add a.exercise a.rules a.source).2
        (overrides gs a.registrations) := by
  have hids : ((l.rules a.exercise).map Rule.id).Nodup := by
    rw [← ids_definitions]
    exact (h a.exercise).nodup
  obtain ⟨hdefinitions, hnotices⟩ := l.add_eq hids a.rules a.source
  obtain ⟨hkeeps, htells⟩ := keepsLatest_defineAll a.exercise a.source a.rules (h a.exercise)
  constructor
  · intro e
    by_cases he : e = a.exercise
    · rw [he, hdefinitions]
      exact hkeeps
    · rw [definitions_add_of_ne l he, definitionsFor_append, definitionsFor_registrations,
        if_neg (Ne.symm he), List.append_nil]
      exact h e
  · rw [hnotices]
    exact htells

/-- A sequence of additions keeps the latest definition of every id and tells of every override. -/
theorem keeps_addAll {l : Library} {gs : List Registration} (h : l.Keeps gs) (as : List Addition) :
    (l.addAll as).1.Keeps (gs ++ as.flatMap Addition.registrations) ∧
      List.Forall₂ Notice.TellsOf (l.addAll as).2
        (overrides gs (as.flatMap Addition.registrations)) := by
  induction as generalizing l gs with
  | nil => exact ⟨by rwa [List.flatMap_nil, List.append_nil], .nil⟩
  | cons a as ih =>
    obtain ⟨hstep, htells⟩ := keeps_add h a
    obtain ⟨hkeeps, hmore⟩ := ih hstep
    rw [List.flatMap_cons, ← List.append_assoc, overrides_append]
    exact ⟨hkeeps, List.rel_append htells hmore⟩

end Library

theorem rules_definitionsFor (exercise : String) (as : List Addition) :
    (definitionsFor exercise (as.flatMap Addition.registrations)).map (·.rule) =
      rulesFor exercise as := by
  induction as with
  | nil => rfl
  | cons a as ih =>
    rw [List.flatMap_cons, definitionsFor_append, List.map_append, ih, definitionsFor_registrations]
    unfold rulesFor
    by_cases he : a.exercise = exercise
    · simp [he, Function.comp_def]
    · simp [he]

/-! ## 5. Libraries -/

/-- However rules are added to an empty library, it holds for each exercise every identifier once, in
the order of first registration, with the last rule registered under it. Each registration under a key
that was there is told of with the source of the definition that it replaces, so that there is one such
warning for each registration but the first of its key. An addition leaves the other exercises as they
are, and to make all additions once more changes nothing. -/
theorem latest_rules_held (as : List Addition) :
    (∀ exercise, KeepsLatest Rule.id (rulesFor exercise as) ((Library.addAll {} as).1.rules exercise)) ∧
      List.Forall₂ Notice.TellsOf (Library.addAll {} as).2
        (overrides [] (as.flatMap Addition.registrations)) ∧
      (Library.addAll {} as).2.length +
          ((as.flatMap Addition.registrations).map Registration.key).eraseDups.length =
        (as.flatMap Addition.registrations).length ∧
      (∀ (l : Library) (a : Addition) (e : String), e ≠ a.exercise →
        (l.add a.exercise a.rules a.source).1.rules e = l.rules e) ∧
      ∀ exercise, ((Library.addAll {} as).1.addAll as).1.rules exercise =
        (Library.addAll {} as).1.rules exercise := by
  obtain ⟨hkeeps, htells⟩ := Library.keeps_addAll Library.keeps_nil as
  rw [List.nil_append] at hkeeps
  refine ⟨fun exercise => ?_, htells, ?_, fun l a e he => l.rules_add_of_ne he _ _,
    fun exercise => ?_⟩
  · rw [← rules_definitionsFor, ← Library.rules_definitions]
    exact KeepsLatest.map (f := Definition.rule) (hkeeps exercise)
  · rw [htells.length_eq]
    exact length_overrides [] _
  · -- Both hold the last of all definitions, each of which now comes twice.
    have hagain := (Library.keeps_addAll hkeeps as).1 exercise
    rw [definitionsFor_append] at hagain
    rw [← Library.rules_definitions, ← Library.rules_definitions,
      hagain.unique (hkeeps exercise).append_self]

/-- Identifiers that come again in one addition and in a later one. -/
theorem latest_rules_held_repeated :
    let rule := fun id target => ({ id, appliesTo := target } : Rule)
    let as : List Addition := [⟨"e", [rule "a" "f", rule "b" "f", rule "a" "g"], none⟩,
      ⟨"d", [rule "a" "f"], some "d.yaml"⟩, ⟨"e", [rule "b" "h", rule "c" "f"], some "e.yaml"⟩]
    let l := (Library.addAll {} as).1
    (l.rules "e").map Rule.id = ["a", "b", "c"] ∧ (Library.addAll {} as).2.length = 2 ∧
      "d" ≠ "e" ∧ (l.add "e" [rule "a" "k"]).1.rules "d" = l.rules "d" := by
  intro rule as l
  obtain ⟨hkeeps, -, hlength, hothers, -⟩ := latest_rules_held as
  refine ⟨?_, ?_, by decide, hothers l ⟨"e", [rule "a" "k"], none⟩ "d" (by decide)⟩
  · rw [(hkeeps "e").keys]
    rfl
  · have hregistered : (as.flatMap Addition.registrations).length = 6 := rfl
    have hdistinct : ((as.flatMap Addition.registrations).map Registration.key).eraseDups.length = 4 :=
      by decide
    omega

end Grading
