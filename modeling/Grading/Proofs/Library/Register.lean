import Mathlib.Data.List.Induction
import Mathlib.Data.List.Nodup
import Grading.Rule.Library

/-!
# Register — adding rules by their places

While rules are added, an index tells where the rules of the exercise stand and a table which file
defined each of them. What comes of it is what comes of a list of definitions in which a new one takes
the place of the one with its identifier, or the last place.
-/

namespace Grading

structure Definition where
  rule : Rule
  /-- The file that the rule is from; nothing for a rule of a program. -/
  source : Option String := none
  deriving Inhabited

def Definition.id (d : Definition) : String := d.rule.id

/-! ## 1. Definitions -/

namespace Library

-- The first definition with the identifier gives way; behind it nothing is looked at.
def define (exercise : String) (d : Definition) : List Definition → List Definition × List Notice
  | [] => ([d], [])
  | old :: held =>
    if old.id = d.id then (d :: held, [overrideNotice exercise d.id d.source old.source])
    else
      let (held, notices) := define exercise d held
      (old :: held, notices)

def defineAll (exercise : String) (source : Option String) :
    List Rule → List Definition → List Definition × List Notice
  | [], held => (held, [])
  | r :: rs, held =>
    let (held, notices) := define exercise ⟨r, source⟩ held
    let (held, more) := defineAll exercise source rs held
    (held, notices ++ more)

variable {exercise : String} {d old : Definition} {held before after : List Definition}

theorem define_cons (exercise : String) (d old : Definition) (held : List Definition) :
    define exercise d (old :: held) =
      if old.id = d.id then (d :: held, [overrideNotice exercise d.id d.source old.source])
      else (old :: (define exercise d held).1, (define exercise d held).2) :=
  rfl

theorem define_of_new (exercise : String) (h : d.id ∉ held.map Definition.id) :
    define exercise d held = (held ++ [d], []) := by
  induction held with
  | nil => rfl
  | cons old held ih =>
    rw [List.map_cons, List.mem_cons, not_or] at h
    rw [define_cons, if_neg (Ne.symm h.1), ih h.2]
    rfl

theorem define_append (exercise : String) (h : d.id ∉ before.map Definition.id) (hold : old.id = d.id) :
    define exercise d (before ++ old :: after) =
      (before ++ d :: after, [overrideNotice exercise d.id d.source old.source]) := by
  induction before with
  | nil => rw [List.nil_append, define_cons, if_pos hold, List.nil_append]
  | cons b before ih =>
    rw [List.map_cons, List.mem_cons, not_or] at h
    rw [List.cons_append, define_cons, if_neg (Ne.symm h.1), ih h.2]
    rfl

end Library

/-! ## 2. Places -/

def sourceIn (sources : Table (String × String) (Option String)) (exercise id : String) : Option String :=
  (sources.lookup (exercise, id)).join

def definitionsIn (sources : Table (String × String) (Option String)) (exercise : String)
    (rules : List Rule) : List Definition :=
  rules.map fun r => ⟨r, sourceIn sources exercise r.id⟩

theorem ids_definitionsIn (sources : Table (String × String) (Option String)) (exercise : String)
    (rules : List Rule) :
    (definitionsIn sources exercise rules).map Definition.id = rules.map Rule.id := by
  rw [definitionsIn, List.map_map]
  rfl

theorem definitionsIn_append (sources : Table (String × String) (Option String)) (exercise : String)
    (rules rules' : List Rule) : definitionsIn sources exercise (rules ++ rules') =
      definitionsIn sources exercise rules ++ definitionsIn sources exercise rules' :=
  List.map_append

theorem sourceIn_put (sources : Table (String × String) (Option String)) (exercise id : String)
    (source : Option String) (e i : String) :
    sourceIn (sources.put (exercise, id) source) e i =
      if e = exercise ∧ i = id then source else sourceIn sources e i := by
  unfold sourceIn
  rw [Table.lookup_put]
  by_cases h : e = exercise ∧ i = id
  · obtain ⟨rfl, rfl⟩ := h
    simp
  · rw [if_neg h, if_neg (by simpa using h)]

theorem definitionsIn_cons (sources : Table (String × String) (Option String)) (exercise : String)
    (r : Rule) (rules : List Rule) : definitionsIn sources exercise (r :: rules) =
      ⟨r, sourceIn sources exercise r.id⟩ :: definitionsIn sources exercise rules :=
  rfl

/-- Rules of other identifiers keep their sources. -/
theorem definitionsIn_put {sources : Table (String × String) (Option String)} {exercise id : String}
    {rules : List Rule} (h : id ∉ rules.map Rule.id) (source : Option String) :
    definitionsIn (sources.put (exercise, id) source) exercise rules =
      definitionsIn sources exercise rules := by
  refine List.map_congr_left fun r hr => ?_
  have hne : ¬(exercise = exercise ∧ r.id = id) := fun heq => h (List.mem_map.mpr ⟨r, hr, heq.2⟩)
  rw [sourceIn_put, if_neg hne]

theorem definitionsIn_put_cons {sources : Table (String × String) (Option String)}
    {exercise : String} {r : Rule} {rules : List Rule} (h : r.id ∉ rules.map Rule.id)
    (source : Option String) :
    definitionsIn (sources.put (exercise, r.id) source) exercise (r :: rules) =
      ⟨r, source⟩ :: definitionsIn sources exercise rules := by
  rw [definitionsIn_cons, definitionsIn_put h, sourceIn_put, if_pos ⟨rfl, rfl⟩]

namespace Library.Registering

/-- Each identifier is held once, and the index has the place of each. -/
structure Indexed (g : Registering) : Prop where
  nodup : (g.rules.map Rule.id).Nodup
  places : ∀ id, g.positions.lookup id = (g.rules.map Rule.id).idxOf? id

def definitions (g : Registering) (exercise : String) : List Definition :=
  definitionsIn g.sources exercise g.rules

theorem idxOf?_concat {ids : List String} {new : String} (h : new ∉ ids) (id : String) :
    (ids ++ [new]).idxOf? id = if id = new then some ids.length else ids.idxOf? id := by
  show (ids ++ [new]).findIdx? (· == id) = _
  rw [List.findIdx?_append]
  by_cases hid : id = new
  · subst hid
    have hnone : ids.findIdx? (· == id) = none := List.idxOf?_eq_none_iff.mpr h
    simp [hnone]
  · have hlast : [new].findIdx? (· == id) = none := by simp [Ne.symm hid]
    rw [hlast, if_neg hid, Option.map_none, Option.or_none]
    rfl

/-- A rule stands where the index says. -/
theorem split_at_place {rules : List Rule} (hnodup : (rules.map Rule.id).Nodup) {id : String} {i : Nat}
    (h : (rules.map Rule.id).idxOf? id = some i) : ∃ before old after,
      rules = before ++ old :: after ∧ before.length = i ∧ old.id = id ∧
        id ∉ before.map Rule.id ∧ id ∉ after.map Rule.id := by
  obtain ⟨hi, hid, -⟩ := List.idxOf?_eq_some_iff.mp h
  rw [List.length_map] at hi
  rw [List.getElem_map] at hid
  have hsplit : rules = rules.take i ++ rules[i] :: rules.drop (i + 1) := by
    rw [List.getElem_cons_drop, List.take_append_drop]
  refine ⟨_, _, _, hsplit, List.length_take_of_le (Nat.le_of_lt hi), hid, ?_⟩
  rw [hsplit, List.map_append, List.map_cons, hid, List.nodup_middle] at hnodup
  simpa using (List.nodup_cons.mp hnodup).1

/-- A new rule at the end extends the index by its own place. -/
theorem indexed_concat {rules : List Rule} {positions : Table String Nat}
    {sources : Table (String × String) (Option String)} (h : Indexed ⟨rules, positions, sources⟩)
    {r : Rule} (hnew : r.id ∉ rules.map Rule.id)
    (sources' : Table (String × String) (Option String)) :
    Indexed ⟨rules ++ [r], positions.put r.id rules.length, sources'⟩ := by
  have hids : (rules ++ [r]).map Rule.id = rules.map Rule.id ++ [r.id] := by simp
  constructor
  · show ((rules ++ [r]).map Rule.id).Nodup
    rw [hids, List.nodup_append_comm]
    exact List.nodup_cons.mpr ⟨hnew, h.nodup⟩
  · intro id
    show (positions.put r.id rules.length).lookup id = ((rules ++ [r]).map Rule.id).idxOf? id
    have hplace : positions.lookup id = (rules.map Rule.id).idxOf? id := h.places id
    rw [Table.lookup_put, hids, idxOf?_concat hnew, List.length_map, hplace]
    simp

/-- The index made of rules with distinct ids points at each of them. -/
theorem indexed_positionsOf {rules : List Rule} (h : (rules.map Rule.id).Nodup)
    (sources : Table (String × String) (Option String)) :
    Indexed ⟨rules, positionsOf rules, sources⟩ := by
  induction rules using List.reverseRecOn with
  | nil => exact ⟨h, fun _ => rfl⟩
  | append_singleton rules r ih =>
    have hput : positionsOf (rules ++ [r]) = (positionsOf rules).put r.id rules.length := by
      rw [positionsOf, List.zipIdx_append, List.foldl_append, ← positionsOf]
      simp
    rw [hput]
    rw [List.map_append, List.map_singleton, List.nodup_append_comm] at h
    obtain ⟨hnew, hrules⟩ := List.nodup_cons.mp h
    exact indexed_concat (ih hrules) hnew sources

/-! ## 3. Registering -/

section

variable {g : Registering} {exercise : String} {source : Option String} {r : Rule}

/-- To register a rule is to define it, and the index stays right. -/
theorem register_eq (h : g.Indexed) (exercise : String) (source : Option String) (r : Rule) :
    (g.register exercise source r).1.Indexed ∧
      ((g.register exercise source r).1.definitions exercise, (g.register exercise source r).2) =
        define exercise ⟨r, source⟩ (g.definitions exercise) := by
  obtain ⟨rules, positions, sources⟩ := g
  have hplace : positions.lookup r.id = (rules.map Rule.id).idxOf? r.id := h.places r.id
  -- The index says whether the rule replaces one or goes to the end.
  unfold register definitions
  cases hi : (rules.map Rule.id).idxOf? r.id with
  | some i =>
    obtain ⟨before, old, after, rfl, rfl, hold, hbefore, hafter⟩ := split_at_place h.nodup hi
    simp only [hplace.trans hi]
    rw [List.set_append_right _ _ Nat.le.refl, Nat.sub_self, List.set_cons_zero]
    have hids : (before ++ r :: after).map Rule.id = (before ++ old :: after).map Rule.id := by
      simp [hold]
    refine ⟨⟨?_, ?_⟩, ?_⟩
    · show ((before ++ r :: after).map Rule.id).Nodup
      rw [hids]
      exact h.nodup
    · intro id
      show positions.lookup id = ((before ++ r :: after).map Rule.id).idxOf? id
      rw [hids]
      exact h.places id
    · have hnot : Definition.id ⟨r, source⟩ ∉ (definitionsIn sources exercise before).map
          Definition.id := by rwa [ids_definitionsIn]
      rw [definitionsIn_append, definitionsIn_append, definitionsIn_put hbefore,
        definitionsIn_put_cons hafter, definitionsIn_cons, hold]
      have hsame : Definition.id ⟨old, sourceIn sources exercise r.id⟩ =
          Definition.id ⟨r, source⟩ := hold
      rw [define_append exercise hnot hsame]
      rfl
  | none =>
    have hnew := List.idxOf?_eq_none_iff.mp hi
    simp only [hplace.trans hi]
    refine ⟨indexed_concat h hnew _, ?_⟩
    have hnot : Definition.id ⟨r, source⟩ ∉ (definitionsIn sources exercise rules).map
        Definition.id := by rwa [ids_definitionsIn]
    rw [definitionsIn_append, definitionsIn_put hnew, definitionsIn_put_cons List.not_mem_nil,
      define_of_new exercise hnot]
    rfl

/-- Registering rules through the index and the table of sources is defining them one after the
other. -/
theorem registerAll_eq (h : g.Indexed) (exercise : String) (source : Option String)
    (rules : List Rule) :
    ((g.registerAll exercise source rules).1.definitions exercise,
        (g.registerAll exercise source rules).2) =
      defineAll exercise source rules (g.definitions exercise) := by
  induction rules generalizing g with
  | nil => rfl
  | cons r rules ih =>
    obtain ⟨hindexed, hone⟩ := register_eq h exercise source r
    have hrest := ih hindexed
    rw [defineAll, ← hone]
    dsimp only
    rw [← hrest]
    rfl

/-- Registering rules of one exercise leaves the sources of the others alone. -/
theorem sourceIn_registerAll (g : Registering) (exercise : String) (source : Option String)
    (rules : List Rule) {e : String} (he : e ≠ exercise) (id : String) :
    sourceIn (g.registerAll exercise source rules).1.sources e id = sourceIn g.sources e id := by
  induction rules generalizing g with
  | nil => rfl
  | cons r rules ih =>
    have hone : (g.register exercise source r).1.sources = g.sources.put (exercise, r.id) source := by
      unfold register
      dsimp only
      split <;> rfl
    rw [show (g.registerAll exercise source (r :: rules)).1 =
        ((g.register exercise source r).1.registerAll exercise source rules).1 from rfl,
      ih, hone, sourceIn_put, if_neg fun h => he h.1]

end

end Library.Registering

/-! ## 4. Libraries -/

namespace Library

def definitions (l : Library) (exercise : String) : List Definition :=
  definitionsIn l.sources exercise (l.rules exercise)

theorem ids_definitions (l : Library) (exercise : String) :
    (l.definitions exercise).map Definition.id = (l.rules exercise).map Rule.id :=
  ids_definitionsIn _ _ _

theorem rules_definitions (l : Library) (exercise : String) :
    (l.definitions exercise).map Definition.rule = l.rules exercise := by
  rw [definitions, definitionsIn, List.map_map]
  exact List.map_id _

theorem rules_add_self (l : Library) (exercise : String) (rules : List Rule) (source : Option String) :
    (l.add exercise rules source).1.rules exercise =
      (Registering.registerAll exercise source
        ⟨l.rules exercise, positionsOf (l.rules exercise), l.sources⟩ rules).1.rules := by
  show ((Table.put exercise _ l.exercises).lookup exercise).getD [] = _
  rw [Table.lookup_put, if_pos (beq_self_eq_true exercise)]
  rfl

/-- Other exercises keep their rules. -/
theorem rules_add_of_ne (l : Library) {exercise e : String} (h : e ≠ exercise) (rules : List Rule)
    (source : Option String) : (l.add exercise rules source).1.rules e = l.rules e := by
  show ((Table.put exercise _ l.exercises).lookup e).getD [] = _
  rw [Table.lookup_put, if_neg (by simpa using h)]
  rfl

/-- An addition to an exercise that holds each identifier once defines its rules in turn. -/
theorem add_eq (l : Library) {exercise : String} (h : ((l.rules exercise).map Rule.id).Nodup)
    (rules : List Rule) (source : Option String) :
    (l.add exercise rules source).1.definitions exercise =
        (defineAll exercise source rules (l.definitions exercise)).1 ∧
      (l.add exercise rules source).2 =
        (defineAll exercise source rules (l.definitions exercise)).2 := by
  have hindexed := Registering.indexed_positionsOf h l.sources
  have hregistered := Registering.registerAll_eq hindexed exercise source rules
  rw [definitions, rules_add_self]
  exact ⟨congrArg Prod.fst hregistered, congrArg Prod.snd hregistered⟩

theorem definitions_add_of_ne (l : Library) {exercise e : String} (h : e ≠ exercise)
    (rules : List Rule) (source : Option String) :
    (l.add exercise rules source).1.definitions e = l.definitions e := by
  unfold definitions
  rw [rules_add_of_ne l h]
  refine List.map_congr_left fun r _ => ?_
  exact congrArg (Definition.mk r) (Registering.sourceIn_registerAll _ exercise source rules h r.id)

end Library

end Grading
