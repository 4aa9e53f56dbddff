import Grading.Rule.Evaluate

/-!
# Occurrence — how often a text occurs in another

Occurrences are counted from the left, each of them behind the one before it. No other choice of
occurrences that keep apart holds more of them, so the count says how many there are room for.
-/

namespace Grading

variable {needle text : List Char} {indices : List Nat}

/-- Indices at which `needle` occurs in `text`, each of them behind the occurrence before it. -/
structure OccursAt (needle text : List Char) (indices : List Nat) : Prop where
  found : ∀ i ∈ indices, i ≤ text.length ∧ needle <+: text.drop i
  apart : indices.Pairwise fun i j => i < j ∧ i + needle.length ≤ j

namespace OccursAt

theorem sublist {some : List Nat} (h : OccursAt needle text indices) (hsub : some.Sublist indices) :
    OccursAt needle text some :=
  ⟨fun i hi => h.found i (hsub.subset hi), h.apart.sublist hsub⟩

/-- With one more character in front every occurrence stands one further. -/
theorem cons (h : OccursAt needle text indices) (c : Char) :
    OccursAt needle (c :: text) (indices.map (· + 1)) := by
  constructor
  · intro j hj
    obtain ⟨i, hi, rfl⟩ := List.mem_map.mp hj
    obtain ⟨hle, hocc⟩ := h.found i hi
    exact ⟨Nat.succ_le_succ hle, hocc⟩
  · apply List.Pairwise.map _ _ h.apart
    intro i j hij
    omega

/-- Occurrences that leave out the first character are occurrences in the rest. -/
theorem of_cons {c : Char} (h : OccursAt needle (c :: text) indices)
    (hpos : ∀ i ∈ indices, 0 < i) : OccursAt needle text (indices.map (· - 1)) := by
  constructor
  · intro j hj
    obtain ⟨i, hi, rfl⟩ := List.mem_map.mp hj
    obtain ⟨k, rfl⟩ := Nat.exists_eq_succ_of_ne_zero (Nat.ne_of_gt (hpos i hi))
    obtain ⟨hle, hocc⟩ := h.found _ hi
    exact ⟨Nat.le_of_succ_le_succ hle, hocc⟩
  · apply List.pairwise_map.mpr
    apply h.apart.imp_of_mem
    intro i j hi hj hij
    have hi' := hpos i hi
    have hj' := hpos j hj
    omega

end OccursAt

/-! ## 1. No choice of occurrences is longer -/

def spare (needle : List Char) : Nat := if needle.isEmpty then 1 else 0

theorem length_le_spare (h : OccursAt needle [] indices) : indices.length ≤ spare needle := by
  match indices with
  | [] => exact Nat.zero_le _
  | i :: rest =>
    obtain ⟨hi, hocc⟩ := h.found i List.mem_cons_self
    rw [List.drop_nil] at hocc
    obtain rfl : needle = [] := List.prefix_nil.mp hocc
    have hrest : rest = [] := by
      apply List.eq_nil_iff_forall_not_mem.mpr
      intro j hj
      have hlt := (List.rel_of_pairwise_cons h.apart hj).1
      have hle := (h.found j (List.mem_cons_of_mem _ hj)).1
      rw [List.length_nil] at hle
      omega
    rw [hrest]
    exact Nat.le_refl _

/-- No choice of disjoint occurrences is larger than the greedy one. -/
theorem length_le_occurrencesFrom (skip : Nat) (h : OccursAt needle text indices)
    (hskip : ∀ i ∈ indices, skip ≤ i) :
    indices.length ≤ occurrencesFrom needle skip text + spare needle := by
  -- On the characters that are left; the first `skip` of them belong to the last occurrence.
  induction text generalizing skip indices with
  | nil =>
    have := length_le_spare h
    omega
  | cons c r ih =>
    cases skip with
    | succ k =>
      have hpos : ∀ i ∈ indices, 0 < i := fun i hi => Nat.lt_of_lt_of_le (Nat.succ_pos k) (hskip i hi)
      have hlater : ∀ j ∈ indices.map (· - 1), k ≤ j := by
        intro j hj
        obtain ⟨i, hi, rfl⟩ := List.mem_map.mp hj
        have := hskip i hi
        omega
      have hle := ih k (h.of_cons hpos) hlater
      rwa [List.length_map] at hle
    | zero =>
      by_cases hocc : needle.isPrefixOf (c :: r) = true
      · rw [occurrencesFrom, if_pos hocc]
        match indices with
        | [] => exact Nat.zero_le _
        | i :: rest =>
          -- Whichever occurrence comes first, all later ones stand behind the one that is counted.
          have hbehind : ∀ j ∈ rest, i < j ∧ i + needle.length ≤ j :=
            fun j hj => List.rel_of_pairwise_cons h.apart hj
          have hpos : ∀ j ∈ rest, 0 < j := fun j hj => by
            have := hbehind j hj
            omega
          have hlater : ∀ k ∈ rest.map (· - 1), needle.length - 1 ≤ k := by
            intro k hk
            obtain ⟨j, hj, rfl⟩ := List.mem_map.mp hk
            have := hbehind j hj
            omega
          have hle := ih _ ((h.sublist (List.sublist_cons_self i rest)).of_cons hpos) hlater
          rw [List.length_map] at hle
          rw [List.length_cons]
          omega
      · rw [occurrencesFrom, if_neg hocc]
        have hpos : ∀ i ∈ indices, 0 < i := by
          intro i hi
          apply Nat.pos_of_ne_zero
          rintro rfl
          exact hocc (List.isPrefixOf_iff_prefix.mpr (h.found 0 hi).2)
        have hle := ih 0 (h.of_cons hpos) fun j _ => Nat.zero_le j
        rwa [List.length_map] at hle

/-! ## 2. The occurrences that are counted -/

/-- The greedy count is the size of some choice of disjoint occurrences. -/
theorem exists_occursAt (needle text : List Char) (skip : Nat) (hskip : needle = [] → skip = 0) :
    ∃ indices, OccursAt needle text indices ∧ (∀ i ∈ indices, skip ≤ i) ∧
      indices.length = occurrencesFrom needle skip text + spare needle := by
  -- Induction on the text, of which the first characters may belong to the last occurrence taken.
  induction text generalizing skip with
  | nil =>
    cases needle with
    | nil =>
      obtain rfl := hskip rfl
      have hzero : OccursAt [] [] [0] := ⟨by simp, List.pairwise_singleton _ _⟩
      exact ⟨[0], hzero, by simp, rfl⟩
    | cons d needle => exact ⟨[], ⟨by simp, .nil⟩, by simp, rfl⟩
  | cons c r ih =>
    cases skip with
    | succ k =>
      have hneedle : needle ≠ [] := fun h => Nat.succ_ne_zero k (hskip h)
      obtain ⟨indices, hocc, hlater, hlength⟩ := ih k fun h => absurd h hneedle
      refine ⟨indices.map (· + 1), hocc.cons c, ?_, by rw [List.length_map]; exact hlength⟩
      intro j hj
      obtain ⟨i, hi, rfl⟩ := List.mem_map.mp hj
      exact Nat.succ_le_succ (hlater i hi)
    | zero =>
      -- An occurrence that can be taken here is taken.
      by_cases hhere : needle.isPrefixOf (c :: r) = true
      · obtain ⟨indices, hocc, hlater, hlength⟩ := ih (needle.length - 1) fun h => by
          rw [h]
          rfl
        have hall : OccursAt needle (c :: r) (0 :: indices.map (· + 1)) := by
          constructor
          · intro j hj
            rcases List.mem_cons.mp hj with rfl | hj
            · exact ⟨Nat.zero_le _, List.isPrefixOf_iff_prefix.mp hhere⟩
            · exact (hocc.cons c).found j hj
          · apply List.pairwise_cons.mpr
            refine ⟨fun j hj => ?_, (hocc.cons c).apart⟩
            obtain ⟨i, hi, rfl⟩ := List.mem_map.mp hj
            have := hlater i hi
            omega
        refine ⟨_, hall, fun j _ => Nat.zero_le j, ?_⟩
        rw [occurrencesFrom, if_pos hhere, List.length_cons, List.length_map, hlength]
        omega
      · obtain ⟨indices, hocc, -, hlength⟩ := ih 0 fun _ => rfl
        refine ⟨_, hocc.cons c, fun j _ => Nat.zero_le j, ?_⟩
        rw [occurrencesFrom, if_neg hhere, List.length_map, hlength]

theorem occurrencesFrom_nil (text : List Char) : occurrencesFrom [] 0 text = text.length := by
  induction text with
  | nil => rfl
  | cons c r ih =>
    rw [List.length_cons, ← ih]
    rfl

theorem occurrences_eq (needle text : List Char) :
    occurrences needle text = occurrencesFrom needle 0 text + spare needle := by
  unfold occurrences spare
  cases needle with
  | nil => simp [occurrencesFrom_nil]
  | cons d needle => simp

/-- A text occurs at least `n` times when there are `n` occurrences of it that keep apart. -/
theorem le_occurrences_iff {n : Nat} :
    n ≤ occurrences needle text ↔ ∃ indices, OccursAt needle text indices ∧ indices.length = n := by
  rw [occurrences_eq]
  constructor
  · intro hle
    obtain ⟨indices, hocc, -, hlength⟩ := exists_occursAt needle text 0 fun _ => rfl
    refine ⟨indices.take n, hocc.sublist (List.take_sublist n indices), ?_⟩
    rw [List.length_take, hlength]
    omega
  · rintro ⟨indices, hocc, rfl⟩
    exact length_le_occurrencesFrom 0 hocc fun i _ => Nat.zero_le i

/-- Of overlapping occurrences only some are counted. -/
example : occurrences "aa".toList "aaaaa".toList = 2 ∧ occurrences [] "ab".toList = 3 := by
  decide

end Grading
