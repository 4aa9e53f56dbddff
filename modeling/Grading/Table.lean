/-!
# Table — entries in the order in which their keys first came
-/

namespace Grading

/-- Pairs of a key and a value; every key comes once. -/
abbrev Table (α β : Type) := List (α × β)

namespace Table

variable {α β : Type} [BEq α]

def put (key : α) (value : β) : Table α β → Table α β
  | [] => [(key, value)]
  | e :: es => if e.1 == key then (key, value) :: es else e :: put key value es

def erase (key : α) (t : Table α β) : Table α β := t.filter fun e => !(e.1 == key)

theorem lookup_put [LawfulBEq α] (t : Table α β) (key k : α) (v : β) :
    (t.put key v).lookup k = if k == key then some v else t.lookup k := by
  induction t with
  | nil => cases h : k == key <;> simp [put, List.lookup_cons, h]
  | cons e es ih =>
    obtain ⟨old, w⟩ := e
    unfold put
    by_cases he : old = key
    · rw [if_pos (beq_iff_eq.mpr he), he, List.lookup_cons, List.lookup_cons]
      cases h : k == key <;> rfl
    · rw [if_neg (fun h => he (beq_iff_eq.mp h)), List.lookup_cons, List.lookup_cons, ih]
      cases h : k == old with
      | false => rfl
      | true =>
        have hk : ¬ (k == key) = true := by rw [eq_of_beq h]; simpa using he
        exact (if_neg hk).symm

theorem lookup_erase [LawfulBEq α] (t : Table α β) (key k : α) :
    (t.erase key).lookup k = if k == key then none else t.lookup k := by
  unfold erase
  induction t with
  | nil => cases k == key <;> rfl
  | cons e es ih =>
    obtain ⟨old, w⟩ := e
    rw [List.lookup_cons]
    by_cases he : old = key
    · rw [List.filter_cons_of_neg (by simp [he]), ih, he]
      cases k == key <;> rfl
    · rw [List.filter_cons_of_pos (by simp [he]), List.lookup_cons, ih]
      cases h : k == old with
      | false => rfl
      | true =>
        have hk : ¬ (k == key) = true := by rw [eq_of_beq h]; simpa using he
        exact (if_neg hk).symm

theorem lookup_isSome [LawfulBEq α] (t : Table α β) (key : α) :
    (t.lookup key).isSome ↔ key ∈ t.map (·.1) := by
  induction t with
  | nil => simp
  | cons e es ih =>
    rw [List.lookup_cons, List.map_cons, List.mem_cons, ← ih]
    cases h : key == e.1 with
    | true => simp [eq_of_beq h]
    | false => simp [beq_eq_false_iff_ne.mp h]

theorem lookup_of_mem [LawfulBEq α] {t : Table α β} (h : (t.map (·.1)).Nodup) {key : α} {v : β}
    (hmem : (key, v) ∈ t) : t.lookup key = some v := by
  induction t with
  | nil => exact nomatch hmem
  | cons e es ih =>
    obtain ⟨hnot, hes⟩ := List.nodup_cons.mp h
    rw [List.lookup_cons]
    rcases List.mem_cons.mp hmem with rfl | hlater
    · rw [beq_self_eq_true]
    · have hne : key ≠ e.1 := by
        rintro rfl
        exact hnot (List.mem_map.mpr ⟨_, hlater, rfl⟩)
      rw [beq_eq_false_iff_ne.mpr hne]
      exact ih hes hlater

/-- A key that is there already keeps its place. -/
theorem nodup_keys_put [LawfulBEq α] {t : Table α β} (h : (t.map (·.1)).Nodup) (key : α) (v : β) :
    ((t.put key v).map (·.1)).Nodup := by
  have hkeys : ∀ t : Table α β, ∀ k, k ∈ (t.put key v).map (·.1) → k = key ∨ k ∈ t.map (·.1) := by
    intro t k hk
    rw [← lookup_isSome, lookup_put] at hk
    by_cases hkey : k = key
    · exact .inl hkey
    · rw [if_neg (by simpa using hkey), lookup_isSome] at hk
      exact .inr hk
  induction t with
  | nil => simp [put]
  | cons e es ih =>
    obtain ⟨hnot, hes⟩ := List.nodup_cons.mp h
    unfold put
    by_cases he : e.1 = key
    · rw [if_pos (beq_iff_eq.mpr he), List.map_cons, ← he]
      exact h
    · rw [if_neg (fun hbeq => he (eq_of_beq hbeq)), List.map_cons]
      exact List.nodup_cons.mpr ⟨fun hmem => (hkeys es e.1 hmem).elim he hnot, ih hes⟩

theorem nodup_keys_erase {t : Table α β} (h : (t.map (·.1)).Nodup) (key : α) :
    ((t.erase key).map (·.1)).Nodup :=
  h.sublist (List.filter_sublist.map _)

end Table

end Grading
