/-!
# Errors — what a computation can fail with

`Fails x p` says that every error of `x` satisfies `p`. A computation fails with what its parts fail
with, so that a fact about all errors is proved part by part.
-/

namespace Grading

/-- Every error of a computation satisfies a predicate. -/
def Fails {ε α : Type} (x : Except ε α) (p : ε → Prop) : Prop := ∀ e, x = .error e → p e

namespace Fails

variable {ε α β : Type} {p q : ε → Prop}

theorem ok (a : α) : Fails (.ok a) p := nofun

theorem error {e : ε} (h : p e) : Fails (.error e : Except ε α) p := by
  rintro e' he
  obtain rfl := Except.error.inj he
  exact h

theorem bind {x : Except ε α} {f : α → Except ε β} (hx : Fails x p)
    (hf : ∀ a, x = .ok a → Fails (f a) p) : Fails (x >>= f) p := by
  cases x with
  | error e => exact error (hx e rfl)
  | ok a => exact hf a rfl

theorem ite {c : Prop} [Decidable c] {x y : Except ε α} (hx : c → Fails x p)
    (hy : ¬c → Fails y p) : Fails (if c then x else y) p := by
  by_cases h : c
  · rw [if_pos h]
    exact hx h
  · rw [if_neg h]
    exact hy h

theorem mono {x : Except ε α} (h : Fails x p) (hpq : ∀ e, p e → q e) : Fails x q :=
  fun e he => hpq e (h e he)

theorem mapError {ε' : Type} {f : ε → ε'} {q : ε' → Prop} {x : Except ε α}
    (h : Fails x fun e => q (f e)) : Fails (x.mapError f) q := by
  cases x with
  | error e => exact error (h e rfl)
  | ok a => exact ok a

/-- A list fails the way one of its members does. -/
theorem mapM {f : α → Except ε β} {l : List α} (h : ∀ a ∈ l, Fails (f a) p) :
    Fails (l.mapM f) p := by
  induction l with
  | nil => exact ok []
  | cons a l ih =>
    rw [List.mapM_cons]
    have hrest : Fails (l.mapM f) p := ih fun a' ha' => h a' (List.mem_cons_of_mem _ ha')
    exact (h a List.mem_cons_self).bind fun b _ => hrest.bind fun bs _ => ok (b :: bs)

end Fails

section

variable {ε ε' α β : Type}

theorem bind_eq_ok {x : Except ε α} {g : α → Except ε β} {b : β} :
    x >>= g = .ok b ↔ ∃ a, x = .ok a ∧ g a = .ok b := by
  cases x <;> simp [bind, Except.bind]

/-- A sequence fails where its first part does, or behind it. -/
theorem bind_eq_error {x : Except ε α} {g : α → Except ε β} {e : ε} :
    x >>= g = .error e ↔ x = .error e ∨ ∃ a, x = .ok a ∧ g a = .error e := by
  cases x <;> simp [bind, Except.bind]

theorem mapError_eq_error {f : ε → ε'} {x : Except ε α} {e' : ε'} :
    x.mapError f = .error e' ↔ ∃ e, x = .error e ∧ f e = e' := by
  cases x with
  | error e => exact ⟨fun h => ⟨e, rfl, Except.error.inj h⟩, fun ⟨_, h, hf⟩ => by cases h; rw [← hf]; rfl⟩
  | ok a => exact ⟨nofun, fun ⟨_, h, _⟩ => nomatch h⟩

theorem mapError_eq_ok {f : ε → ε'} {x : Except ε α} {a : α} :
    x.mapError f = .ok a ↔ x = .ok a := by
  cases x with
  | error e => exact ⟨nofun, nofun⟩
  | ok b => exact ⟨fun h => congrArg _ (Except.ok.inj h), fun h => congrArg _ (Except.ok.inj h)⟩

end

def outcome {ε α : Type} (x : Except ε α) : Except ε Unit := x.map fun _ => ()

theorem outcome_eq_error {ε α : Type} {x : Except ε α} {e : ε} :
    outcome x = .error e ↔ x = .error e := by
  cases x with
  | error e' => simp [outcome, Except.map]
  | ok a => simp [outcome, Except.map]

theorem outcome_eq_ok {ε α : Type} {x : Except ε α} : outcome x = .ok () ↔ ∃ a, x = .ok a := by
  cases x with
  | error e => simp [outcome, Except.map]
  | ok a => simp [outcome, Except.map]

/-- Of the items of a list the first one to fail decides. -/
theorem forM_eq_error {ε α : Type} {check : α → Except ε Unit} {l : List α} {e : ε} :
    forM l check = .error e ↔ ∃ before a after, l = before ++ a :: after ∧
      (∀ b ∈ before, check b = .ok ()) ∧ check a = .error e := by
  induction l with
  | nil => simp [pure, Except.pure]
  | cons b l ih =>
    rw [List.forM_cons]
    constructor
    · intro h
      cases hb : check b with
      | error e' =>
        rw [hb] at h
        obtain rfl : e' = e := Except.error.inj h
        exact ⟨[], b, l, rfl, nofun, hb⟩
      | ok _ =>
        rw [hb] at h
        obtain ⟨before, a, after, rfl, hbefore, ha⟩ := ih.mp h
        refine ⟨b :: before, a, after, rfl, ?_, ha⟩
        rintro b' (_ | ⟨_, hb'⟩)
        · exact hb
        · exact hbefore b' hb'
    · rintro ⟨_ | ⟨b', before⟩, a, after, hl, hbefore, ha⟩
      · obtain ⟨rfl, rfl⟩ := List.cons.inj hl
        rw [ha]
        rfl
      · obtain ⟨rfl, rfl⟩ := List.cons.inj hl
        rw [hbefore b List.mem_cons_self]
        exact ih.mpr ⟨before, a, after, rfl, fun b' hb' => hbefore b' (.tail _ hb'), ha⟩

theorem forM_flatMap {ε α β : Type} (f : α → List β) (check : β → Except ε Unit) (l : List α) :
    forM (l.flatMap f) check = forM l fun a => forM (f a) check := by
  induction l with
  | nil => rfl
  | cons a l ih => rw [List.flatMap_cons, List.forM_append, ih, List.forM_cons]

end Grading
