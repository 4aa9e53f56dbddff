import Grading.Compiler.Diagnostics
import Grading.Proofs.Text.Lines

/-!
# Colours — colour sequences in the output of a compiler

Colour sequences may stand anywhere in a text. What is left without them is the text that they were put
into, as long as it holds no escape character itself.
-/

namespace Grading

open Grading.Text

/-! ## 1. Sequences -/

def isColourParameter (c : Char) : Bool := ('0' ≤ c && c ≤ '9') || c = ';'

def colour (parameters : List Char) : List Char := escapeChar :: '[' :: (parameters ++ ['m'])

/-- A text with complete colour sequences put in, at any places and as many as one likes. -/
inductive Coloured : List Char → List Char → Prop
  | nil : Coloured [] []
  | char {s t : List Char} (c : Char) (h : Coloured s t) : Coloured (c :: s) (c :: t)
  | colour {s t parameters : List Char} (hp : ∀ c ∈ parameters, isColourParameter c = true)
      (h : Coloured s t) : Coloured s (colour parameters ++ t)

theorem Coloured.refl (s : List Char) : Coloured s s := by
  induction s with
  | nil => exact .nil
  | cons c s ih => exact .char c ih

theorem colourParameters_append {parameters : List Char}
    (h : ∀ c ∈ parameters, isColourParameter c = true) (t : List Char) :
    colourParameters (parameters ++ 'm' :: t) = (parameters.length, 'm' :: t) := by
  induction parameters with
  | nil => rw [List.nil_append, colourParameters, if_neg (by decide)]; rfl
  | cons c r ih =>
    have hc : (('0' ≤ c && c ≤ '9') || c = ';') = true := h c List.mem_cons_self
    rw [List.cons_append, colourParameters, if_pos hc, ih fun d hd => h d (List.mem_cons_of_mem c hd)]
    rfl

theorem colourLength?_colour {parameters : List Char}
    (h : ∀ c ∈ parameters, isColourParameter c = true) (t : List Char) :
    colourLength? (colour parameters ++ t) = some (parameters.length + 3) := by
  have hsplit : colour parameters ++ t = escapeChar :: '[' :: (parameters ++ 'm' :: t) := by
    simp [colour]
  rw [hsplit, colourLength?, if_pos rfl, colourParameters_append h]
  rfl

theorem colourLength?_of_ne {c : Char} (h : c ≠ escapeChar) (t : List Char) :
    colourLength? (c :: t) = none := by
  unfold colourLength?
  split
  · next heq =>
    obtain ⟨rfl, -⟩ := List.cons.inj heq
    rw [if_neg h]
  · rfl

/-! ## 2. Texts without them -/

theorem withoutColoursFrom_append (s t : List Char) :
    withoutColoursFrom s.length (s ++ t) = withoutColours t := by
  induction s with
  | nil => rfl
  | cons c s ih => exact ih

theorem withoutColours_colour {parameters : List Char}
    (h : ∀ c ∈ parameters, isColourParameter c = true) (t : List Char) :
    withoutColours (colour parameters ++ t) = withoutColours t := by
  -- The first character is taken away, and the others are those that are skipped.
  have htail : (colour parameters).tail.length = parameters.length + 3 - 1 := by simp [colour]
  have hlength := colourLength?_colour h t
  rw [show colour parameters ++ t = escapeChar :: ((colour parameters).tail ++ t) from rfl] at hlength ⊢
  rw [withoutColours, withoutColoursFrom]
  simp only [hlength]
  rw [← htail, withoutColoursFrom_append]

theorem withoutColours_cons {c : Char} {t : List Char} (h : colourLength? (c :: t) = none) :
    withoutColours (c :: t) = c :: withoutColours t := by
  rw [withoutColours, withoutColoursFrom]
  simp only [h]
  rfl

/-- Colour sequences that are put into a text are all that is taken out again. -/
theorem withoutColours_of_coloured {s t : List Char} (h : Coloured s t) (hs : escapeChar ∉ s) :
    withoutColours t = s := by
  induction h with
  | nil => rfl
  | char c _ ih =>
    rw [List.mem_cons, not_or] at hs
    rw [withoutColours_cons (colourLength?_of_ne (Ne.symm hs.1) _), ih hs.2]
  | colour hp _ ih => rw [withoutColours_colour hp, ih hs]

theorem exists_of_colourParameters {s rest : List Char} {n : Nat} (h : colourParameters s = (n, rest)) :
    ∃ parameters, (∀ c ∈ parameters, isColourParameter c = true) ∧ s = parameters ++ rest := by
  induction s generalizing n with
  | nil =>
    obtain ⟨-, rfl⟩ := Prod.mk.inj h
    exact ⟨[], nofun, rfl⟩
  | cons c r ih =>
    rw [colourParameters] at h
    split at h
    · next hc =>
      obtain ⟨-, rfl⟩ := Prod.mk.inj h
      obtain ⟨parameters, hp, hr⟩ := ih (n := (colourParameters r).1) rfl
      refine ⟨c :: parameters, List.forall_mem_cons.mpr ⟨hc, hp⟩, ?_⟩
      rw [List.cons_append, ← hr]
    · obtain ⟨-, rfl⟩ := Prod.mk.inj h
      exact ⟨[], nofun, rfl⟩

theorem exists_of_colourLength? {s : List Char} {n : Nat} (h : colourLength? s = some n) :
    ∃ parameters t, (∀ c ∈ parameters, isColourParameter c = true) ∧ s = colour parameters ++ t := by
  unfold colourLength? at h
  split at h
  · next c r =>
    split at h
    · next hc =>
      split at h
      · next n rest hrest =>
        obtain ⟨parameters, hp, rfl⟩ := exists_of_colourParameters hrest
        exact ⟨parameters, rest, hp, by simp [colour, hc]⟩
      · exact nomatch h
    · exact nomatch h
  · exact nomatch h

/-- What is taken out of a text are colour sequences and nothing else. -/
theorem coloured_withoutColours (t : List Char) : Coloured (withoutColours t) t := by
  -- A sequence is taken out as a whole, so that the rest is shorter by more than one character.
  induction hn : t.length using Nat.strongRecOn generalizing t with
  | _ n ih =>
    cases t with
    | nil => exact .nil
    | cons c r =>
      cases hlength : colourLength? (c :: r) with
      | none =>
        rw [withoutColours_cons hlength]
        exact .char c (ih r.length (by simp at hn; omega) r rfl)
      | some k =>
        obtain ⟨parameters, t, hp, ht⟩ := exists_of_colourLength? hlength
        rw [ht] at hn ⊢
        rw [withoutColours_colour hp]
        exact .colour hp (ih t.length (by simp [colour] at hn; omega) t rfl)

/-- No part of a colour sequence ends a line. -/
theorem unbroken_colour {parameters : List Char} (h : ∀ c ∈ parameters, isColourParameter c = true) :
    Unbroken (colour parameters) := by
  intro c hc
  simp only [colour, List.mem_cons, List.mem_append, List.not_mem_nil, or_false] at hc
  rcases hc with rfl | rfl | hc | rfl
  · decide
  · decide
  · have hparameter := h c hc
    simp only [isColourParameter, Bool.or_eq_true, Bool.and_eq_true, decide_eq_true_eq] at hparameter
    rcases hparameter with ⟨hlow, hhigh⟩ | rfl
    · change 48 ≤ c.toNat at hlow
      change c.toNat ≤ 57 at hhigh
      simp [isLineBreak]
      omega
    · decide
  · decide

/-- Colours do not break a line. -/
theorem unbroken_of_coloured {s t : List Char} (h : Coloured s t) (hs : Unbroken s) : Unbroken t := by
  induction h with
  | nil => exact hs
  | char c _ ih =>
    intro d hd
    rcases List.mem_cons.mp hd with rfl | hd
    · exact hs d List.mem_cons_self
    · exact ih (fun e he => hs e (List.mem_cons_of_mem c he)) d hd
  | colour hp _ ih =>
    intro d hd
    rcases List.mem_append.mp hd with hd | hd
    · exact unbroken_colour hp d hd
    · exact ih hs d hd

theorem ne_nil_of_coloured {s t : List Char} (h : Coloured s t) (hs : s ≠ []) : t ≠ [] := by
  cases h with
  | nil => exact hs
  | char c _ => exact List.cons_ne_nil _ _
  | colour => exact List.cons_ne_nil _ _

end Grading
