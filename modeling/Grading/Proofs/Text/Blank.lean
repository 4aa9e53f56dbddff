import Mathlib.Data.List.TakeWhile
import Grading.Text.Alnum
import Grading.Text.Blank

/-!
# Blank — texts without blanks at their ends
-/

namespace Grading.Text

def farBlanks : List Nat :=
  [0x85, 0xa0, 0x1680, 0x2000, 0x2001, 0x2002, 0x2003, 0x2004, 0x2005, 0x2006, 0x2007, 0x2008, 0x2009,
    0x200a, 0x2028, 0x2029, 0x202f, 0x205f, 0x3000]

theorem mem_farBlanks {c : Char} (h : isBlank c = true) (hfar : ¬ c.toNat < 128) :
    c.toNat ∈ farBlanks := by
  simp only [isBlank, Bool.or_eq_true, Bool.and_eq_true, decide_eq_true_eq, beq_iff_eq] at h
  simp only [farBlanks, List.mem_cons, List.not_mem_nil, or_false]
  omega

/-- No character of a word is a blank. -/
theorem isBlank_of_isWordChar {c : Char} (h : isWordChar c = true) : isBlank c = false := by
  by_contra hblank
  rw [Bool.not_eq_false] at hblank
  simp only [isWordChar, isAlnum, Bool.or_eq_true, beq_iff_eq] at h
  rcases h with h | rfl
  · split at h
    · -- Among the seven-bit characters the two classes are apart by their codes.
      simp only [isAsciiAlnum, Bool.or_eq_true, Bool.and_eq_true, decide_eq_true_eq] at h
      simp only [isBlank, Bool.or_eq_true, Bool.and_eq_true, decide_eq_true_eq, beq_iff_eq] at hblank
      have hcodes : (97 ≤ c.toNat ∧ c.toNat ≤ 122 ∨ 65 ≤ c.toNat ∧ c.toNat ≤ 90) ∨
          48 ≤ c.toNat ∧ c.toNat ≤ 57 := h
      omega
    · next hfar =>
      have hnone : ∀ n ∈ farBlanks, inRanges alnumRanges n = false := by decide +kernel
      rw [hnone _ (mem_farBlanks hblank hfar)] at h
      exact Bool.false_ne_true h
  · exact absurd hblank (by decide)

theorem trimLeft_eq_self {s : List Char} (h : ∀ c ∈ s.head?, isBlank c = false) : trimLeft s = s := by
  cases s with
  | nil => rfl
  | cons c r => rw [trimLeft, List.dropWhile_cons_of_neg]; simp [h c rfl]

theorem head?_trimLeft (s : List Char) : ∀ c ∈ (trimLeft s).head?, isBlank c = false := by
  intro c hc
  have hnot := List.head?_dropWhile_not isBlank s
  rw [trimLeft] at hc
  rwa [hc] at hnot

theorem trimRight_append {s t : List Char} (h : trimRight t ≠ []) :
    trimRight (s ++ t) = s ++ trimRight t := by
  have hrest : (t.reverse.dropWhile isBlank).isEmpty = false := by
    rw [List.isEmpty_eq_false_iff]
    intro hnil
    exact h (by rw [trimRight, hnil]; rfl)
  rw [trimRight, List.reverse_append, List.dropWhile_append, hrest]
  simp [trimRight]

/-- A text stays as it is when no blank stands at either end. -/
theorem trim_eq_self_iff {s : List Char} :
    trim s = s ↔ trimLeft s = s ∧ trimRight s = s := by
  constructor
  · intro h
    -- Neither side can take anything away that the other would have to put back.
    have hleft : (trimLeft s).length ≤ s.length := (List.dropWhile_suffix isBlank).length_le
    have hright : (trim s).length ≤ (trimLeft s).length := by
      rw [trim, trimRight, List.length_reverse]
      simpa using (List.dropWhile_suffix (l := (trimLeft s).reverse) isBlank).length_le
    have hsame : trimLeft s = s := by
      apply (List.dropWhile_suffix isBlank).eq_of_length
      rw [h] at hright
      exact Nat.le_antisymm hleft hright
    refine ⟨hsame, ?_⟩
    rwa [trim, hsame] at h
  · rintro ⟨hleft, hright⟩
    rw [trim, hleft, hright]

theorem head?_of_trim {s : List Char} (h : trim s = s) : ∀ c ∈ s.head?, isBlank c = false := by
  rw [← (trim_eq_self_iff.mp h).1]
  exact head?_trimLeft s

/-- A part at the end of a text that has no blank behind it has none either. -/
theorem trimRight_of_append {s t : List Char} (h : trimRight (s ++ t) = s ++ t) : trimRight t = t := by
  by_cases hnil : trimRight t = []
  · cases t with
    | nil => rfl
    | cons c r =>
      -- All of the part would be blank, and so taken away from the whole.
      have hall : ∀ d ∈ (c :: r).reverse, isBlank d = true := by
        rw [trimRight, List.reverse_eq_nil_iff] at hnil
        exact List.dropWhile_eq_nil_iff.mp hnil
      rw [trimRight, List.reverse_append, List.dropWhile_append_of_pos hall] at h
      have hlength := congrArg List.length h
      have hle := (List.dropWhile_suffix (l := s.reverse) isBlank).length_le
      simp at hlength hle
      omega
  · rw [trimRight_append hnil] at h
    exact List.append_cancel_left h

end Grading.Text
