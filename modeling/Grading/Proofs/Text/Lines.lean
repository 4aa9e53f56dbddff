import Mathlib.Data.List.Basic
import Grading.Text.Lines

/-!
# Lines — how a text falls into its lines

Each line of a text stands there once, in order, with a break behind it, and the last one perhaps
without. A line feed between two texts joins their lines, whatever the first one ends with.
-/

namespace Grading.Text

/-! ## 1. Breaks -/

/-- What ends a line in front of a rest. A carriage return takes a line feed behind it with it. -/
inductive IsBreak : List Char → List Char → Prop
  | pair (rest : List Char) : IsBreak ['\r', '\n'] rest
  | single {c : Char} {rest : List Char} (h : isLineBreak c = true)
      (halone : c = '\r' → rest.head? ≠ some '\n') : IsBreak [c] rest

def Unbroken (s : List Char) : Prop := ∀ c ∈ s, isLineBreak c = false

instance (s : List Char) : Decidable (Unbroken s) := List.decidableBAll _ s

/-- The lines of which a text is made. Only the last one may go without a break, if it is not empty. -/
inductive FallsInto : List Char → List (List Char) → Prop
  | nil : FallsInto [] []
  | last {line : List Char} (h : Unbroken line) (hline : line ≠ []) : FallsInto line [line]
  | line {line brk rest : List Char} {ls : List (List Char)} (h : Unbroken line)
      (hbrk : IsBreak brk rest) (hrest : FallsInto rest ls) :
      FallsInto (line ++ brk ++ rest) (line :: ls)

theorem linesFrom_pair (line r : List Char) :
    linesFrom line ('\r' :: '\n' :: r) = line.reverse :: linesFrom [] r := by
  rw [linesFrom]

/-- Behind everything but a carriage return with its line feed the first character decides alone. -/
theorem linesFrom_cons {c : Char} {r : List Char} (h : c = '\r' → r.head? ≠ some '\n')
    (line : List Char) :
    linesFrom line (c :: r) =
      if isLineBreak c then line.reverse :: linesFrom [] r else linesFrom (c :: line) r := by
  rw [linesFrom]
  rintro r' rfl rfl
  simp at h

/-! ## 2. Lines -/

/-- The lines that are read are those the text falls into. -/
theorem fallsInto_linesFrom {line : List Char} (h : Unbroken line) (s : List Char) :
    FallsInto (line.reverse ++ s) (linesFrom line s) := by
  have hrev : Unbroken line.reverse := fun c hc => h c (List.mem_reverse.mp hc)
  fun_induction linesFrom line s with
  | case1 line hempty =>
    obtain rfl := List.isEmpty_iff.mp hempty
    exact .nil
  | case2 line hfull =>
    rw [List.append_nil]
    apply FallsInto.last hrev
    simpa using hfull
  | case3 line r ih =>
    have hrest := ih nofun nofun
    simpa using FallsInto.line hrev (.pair r) hrest
  | case4 line c r hpair hbreak ih =>
    -- The character is no carriage return with its line feed: that was the case before.
    have halone : c = '\r' → r.head? ≠ some '\n' := by
      rintro rfl hhead
      obtain ⟨r', rfl⟩ := List.head?_eq_some_iff.mp hhead
      exact hpair r' rfl rfl
    have hrest := ih nofun nofun
    simpa using FallsInto.line hrev (.single hbreak halone) hrest
  | case5 line c r hpair hbreak ih =>
    have hcons : Unbroken (c :: line) := by
      intro d hd
      rcases List.mem_cons.mp hd with rfl | hd
      · simpa using hbreak
      · exact h d hd
    have hrest := ih hcons fun d hd => hcons d (List.mem_reverse.mp hd)
    simpa using hrest

/-- A text falls into its lines. -/
theorem fallsInto_lines (s : List Char) : FallsInto s (lines s) := by
  have hnil : Unbroken [] := nofun
  exact fallsInto_linesFrom hnil s

/-- A text without a line break is one line, or none if it is empty. -/
theorem linesFrom_of_unbroken {s : List Char} (h : Unbroken s) (line : List Char) :
    linesFrom line s = if line.isEmpty && s.isEmpty then [] else [line.reverse ++ s] := by
  induction s generalizing line with
  | nil => cases line <;> simp [linesFrom]
  | cons c r ih =>
    have hc : isLineBreak c = false := h c List.mem_cons_self
    have halone : c = '\r' → r.head? ≠ some '\n' := by
      rintro rfl
      exact absurd hc (by decide)
    rw [linesFrom_cons halone, hc, if_neg Bool.false_ne_true,
      ih fun d hd => h d (List.mem_cons_of_mem c hd)]
    simp

theorem lines_of_unbroken {s : List Char} (h : Unbroken s) (hs : s ≠ []) : lines s = [s] := by
  cases s with
  | nil => exact absurd rfl hs
  | cons c r => rw [lines, linesFrom_of_unbroken h]; simp

/-! ## 3. Two texts -/

/-- A line feed between two texts keeps their lines apart; if it ends no line of the first text, it
makes an empty one. -/
theorem linesFrom_append_newline (line a b : List Char) :
    linesFrom line (a ++ '\n' :: b) = linesFrom line a ++ linesFrom [] b ∨
      linesFrom line (a ++ '\n' :: b) = linesFrom line a ++ [] :: linesFrom [] b := by
  fun_induction linesFrom line a with
  | case1 line hempty =>
    obtain rfl := List.isEmpty_iff.mp hempty
    right
    rfl
  | case2 line hfull =>
    left
    rw [List.nil_append, linesFrom_cons (by simp)]
    rfl
  | case3 line r ih =>
    rw [List.cons_append, List.cons_append, linesFrom_pair]
    apply ih.imp <;> exact congrArg (line.reverse :: ·)
  | case4 line c r hpair hbreak ih =>
    by_cases hseam : c = '\r' ∧ r = []
    · -- The carriage return that ends the first text takes the line feed as a part of its break.
      obtain ⟨rfl, rfl⟩ := hseam
      left
      rw [List.singleton_append, linesFrom_pair]
      rfl
    · have halone : c = '\r' → (r ++ '\n' :: b).head? ≠ some '\n' := by
        rintro rfl hhead
        cases r with
        | nil => simp at hseam
        | cons d r' =>
          obtain rfl : d = '\n' := by simpa using hhead
          exact hpair r' rfl rfl
      rw [List.cons_append, linesFrom_cons halone, if_pos hbreak]
      apply ih.imp <;> exact congrArg (line.reverse :: ·)
  | case5 line c r hpair hbreak ih =>
    have halone : c = '\r' → (r ++ '\n' :: b).head? ≠ some '\n' := by
      rintro rfl
      exact absurd hbreak (by decide)
    rw [List.cons_append, linesFrom_cons halone, if_neg hbreak]
    exact ih

theorem lines_append_newline (a b : List Char) :
    lines (a ++ '\n' :: b) = lines a ++ lines b ∨ lines (a ++ '\n' :: b) = lines a ++ [] :: lines b :=
  linesFrom_append_newline [] a b

/-! ## 4. Plain breaks -/

/-- Without carriage returns all breaks of a text are plain. -/
theorem plainBreaks_eq_self {s : List Char} (h : '\r' ∉ s) : plainBreaks s = s := by
  fun_induction plainBreaks s with
  | case1 => rfl
  | case2 r ih => simp at h
  | case3 r hpair ih => simp at h
  | case4 c r hpair hreturn ih => rw [ih fun hr => h (List.mem_cons_of_mem c hr)]

end Grading.Text
