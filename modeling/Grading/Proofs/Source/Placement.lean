import Grading.Proofs.Source.Delimiters

/-!
# Placement — a block is closed alike wherever it stands

The scan of a block depends neither on the text before its opening brace nor on the text after its
closing one. So a block that is closed where it ends, as a text of its own, is closed there in every
text that holds it.
-/

namespace Grading.Source

open Grading.Text

/-! ## 1. The text before a block -/

/-- A word does not reach back over a character that is no part of it. -/
theorem wordBefore_cut {d : Char} (hd : isIdentChar d = false) (hdot : d ≠ '.')
    (w x y : List Char) : wordBefore (w ++ d :: x) = wordBefore (w ++ d :: y) := by
  have htake : ∀ u z : List Char,
      (u ++ d :: z).takeWhile isIdentChar = u.takeWhile isIdentChar := by
    intro u z
    induction u with
    | nil => simp [hd]
    | cons c u ih => simp [List.takeWhile_cons, ih]
  have hdrop : ∀ u z : List Char,
      (u ++ d :: z).dropWhile isIdentChar = u.dropWhile isIdentChar ++ d :: z := by
    intro u z
    induction u with
    | nil => simp [hd]
    | cons c u ih =>
      by_cases hc : isIdentChar c = true
      · simp [hc, ih]
      · simp [hc]
  unfold wordBefore
  rw [htake, htake, hdrop, hdrop]
  -- What stands before the word is the rest of `w`, or the character itself.
  cases w.dropWhile isIdentChar with
  | nil => simp [hdot]
  | cons c r =>
    by_cases hc : c = '.'
    · subst hc
      rfl
    · simp [hc]

def moved (n : Nat) (entries : List (Nat × Char)) : List (Nat × Char) :=
  entries.map fun e => (e.1 + n, e.2)

/-- Behind a character that no word reaches back over the scan remembers nothing of the text before it.
-/
theorem codeFrom_moved {s t : State} (h : s.Agrees t) {d : Char} (hd : isIdentChar d = false)
    (hdot : d ≠ '.') (w x y text : List Char) (i n : Nat) :
    codeFrom t (w ++ d :: y) (i + n) text = moved n (codeFrom s (w ++ d :: x) i text) := by
  induction text generalizing s t w i with
  | nil => rfl
  | cons c r ih =>
    have halike : Alike (s.step (w ++ d :: x) c r.head?) (t.step (w ++ d :: y) c r.head?) :=
      alike_step h (wordBefore_cut hd hdot (c :: w) x y) _
    rcases hs : s.step (w ++ d :: x) c r.head? with ⟨s', isCode⟩
    rcases ht : t.step (w ++ d :: y) c r.head? with ⟨t', isCode'⟩
    rw [hs, ht] at halike
    obtain ⟨hcode, hagrees⟩ := halike
    obtain rfl : isCode = isCode' := hcode
    have hrest := ih hagrees (c :: w) (i + 1)
    rw [Nat.add_right_comm] at hrest
    cases isCode with
    | true =>
      rw [codeFrom_yield hs, codeFrom_yield ht]
      exact congrArg ((i + n, c) :: ·) hrest
    | false =>
      rw [codeFrom_skip hs, codeFrom_skip ht]
      exact hrest

theorem closeIndex_moved (depth : Int) (n : Nat) (entries : List (Nat × Char)) :
    closeIndex depth (moved n entries) = (closeIndex depth entries).map (· + n) := by
  induction entries generalizing depth with
  | nil => rfl
  | cons e r ih =>
    obtain ⟨i, c⟩ := e
    change closeIndex depth ((i + n, c) :: moved n r) = _
    rcases closeIndex_step depth c with ⟨-, hfound⟩ | ⟨next, hgo⟩
    · rw [hfound, hfound]
      rfl
    · rw [hgo, hgo, ih]

/-- A block closes at the same distance wherever it stands: what precedes it only shifts the
index. -/
theorem blockEnd_moved (pre block : List Char) :
    blockEnd (pre ++ '{' :: block) pre.length =
      (blockEnd ('{' :: block) 0).map (· + pre.length) := by
  -- After the opening brace no scan remembers what precedes it.
  have hbrace : ∀ rev next, State.step {} rev '{' next = (⟨.code, [], .mark '{'⟩, true) :=
    fun _ _ => rfl
  have hscan : codeChars (pre ++ '{' :: block) pre.length =
      moved pre.length (codeChars ('{' :: block) 0) := by
    unfold codeChars
    rw [List.take_left, List.drop_left, List.take_zero, List.drop_zero, List.reverse_nil,
      codeFrom_yield (hbrace _ _), codeFrom_yield (hbrace _ _)]
    have hrest := codeFrom_moved (s := ⟨.code, [], .mark '{'⟩) (t := ⟨.code, [], .mark '{'⟩)
      ⟨rfl, rfl, .inr rfl⟩ (d := '{') (by decide) (by decide) [] [] pre.reverse block 1 pre.length
    rw [Nat.add_comm 1] at hrest
    change (pre.length, '{') :: codeFrom _ ([] ++ '{' :: pre.reverse) (pre.length + 1) block =
      (0 + pre.length, '{') :: moved pre.length (codeFrom _ ([] ++ '{' :: []) 1 block)
    rw [hrest, Nat.zero_add]
  unfold blockEnd
  rw [hscan, closeIndex_moved]

/-! ## 2. The text after a block -/

/-- Up to a character the scan is the same whatever follows that character. -/
theorem codeFrom_append_cons (s : State) (rev a : List Char) (c : Char) (i : Nat) :
    ∃ before t, (∀ e ∈ before, e.1 < i + a.length) ∧ ∀ r,
      stateAfter s rev a.length (a ++ c :: r) = t ∧ codeFrom s rev i (a ++ c :: r) =
        before ++ codeFrom t (a.reverse ++ rev) (i + a.length) (c :: r) := by
  induction a generalizing s rev i with
  | nil => exact ⟨[], s, nofun, fun r => ⟨rfl, rfl⟩⟩
  | cons d a ih =>
    -- What follows the first character does not depend on the rest, since `c` stands behind `a`.
    have hnext : ∀ r, (a ++ c :: r).head? = (a ++ [c]).head? := by
      intro r
      cases a <;> rfl
    rcases hstep : s.step rev d (a ++ [c]).head? with ⟨s', isCode⟩
    have hfirst : ∀ r, s.step rev d (a ++ c :: r).head? = (s', isCode) := by
      intro r
      rw [hnext r, hstep]
    obtain ⟨before, t, hbefore, hscan⟩ := ih s' (d :: rev) (i + 1)
    have hlength : i + (d :: a).length = i + 1 + a.length := by
      rw [List.length_cons]
      omega
    have hstate : ∀ r, stateAfter s rev (d :: a).length (d :: a ++ c :: r) = t := by
      intro r
      rw [List.length_cons, List.cons_append, stateAfter, hfirst r]
      exact (hscan r).1
    have hlater : ∀ e ∈ before, e.1 < i + (d :: a).length := by
      intro e he
      have := hbefore e he
      omega
    have hrev : (d :: a).reverse ++ rev = a.reverse ++ (d :: rev) := by simp
    cases isCode with
    | true =>
      refine ⟨(i, d) :: before, t, ?_, fun r => ⟨hstate r, ?_⟩⟩
      · intro e he
        rcases List.mem_cons.mp he with rfl | he
        · rw [List.length_cons]
          dsimp only
          omega
        · exact hlater e he
      · rw [List.cons_append, codeFrom_yield (hfirst r), (hscan r).2, hlength, hrev]
        rfl
    | false =>
      refine ⟨before, t, hlater, fun r => ⟨hstate r, ?_⟩⟩
      rw [List.cons_append, codeFrom_skip (hfirst r), (hscan r).2, hlength, hrev]

/-- Only before a slash, a star or a dollar sign does the scan look ahead. -/
theorem step_closeBrace (s : State) (rev : List Char) (next : Option Char) :
    s.step rev '}' next = s.step rev '}' none := by
  obtain ⟨mode, ds, p⟩ := s
  cases mode <;> simp [State.step, State.code]

/-- Entries behind the closing brace do not matter. -/
theorem closeIndex_append {depth : Int} {entries : List (Nat × Char)} {j : Nat}
    (h : closeIndex depth entries = some j) (more : List (Nat × Char)) :
    closeIndex depth (entries ++ more) = some j := by
  induction entries generalizing depth with
  | nil => exact nomatch h
  | cons e r ih =>
    obtain ⟨i, c⟩ := e
    rw [List.cons_append]
    rcases closeIndex_step depth c with ⟨-, hfound⟩ | ⟨next, hgo⟩
    · rw [hfound] at h ⊢
      exact h
    · rw [hgo] at h ⊢
      exact ih h

/-- A block that is closed by the last brace of a text is closed there in every longer text. -/
theorem blockEnd_append {a : List Char} (h : blockEnd (a ++ ['}']) 0 = some a.length)
    (rest : List Char) : blockEnd (a ++ '}' :: rest) 0 = some a.length := by
  obtain ⟨before, t, hbefore, hcut⟩ := codeFrom_append_cons {} [] a '}' 0
  have hscan := fun r => (hcut r).2
  unfold blockEnd codeChars at h ⊢
  rw [List.take_zero, List.drop_zero, List.reverse_nil, hscan, List.append_nil, Nat.zero_add] at h ⊢
  rw [Nat.zero_add] at hbefore
  rcases hstep : t.step a.reverse '}' none with ⟨u, isCode⟩
  cases isCode with
  | true =>
    rw [codeFrom_yield (t := u) (by rw [step_closeBrace]; exact hstep)] at h ⊢
    have := closeIndex_append h (codeFrom u ('}' :: a.reverse) (a.length + 1) rest)
    rwa [List.append_assoc] at this
  | false =>
    -- The last brace would have to be read as code, since no earlier one closes the block.
    rw [codeFrom_skip (t := u) (by rw [step_closeBrace]; exact hstep)] at h
    have hmem : (a.length, '}') ∈ before := by
      have := closeIndex_mem h
      rwa [show codeFrom u ('}' :: a.reverse) (a.length + 1) [] = [] from rfl,
        List.append_nil] at this
    have := hbefore _ hmem
    omega

/-- A block that is closed by its last character is closed by it in every text. -/
theorem blockEnd_placed {body : List Char}
    (h : blockEnd ('{' :: (body ++ ['}'])) 0 = some (body.length + 1)) (pre rest : List Char) :
    blockEnd (pre ++ '{' :: (body ++ '}' :: rest)) pre.length =
      some (pre.length + 1 + body.length) := by
  have hblock : blockEnd (('{' :: body) ++ '}' :: rest) 0 = some ('{' :: body).length :=
    blockEnd_append (by rwa [List.length_cons]) rest
  rw [blockEnd_moved]
  change (blockEnd (('{' :: body) ++ '}' :: rest) 0).map (· + pre.length) = _
  rw [hblock, Option.map_some, List.length_cons]
  congr 1
  omega

end Grading.Source
