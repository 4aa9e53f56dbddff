import Mathlib.Algebra.GroupWithZero.Nat
import Mathlib.Order.Bounds.Basic
import Grading.Source.Block
import Grading.Proofs.Source.Scan

/-!
# Restart — a block is closed where the scan of the whole text closes it

The end of a block is found by a scan that begins at its opening brace and knows nothing of the
interpolations around it. Up to the closing brace this scan and the scan of the whole text differ
only in the interpolations that lie around the block: the innermost of these has counted the braces
of the block itself, so it cannot end before the block does.
-/

namespace Grading.Source

/-! ## 1. Counting braces -/

def braceBalance (entries : List (Nat × Char)) : Int :=
  entries.countP (·.2 = '{') - entries.countP (·.2 = '}')

def braceShift (c : Char) : Int :=
  if c = '{' then 1 else if c = '}' then -1 else 0

theorem braceBalance_cons (i : Nat) (c : Char) (r : List (Nat × Char)) :
    braceBalance ((i, c) :: r) = braceShift c + braceBalance r := by
  unfold braceBalance braceShift
  rw [List.countP_cons, List.countP_cons]
  by_cases hopen : c = '{'
  · subst hopen
    simp only [decide_true, ↓reduceIte, show ('{' : Char) ≠ '}' by decide, decide_false,
      Bool.false_eq_true]
    omega
  · by_cases hclose : c = '}'
    · subst hclose
      simp only [decide_true, ↓reduceIte, show ('}' : Char) ≠ '{' by decide, decide_false,
        Bool.false_eq_true]
      omega
    · simp only [hopen, hclose, decide_false, Bool.false_eq_true, ↓reduceIte]
      omega

/-! ## 2. The first index at which the count is zero -/

/-- The indices at which a count of open braces that begins at `depth` is zero. -/
def zeros (depth : Int) (entries : List (Nat × Char)) : Set Nat :=
  {j | (∃ c, (j, c) ∈ entries) ∧ depth + braceBalance (entries.filter (·.1 ≤ j)) = 0}

def IsFirst (found : Option Nat) (s : Set Nat) : Prop :=
  match found with
  | some j => IsLeast s j
  | none => s = ∅

theorem IsFirst.iffs {found : Option Nat} {s : Set Nat} (h : IsFirst found s) :
    (∀ j, found = some j ↔ IsLeast s j) ∧ (found = none ↔ s = ∅) := by
  cases found with
  | none =>
    have hs : s = ∅ := h
    subst hs
    exact ⟨fun j => ⟨nofun, fun hj => nomatch hj.1⟩, fun _ => rfl, fun _ => rfl⟩
  | some k =>
    have hk : IsLeast s k := h
    refine ⟨fun j => ⟨fun hj => Option.some.inj hj ▸ hk, fun hj => ?_⟩, nofun, fun hs => ?_⟩
    · rw [hk.unique hj]
    · rw [hs] at hk
      exact nomatch hk.1

/-- The zeros of the depth are the first entry, if it ends there, and the zeros behind it. -/
theorem zeros_cons {depth : Int} {i : Nat} {c : Char} {r : List (Nat × Char)}
    (hlater : ∀ e ∈ r, i < e.1) :
    zeros depth ((i, c) :: r) =
      {j | j = i ∧ depth + braceShift c = 0} ∪ zeros (depth + braceShift c) r := by
  -- Up to its own index the first entry stands alone; up to any later one it comes first.
  have hnow : ((i, c) :: r).filter (·.1 ≤ i) = [(i, c)] := by
    rw [List.filter_cons_of_pos (by simp)]
    congr 1
    rw [List.filter_eq_nil_iff]
    intro e he
    have := hlater e he
    simp only [decide_eq_true_eq]
    omega
  have hskip : ∀ j, (∃ d, (j, d) ∈ r) →
      ((i, c) :: r).filter (·.1 ≤ j) = (i, c) :: r.filter (·.1 ≤ j) := by
    rintro j ⟨d, hd⟩
    have := hlater (j, d) hd
    exact List.filter_cons_of_pos (by simp only [decide_eq_true_eq]; omega)
  ext j
  constructor
  · rintro ⟨⟨d, hd⟩, hzero⟩
    rcases List.mem_cons.mp hd with heq | hd
    · obtain ⟨rfl, rfl⟩ := Prod.mk.inj heq
      rw [hnow, braceBalance_cons] at hzero
      exact .inl ⟨rfl, by simpa [braceBalance] using hzero⟩
    · rw [hskip j ⟨d, hd⟩, braceBalance_cons] at hzero
      exact .inr ⟨⟨d, hd⟩, by omega⟩
  · rintro (⟨rfl, hzero⟩ | ⟨⟨d, hd⟩, hzero⟩)
    · refine ⟨⟨c, List.mem_cons_self⟩, ?_⟩
      rw [hnow, braceBalance_cons]
      simpa [braceBalance] using hzero
    · refine ⟨⟨d, List.mem_cons_of_mem _ hd⟩, ?_⟩
      rw [hskip j ⟨d, hd⟩, braceBalance_cons]
      omega

theorem closeIndex_cons (depth : Int) (i : Nat) (c : Char) (r : List (Nat × Char)) (h : 0 < depth) :
    closeIndex depth ((i, c) :: r) =
      if depth + braceShift c = 0 then some i else closeIndex (depth + braceShift c) r := by
  unfold braceShift
  rw [closeIndex]
  by_cases hopen : c = '{'
  · rw [if_pos hopen, if_pos hopen, if_neg (by omega)]
  · rw [if_neg hopen, if_neg hopen]
    by_cases hclose : c = '}'
    · rw [if_pos hclose, if_pos hclose]
      by_cases hone : depth = 1
      · rw [if_pos hone, if_pos (by omega)]
      · rw [if_neg hone, if_neg (by omega)]
        rfl
    · rw [if_neg hclose, if_neg hclose, Int.add_zero, if_neg (by omega)]

/-- The closing index is the least zero of the depth. -/
theorem closeIndex_isFirst {depth : Int} {entries : List (Nat × Char)} (hdepth : 0 < depth)
    (hsorted : entries.Pairwise (·.1 < ·.1)) :
    IsFirst (closeIndex depth entries) (zeros depth entries) := by
  induction entries generalizing depth with
  | nil => exact Set.eq_empty_of_forall_notMem fun j hj => nomatch hj.1
  | cons e r ih =>
    obtain ⟨i, c⟩ := e
    obtain ⟨hlater, hrest⟩ := List.pairwise_cons.mp hsorted
    rw [closeIndex_cons depth i c r hdepth, zeros_cons hlater]
    by_cases hzero : depth + braceShift c = 0
    · rw [if_pos hzero]
      refine ⟨.inl ⟨rfl, hzero⟩, ?_⟩
      rintro j (⟨rfl, -⟩ | ⟨⟨d, hd⟩, -⟩)
      · exact Nat.le_refl _
      · exact Nat.le_of_lt (hlater (j, d) hd)
    -- The count falls by one at most, so it is positive as long as it has not been zero.
    · rw [if_neg hzero, show {j | j = i ∧ depth + braceShift c = 0} = (∅ : Set Nat) from
        Set.eq_empty_of_forall_notMem fun j hj => hzero hj.2, Set.empty_union]
      refine ih ?_ hrest
      have : -1 ≤ braceShift c := by unfold braceShift; split <;> [skip; split] <;> omega
      omega

/-! ## 3. The same scan inside more interpolations -/

def State.within (s : State) (around : List Nat) : State :=
  { s with interpolations := s.interpolations ++ around }

def deepened (n : Nat) : List Nat → List Nat
  | [] => []
  | d :: ds => (d + n) :: ds

/-- Reading `c` by `read` does the same inside of further interpolations as without them. The braces
that are open apart from those counted in the interpolations of `s` are `n` before it and `m` after
it; when the last of these is closed, no interpolation of `s` is open. -/
structure Follows (around : List Nat) (n m : Nat) (read : State → State × Bool) (s : State)
    (c : Char) : Prop where
  within : read (s.within (deepened n around)) =
    ((read s).1.within (deepened m around), (read s).2)
  count : (m : Int) + (read s).1.interpolations.sum =
    n + s.interpolations.sum + if (read s).2 then braceShift c else 0
  closed : m = 0 → (read s).1.interpolations = []

/-- A scan with braces open around it follows the bare scan through a plain character. -/
theorem follows_plain {n : Nat} (hn : 0 < n) (around : List Nat) (s : State) (rev : List Char)
    (c : Char) : ∃ m, Follows around n m (·.plain rev c) s c := by
  obtain ⟨k, rfl⟩ : ∃ k, n = k + 1 := ⟨n - 1, by omega⟩
  obtain ⟨mode, interpolations, preceding⟩ := s
  -- A brace outside of all interpolations of `s` counts for the innermost one around them, if any.
  by_cases hopen : c = '{'
  · subst hopen
    cases interpolations with
    | nil =>
      refine ⟨k + 2, ?_, ?_, nofun⟩
      · cases around <;> rfl
      · show ((k + 2 : Nat) : Int) + (0 : Nat) = (k + 1 : Nat) + (0 : Nat) + 1
        omega
    | cons d ds =>
      refine ⟨k + 1, rfl, ?_, nofun⟩
      show ((k + 1 : Nat) : Int) + (((d + 1) :: ds).sum : Nat) =
        (k + 1 : Nat) + ((d :: ds).sum : Nat) + 1
      rw [List.sum_cons, List.sum_cons]
      omega
  · by_cases hclose : c = '}'
    · subst hclose
      cases interpolations with
      | nil =>
        refine ⟨k, ?_, ?_, fun _ => rfl⟩
        · cases around <;> rfl
        · show (k : Int) + (0 : Nat) = (k + 1 : Nat) + (0 : Nat) + (-1)
          omega
      | cons d ds =>
        cases d with
        | zero =>
          refine ⟨k + 1, rfl, ?_, nofun⟩
          show ((k + 1 : Nat) : Int) + (ds.sum : Nat) = (k + 1 : Nat) + ((0 :: ds).sum : Nat) + 0
          rw [List.sum_cons]
          omega
        | succ d =>
          refine ⟨k + 1, rfl, ?_, nofun⟩
          show ((k + 1 : Nat) : Int) + ((d :: ds).sum : Nat) =
            (k + 1 : Nat) + (((d + 1) :: ds).sum : Nat) + (-1)
          rw [List.sum_cons, List.sum_cons]
          omega
    · refine ⟨k + 1, ?_, ?_, nofun⟩
      · show State.plain _ rev c = _
        rw [plain_other _ rev hopen hclose, plain_other _ rev hopen hclose]
        rfl
      · show ((k + 1 : Nat) : Int) + ((State.plain _ rev c).1.interpolations.sum : Nat) = _
        rw [plain_other _ rev hopen hclose]
        unfold braceShift
        rw [if_neg hopen, if_neg hclose]
        simp

/-- A scan with braces open around it follows the bare scan step by step. -/
theorem follows_step {n : Nat} (hn : 0 < n) (around : List Nat) (s : State) (rev : List Char)
    (c : Char) (next : Option Char) : ∃ m, Follows around n m (·.step rev c next) s c := by
  obtain ⟨mode, ds, p⟩ := s
  obtain ⟨reading, hreading⟩ := step_reading mode p rev c next
  have hwithin : (State.within ⟨mode, ds, p⟩ (deepened n around)).step rev c next =
      reading.result rev c (ds ++ deepened n around) := hreading _
  -- The readings of a character: silent, the opening of an interpolation, or plain code.
  cases reading with
  | silent mode' p' =>
    refine ⟨n, ?_, ?_, fun hzero => by omega⟩
    · rw [hwithin, hreading]
      rfl
    · rw [hreading]
      rfl
  | opening =>
    refine ⟨n, ?_, ?_, fun hzero => by omega⟩
    · rw [hwithin, hreading]
      rfl
    · rw [hreading]
      show (n : Int) + ((0 :: ds).sum : Nat) = n + (ds.sum : Nat) + 0
      rw [List.sum_cons]
      omega
  | plain p' =>
    obtain ⟨m, hplain⟩ := follows_plain hn around ⟨.code, ds, p'⟩ rev c
    refine ⟨m, ?_, ?_, ?_⟩
    · rw [hwithin, hreading]
      exact hplain.within
    · rw [hreading]
      exact hplain.count
    · rw [hreading]
      exact hplain.closed

/-! ## 4. Where a block ends -/

/-- The scan that begins inside of `around` closes the block where the scan without them does. -/
theorem closeIndex_within {n : Nat} (hn : 0 < n) (around : List Nat) (s : State)
    (rev text : List Char) (i : Nat) :
    closeIndex (n + s.interpolations.sum) (codeFrom (s.within (deepened n around)) rev i text) =
      closeIndex (n + s.interpolations.sum) (codeFrom s rev i text) := by
  induction text generalizing n s rev i with
  | nil => rfl
  | cons c r ih =>
    obtain ⟨m, hwithin, hcount, hclosed⟩ := follows_step hn around s rev c r.head?
    rcases hstep : s.step rev c r.head? with ⟨t, isCode⟩
    rw [hstep] at hwithin hcount hclosed
    cases isCode with
    | true =>
      rw [codeFrom_yield hstep, codeFrom_yield hwithin]
      rw [closeIndex_cons _ _ _ _ (by omega), closeIndex_cons _ _ _ _ (by omega)]
      have hdepth : (n : Int) + s.interpolations.sum + braceShift c = m + t.interpolations.sum :=
        hcount.symm
      rw [hdepth]
      -- When the last brace is closed the block ends here in both scans.
      rcases Nat.eq_zero_or_pos m with rfl | hm
      · rw [hclosed rfl]
        rfl
      · rw [ih hm]
    | false =>
      rw [codeFrom_skip hstep, codeFrom_skip hwithin]
      have hdepth : (n : Int) + s.interpolations.sum = m + t.interpolations.sum := by
        have h : (m : Int) + t.interpolations.sum = n + s.interpolations.sum + 0 := hcount
        omega
      rw [hdepth]
      rcases Nat.eq_zero_or_pos m with rfl | hm
      · have hsum : t.interpolations.sum = 0 := by rw [hclosed rfl, List.sum_nil]
        omega
      · exact ih hm t (c :: rev) (i + 1)

/-- The indices from `o` on at which the scan of the whole text has left all braces closed that it
has read from `o` on. -/
def closings (text : List Char) (o : Nat) : Set Nat :=
  {j | o ≤ j ∧ (∃ c, (j, c) ∈ codeChars text) ∧
    braceBalance ((codeChars text).filter fun e => o ≤ e.1 ∧ e.1 ≤ j) = 0}

/-- The closing places of a block are the zeros of the depth in what the scan yields from the
block on. -/
theorem closings_eq_zeros {text : List Char} {o : Nat} {before after : List (Nat × Char)}
    (hscan : codeChars text = before ++ after) (hbefore : ∀ e ∈ before, e.1 < o)
    (hafter : ∀ e ∈ after, o ≤ e.1) : closings text o = zeros 0 after := by
  have hfilter : ∀ j, (codeChars text).filter (fun e => o ≤ e.1 ∧ e.1 ≤ j) =
      after.filter (·.1 ≤ j) := by
    intro j
    rw [hscan, List.filter_append, List.filter_eq_nil_iff.mpr, List.nil_append]
    · refine List.filter_congr fun e he => ?_
      simp [hafter e he]
    · intro e he
      have := hbefore e he
      simp only [decide_eq_true_eq]
      omega
  ext j
  unfold closings zeros
  rw [Set.mem_ofPred_eq, Set.mem_ofPred_eq, hfilter j, hscan]
  constructor
  · rintro ⟨hj, ⟨c, hc⟩, hzero⟩
    rcases List.mem_append.mp hc with h | h
    · have := hbefore (j, c) h
      omega
    · exact ⟨⟨c, h⟩, by omega⟩
  · rintro ⟨⟨c, hc⟩, hzero⟩
    exact ⟨hafter (j, c) hc, ⟨c, List.mem_append_right _ hc⟩, by omega⟩

/-- The state just after an opening brace that is code, whatever mode it is read in. -/
theorem step_openBrace {s t : State} {rev : List Char} {next : Option Char}
    (hstep : s.step rev '{' next = (t, true)) :
    t = State.within { mode := .code, interpolations := [], preceding := .mark '{' }
      (deepened 1 s.interpolations) := by
  obtain ⟨mode, ds, p⟩ := s
  obtain ⟨reading, hreading⟩ := step_reading mode p rev '{' next
  rw [hreading] at hstep
  cases reading with
  | silent => exact nomatch congrArg Prod.snd hstep
  | opening => exact nomatch congrArg Prod.snd hstep
  | plain p' =>
    have ht : t = (State.plain ⟨.code, ds, p'⟩ rev '{').1 := (congrArg Prod.fst hstep).symm
    rw [ht]
    cases ds <;> rfl

/-- The end that is found for a block by scanning from its opening brace is the first code character
of the whole text, from that brace on, at which as many braces have been closed as opened. -/
theorem blockEnd_eq_first_closing (text : List Char) (o : Nat)
    (hbrace : (o, '{') ∈ codeChars text) :
    (∀ j, blockEnd text o = some j ↔ IsLeast (closings text o) j) ∧
      (blockEnd text o = none ↔ closings text o = ∅) := by
  obtain ⟨before, pre, rest, s, t, htext, ho, hbefore, hyield, hscan⟩ := codeChars_cut hbrace
  have hrestart : ∀ next, State.step {} pre.reverse '{' next =
      ({ mode := .code, interpolations := [], preceding := .mark '{' }, true) := fun _ => rfl
  have htake : text.take o = pre := by
    rw [htext, ho]
    exact List.take_left
  have hdrop : text.drop o = '{' :: rest := by
    rw [htext, ho]
    exact List.drop_left
  rw [codeFrom_yield hyield] at hscan
  -- After the brace the two scans differ in the interpolations around it only.
  have hend : blockEnd text o = closeIndex 1 (codeFrom t ('{' :: pre.reverse) (o + 1) rest) := by
    unfold blockEnd codeChars
    rw [htake, hdrop, codeFrom_yield (hrestart _), step_openBrace hyield]
    exact (closeIndex_within Nat.one_pos s.interpolations
      { mode := .code, interpolations := [], preceding := .mark '{' } _ rest (o + 1)).symm
  have hlater : ∀ e ∈ codeFrom t ('{' :: pre.reverse) (o + 1) rest, o < e.1 :=
    fun e he => (mem_codeFrom he).1
  have hclosings : closings text o = zeros 1 (codeFrom t ('{' :: pre.reverse) (o + 1) rest) := by
    rw [closings_eq_zeros hscan hbefore, zeros_cons hlater]
    · rw [show {j | j = o ∧ (0 : Int) + braceShift '{' = 0} = (∅ : Set Nat) from
        Set.eq_empty_of_forall_notMem fun j hj => absurd hj.2 (by decide), Set.empty_union]
      rfl
    · intro e he
      rcases List.mem_cons.mp he with rfl | he
      · exact Nat.le_refl _
      · exact Nat.le_of_lt (hlater e he)
  rw [hend, hclosings]
  exact (closeIndex_isFirst Int.one_pos (codeFrom_pairwise_lt _ _ _ _)).iffs

/-- A block in an interpolation of a template that lies in an interpolation of another. -/
theorem blockEnd_eq_first_closing_nested :
    let text := "`$\x7b`$\x7b\x7b\x7d\x7d`\x7d`".toList
    (6, '{') ∈ codeChars text ∧ blockEnd text 6 = some 7 ∧ IsLeast (closings text 6) 7 := by
  intro text
  have hbrace : (6, '{') ∈ codeChars text := by decide
  have hend : blockEnd text 6 = some 7 := by decide
  exact ⟨hbrace, hend, ((blockEnd_eq_first_closing text 6 hbrace).1 7).mp hend⟩

end Grading.Source
