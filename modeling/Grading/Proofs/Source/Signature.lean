import Mathlib.Algebra.BigOperators.Group.List.Basic
import Mathlib.Algebra.Ring.Int.Defs
import Grading.Source.Body
import Grading.Proofs.Source.Rendering

/-!
# Signature — the texts that a search for a body passes over

Between the head of a declaration and its body stand parameters, types and clauses. They have
braces of their own; the searches pass over those that the brackets around them, or a type before
them, mark as such.
-/

namespace Grading.Source

open Grading.Text

/-! ## 1. Plain texts -/

/-- No quote, backtick or slash. -/
def IsPlain (s : List Char) : Prop := ∀ c ∈ s, c ≠ '\'' ∧ c ≠ '"' ∧ c ≠ '`' ∧ c ≠ '/'

instance (s : List Char) : Decidable (IsPlain s) := List.decidableBAll _ s

@[simp]
theorem isPlain_cons {c : Char} {s : List Char} :
    IsPlain (c :: s) ↔ (c ≠ '\'' ∧ c ≠ '"' ∧ c ≠ '`' ∧ c ≠ '/') ∧ IsPlain s :=
  List.forall_mem_cons

@[simp]
theorem isPlain_append {s t : List Char} : IsPlain (s ++ t) ↔ IsPlain s ∧ IsPlain t :=
  List.forall_mem_append

@[simp]
theorem isPlain_nil : IsPlain [] := nofun

/-- A scan that begins with a plain text yields all of it. -/
theorem codeChars_plain (head : List Char) {s : List Char} (hs : IsPlain s) (rest : List Char) :
    ∃ later, codeChars (head ++ (s ++ rest)) head.length = indexed head.length s ++ later := by
  obtain ⟨p, rev, hscan⟩ :=
    chunk_leads hs (foldlM_readBrace_nil s) head.length rest .start head.reverse
  refine ⟨codeFrom ⟨.code, [], p⟩ rev (head.length + s.length) rest, ?_⟩
  unfold codeChars
  rw [List.take_left, List.drop_left]
  exact hscan

theorem indexed_append (i : Nat) (s t : List Char) :
    indexed i (s ++ t) = indexed i s ++ indexed (i + s.length) t := by
  induction s generalizing i with
  | nil => rfl
  | cons c s ih =>
    rw [List.cons_append, indexed, ih, List.length_cons, Nat.add_right_comm i 1]
    rfl

/-! ## 2. Depths -/

def pairShift (opening closing c : Char) : Int :=
  if c = opening then 1 else if c = closing then -1 else 0

inductive Nests (shift : Char → Int) : Nat → List Char → Nat → Prop
  | nil (n : Nat) : Nests shift n [] n
  | cons {n k m : Nat} {c : Char} {r : List Char} (hstep : (k : Int) = n + shift c)
      (hrest : Nests shift k r m) : Nests shift n (c :: r) m

theorem nests_of_sum {shift : Char → Int} {s : List Char} {n m : Nat}
    (hbegun : ∀ p, p <+: s → 0 ≤ n + (p.map shift).sum)
    (hend : (m : Int) = n + (s.map shift).sum) : Nests shift n s m := by
  induction s generalizing n with
  | nil =>
    obtain rfl : m = n := by simp at hend; omega
    exact .nil m
  | cons c r ih =>
    have hhead : 0 ≤ n + shift c := by simpa using hbegun [c] (List.prefix_append [c] r)
    have hk : ((n + shift c).toNat : Int) = n + shift c := Int.toNat_of_nonneg hhead
    apply Nests.cons hk
    apply ih
    · intro p hp
      have := hbegun (c :: p) (List.cons_prefix_cons.mpr ⟨rfl, hp⟩)
      rw [List.map_cons, List.sum_cons] at this
      omega
    · rw [List.map_cons, List.sum_cons] at hend
      omega

/-- The shifts of a pair of brackets add up to the difference of their counts. -/
theorem sum_pairShift {opening closing : Char} (hne : opening ≠ closing) (s : List Char) :
    (s.map (pairShift opening closing)).sum = (s.count opening : Int) - s.count closing := by
  induction s with
  | nil => rfl
  | cons c r ih =>
    rw [List.map_cons, List.sum_cons, ih, pairShift]
    by_cases hopen : c = opening
    · subst hopen
      rw [if_pos rfl, List.count_cons_self, List.count_cons_of_ne hne]
      omega
    rw [if_neg hopen, List.count_cons_of_ne hopen]
    by_cases hclose : c = closing
    · subst hclose
      rw [if_pos rfl, List.count_cons_self]
      omega
    · rw [if_neg hclose, List.count_cons_of_ne hclose]
      omega

/-- As many brackets of a kind are closed as opened, and none before it is opened. -/
def Paired (opening closing : Char) (s : List Char) : Prop :=
  s.count opening = s.count closing ∧ ∀ p, p <+: s → p.count closing ≤ p.count opening

instance (opening closing : Char) (s : List Char) : Decidable (Paired opening closing s) :=
  decidable_of_iff
    (s.count opening = s.count closing ∧ ∀ p ∈ s.inits, p.count closing ≤ p.count opening)
    (and_congr_right' (forall_congr' fun p => by rw [List.mem_inits]))

/-- Paired brackets never go below the depth they started at, and end there. -/
theorem Paired.nests {opening closing : Char} (hne : opening ≠ closing) {s : List Char}
    (h : Paired opening closing s) : Nests (pairShift opening closing) 0 s 0 := by
  apply nests_of_sum
  · intro p hp
    have := h.2 p hp
    rw [sum_pairShift hne]
    omega
  · rw [sum_pairShift hne, h.1]
    omega

/-! ## 3. Functions -/

theorem functionBody_on {s t : FunctionSearch} {c : Char} (hblank : isBlank c = false)
    (hstep : s.step c = .on t) (i : Nat) (r : List (Nat × Char)) :
    functionBody s ((i, c) :: r) = functionBody t r := by
  rw [functionBody, hblank, if_neg Bool.false_ne_true, hstep]

theorem functionBody_blank (s : FunctionSearch) {c : Char} (hblank : isBlank c = true) (i : Nat)
    (r : List (Nat × Char)) : functionBody s ((i, c) :: r) = functionBody s r := by
  rw [functionBody, if_pos hblank]

theorem pairShift_of_isBlank (opening closing : Char) {c : Char} (hopen : isBlank opening = false)
    (hclose : isBlank closing = false) (hblank : isBlank c = true) :
    pairShift opening closing c = 0 := by
  have hne : ∀ d, isBlank d = false → c ≠ d := by
    rintro d hd rfl
    rw [hblank] at hd
    exact Bool.false_ne_true hd.symm
  rw [pairShift, if_neg (hne _ hopen), if_neg (hne _ hclose)]

/-- Inside of its parentheses the search goes on at every character. -/
theorem step_params {n k : Nat} {c : Char} (hstep : (k : Int) = n + pairShift '(' ')' c)
    (p : Option Char) : FunctionSearch.step { depth := n + 1, previous := p } c =
      .on { depth := k + 1, previous := some c } := by
  unfold pairShift at hstep
  unfold FunctionSearch.step
  by_cases hopen : c = '('
  · simp [hopen] at hstep ⊢
    omega
  by_cases hclose : c = ')'
  · simp [hclose] at hstep ⊢
    omega
  · have hdepth : (n : Int) + 1 ≠ 0 := by omega
    simp [hopen, hclose, hdepth] at hstep ⊢
    omega

/-- The search passes over a parameter list whose brackets are paired. -/
theorem functionBody_params {s : List Char} {n m : Nat} (h : Nests (pairShift '(' ')') n s m)
    (p : Option Char) (i : Nat) (r : List (Nat × Char)) :
    ∃ p', functionBody { depth := n + 1, previous := p } (indexed i s ++ r) =
      functionBody { depth := m + 1, previous := p' } r := by
  induction h generalizing p i with
  | nil => exact ⟨p, rfl⟩
  | @cons n k m c rest hstep _ ih =>
    rw [indexed, List.cons_append]
    by_cases hblank : isBlank c = true
    · have hshift := pairShift_of_isBlank '(' ')' (by decide) (by decide) hblank
      obtain rfl : k = n := by omega
      rw [functionBody_blank _ hblank]
      exact ih p (i + 1)
    · rw [functionBody_on (by simpa using hblank) (step_params hstep p)]
      exact ih (some c) (i + 1)

/-- A type in braces is passed over up to its closing brace. -/
theorem step_type {n k : Nat} {c : Char} (hstep : (k : Int) = n + pairShift '{' '}' c)
    {s : FunctionSearch} (hs : s.skip = n + 1) :
    s.step c = .on { s with skip := k + 1, previous := some c } := by
  unfold pairShift at hstep
  unfold FunctionSearch.step
  by_cases hopen : c = '{'
  · simp [hopen, hs] at hstep ⊢
    omega
  by_cases hclose : c = '}'
  · simp [hclose, hs] at hstep ⊢
    omega
  · simp [hopen, hclose, hs] at hstep ⊢
    omega

theorem functionBody_type {code : List Char} {n m : Nat} (h : Nests (pairShift '{' '}') n code m)
    {s : FunctionSearch} (hs : s.skip = n + 1) (i : Nat) (r : List (Nat × Char)) :
    ∃ p, functionBody s (indexed i code ++ r) =
      functionBody { s with skip := m + 1, previous := p } r := by
  induction h generalizing s i with
  | nil => exact ⟨s.previous, by rw [← hs]; rfl⟩
  | @cons n k m c rest hstep _ ih =>
    rw [indexed, List.cons_append]
    by_cases hblank : isBlank c = true
    · have hshift := pairShift_of_isBlank '{' '}' (by decide) (by decide) hblank
      obtain rfl : k = n := by omega
      rw [functionBody_blank _ hblank]
      exact ih hs (i + 1)
    · rw [functionBody_on (by simpa using hblank) (step_type hstep hs)]
      exact ih rfl (i + 1)

def returnType : Option (List Char) → List Char
  | none => []
  | some t => ':' :: ' ' :: '{' :: (t ++ ['}'])

/-- The search passes over a return type, the braces of an object type included. -/
theorem functionBody_returnType {type : Option (List Char)} (htype : ∀ t ∈ type, Balanced t)
    (i : Nat) (r : List (Nat × Char)) :
    functionBody { paramsClosed := true, previous := some ')' }
      (indexed i (returnType type ++ [' ', '{']) ++ r) =
        some (i + (returnType type).length + 1) := by
  cases type with
  | none => rfl
  | some t =>
    have hnests : Nests (pairShift '{' '}') 0 t 0 :=
      Paired.nests (by decide) (htype t rfl)
    obtain ⟨p, hp⟩ := functionBody_type hnests
      (s := { paramsClosed := true, skip := 1, previous := some '{' }) rfl (i + 3)
      (indexed (i + 3 + t.length) ['}', ' ', '{'] ++ r)
    have hscan : indexed i (returnType (some t) ++ [' ', '{']) ++ r =
        (i, ':') :: (i + 1, ' ') :: (i + 2, '{') ::
          (indexed (i + 3) t ++ (indexed (i + 3 + t.length) ['}', ' ', '{'] ++ r)) := by
      simp [returnType, indexed, indexed_append]
    have hopen : ∀ r', functionBody { paramsClosed := true, previous := some ')' }
        ((i, ':') :: (i + 1, ' ') :: (i + 2, '{') :: r') =
          functionBody { paramsClosed := true, skip := 1, previous := some '{' } r' :=
      fun _ => rfl
    -- The braces of the type are skipped, then the next one is that of the body.
    rw [hscan, hopen, hp]
    have hlength : i + (returnType (some t)).length + 1 = i + 3 + t.length + 2 := by
      simp [returnType]
      omega
    rw [hlength]
    rfl

/-- The search for the body of a function passes over its parameters and its return type. -/
theorem functionBody_signature {params : List Char} (hparams : Paired '(' ')' params)
    {type : Option (List Char)} (htype : ∀ t ∈ type, Balanced t) (i : Nat) (r : List (Nat × Char)) :
    functionBody {} (indexed i ('(' :: (params ++ ')' :: (returnType type ++ [' ', '{']))) ++ r) =
      some (i + ('(' :: (params ++ ')' :: (returnType type ++ [' ']))).length) := by
  obtain ⟨p, hp⟩ := functionBody_params (hparams.nests (by decide)) (some '(') (i + 1)
    (indexed (i + 1 + params.length) (')' :: (returnType type ++ [' ', '{'])) ++ r)
  have hscan : indexed i ('(' :: (params ++ ')' :: (returnType type ++ [' ', '{']))) ++ r =
      (i, '(') :: (indexed (i + 1) params ++
        (indexed (i + 1 + params.length) (')' :: (returnType type ++ [' ', '{'])) ++ r)) := by
    simp [indexed, indexed_append]
  have hopen : ∀ r', functionBody {} ((i, '(') :: r') =
      functionBody { depth := ((0 : Nat) : Int) + 1, previous := some '(' } r' := fun _ => rfl
  have hclose : ∀ j r', functionBody { depth := ((0 : Nat) : Int) + 1, previous := p }
      ((j, ')') :: r') = functionBody { paramsClosed := true, previous := some ')' } r' :=
    fun _ _ => rfl
  rw [hscan, hopen, hp, indexed, List.cons_append, hclose, functionBody_returnType htype]
  simp
  omega

/-! ## 4. Classes -/

def listShift (c : Char) : Int := pairShift '(' ')' c + pairShift '[' ']' c

theorem sum_listShift (s : List Char) :
    (s.map listShift).sum =
      (s.map (pairShift '(' ')')).sum + (s.map (pairShift '[' ']')).sum :=
  List.sum_map_add

/-- The clauses of a class: apart from its brackets, no brace and no semicolon. -/
structure Heritage (s : List Char) : Prop where
  plain : IsPlain s
  apart : s.head?.all (· = ' ')
  parens : Paired '(' ')' s
  squares : Paired '[' ']' s
  inside : ∀ i < s.length, s[i]? = some '{' ∨ s[i]? = some ';' →
    (s.take i).count ')' < (s.take i).count '(' ∨ (s.take i).count ']' < (s.take i).count '['

instance (s : List Char) : Decidable (Heritage s) :=
  decidable_of_iff
    (IsPlain s ∧ s.head?.all (· = ' ') ∧ Paired '(' ')' s ∧ Paired '[' ']' s ∧
      ∀ i < s.length, s[i]? = some '{' ∨ s[i]? = some ';' →
        (s.take i).count ')' < (s.take i).count '(' ∨ (s.take i).count ']' < (s.take i).count '[')
    ⟨fun ⟨h₁, h₂, h₃, h₄, h₅⟩ => ⟨h₁, h₂, h₃, h₄, h₅⟩, fun ⟨h₁, h₂, h₃, h₄, h₅⟩ =>
      ⟨h₁, h₂, h₃, h₄, h₅⟩⟩

theorem Heritage.depth_nonneg {s p : List Char} (h : Heritage s) (hp : p <+: s) :
    0 ≤ (p.map listShift).sum := by
  have hparens := h.parens.2 p hp
  have hsquares := h.squares.2 p hp
  rw [sum_listShift, sum_pairShift (by decide), sum_pairShift (by decide)]
  omega

/-- The brackets of a heritage clause are paired. -/
theorem Heritage.nests {s : List Char} (h : Heritage s) : Nests listShift 0 s 0 := by
  apply nests_of_sum
  · intro p hp
    have := h.depth_nonneg hp
    omega
  · rw [sum_listShift, sum_pairShift (by decide), sum_pairShift (by decide), h.parens.1,
      h.squares.1]
    omega

theorem Heritage.depth_pos {s : List Char} (h : Heritage s) {i : Nat} (hi : i < s.length)
    (hc : s[i]? = some '{' ∨ s[i]? = some ';') : 0 < ((s.take i).map listShift).sum := by
  have hparens := h.parens.2 _ (List.take_prefix i s)
  have hsquares := h.squares.2 _ (List.take_prefix i s)
  have := h.inside i hi hc
  rw [sum_listShift, sum_pairShift (by decide), sum_pairShift (by decide)]
  omega

theorem classBody_cons {n k : Nat} {c : Char} (hstep : (k : Int) = n + listShift c)
    (hinside : c = '{' ∨ c = ';' → 0 < n) (i : Nat) (r : List (Nat × Char)) :
    classBody n ((i, c) :: r) = classBody k r := by
  rw [classBody]
  by_cases hopen : c = '(' ∨ c = '['
  · have hshift : listShift c = 1 := by rcases hopen with rfl | rfl <;> rfl
    rw [if_pos (by simpa using hopen), hstep, hshift]
  rw [if_neg (by simpa using hopen)]
  by_cases hclose : c = ')' ∨ c = ']'
  · have hshift : listShift c = -1 := by rcases hclose with rfl | rfl <;> rfl
    rw [if_pos (by simpa using hclose), hstep, hshift]
    rfl
  rw [if_neg (by simpa using hclose)]
  obtain ⟨hparen, hsquare⟩ := not_or.mp hopen
  obtain ⟨hparen', hsquare'⟩ := not_or.mp hclose
  have hshift : listShift c = 0 := by simp [listShift, pairShift, *]
  obtain rfl : k = n := by omega
  have hdepth : c = '{' ∨ c = ';' → (k : Int) ≠ 0 := fun hc => by
    have := hinside hc
    omega
  rw [if_neg, if_neg]
  · simpa using fun hc => hdepth (.inr hc)
  · simpa using fun hc => hdepth (.inl hc)

/-- A search for the body of a class passes over a text whose braces and semicolons stand inside of
brackets. -/
theorem classBody_nests {s : List Char} {n m : Nat} (h : Nests listShift n s m)
    (hinside : ∀ i < s.length, s[i]? = some '{' ∨ s[i]? = some ';' →
      0 < n + ((s.take i).map listShift).sum) (i : Nat) (r : List (Nat × Char)) :
    classBody n (indexed i s ++ r) = classBody m r := by
  induction h generalizing i with
  | nil => rfl
  | @cons n k m c rest hstep _ ih =>
    have hhere : c = '{' ∨ c = ';' → 0 < n := by
      intro hc
      have := hinside 0 (Nat.succ_pos _) (by simpa using hc)
      simpa using this
    rw [indexed, List.cons_append, classBody_cons hstep hhere]
    apply ih
    intro j hj hc
    have := hinside (j + 1) (Nat.succ_lt_succ hj) (by simpa using hc)
    rw [List.take_succ_cons, List.map_cons, List.sum_cons] at this
    omega

/-- The search for the body of a class passes over its clauses. -/
theorem classBody_signature {heritage : List Char} (h : Heritage heritage) (i : Nat)
    (r : List (Nat × Char)) :
    classBody 0 (indexed i (heritage ++ [' ', '{']) ++ r) =
      some (i + (heritage ++ [' ']).length) := by
  have hinside : ∀ j < heritage.length, heritage[j]? = some '{' ∨ heritage[j]? = some ';' →
      0 < ((0 : Nat) : Int) + ((heritage.take j).map listShift).sum := by
    intro j hj hc
    have := h.depth_pos hj hc
    omega
  have hpass := classBody_nests h.nests hinside i
    (indexed (i + heritage.length) [' ', '{'] ++ r)
  rw [indexed_append, List.append_assoc, List.length_append]
  exact hpass

/-! ## 5. Bindings -/

/-- Reads one character of a text with properly nested brackets. The state has the closing brackets
that are still to come, the next one first. -/
def readBracket (expected : List Char) (c : Char) : Option (List Char) :=
  if c = '(' then some (')' :: expected)
  else if c = '[' then some (']' :: expected)
  else if c = '{' then some ('}' :: expected)
  else if c = ')' ∨ c = ']' ∨ c = '}' then
    if expected.head? = some c then some expected.tail else none
  else some expected

def IsNested (s : List Char) : Prop := s.foldlM readBracket [] = some []

instance (s : List Char) : Decidable (IsNested s) := inferInstanceAs (Decidable (_ = _))

def bracketShift (c : Char) : Int :=
  if c = '(' ∨ c = '[' ∨ c = '{' then 1 else if c = ')' ∨ c = ']' ∨ c = '}' then -1 else 0

/-- The stack of expected brackets is as long as the depth counts. -/
theorem length_readBracket {expected expected' : List Char} {c : Char}
    (h : readBracket expected c = some expected') :
    (expected'.length : Int) = expected.length + bracketShift c := by
  unfold readBracket at h
  by_cases hopen : c = '(' ∨ c = '[' ∨ c = '{'
  · rcases hopen with rfl | rfl | rfl <;> (obtain rfl := Option.some.inj h; rfl)
  obtain ⟨hparen, hsquare, hbrace⟩ : c ≠ '(' ∧ c ≠ '[' ∧ c ≠ '{' := by simpa using hopen
  rw [if_neg hparen, if_neg hsquare, if_neg hbrace] at h
  rw [bracketShift, if_neg hopen]
  by_cases hclose : c = ')' ∨ c = ']' ∨ c = '}'
  · rw [if_pos hclose] at h ⊢
    cases expected with
    | nil => exact nomatch h
    | cons d expected =>
      split at h
      · obtain rfl := Option.some.inj h
        rw [List.tail_cons, List.length_cons]
        omega
      · exact nomatch h
  · rw [if_neg hclose] at h ⊢
    rw [Option.some.inj h, Int.add_zero]

theorem nests_of_readBracket {s expected expected' : List Char}
    (h : s.foldlM readBracket expected = some expected') :
    Nests bracketShift expected.length s expected'.length := by
  induction s generalizing expected with
  | nil =>
    obtain rfl := Option.some.inj h
    exact .nil _
  | cons c r ih =>
    rw [List.foldlM_cons] at h
    obtain ⟨next, hnext, hrest⟩ := Option.bind_eq_some_iff.mp h
    exact .cons (length_readBracket hnext) (ih hrest)

theorem IsNested.nests {s : List Char} (h : IsNested s) : Nests bracketShift 0 s 0 :=
  nests_of_readBracket h

def seen (s : List Char) : List Char := (s.filter (!isBlank ·)).reverse

/-- A brace after these characters, last one first, opens a body inside of brackets too: they end in
a closing parenthesis or an arrow. -/
def IsBodyMark (back : List Char) : Prop := [')'] <+: back ∨ ['>', '='] <+: back

instance (back : List Char) : Decidable (IsBodyMark back) := inferInstanceAs (Decidable (_ ∨ _))

def Recalls (s : ValueSearch) (back : List Char) : Prop :=
  s.previous = back.head? ∧ s.beforePrevious = back.tail.head?

theorem Recalls.opensBody_iff {s : ValueSearch} {back : List Char} (h : Recalls s back)
    (hdepth : s.depth ≠ 0) : s.opensBody = true ↔ IsBodyMark back := by
  unfold ValueSearch.opensBody IsBodyMark
  rw [h.1, h.2]
  match back with
  | [] => simp [hdepth]
  | [c] => simp [hdepth, @eq_comm _ c]
  | c :: d :: r => simp [hdepth, @eq_comm _ c, @eq_comm _ d]

/-- Inside of its brackets the search goes on at every character but a brace that opens a body. -/
theorem valueBody_cons {n k : Nat} {c : Char} (hstep : (k : Int) = n + bracketShift c)
    {s : ValueSearch} (hdepth : s.depth = n + 1) (hblank : isBlank c = false)
    (hbrace : c = '{' → s.opensBody = false) (text : List Char) (i : Nat) (r : List (Nat × Char)) :
    ∃ f, valueBody text s ((i, c) :: r) =
      valueBody text { depth := k + 1, fallback := f, previous := some c,
                       beforePrevious := s.previous } r := by
  have hne : s.depth ≠ 0 := by omega
  rw [valueBody, hblank, if_neg Bool.false_ne_true, if_neg (by simp [hne])]
  by_cases hopen : c = '{'
  · have hshift : bracketShift c = 1 := by rw [hopen]; rfl
    refine ⟨s.fallback.or (some i), ?_⟩
    rw [if_pos hopen, hbrace hopen, if_neg Bool.false_ne_true, hstep, hshift, hdepth]
  refine ⟨s.fallback, ?_⟩
  rw [if_neg hopen]
  by_cases hlist : c = '(' ∨ c = '['
  · have hshift : bracketShift c = 1 := by rcases hlist with rfl | rfl <;> rfl
    rw [if_pos (by simpa using hlist), hstep, hshift, hdepth]
  rw [if_neg (by simpa using hlist)]
  by_cases hclose : c = ')' ∨ c = ']' ∨ c = '}'
  · have hshift : bracketShift c = -1 := by rcases hclose with rfl | rfl | rfl <;> rfl
    have hdown : (k : Int) + 1 = s.depth - 1 := by omega
    rw [if_pos (by simpa [or_assoc] using hclose), hdown]
  rw [if_neg (by simpa [or_assoc] using hclose), if_neg (by simp; omega)]
  have hshift : (k : Int) + 1 = s.depth := by
    rw [hstep, hdepth, bracketShift, if_neg (by tauto), if_neg hclose, Int.add_zero]
  rw [hshift]

theorem seen_cons_blank {c : Char} (hblank : isBlank c = true) (s : List Char) :
    seen (c :: s) = seen s := by
  simp [seen, hblank]

theorem seen_cons {c : Char} (hblank : isBlank c = false) (s : List Char) :
    seen (c :: s) = seen s ++ [c] := by
  simp [seen, hblank]

theorem append_brace_prefix_cons {p r : List Char} {c : Char} :
    p ++ ['{'] <+: c :: r ↔ p = [] ∧ c = '{' ∨ ∃ p', p = c :: p' ∧ p' ++ ['{'] <+: r := by
  cases p with
  | nil => simp [List.cons_prefix_cons, eq_comm]
  | cons d p => simp [List.cons_prefix_cons]

/-- A search for the body of a bound value stops inside of brackets at the first brace that a
parenthesis or an arrow precedes, and passes over all if there is none. -/
theorem valueBody_nests {code : List Char} {n m : Nat} (h : Nests bracketShift n code m)
    {s : ValueSearch} {back : List Char} (hs : Recalls s back) (hdepth : s.depth = n + 1)
    (text : List Char) (i : Nat) (r : List (Nat × Char)) :
    (∃ p, p ++ ['{'] <+: code ∧ IsBodyMark (seen p ++ back) ∧
      valueBody text s (indexed i code ++ r) = some (i + p.length)) ∨
    ((∀ p, p ++ ['{'] <+: code → ¬ IsBodyMark (seen p ++ back)) ∧
      ∃ t : ValueSearch, t.depth = m + 1 ∧
        valueBody text s (indexed i code ++ r) = valueBody text t r) := by
  induction h generalizing s back i with
  | nil => exact .inr ⟨fun p hp => by simp at hp, s, hdepth, rfl⟩
  | @cons n k m c rest hstep _ ih =>
    rw [indexed, List.cons_append]
    -- Whether blank or not, a character at which the search goes on moves the statement on by one.
    have hgo : ∀ {s' : ValueSearch} {back' : List Char}, Recalls s' back' → s'.depth = k + 1 →
        (∀ p, seen (c :: p) ++ back = seen p ++ back') → (c = '{' → ¬ IsBodyMark back) →
        (∃ p, p ++ ['{'] <+: c :: rest ∧ IsBodyMark (seen p ++ back) ∧
          valueBody text s' (indexed (i + 1) rest ++ r) = some (i + p.length)) ∨
        ((∀ p, p ++ ['{'] <+: c :: rest → ¬ IsBodyMark (seen p ++ back)) ∧
          ∃ t : ValueSearch, t.depth = m + 1 ∧
            valueBody text s' (indexed (i + 1) rest ++ r) = valueBody text t r) := by
      intro s' back' hs' hdepth' hseen hhere
      rcases ih hs' hdepth' (i + 1) with ⟨p, hp, hmark, hfound⟩ | ⟨hnone, hpass⟩
      · refine .inl ⟨c :: p, List.cons_prefix_cons.mpr ⟨rfl, hp⟩, ?_, ?_⟩
        · rwa [hseen]
        · rw [hfound, List.length_cons, Nat.add_assoc, Nat.add_comm 1]
      · refine .inr ⟨fun p hp => ?_, hpass⟩
        rcases append_brace_prefix_cons.mp hp with ⟨rfl, hc⟩ | ⟨p', rfl, hp'⟩
        · exact hhere hc
        · rw [hseen]
          exact hnone p' hp'
    by_cases hblank : isBlank c = true
    · have hshift : bracketShift c = 0 := by
        unfold bracketShift
        rw [if_neg, if_neg] <;> (rintro (rfl | rfl | rfl) <;> exact absurd hblank (by decide))
      rw [valueBody, if_pos hblank]
      apply hgo hs (by omega)
      · exact fun p => by rw [seen_cons_blank hblank]
      · rintro rfl
        exact absurd hblank (by decide)
    rw [Bool.not_eq_true] at hblank
    by_cases hbody : c = '{' ∧ s.opensBody = true
    · obtain ⟨rfl, hopens⟩ := hbody
      refine .inl ⟨[], by simp, (hs.opensBody_iff (by omega)).mp hopens, ?_⟩
      rw [valueBody, hblank, if_neg Bool.false_ne_true, if_neg (by simp), if_pos rfl, if_pos hopens]
      rfl
    · have hclosed : c = '{' → s.opensBody = false := by simpa using hbody
      obtain ⟨f, hnext⟩ :=
        valueBody_cons hstep hdepth hblank hclosed text i (indexed (i + 1) rest ++ r)
      have hrecalls : Recalls ⟨k + 1, f, some c, s.previous⟩ (c :: back) := ⟨rfl, hs.1⟩
      rw [hnext]
      apply hgo hrecalls rfl
      · exact fun p => by rw [seen_cons hblank, List.append_assoc, List.singleton_append]
      · intro hc hmark
        rw [← hs.opensBody_iff (by omega), hclosed hc] at hmark
        exact Bool.false_ne_true hmark

/-- What stands in the parameters of an arrow function up to some brace ends in a closing
parenthesis or an arrow. -/
def HasBodyMark (params : List Char) : Prop :=
  ∃ p, p ++ ['{'] <+: params ∧ IsBodyMark (seen p)

instance (params : List Char) : Decidable (HasBodyMark params) :=
  decidable_of_iff (∃ p ∈ params.inits, p ++ ['{'] <+: params ∧ IsBodyMark (seen p))
    (exists_congr fun p => and_iff_right_of_imp fun h =>
      (List.mem_inits p params).mpr ((List.prefix_append p ['{']).trans h.1))

theorem isBodyMark_append (back : List Char) :
    IsBodyMark (back ++ ['(', '=']) ↔ IsBodyMark back := by
  match back with
  | [] => simp [IsBodyMark]
  | [c] => simp [IsBodyMark]
  | c :: d :: r => simp [IsBodyMark]

/-- The search for the body of an arrow function passes over its parameters unless one of their
braces looks like the body. -/
theorem valueBody_signature {params : List Char} (h : IsNested params) (text : List Char) (i : Nat)
    (r : List (Nat × Char)) :
    (¬ HasBodyMark params ∧
      valueBody text {} (indexed i (' ' :: '(' :: (params ++ ") => \x7b".toList)) ++ r) =
        some (i + (' ' :: '(' :: (params ++ ") => ".toList)).length)) ∨
    (HasBodyMark params ∧ ∃ k < params.length,
      valueBody text {} (indexed i (' ' :: '(' :: (params ++ ") => \x7b".toList)) ++ r) =
        some (i + 2 + k)) := by
  have hscan : indexed i (' ' :: '(' :: (params ++ ") => \x7b".toList)) ++ r =
      (i, ' ') :: (i + 1, '(') :: (indexed (i + 2) params ++
        (indexed (i + 2 + params.length) ") => \x7b".toList ++ r)) := by
    simp [indexed, indexed_append]
  have hopen : ∀ r', valueBody text {} ((i, ' ') :: (i + 1, '(') :: r') =
      valueBody text { depth := ((0 : Nat) : Int) + 1, previous := some '(',
                       beforePrevious := some '=' } r' := fun _ => rfl
  -- Behind the parameters the arrow makes the next brace that of the body.
  have hclose : ∀ (t : ValueSearch) (j : Nat), t.depth = ((0 : Nat) : Int) + 1 →
      valueBody text t (indexed j ") => \x7b".toList ++ r) = some (j + 5) := by
    rintro ⟨depth, fallback, previous, beforePrevious⟩ j rfl
    rfl
  have hrecalls : Recalls { depth := ((0 : Nat) : Int) + 1, previous := some '(',
                            beforePrevious := some '=' } ['(', '='] := ⟨rfl, rfl⟩
  rw [hscan, hopen]
  -- The search finds a brace among the parameters or arrives behind them.
  rcases valueBody_nests h.nests hrecalls rfl text (i + 2)
      (indexed (i + 2 + params.length) ") => \x7b".toList ++ r) with
    ⟨p, hp, hmark, hfound⟩ | ⟨hnone, t, ht, hpass⟩
  · refine .inr ⟨⟨p, hp, (isBodyMark_append _).mp hmark⟩, p.length, ?_, hfound⟩
    have := hp.length_le
    rw [List.length_append, List.length_singleton] at this
    omega
  · refine .inl ⟨?_, ?_⟩
    · rintro ⟨p, hp, hmark⟩
      exact hnone p hp ((isBodyMark_append _).mpr hmark)
    · rw [hpass, hclose t _ ht]
      have hlength : ") => ".toList.length = 5 := rfl
      rw [List.length_cons, List.length_cons, List.length_append, hlength]
      congr 1
      omega

end Grading.Source
