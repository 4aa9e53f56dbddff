import Grading.Proofs.Source.Delimiters
import Grading.Proofs.Source.Signature

/-!
# Value — how far the body of a binding is looked for

The search for the body of a bound value counts open brackets of all kinds and stops where the
statement ends. A closing bracket that closes none of the value itself, which belongs to the block around
the declaration, does not stop it. So a body that is found belongs to that block just when all is settled
before such a bracket.
-/

namespace Grading.Source

open Grading.Text

/-! ## 1. One character -/

def ValueSearch.ends (s : ValueSearch) (text : List Char) (e : Nat × Char) : Bool :=
  (s.depth = 0 && "celiv".toList.contains e.2 && statementStarts text e.1) ||
    (e.2 = ';' && s.depth ≤ 0)

def ValueSearch.read (s : ValueSearch) (e : Nat × Char) : ValueSearch :=
  if isBlank e.2 then s
  else { depth := s.depth + bracketShift e.2,
         fallback := if e.2 = '{' then s.fallback.or (some e.1) else s.fallback,
         previous := some e.2, beforePrevious := s.previous }

/-- One step of the search for the body of a value: it ends the statement, opens the body, or
reads on. -/
theorem valueBody_step (text : List Char) (s : ValueSearch) (e : Nat × Char)
    (r : List (Nat × Char)) :
    valueBody text s (e :: r) =
      if s.ends text e then s.fallback
      else if e.2 = '{' ∧ s.opensBody = true then some e.1
      else valueBody text (s.read e) r := by
  obtain ⟨i, c⟩ := e
  rw [valueBody, ValueSearch.ends, ValueSearch.read]
  dsimp only
  by_cases hblank : isBlank c = true
  -- None of the characters that the search looks for is a blank.
  · have hother : ∀ d, isBlank d = false → c ≠ d := by
      rintro d hd rfl
      rw [hd] at hblank
      exact Bool.false_ne_true hblank
    have hword : "celiv".toList.contains c = false := by
      rw [Bool.eq_false_iff]
      intro hmem
      have hletter : c = 'c' ∨ c = 'e' ∨ c = 'l' ∨ c = 'i' ∨ c = 'v' := by simpa using hmem
      rcases hletter with rfl | rfl | rfl | rfl | rfl <;> exact absurd hblank (by decide)
    have hend : c ≠ ';' := hother ';' (by decide)
    have hopen : c ≠ '{' := hother '{' (by decide)
    rw [if_pos hblank, if_pos hblank, hword]
    simp [hend, hopen]
  rw [if_neg hblank, if_neg hblank]
  by_cases hstarts : (s.depth = 0 && "celiv".toList.contains c && statementStarts text i) = true
  · rw [if_pos hstarts, hstarts, Bool.true_or, if_pos rfl]
  rw [if_neg hstarts, Bool.eq_false_iff.mpr hstarts, Bool.false_or]
  by_cases hopen : c = '{'
  · subst hopen
    have hend : ('{' = ';' && s.depth ≤ 0) = false := rfl
    rw [if_pos rfl, hend, if_neg Bool.false_ne_true]
    by_cases hbody : s.opensBody = true
    · rw [if_pos hbody, if_pos ⟨rfl, hbody⟩]
    · rw [if_neg hbody, if_neg fun h => hbody h.2]
      rfl
  rw [if_neg hopen, if_neg fun h : c = '{' ∧ _ => hopen h.1, if_neg hopen]
  by_cases hlist : c = '(' ∨ c = '['
  · have hshift : bracketShift c = 1 := by rcases hlist with rfl | rfl <;> rfl
    have hend : c ≠ ';' := by rcases hlist with rfl | rfl <;> decide
    rw [if_pos (by simpa using hlist), hshift]
    simp [hend]
  rw [if_neg (by simpa using hlist)]
  by_cases hclose : c = ')' ∨ c = ']' ∨ c = '}'
  · have hshift : bracketShift c = -1 := by rcases hclose with rfl | rfl | rfl <;> rfl
    have hend : c ≠ ';' := by rcases hclose with rfl | rfl | rfl <;> decide
    rw [if_pos (by simpa [or_assoc] using hclose), hshift]
    simp [hend, Int.sub_eq_add_neg]
  have hshift : bracketShift c = 0 := by
    rw [bracketShift, if_neg (by tauto), if_neg hclose]
  rw [if_neg (by simpa [or_assoc] using hclose), hshift, Int.add_zero]

/-! ## 2. What is before a place in a value -/

def bracketBalance (entries : List (Nat × Char)) : Int :=
  (entries.map fun e => bracketShift e.2).sum

def lookBack (before : List (Nat × Char)) : List Char := seen (before.map Prod.snd) ++ ['=']

/-- A brace after these characters of a value opens its body for certain: it follows a parameter list,
an arrow or, outside of brackets, an equals sign or a word. -/
def OpensBody (before : List (Nat × Char)) : Prop :=
  IsBodyMark (lookBack before) ∨ bracketBalance before = 0 ∧
    (lookBack before).head?.any (fun c => c = '=' || isIdentChar c) = true

/-- The statement ends at this character of a value, when these come before: at a word that begins
another statement, or at a semicolon. -/
def EndsStatement (text : List Char) (before : List (Nat × Char)) (e : Nat × Char) : Prop :=
  (bracketBalance before = 0 ∧ e.2 ∈ "celiv".toList ∧ statementStarts text e.1 = true) ∨
    (e.2 = ';' ∧ bracketBalance before ≤ 0)

/-- These characters of a value hold the end of the statement or the brace of a body that opens for
certain. -/
def Settled (text : List Char) (before : List (Nat × Char)) : Prop :=
  ∃ p e r, before = p ++ e :: r ∧ (EndsStatement text p e ∨ e.2 = '{' ∧ OpensBody p)

/-- The brace at index `b` is the first that opens a body for certain, and the statement does not end
before it. -/
def FindsBody (text : List Char) (entries : List (Nat × Char)) (b : Nat) : Prop :=
  ∃ p r, entries = p ++ (b, '{') :: r ∧ OpensBody p ∧ ¬ Settled text p

/-- The brace at index `b` is the first of all, and the statement does not end before it. -/
def FallsBack (text : List Char) (entries : List (Nat × Char)) (b : Nat) : Prop :=
  ∃ p r, entries = p ++ (b, '{') :: r ∧ (∀ e ∈ p, e.2 ≠ '{') ∧ ¬ Settled text p

theorem bracketBalance_concat (before : List (Nat × Char)) (e : Nat × Char) :
    bracketBalance (before ++ [e]) = bracketBalance before + bracketShift e.2 := by
  simp [bracketBalance]

theorem lookBack_concat (before : List (Nat × Char)) (e : Nat × Char) :
    lookBack (before ++ [e]) = if isBlank e.2 then lookBack before else e.2 :: lookBack before := by
  by_cases hblank : isBlank e.2 = true
  · simp [lookBack, seen, hblank]
  · simp [lookBack, seen, hblank]

theorem bracketShift_of_isBlank {c : Char} (h : isBlank c = true) : bracketShift c = 0 := by
  unfold bracketShift
  rw [if_neg, if_neg] <;> (rintro (rfl | rfl | rfl) <;> exact absurd h (by decide))

theorem Settled.append {text : List Char} {before : List (Nat × Char)} (h : Settled text before)
    (more : List (Nat × Char)) : Settled text (before ++ more) := by
  obtain ⟨p, e, r, rfl, hend⟩ := h
  exact ⟨p, e, r ++ more, by rw [List.append_assoc, List.cons_append], hend⟩

/-- The search is settled by the last entry or was settled before. -/
theorem settled_concat {text : List Char} {before : List (Nat × Char)} {e : Nat × Char} :
    Settled text (before ++ [e]) ↔
      Settled text before ∨ EndsStatement text before e ∨ e.2 = '{' ∧ OpensBody before := by
  constructor
  · rintro ⟨p, d, r, heq, hend⟩
    rcases List.eq_nil_or_concat r with rfl | ⟨r, d', rfl⟩
    · obtain ⟨rfl, hlast⟩ := List.append_inj' heq rfl
      obtain rfl : e = d := List.singleton_inj.mp hlast
      exact .inr hend
    · rw [List.concat_eq_append, ← List.cons_append, ← List.append_assoc] at heq
      exact .inl ⟨p, d, r, (List.append_inj' heq rfl).1, hend⟩
  · rintro (hbefore | hend)
    · exact hbefore.append [e]
    · exact ⟨before, e, [], rfl, hend⟩

/-! ## 3. The search -/

/-- The state of a search that has read these characters and has not ended. -/
structure Reached (text : List Char) (before : List (Nat × Char)) (s : ValueSearch) : Prop where
  recalls : Recalls s (lookBack before)
  depth : s.depth = bracketBalance before
  fallback : s.fallback = (before.find? (·.2 = '{')).map Prod.fst
  unsettled : ¬ Settled text before

namespace Reached

variable {text : List Char} {before : List (Nat × Char)} {s : ValueSearch}

theorem start (text : List Char) : Reached text [] {} where
  recalls := ⟨rfl, rfl⟩
  depth := rfl
  fallback := rfl
  unsettled := by
    rintro ⟨p, e, r, heq, -⟩
    exact absurd heq (by simp)

theorem ends_iff (h : Reached text before s) (e : Nat × Char) :
    s.ends text e = true ↔ EndsStatement text before e := by
  rw [ValueSearch.ends, EndsStatement, ← h.depth]
  simp [and_assoc]

theorem opensBody_iff (h : Reached text before s) : s.opensBody = true ↔ OpensBody before := by
  unfold ValueSearch.opensBody OpensBody IsBodyMark
  rw [h.recalls.1, h.recalls.2, ← h.depth]
  match lookBack before with
  | [] => simp
  | [c] => simp [@eq_comm _ c]
  | c :: d :: r => simp [@eq_comm _ c, @eq_comm _ d, or_assoc]

theorem read (h : Reached text before s) {e : Nat × Char} (hend : ¬ EndsStatement text before e)
    (hbody : ¬ (e.2 = '{' ∧ OpensBody before)) : Reached text (before ++ [e]) (s.read e) := by
  have hunsettled : ¬ Settled text (before ++ [e]) := by
    rw [settled_concat]
    rintro (hbefore | hnow | hnow)
    · exact h.unsettled hbefore
    · exact hend hnow
    · exact hbody hnow
  have hfind : (before ++ [e]).find? (·.2 = '{') =
      (before.find? (·.2 = '{')).or (if e.2 = '{' then some e else none) := by
    rw [List.find?_append, List.find?_singleton]
    simp
  -- A blank changes nothing; any other character is remembered and counted.
  by_cases hblank : isBlank e.2 = true
  · have hopen : e.2 ≠ '{' := by
      intro hbrace
      rw [hbrace] at hblank
      exact absurd hblank (by decide)
    rw [ValueSearch.read, if_pos hblank]
    refine ⟨?_, ?_, ?_, hunsettled⟩
    · rw [lookBack_concat, if_pos hblank]
      exact h.recalls
    · rw [bracketBalance_concat, bracketShift_of_isBlank hblank, Int.add_zero]
      exact h.depth
    · rw [hfind, if_neg hopen, Option.or_none]
      exact h.fallback
  · rw [ValueSearch.read, if_neg hblank]
    refine ⟨?_, ?_, ?_, hunsettled⟩
    · rw [lookBack_concat, if_neg hblank]
      exact ⟨rfl, h.recalls.1⟩
    · rw [bracketBalance_concat, ← h.depth]
    · rw [hfind, h.fallback]
      dsimp only
      split
      · cases before.find? (·.2 = '{') <;> rfl
      · rw [Option.or_none]

theorem fallsBack (h : Reached text before s) {b : Nat} (hb : s.fallback = some b)
    (rest : List (Nat × Char)) : FallsBack text (before ++ rest) b := by
  rw [h.fallback] at hb
  obtain ⟨⟨j, c⟩, hfind, rfl⟩ := Option.map_eq_some_iff.mp hb
  obtain ⟨hbrace, p, r, rfl, hp⟩ := List.find?_eq_some_iff_append.mp hfind
  obtain rfl : c = '{' := by simpa using hbrace
  refine ⟨p, r ++ rest, by rw [List.append_assoc, List.cons_append], ?_, ?_⟩
  · intro e he
    simpa using hp e he
  · exact fun hsettled => h.unsettled (hsettled.append _)

/-- Where the search ends without a body there is no brace that opens one for certain. -/
theorem not_findsBody (h : Reached text before s) {rest : List (Nat × Char)}
    (hend : ∀ e r, rest = e :: r → EndsStatement text before e) (b : Nat) :
    ¬ FindsBody text (before ++ rest) b := by
  rintro ⟨p, r, heq, hopens, hunsettled⟩
  have hbrace : ∀ r, rest ≠ (b, '{') :: r := by
    intro r hrest
    rcases hend _ r hrest with ⟨-, hword, -⟩ | ⟨hsemicolon, -⟩
    · exact absurd (show '{' ∈ "celiv".toList from hword) (by decide)
    · exact absurd (show '{' = ';' from hsemicolon) (by decide)
  rcases List.append_eq_append_iff.mp heq with ⟨more, rfl, hrest⟩ | ⟨more, rfl, hmore⟩
  · cases more with
    | nil => exact hbrace r hrest
    | cons e more =>
      refine hunsettled ⟨before, e, more, rfl, .inl (hend e (more ++ (b, '{') :: r) ?_)⟩
      rw [hrest, List.cons_append]
  · cases more with
    | nil => exact hbrace r hmore.symm
    | cons e more =>
      obtain ⟨rfl, -⟩ := List.cons.inj hmore
      exact h.unsettled ⟨p, (b, '{'), more, rfl, .inr ⟨rfl, hopens⟩⟩

/-- The search finds the first brace that opens a body for certain before the statement ends, or else
the first brace of all. -/
theorem valueBody (h : Reached text before s) {rest : List (Nat × Char)} {b : Nat}
    (hbody : Source.valueBody text s rest = some b) :
    FindsBody text (before ++ rest) b ∨
      FallsBack text (before ++ rest) b ∧ ∀ b', ¬ FindsBody text (before ++ rest) b' := by
  -- Induction on what is left of the scan: the search ends the statement, opens the body or reads
  -- on.
  induction rest generalizing before s with
  | nil => exact .inr ⟨h.fallsBack hbody [], h.not_findsBody nofun⟩
  | cons e r ih =>
    rw [valueBody_step] at hbody
    split at hbody
    · next hends =>
      have hend : ∀ d r', e :: r = d :: r' → EndsStatement text before d := by
        intro d r' heq
        obtain ⟨rfl, -⟩ := List.cons.inj heq
        exact (h.ends_iff e).mp hends
      exact .inr ⟨h.fallsBack hbody _, h.not_findsBody hend⟩
    · next hends =>
      split at hbody
      · next hopen =>
        obtain ⟨i, c⟩ := e
        obtain ⟨hbrace, hopens⟩ := hopen
        obtain rfl : c = '{' := hbrace
        obtain rfl : i = b := Option.some.inj hbody
        exact .inl ⟨before, r, rfl, h.opensBody_iff.mp hopens, h.unsettled⟩
      · next hopen =>
        have hnext := h.read (fun hend => hends ((h.ends_iff e).mpr hend))
          (fun hnow => hopen ⟨hnow.1, h.opensBody_iff.mpr hnow.2⟩)
        have hrest := ih hnext hbody
        rw [List.append_assoc, List.singleton_append] at hrest
        exact hrest

end Reached

/-! ## 4. The block around a declaration -/

/-- A character behind these of a value closes the block that the value stands in: it is the first
closing bracket that no bracket before it has opened. -/
structure LeavesBlock (inner : List (Nat × Char)) (c : Char) : Prop where
  within : ∀ q, q <+: inner → 0 ≤ bracketBalance q
  level : bracketBalance inner = 0
  closes : bracketShift c = -1

/-- A value that closes more brackets than it opens leaves the block somewhere. -/
theorem exists_leavesBlock {p : List (Nat × Char)} (h : ∃ q, q <+: p ∧ bracketBalance q < 0) :
    ∃ inner e r, p = inner ++ e :: r ∧ LeavesBlock inner e.2 := by
  induction p using List.reverseRecOn with
  | nil =>
    obtain ⟨q, hq, hneg⟩ := h
    obtain rfl := List.prefix_nil.mp hq
    exact absurd hneg (by decide)
  | append_singleton p e ih =>
    by_cases hearlier : ∃ q, q <+: p ∧ bracketBalance q < 0
    · obtain ⟨inner, d, r, rfl, hleaves⟩ := ih hearlier
      exact ⟨inner, d, r ++ [e], by rw [List.append_assoc, List.cons_append], hleaves⟩
    -- Only the last character can have brought the count below zero, and each brings it down by one.
    · have hwithin : ∀ q, q <+: p → 0 ≤ bracketBalance q := fun q hq =>
        Int.not_lt.mp fun hneg => hearlier ⟨q, hq, hneg⟩
      obtain ⟨q, hq, hneg⟩ := h
      obtain rfl : q = p ++ [e] :=
        (List.prefix_concat_iff.mp hq).resolve_right fun hin => hearlier ⟨q, hin, hneg⟩
      rw [bracketBalance_concat] at hneg
      have hp := hwithin p List.prefix_rfl
      have hshift : -1 ≤ bracketShift e.2 := by
        unfold bracketShift
        split <;> [skip; split] <;> omega
      exact ⟨p, e, [], rfl, hwithin, by omega, by omega⟩

def codeUpTo (text : List Char) (stop brace : Nat) : List (Nat × Char) :=
  (codeChars text stop).filter (·.1 < brace)

/-- The code up to an index is what the scan yields before it. -/
theorem codeUpTo_eq {text : List Char} {stop b : Nat} {c : Char} {p r : List (Nat × Char)}
    (h : codeChars text stop = p ++ (b, c) :: r) : codeUpTo text stop b = p := by
  have hsorted := codeFrom_pairwise_lt {} (text.take stop).reverse (text.drop stop) stop
  rw [← codeChars, h, List.pairwise_append] at hsorted
  obtain ⟨-, hafter, hbefore⟩ := hsorted
  have hfirst : p.filter (·.1 < b) = p := by
    rw [List.filter_eq_self]
    intro e he
    exact decide_eq_true (hbefore e he (b, c) List.mem_cons_self)
  have hrest : ((b, c) :: r).filter (·.1 < b) = [] := by
    rw [List.filter_eq_nil_iff]
    intro e he
    rw [decide_eq_true_eq]
    rcases List.mem_cons.mp he with rfl | he
    · exact Nat.lt_irrefl b
    · exact Nat.lt_asymm ((List.pairwise_cons.mp hafter).1 e he)
  rw [codeUpTo, h, List.filter_append, hfirst, hrest, List.append_nil]

/-- A value that is found stays in the block around its declaration just when, before the bracket that
closes the block, the statement ends, or a body opens for certain, or some brace stands there and none
anywhere opens a body for certain. -/
theorem valueBody_in_block_iff {text : List Char} {stop b : Nat}
    (hbody : valueBody text {} (codeChars text stop) = some b) :
    (∀ q, q <+: codeUpTo text stop b → 0 ≤ bracketBalance q) ↔
      ∀ inner e outer, codeChars text stop = inner ++ e :: outer → LeavesBlock inner e.2 →
        Settled text inner ∨
          (∃ d ∈ inner, d.2 = '{') ∧ ∀ b', ¬ FindsBody text (codeChars text stop) b' := by
  obtain ⟨p, r, hcut, hunsettled, hkind⟩ : ∃ p r, codeChars text stop = p ++ (b, '{') :: r ∧
      ¬ Settled text p ∧ (OpensBody p ∨ (∀ e ∈ p, e.2 ≠ '{') ∧
        ∀ b', ¬ FindsBody text (codeChars text stop) b') := by
    rcases (Reached.start text).valueBody hbody with ⟨p, r, hcut, hopens, hunsettled⟩ |
      ⟨⟨p, r, hcut, hfirst, hunsettled⟩, hnone⟩
    · exact ⟨p, r, hcut, hunsettled, .inl hopens⟩
    · exact ⟨p, r, hcut, hunsettled, .inr ⟨hfirst, hnone⟩⟩
  rw [codeUpTo_eq hcut]
  constructor
  · intro hstays inner e outer hsplit hleaves
    -- The brace stands before the bracket, whose own prefix would count below zero.
    obtain ⟨m, hinner⟩ : ∃ m, inner = p ++ (b, '{') :: m := by
      rw [hcut] at hsplit
      have hlow : bracketBalance (inner ++ [e]) < 0 := by
        rw [bracketBalance_concat, hleaves.level, hleaves.closes]
        decide
      rcases List.append_eq_append_iff.mp hsplit with ⟨m, hinner, hm⟩ | ⟨m, hp, hm⟩
      · cases m with
        | nil =>
          obtain ⟨rfl, -⟩ := List.cons.inj hm
          exact absurd (show bracketShift '{' = -1 from hleaves.closes) (by decide)
        | cons d m =>
          obtain ⟨rfl, -⟩ := List.cons.inj hm
          exact ⟨m, hinner⟩
      · cases m with
        | nil =>
          obtain ⟨rfl, -⟩ := List.cons.inj hm
          exact absurd (show bracketShift '{' = -1 from hleaves.closes) (by decide)
        | cons d m =>
          obtain ⟨rfl, -⟩ := List.cons.inj hm
          have hfront : inner ++ [e] <+: p := ⟨m, by rw [hp, List.append_assoc]; rfl⟩
          exact absurd (hstays _ hfront) (Int.not_le.mpr hlow)
    rcases hkind with hopens | ⟨-, hnone⟩
    · exact .inl ⟨p, (b, '{'), m, hinner, .inr ⟨rfl, hopens⟩⟩
    · refine .inr ⟨⟨(b, '{'), ?_, rfl⟩, hnone⟩
      rw [hinner]
      exact List.mem_append_right p List.mem_cons_self
  · intro hsettles q hq
    by_contra hneg
    obtain ⟨inner, e, m, rfl, hleaves⟩ := exists_leavesBlock ⟨q, hq, Int.not_le.mp hneg⟩
    have hsplit : codeChars text stop = inner ++ e :: (m ++ (b, '{') :: r) := by
      rw [hcut, List.append_assoc, List.cons_append]
    rcases hsettles inner e _ hsplit hleaves with hsettled | ⟨⟨d, hd, hbrace⟩, hnone⟩
    · exact hunsettled (hsettled.append _)
    · rcases hkind with hopens | ⟨hfirst, -⟩
      · exact hnone b ⟨_, r, hcut, hopens, hunsettled⟩
      · exact hfirst d (List.mem_append_left _ hd) hbrace

/-- The body of a binding that is located was looked for from the end of a head in code. It stays in the
block around the declaration just when, before the bracket that closes the block, the statement ends, or
a body opens for certain, or some brace stands there and none anywhere opens a body for certain. -/
theorem locate_in_block_iff {source name : String} {u : SourceUnit}
    (h : locate source name = some u) (hkind : u.kind = .assignment) :
    let text := source.toList
    (∃ start stop, (start, stop) ∈ heads .assignment name.toList text ∧
      (codeMask text)[start]? = some true ∧
      UnitKind.assignment.body? text stop = some (u.start - 1)) ∧
    ∀ stop, UnitKind.assignment.body? text stop = some (u.start - 1) →
      ((∀ q, q <+: codeUpTo text stop (u.start - 1) → 0 ≤ bracketBalance q) ↔
        ∀ inner e outer, codeChars text stop = inner ++ e :: outer → LeavesBlock inner e.2 →
          Settled text inner ∨
            (∃ d ∈ inner, d.2 = '{') ∧ ∀ b, ¬ FindsBody text (codeChars text stop) b) := by
  intro text
  obtain ⟨-, start, stop, brace, hhead, hcode, hbody, -, hstart⟩ := locate_eq_some h
  rw [hkind] at hhead hbody
  have hbrace : u.start - 1 = brace := by omega
  constructor
  · rw [hbrace]
    exact ⟨start, stop, hhead, hcode, hbody⟩
  · intro stop' hbody'
    exact valueBody_in_block_iff hbody'

/-- The value of a binding without a semicolon is looked for in the function after the one that holds the
binding. -/
theorem locate_out_of_block :
    let source := "function h() { const f = a }
function g() { x }"
    let text := source.toList
    ∃ u, locate source "f" = some u ∧ u.kind = .assignment ∧
      heads .assignment ['f'] text = [(15, 24)] ∧
      UnitKind.assignment.body? text 24 = some (u.start - 1) ∧
      ∃ q, q <+: codeUpTo text 24 (u.start - 1) ∧ bracketBalance q < 0 := by
  intro source text
  have hlocate : locate source "f" = some
      { name := "f", kind := .assignment, text := " x ", start := 43, stop := 46 } := by decide
  refine ⟨_, hlocate, rfl, by decide, by decide, [(24, ' '), (25, 'a'), (26, ' '), (27, '}')], ?_⟩
  decide

/-- The bracket that ends the function around that binding comes before all is settled. -/
theorem locate_in_block_iff_unsettled :
    let source := "function h() { const f = a }
function g() { x }"
    let text := source.toList
    ∃ inner e outer, codeChars text 24 = inner ++ e :: outer ∧ LeavesBlock inner e.2 ∧
      ¬ Settled text inner := by
  intro source text
  have hlocate : locate source "f" = some
      { name := "f", kind := .assignment, text := " x ", start := 43, stop := 46 } := by decide
  have hbody : UnitKind.assignment.body? text 24 = some 42 := by decide
  have hiff := (locate_in_block_iff hlocate rfl).2 24 hbody
  by_contra hall
  have hstays := hiff.mpr fun inner e outer hsplit hleaves =>
    .inl (Classical.not_not.mp fun hnot => hall ⟨inner, e, outer, hsplit, hleaves, hnot⟩)
  have hfront : [(24, ' '), (25, 'a'), (26, ' '), (27, '}')] <+: codeUpTo text 24 42 := by decide
  exact absurd (hstays _ hfront) (by decide)

end Grading.Source
