import Mathlib.Data.List.Basic
import Grading.Source.Locate
import Grading.Proofs.Source.Phase
import Grading.Proofs.Source.Restart

/-!
# Delimiters — the braces around a body

The head of a declaration is recognised in the raw text and the search for its body begins anew where
the head ends. A body is delimited by braces that are code of the whole text if the scan of the whole
text is in phase with that search; a type annotation with a quoted text in it, where a head can end
inside of the quotes, shows that this cannot be left out.
-/

namespace Grading.Source

open Grading.Text

/-! ## 1. The brace that opens a body -/

/-- The search for the body of a function ends at an opening brace only. -/
theorem FunctionSearch.eq_of_step_body {s : FunctionSearch} {c : Char} (h : s.step c = .body) :
    c = '{' := by
  unfold FunctionSearch.step at h
  by_contra hc
  simp only [hc, decide_false, Bool.false_and, if_false, Bool.false_eq_true] at h
  -- All other characters go on with the search or give it up.
  split at h
  · split at h <;> exact nomatch h
  · repeat' split at h
    all_goals exact nomatch h

/-- The body of a function opens at a brace the scan yielded. -/
theorem functionBody_mem {s : FunctionSearch} {entries : List (Nat × Char)} {b : Nat}
    (h : functionBody s entries = some b) : (b, '{') ∈ entries := by
  induction entries generalizing s with
  | nil => exact nomatch h
  | cons e r ih =>
    obtain ⟨i, c⟩ := e
    rw [functionBody] at h
    split at h
    · exact List.mem_cons_of_mem _ (ih h)
    · split at h
      · next hstep =>
        rw [FunctionSearch.eq_of_step_body hstep, Option.some.inj h]
        exact List.mem_cons_self
      · exact nomatch h
      · exact List.mem_cons_of_mem _ (ih h)

/-- The body of a value opens at a brace the scan yielded, or at the fallback the search started
with. -/
theorem valueBody_mem {text : List Char} {s : ValueSearch} {entries : List (Nat × Char)} {b : Nat}
    (h : valueBody text s entries = some b) : s.fallback = some b ∨ (b, '{') ∈ entries := by
  induction entries generalizing s with
  | nil => exact .inl h
  | cons e r ih =>
    obtain ⟨i, c⟩ := e
    -- Only a brace may become the fallback; all other characters leave the one there is.
    have hlater : ∀ {t : ValueSearch}, valueBody text t r = some b → t.fallback = s.fallback →
        s.fallback = some b ∨ (b, '{') ∈ (i, c) :: r := fun hbody ht =>
      (ih hbody).imp (fun hfallback => ht ▸ hfallback) (List.mem_cons_of_mem _)
    rw [valueBody] at h
    split at h
    · exact hlater h rfl
    split at h
    · exact .inl h
    split at h
    · next hopen =>
      subst hopen
      split at h
      · rw [Option.some.inj h]
        exact .inr List.mem_cons_self
      · rcases ih h with hfallback | hmem
        · rcases Option.or_eq_some_iff.mp hfallback with hold | ⟨-, hnow⟩
          · exact .inl hold
          · rw [Option.some.inj hnow]
            exact .inr List.mem_cons_self
        · exact .inr (List.mem_cons_of_mem _ hmem)
    split at h
    · exact hlater h rfl
    split at h
    · exact hlater h rfl
    split at h
    · exact .inl h
    · exact hlater h rfl

/-- The body of a class opens at a brace the scan yielded. -/
theorem classBody_mem {depth : Int} {entries : List (Nat × Char)} {b : Nat}
    (h : classBody depth entries = some b) : (b, '{') ∈ entries := by
  induction entries generalizing depth with
  | nil => exact nomatch h
  | cons e r ih =>
    obtain ⟨i, c⟩ := e
    rw [classBody] at h
    split at h
    · exact List.mem_cons_of_mem _ (ih h)
    split at h
    · exact List.mem_cons_of_mem _ (ih h)
    split at h
    · next hopen =>
      have hc : c = '{' := by simpa using And.left (by simpa using hopen)
      rw [hc, Option.some.inj h]
      exact List.mem_cons_self
    split at h
    · exact nomatch h
    · exact List.mem_cons_of_mem _ (ih h)

/-- The search for a body ends at an opening brace that it takes for code. -/
theorem body?_mem {kind : UnitKind} {text : List Char} {stop b : Nat}
    (h : kind.body? text stop = some b) : (b, '{') ∈ codeChars text stop := by
  cases kind with
  | function => exact functionBody_mem h
  | assignment => exact (valueBody_mem h).resolve_left nofun
  | classDecl => exact classBody_mem h
  | file => exact nomatch h

/-! ## 2. The brace that closes a body -/

/-- A character closes the block wherever it stands, or the search goes on behind it. -/
theorem closeIndex_step (depth : Int) (c : Char) :
    (c = '}' ∧ ∀ i r, closeIndex depth ((i, c) :: r) = some i) ∨
      ∃ next, ∀ i r, closeIndex depth ((i, c) :: r) = closeIndex next r := by
  simp only [closeIndex]
  by_cases hopen : c = '{'
  · exact .inr ⟨depth + 1, fun i r => if_pos hopen⟩
  by_cases hclose : c = '}'
  · by_cases hone : depth = 1
    · exact .inl ⟨hclose, fun i r => by rw [if_neg hopen, if_pos hclose, if_pos hone]⟩
    · exact .inr ⟨depth - 1, fun i r => by rw [if_neg hopen, if_pos hclose, if_neg hone]⟩
  · exact .inr ⟨depth, fun i r => by rw [if_neg hopen, if_neg hclose]⟩

/-- The closing brace that is found is one the scan yielded. -/
theorem closeIndex_mem {depth : Int} {entries : List (Nat × Char)} {j : Nat}
    (h : closeIndex depth entries = some j) : (j, '}') ∈ entries := by
  induction entries generalizing depth with
  | nil => exact nomatch h
  | cons e r ih =>
    obtain ⟨i, c⟩ := e
    rcases closeIndex_step depth c with ⟨rfl, hfound⟩ | ⟨next, hgo⟩
    · rw [hfound] at h
      obtain rfl := Option.some.inj h
      exact List.mem_cons_self
    · rw [hgo] at h
      exact List.mem_cons_of_mem _ (ih h)

/-- A block that begins at a brace that is code is closed by a brace that is code. -/
theorem mem_of_blockEnd {text : List Char} {o j : Nat} (hbrace : (o, '{') ∈ codeChars text)
    (h : blockEnd text o = some j) : (j, '}') ∈ codeChars text := by
  obtain ⟨before, pre, rest, s, t, rfl, rfl, -, hyield, hscan⟩ := codeChars_cut hbrace
  have hrestart : ∀ next, State.step {} pre.reverse '{' next =
      (⟨.code, [], .mark '{'⟩, true) := fun _ => rfl
  -- After the brace the new scan and that of the whole text close the block alike.
  have hsame : closeIndex 1 (codeFrom t ('{' :: pre.reverse) (pre.length + 1) rest) =
      closeIndex 1 (codeFrom ⟨.code, [], .mark '{'⟩ ('{' :: pre.reverse) (pre.length + 1) rest) := by
    rw [step_openBrace hyield]
    exact closeIndex_within Nat.one_pos s.interpolations ⟨.code, [], .mark '{'⟩ _ rest _
  have hend : blockEnd (pre ++ '{' :: rest) pre.length =
      closeIndex 1 (codeFrom t ('{' :: pre.reverse) (pre.length + 1) rest) := by
    unfold blockEnd codeChars
    rw [List.take_left, List.drop_left, codeFrom_yield (hrestart _), hsame]
    rfl
  rw [hend] at h
  rw [hscan, codeFrom_yield hyield]
  exact List.mem_append_right _ (List.mem_cons_of_mem _ (closeIndex_mem h))

/-! ## 3. Heads -/

/-- All that is taken from a text to leave the rest satisfies a predicate. -/
def Takes (p : Char → Prop) (s rest : List Char) : Prop :=
  ∃ taken, s = taken ++ rest ∧ ∀ c ∈ taken, p c

namespace Takes

variable {p : Char → Prop} {s t r : List Char}

theorem refl : Takes p s s := ⟨[], rfl, nofun⟩

theorem trans (h : Takes p s t) (h' : Takes p t r) : Takes p s r := by
  obtain ⟨a, rfl, ha⟩ := h
  obtain ⟨b, rfl, hb⟩ := h'
  exact ⟨a ++ b, (List.append_assoc a b r).symm, fun c hc =>
    (List.mem_append.mp hc).elim (ha c) (hb c)⟩

theorem dropWhile {q : Char → Bool} (h : ∀ c, q c = true → p c) : Takes p s (s.dropWhile q) :=
  ⟨s.takeWhile q, List.takeWhile_append_dropWhile.symm, fun c hc =>
    h c (List.all_eq_true.mp List.all_takeWhile c hc)⟩

theorem mono {q : Char → Prop} (h : Takes p s r) (hpq : ∀ c, p c → q c) : Takes q s r := by
  obtain ⟨taken, htaken, hp⟩ := h
  exact ⟨taken, htaken, fun c hc => hpq c (hp c hc)⟩

theorem length_le (h : Takes p s r) : r.length ≤ s.length := by
  obtain ⟨taken, rfl, -⟩ := h
  rw [List.length_append]
  exact Nat.le_add_left _ _

end Takes

theorem eq_of_dropChars? {word s rest : List Char} (h : dropChars? word s = some rest) :
    s = word ++ rest := by
  induction word generalizing s with
  | nil => exact Option.some.inj h
  | cons c word ih =>
    cases s with
    | nil => exact nomatch h
    | cons d s =>
      rw [dropChars?] at h
      split at h
      · next hc => rw [hc, ih h]; rfl
      · exact nomatch h

theorem eq_of_unlessNext {q : Char → Bool} {s rest : List Char} (h : unlessNext q s = some rest) :
    s = rest := by
  unfold unlessNext at h
  split at h
  · split at h
    · exact nomatch h
    · exact Option.some.inj h
  · exact Option.some.inj h

theorem takes_dropChars? {p : Char → Prop} {word s rest : List Char}
    (h : dropChars? word s = some rest) (hword : ∀ c ∈ word, p c) : Takes p s rest :=
  ⟨word, eq_of_dropChars? h, hword⟩

theorem takes_unlessNext {p : Char → Prop} {q : Char → Bool} {s rest : List Char}
    (h : unlessNext q s = some rest) : Takes p s rest :=
  eq_of_unlessNext h ▸ .refl

theorem takes_dropBlanks? {s rest : List Char} (h : dropBlanks? s = some rest) :
    Takes (isCalm · = true) s rest := by
  unfold dropBlanks? at h
  split at h
  · next c r =>
    split at h
    · next hblank =>
      obtain ⟨taken, htaken, hcalm⟩ := Takes.dropWhile (s := r) fun c => isCalm_of_isBlank
      refine ⟨c :: taken, ?_, ?_⟩
      · rw [← Option.some.inj h, List.cons_append, ← htaken]
      · exact List.forall_mem_cons.mpr ⟨isCalm_of_isBlank hblank, hcalm⟩
    · exact nomatch h
  · exact nomatch h

theorem takes_dropName? {p : Char → Prop} {name s rest : List Char}
    (h : dropName? name s = some rest) (hname : ∀ c ∈ name, p c) : Takes p s rest := by
  obtain ⟨r, hr, hrest⟩ := Option.bind_eq_some_iff.mp h
  exact (takes_dropChars? hr hname).trans (takes_unlessNext hrest)

/-- The characters of a name that can be declared are calm. -/
theorem calm_of_isDeclarable {name : List Char} (h : isDeclarable name = true) :
    ∀ c ∈ name, isCalm c = true := by
  cases name with
  | nil => exact nofun
  | cons c r =>
    obtain ⟨hstart, hrest⟩ := (Bool.and_eq_true _ _).mp h
    refine List.forall_mem_cons.mpr ⟨isCalm_of (p := isNameStart) (by decide) hstart, ?_⟩
    split at hrest
    -- A line feed may stand at the end of a name that can be declared.
    · next hlast =>
      intro d hd
      rw [← List.dropLast_append_getLast? '\n' hlast] at hd
      rcases List.mem_append.mp hd with hinit | hend
      · exact isCalm_of_isIdentChar (List.all_eq_true.mp hrest d hinit)
      · rw [List.mem_singleton.mp hend]
        decide
    · exact fun d hd => isCalm_of_isIdentChar (List.all_eq_true.mp hrest d hd)

/-- The head of a function is made of calm characters, so the scan is where it was after it. -/
theorem takes_functionHead? {name s rest : List Char} (h : functionHead? name s = some rest)
    (hname : isDeclarable name = true) :
    Takes (isCalm · = true) s rest ∧ rest.length < s.length := by
  unfold functionHead? at h
  obtain ⟨s₁, hword, h⟩ := Option.bind_eq_some_iff.mp h
  obtain ⟨s₂, hend, h⟩ := Option.bind_eq_some_iff.mp h
  have hblanks : ∀ r : List Char, Takes (isCalm · = true) r (r.dropWhile isBlank) :=
    fun r => .dropWhile fun c => isCalm_of_isBlank
  obtain ⟨s₃, hstar, h⟩ : ∃ s₃, Takes (isCalm · = true) (s₂.dropWhile isBlank) s₃ ∧
      dropName? name s₃ = some rest := by
    dsimp only at h
    split at h
    · next r hr => exact ⟨_, .trans ⟨['*'], hr, List.forall_mem_singleton.mpr rfl⟩ (hblanks r), h⟩
    · exact ⟨_, .refl, h⟩
  have htakes : Takes (isCalm · = true) s₁ rest :=
    (takes_unlessNext hend).trans ((hblanks s₂).trans
      (hstar.trans (takes_dropName? h (calm_of_isDeclarable hname))))
  refine ⟨(takes_dropChars? hword (List.all_eq_true.mp (by decide))).trans htakes, ?_⟩
  rw [eq_of_dropChars? hword, List.length_append]
  exact Nat.lt_of_le_of_lt htakes.length_le (Nat.lt_add_of_pos_left (by decide))

theorem takes_classHead? {name s rest : List Char} (h : classHead? name s = some rest)
    (hname : isDeclarable name = true) :
    Takes (isCalm · = true) s rest ∧ rest.length < s.length := by
  unfold classHead? at h
  obtain ⟨s₁, hword, h⟩ := Option.bind_eq_some_iff.mp h
  obtain ⟨s₂, hblanks, h⟩ := Option.bind_eq_some_iff.mp h
  have htakes : Takes (isCalm · = true) s₁ rest :=
    (takes_dropBlanks? hblanks).trans (takes_dropName? h (calm_of_isDeclarable hname))
  refine ⟨(takes_dropChars? hword (List.all_eq_true.mp (by decide))).trans htakes, ?_⟩
  rw [eq_of_dropChars? hword, List.length_append]
  exact Nat.lt_of_le_of_lt htakes.length_le (Nat.lt_add_of_pos_left (by decide))

/-- The type of a binding and its equals sign are taken from the text after its name. -/
theorem takes_equals {s r rest : List Char}
    (hequals : dropChars? ['='] (dropType (s.dropWhile isBlank)) = some r)
    (hend : unlessNext (fun c => c == '=' || c == '>') r = some rest) :
    Takes (fun _ => True) s rest := by
  have htype : ∀ r : List Char, Takes (fun _ => True) r (dropType r) := by
    intro r
    unfold dropType
    split
    · exact .trans ⟨[':'], rfl, fun _ _ => trivial⟩ (.dropWhile fun _ _ => trivial)
    · exact .refl
  have hblanks : Takes (fun _ => True) s (s.dropWhile isBlank) := .dropWhile fun _ _ => trivial
  exact hblanks.trans ((htype _).trans
    ((takes_dropChars? hequals fun _ _ => trivial).trans (takes_unlessNext hend)))

/-- The head of an assignment takes at least one character off the text; its type annotation may
hold any. -/
theorem takes_assignmentHead? {name s rest : List Char} (h : assignmentHead? name s = some rest) :
    Takes (fun _ => True) s rest ∧ rest.length < s.length := by
  unfold assignmentHead? at h
  obtain ⟨s₁, hword, h⟩ := Option.bind_eq_some_iff.mp h
  obtain ⟨s₂, hblanks, h⟩ := Option.bind_eq_some_iff.mp h
  obtain ⟨s₃, hname, h⟩ := Option.bind_eq_some_iff.mp h
  obtain ⟨s₄, hequals, h⟩ := Option.bind_eq_some_iff.mp h
  obtain ⟨word, hmem, hword⟩ := List.exists_of_findSome?_eq_some hword
  have htakes : Takes (fun _ => True) s₁ rest :=
    ((takes_dropBlanks? hblanks).mono fun _ _ => trivial).trans
      ((takes_dropName? hname fun _ _ => trivial).trans (takes_equals hequals h))
  refine ⟨(takes_dropChars? hword fun _ _ => trivial).trans htakes, ?_⟩
  have hwords : ∀ word ∈ ["const".toList, "let".toList, "var".toList], 0 < word.length := by decide
  rw [eq_of_dropChars? hword, List.length_append]
  exact Nat.lt_of_le_of_lt htakes.length_le (Nat.lt_add_of_pos_left (hwords word hmem))

/-- A head takes characters from the text; those of a function or a class are calm. -/
theorem takes_head? {kind : UnitKind} {name s rest : List Char}
    (h : kind.head? name s = some rest) (hname : isDeclarable name = true) :
    Takes (fun c => kind ≠ .assignment → isCalm c = true) s rest ∧ rest.length < s.length := by
  cases kind with
  | function =>
    exact (takes_functionHead? h hname).imp_left fun htakes => htakes.mono fun _ hc _ => hc
  | assignment =>
    exact (takes_assignmentHead? h).imp_left fun htakes => htakes.mono fun _ _ hkind =>
      absurd rfl hkind
  | classDecl =>
    exact (takes_classHead? h hname).imp_left fun htakes => htakes.mono fun _ hc _ => hc
  | file => exact nomatch h

/-- Every head that is found is one the head reader takes at that place, with its own end. -/
theorem mem_headsFrom {head : List Char → Option (List Char)} {resume i start stop : Nat}
    {before : Option Char} {text : List Char}
    (h : (start, stop) ∈ headsFrom head resume i before text) :
    i ≤ start ∧ ∃ rest, head (text.drop (start - i)) = some rest ∧
      stop = start + ((text.drop (start - i)).length - rest.length) := by
  induction text generalizing resume i before with
  | nil => exact nomatch h
  | cons c r ih =>
    -- An index of the text is one more than that of what follows its first character.
    have hlater : ∀ {resume : Nat} {before : Option Char},
        (start, stop) ∈ headsFrom head resume (i + 1) before r →
        i ≤ start ∧ ∃ rest, head ((c :: r).drop (start - i)) = some rest ∧
          stop = start + (((c :: r).drop (start - i)).length - rest.length) := by
      intro resume before hmem
      obtain ⟨hle, hfound⟩ := ih hmem
      rw [show start - i = start - (i + 1) + 1 by omega, List.drop_succ_cons]
      exact ⟨by omega, hfound⟩
    rw [headsFrom] at h
    split at h
    · split at h
      · next rest hhead =>
        rcases List.mem_cons.mp h with hnow | hmem
        · obtain ⟨rfl, rfl⟩ := Prod.mk.inj hnow
          rw [Nat.sub_self]
          exact ⟨Nat.le_refl _, rest, hhead, rfl⟩
        · exact hlater hmem
      · exact hlater h
    · exact hlater h

/-- A head ends after it begins, and all of a function's or class's is calm. -/
theorem calm_of_mem_heads {kind : UnitKind} {name text : List Char} {start stop : Nat}
    (h : (start, stop) ∈ heads kind name text) (hname : isDeclarable name = true) :
    start < stop ∧ stop ≤ text.length ∧
      (kind ≠ .assignment → ∀ c ∈ (text.drop start).take (stop - start), isCalm c = true) := by
  obtain ⟨-, rest, hhead, hstop⟩ := mem_headsFrom h
  rw [Nat.sub_zero] at hhead hstop
  obtain ⟨⟨taken, htaken, hcalm⟩, hlt⟩ := takes_head? hhead hname
  have hlength : (text.drop start).length = taken.length + rest.length := by
    rw [htaken, List.length_append]
  have hdrop : (text.drop start).length = text.length - start := List.length_drop
  have htake : (text.drop start).take (stop - start) = taken := by
    rw [show stop - start = taken.length by omega, htaken, List.take_left]
  refine ⟨by omega, by omega, fun hkind c hc => ?_⟩
  rw [htake] at hc
  exact hcalm c hc hkind

/-! ## 4. Units -/

/-- The block that is found belongs to a head at a code position. -/
theorem firstBody_eq_block {kind : UnitKind} {text : List Char} {mask : List Bool}
    {found : List (Nat × Nat)} {brace close : Nat}
    (h : firstBody kind text mask found = .block brace close) :
    ∃ start stop, (start, stop) ∈ found ∧ mask[start]? = some true ∧
      kind.body? text stop = some brace ∧ blockEnd text brace = some close := by
  -- Induction on the heads: the first that opens a body decides.
  induction found with
  | nil => exact nomatch h
  | cons e found ih =>
    obtain ⟨start, stop⟩ := e
    have hlater : firstBody kind text mask found = .block brace close →
        ∃ start' stop', (start', stop') ∈ (start, stop) :: found ∧ mask[start']? = some true ∧
          kind.body? text stop' = some brace ∧ blockEnd text brace = some close := fun hrest => by
      obtain ⟨start', stop', hmem, hfound⟩ := ih hrest
      exact ⟨start', stop', List.mem_cons_of_mem _ hmem, hfound⟩
    rw [firstBody] at h
    split at h
    · next hcode =>
      split at h
      · exact hlater h
      · next brace' hbody =>
        split at h
        · exact nomatch h
        · next close' hclose =>
          obtain ⟨rfl, rfl⟩ := Outcome.block.inj h
          exact ⟨start, stop, List.mem_cons_self, hcode, hbody, hclose⟩
    · exact hlater h

/-- The unit that is found is the block of its own kind, from behind the opening brace to the
closing one. -/
theorem firstUnit_eq_some {name : String} {text : List Char} {mask : List Bool}
    {kinds : List UnitKind} {u : SourceUnit} (h : firstUnit name text mask kinds = some u) :
    ∃ brace, firstBody u.kind text mask (heads u.kind name.toList text) = .block brace u.stop ∧
      u.start = brace + 1 := by
  induction kinds with
  | nil => exact nomatch h
  | cons kind kinds ih =>
    rw [firstUnit] at h
    split at h
    · exact ih h
    · exact nomatch h
    · next brace close hfirst =>
      obtain rfl := Option.some.inj h
      exact ⟨brace, hfirst, rfl⟩

/-- The unit that is found is that of a head in code whose body opens and is closed. -/
theorem locate_eq_some {source name : String} {u : SourceUnit} (h : locate source name = some u) :
    isDeclarable name.toList = true ∧ ∃ start stop brace,
      (start, stop) ∈ heads u.kind name.toList source.toList ∧
      (codeMask source.toList)[start]? = some true ∧
      u.kind.body? source.toList stop = some brace ∧
      blockEnd source.toList brace = some u.stop ∧ u.start = brace + 1 := by
  unfold locate locateWith at h
  split at h
  · exact nomatch h
  · next hnot =>
    obtain ⟨brace, hfirst, hstart⟩ := firstUnit_eq_some h
    obtain ⟨start, stop, hhead, hcode, hbody, hclose⟩ := firstBody_eq_block hfirst
    refine ⟨?_, start, stop, brace, hhead, hcode, hbody, hclose, hstart⟩
    by_contra hname
    exact hnot (by rw [Bool.eq_false_iff.mpr hname]; exact Bool.or_true _)

/-- A brace stands in the text at each index that a search or a count gives. -/
theorem getElem?_of_mem_codeChars {text : List Char} {start j : Nat} {c : Char}
    (h : (j, c) ∈ codeChars text start) : text[j]? = some c := by
  obtain ⟨hle, hget⟩ := mem_codeFrom h
  rw [List.getElem?_drop] at hget
  rwa [show start + (j - start) = j by omega] at hget

/-- The body of every unit that is found lies between an opening and a closing brace. If the opening
brace is code of the whole text, so is the closing one. The opening brace was looked for from the end
of a head that begins in code; it is code if the whole text is scanned in phase with that search. The
head of a function or of a class, and a head of a binding that is calm, always ends in plain code. -/
theorem delimiters_of_locate {source name : String} {u : SourceUnit}
    (h : locate source name = some u) :
    let text := source.toList
    let isCode := fun i => (codeMask text)[i]? = some true
    0 < u.start ∧ text[u.start - 1]? = some '{' ∧ text[u.stop]? = some '}' ∧
      (isCode (u.start - 1) → isCode u.stop) ∧
      ∃ start stop, (start, stop) ∈ heads u.kind name.toList text ∧ isCode start ∧
        u.kind.body? text stop = some (u.start - 1) ∧
        (InPhase text stop → isCode (u.start - 1)) ∧
        ((u.kind = .assignment → ∀ c ∈ (text.drop start).take (stop - start), isCalm c = true) →
          (stateAt text stop).mode = .code) := by
  intro text isCode
  obtain ⟨hname, start, stop, brace, hhead, hcode, hbody, hclose, hstart⟩ := locate_eq_some h
  have hbrace : u.start - 1 = brace := by omega
  have hopen : (brace, '{') ∈ codeChars text stop := body?_mem hbody
  have hend : (u.stop, '}') ∈ codeChars text brace := closeIndex_mem hclose
  rw [hbrace]
  refine ⟨by omega, getElem?_of_mem_codeChars hopen, getElem?_of_mem_codeChars hend, ?_, start, stop,
    hhead, hcode, hbody, fun hphase => ?_, fun hcalm => ?_⟩
  -- The mask tells that something at the index is code; the text tells that it is the brace.
  · intro hmask
    obtain ⟨c, hc⟩ := codeMask_eq_true.mp hmask
    have hchar : text[brace]? = some c := getElem?_of_mem_codeChars hc
    rw [getElem?_of_mem_codeChars hopen] at hchar
    rw [← Option.some.inj hchar] at hc
    exact codeMask_eq_true.mpr ⟨'}', mem_of_blockEnd hc hclose⟩
  · exact codeMask_eq_true.mpr ⟨'{', hphase.mem_codeChars hopen⟩
  · obtain ⟨hlt, hle, hkind⟩ := calm_of_mem_heads hhead hname
    by_cases hassignment : u.kind = .assignment
    · exact mode_of_calm hcode hlt (hcalm hassignment)
    · exact mode_of_calm hcode hlt (hkind hassignment)

/-- A function at the start of a text. -/
theorem delimiters_of_locate_function :
    let text := "function f() \x7b\x7d".toList
    (codeMask text)[13]? = some true ∧ (codeMask text)[14]? = some true := by
  intro text
  have hlocate : locate "function f() \x7b\x7d" "f" =
      some { name := "f", kind := .function, text := "", start := 14, stop := 14 } := by decide
  obtain ⟨-, -, -, hclose, start, stop, hhead, -, -, hopen, -⟩ := delimiters_of_locate hlocate
  have hheads : heads .function ['f'] text = [(0, 10)] := by decide
  have hstop : (start, stop) = (0, 10) := List.mem_singleton.mp (hheads ▸ hhead)
  obtain ⟨rfl, rfl⟩ := Prod.mk.inj hstop
  have hphase : InPhase text 10 := ⟨by decide, by decide, by decide⟩
  exact ⟨hopen hphase, hclose (hopen hphase)⟩

/-- The head of a binding ends inside of quotes in its type, and so does the search for its body. -/
theorem delimiters_in_quotes :
    let source := "const label: '=\x7b\x7d' = '=\x7b\x7d';"
    ∃ u, locate source "label" = some u ∧
      (codeMask source.toList)[u.start - 1]? = some false ∧
      (codeMask source.toList)[u.stop]? = some false :=
  ⟨{ name := "label", kind := .assignment, text := "", start := 16, stop := 16 },
    by decide, by decide, by decide⟩

end Grading.Source
