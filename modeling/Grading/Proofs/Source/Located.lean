import Grading.Proofs.Source.Delimiters

/-!
# Located — what is known of a unit that is found

Whatever the text, a unit that is found lies between two braces, the second of which closes the first,
and it comes after the keyword and the name of a declaration in code.
-/

namespace Grading.Source

open Grading.Text

/-! ## 1. The head of a declaration up to the name -/

/-- The keyword of a declaration, what may stand between it and the name, and the name. -/
inductive IsHead (name : List Char) : UnitKind → List Char → Prop where
  /-- The gap may be empty before a name that begins with a dollar sign. -/
  | function {blanks star blanks' : List Char} (hstar : star = [] ∨ star = ['*'])
      (hblank : ∀ c ∈ blanks ++ blanks', isBlank c = true)
      (hword : blanks ++ (star ++ blanks') = [] → name.head?.any isWordChar = false) :
      IsHead name .function ("function".toList ++ (blanks ++ (star ++ (blanks' ++ name))))
  | assignment {word blanks : List Char}
      (hword : word ∈ ["const".toList, "let".toList, "var".toList]) (hsome : blanks ≠ [])
      (hblank : ∀ c ∈ blanks, isBlank c = true) : IsHead name .assignment (word ++ (blanks ++ name))
  | classDecl {blanks : List Char} (hsome : blanks ≠ []) (hblank : ∀ c ∈ blanks, isBlank c = true) :
      IsHead name .classDecl ("class".toList ++ (blanks ++ name))

theorem head?_of_unlessNext {q : Char → Bool} {s rest : List Char}
    (h : unlessNext q s = some rest) : s.head?.any q = false := by
  cases s with
  | nil => rfl
  | cons c r =>
    rw [unlessNext] at h
    split at h
    · exact nomatch h
    · next hc => exact Bool.eq_false_iff.mpr hc

theorem eq_of_dropName? {name s rest : List Char} (h : dropName? name s = some rest) :
    s = name ++ rest ∧ rest.head?.any isIdentChar = false := by
  obtain ⟨r, hname, hend⟩ := Option.bind_eq_some_iff.mp h
  obtain rfl := eq_of_unlessNext hend
  exact ⟨eq_of_dropChars? hname, head?_of_unlessNext hend⟩

theorem eq_of_dropBlanks? {s rest : List Char} (h : dropBlanks? s = some rest) :
    ∃ blanks, s = blanks ++ rest ∧ blanks ≠ [] ∧ ∀ c ∈ blanks, isBlank c = true := by
  cases s with
  | nil => exact nomatch h
  | cons c r =>
    rw [dropBlanks?] at h
    split at h
    · next hc =>
      refine ⟨c :: r.takeWhile isBlank, ?_, nofun, ?_⟩
      · rw [← Option.some.inj h, List.cons_append, List.takeWhile_append_dropWhile]
      · exact List.forall_mem_cons.mpr ⟨hc, List.all_eq_true.mp List.all_takeWhile⟩
    · exact nomatch h

/-- A head begins with the keyword and the name, and no longer name begins there. -/
theorem exists_isHead {kind : UnitKind} {name s rest : List Char}
    (h : kind.head? name s = some rest) :
    ∃ head after, s = head ++ after ∧ IsHead name kind head ∧
      after.head?.any isIdentChar = false ∧ rest.length ≤ after.length := by
  cases kind with
  | function =>
    obtain ⟨s₁, hkeyword, h⟩ := Option.bind_eq_some_iff.mp h
    obtain ⟨s₂, hend, h⟩ := Option.bind_eq_some_iff.mp h
    obtain rfl := eq_of_unlessNext hend
    obtain ⟨star, blanks', hstar, hblank', hs, hnext⟩ :
        ∃ star blanks' : List Char, (star = [] ∨ star = ['*']) ∧ (∀ c ∈ blanks', isBlank c = true) ∧
          s₁.dropWhile isBlank = star ++ (blanks' ++ (name ++ rest)) ∧
          rest.head?.any isIdentChar = false := by
      dsimp only at h
      split at h
      · next r hr =>
        obtain ⟨hname, hnext⟩ := eq_of_dropName? h
        refine ⟨['*'], r.takeWhile isBlank, .inr rfl, List.all_eq_true.mp List.all_takeWhile, ?_,
          hnext⟩
        rw [hr, ← hname, List.takeWhile_append_dropWhile]
        rfl
      · obtain ⟨hname, hnext⟩ := eq_of_dropName? h
        exact ⟨[], [], .inl rfl, nofun, hname, hnext⟩
    have hblank : ∀ c ∈ s₁.takeWhile isBlank, isBlank c = true :=
      List.all_eq_true.mp List.all_takeWhile
    have hgap : s₁ = s₁.takeWhile isBlank ++ (star ++ (blanks' ++ (name ++ rest))) := by
      rw [← hs, List.takeWhile_append_dropWhile]
    refine ⟨"function".toList ++ (s₁.takeWhile isBlank ++ (star ++ (blanks' ++ name))), rest, ?_,
      .function hstar ?_ ?_, hnext, Nat.le_refl _⟩
    · rw [eq_of_dropChars? hkeyword]
      simp only [List.append_assoc]
      rw [← hgap]
    · intro c hc
      exact (List.mem_append.mp hc).elim (hblank c) (hblank' c)
    -- With nothing between them the name follows the keyword, which ends there.
    · intro hempty
      obtain ⟨hfirst, hlater⟩ := List.append_eq_nil_iff.mp hempty
      obtain ⟨rfl, rfl⟩ := List.append_eq_nil_iff.mp hlater
      have hword := head?_of_unlessNext hend
      rw [hgap, hfirst] at hword
      cases name with
      | nil => rfl
      | cons c name => exact hword
  | assignment =>
    obtain ⟨s₁, hkeyword, h⟩ := Option.bind_eq_some_iff.mp h
    obtain ⟨s₂, hblanks, h⟩ := Option.bind_eq_some_iff.mp h
    obtain ⟨s₃, hname, h⟩ := Option.bind_eq_some_iff.mp h
    obtain ⟨s₄, hequals, h⟩ := Option.bind_eq_some_iff.mp h
    obtain ⟨word, hword, hkeyword⟩ := List.exists_of_findSome?_eq_some hkeyword
    obtain ⟨blanks, hgap, hsome, hblank⟩ := eq_of_dropBlanks? hblanks
    obtain ⟨hs₂, hnext⟩ := eq_of_dropName? hname
    refine ⟨word ++ (blanks ++ name), s₃, ?_, .assignment hword hsome hblank, hnext,
      (takes_equals hequals h).length_le⟩
    rw [eq_of_dropChars? hkeyword, hgap, hs₂]
    simp only [List.append_assoc]
  | classDecl =>
    obtain ⟨s₁, hkeyword, h⟩ := Option.bind_eq_some_iff.mp h
    obtain ⟨s₂, hblanks, hname⟩ := Option.bind_eq_some_iff.mp h
    obtain ⟨blanks, hgap, hsome, hblank⟩ := eq_of_dropBlanks? hblanks
    obtain ⟨hs₂, hnext⟩ := eq_of_dropName? hname
    refine ⟨"class".toList ++ (blanks ++ name), rest, ?_, .classDecl hsome hblank, hnext,
      Nat.le_refl _⟩
    rw [eq_of_dropChars? hkeyword, hgap, hs₂]
    simp only [List.append_assoc]
  | file => exact nomatch h

/-! ## 2. Where heads stand -/

/-- The character before a head, if there is one, is no part of an identifier. -/
theorem before_of_mem_headsFrom {head : List Char → Option (List Char)} {resume i start stop : Nat}
    {before : Option Char} {text : List Char}
    (h : (start, stop) ∈ headsFrom head resume i before text) :
    (((text.take (start - i)).getLast?).or before).any isIdentChar = false := by
  induction text generalizing resume i before with
  | nil => exact nomatch h
  | cons c r ih =>
    have hlater : ∀ {resume : Nat}, (start, stop) ∈ headsFrom head resume (i + 1) (some c) r →
        ((((c :: r).take (start - i)).getLast?).or before).any isIdentChar = false := by
      intro resume hmem
      have hle := (mem_headsFrom hmem).1
      have hprevious := ih hmem
      rw [show start - i = start - (i + 1) + 1 by omega, List.take_succ_cons, List.getLast?_cons]
      -- The last character before the head is the first one if nothing else is.
      cases hlast : (r.take (start - (i + 1))).getLast? with
      | none =>
        rw [hlast] at hprevious
        exact hprevious
      | some d =>
        rw [hlast] at hprevious
        exact hprevious
    rw [headsFrom] at h
    split at h
    · next hhere =>
      split at h
      · rcases List.mem_cons.mp h with hnow | hmem
        · obtain ⟨rfl, -⟩ := Prod.mk.inj hnow
          obtain ⟨-, hbefore⟩ := (Bool.and_eq_true _ _).mp hhere
          rw [Nat.sub_self]
          simpa using hbefore
        · exact hlater hmem
      · exact hlater h
    · exact hlater h

/-- A head stands between characters that are no part of its keyword or its name. -/
theorem isHead_of_mem_heads {kind : UnitKind} {name text : List Char} {start stop : Nat}
    (h : (start, stop) ∈ heads kind name text) (hname : isDeclarable name = true) :
    ∃ before head after, text = before ++ (head ++ after) ∧ before.length = start ∧
      IsHead name kind head ∧ before.length + head.length ≤ stop ∧
      before.getLast?.any isIdentChar = false ∧ after.head?.any isIdentChar = false := by
  obtain ⟨-, rest, hhead, hstop⟩ := mem_headsFrom h
  have hbefore := before_of_mem_headsFrom h
  obtain ⟨hlt, hle, -⟩ := calm_of_mem_heads h hname
  rw [Nat.sub_zero] at hhead hstop hbefore
  rw [Option.or_none] at hbefore
  obtain ⟨head, after, hdrop, hisHead, hafter, hrest⟩ := exists_isHead hhead
  have htake : (text.take start).length = start := by
    rw [List.length_take]
    omega
  have hlength : (text.drop start).length = head.length + after.length := by
    rw [hdrop, List.length_append]
  refine ⟨text.take start, head, after, ?_, htake, hisHead, by omega, hbefore, hafter⟩
  rw [← hdrop, List.take_append_drop]

/-! ## 3. Units -/

/-- The unit carries the name that was asked for and the text between its offsets. -/
theorem text_of_firstUnit {name : String} {text : List Char} {mask : List Bool}
    {kinds : List UnitKind} {u : SourceUnit} (h : firstUnit name text mask kinds = some u) :
    u.name = name ∧ u.text.toList = (text.drop u.start).take (u.stop - u.start) := by
  induction kinds with
  | nil => simp [firstUnit] at h
  | cons kind kinds ih =>
    rw [firstUnit] at h
    split at h
    · exact ih h
    · simp at h
    · obtain rfl := Option.some.inj h
      exact ⟨rfl, String.toList_ofList⟩

theorem text_of_locate {source name : String} {u : SourceUnit} (h : locate source name = some u) :
    u.name = name ∧
      u.text.toList = (source.toList.drop u.start).take (u.stop - u.start) := by
  unfold locate locateWith at h
  split at h
  · exact nomatch h
  · exact text_of_firstUnit h

/-- A block ends where the count of braces from its opening one is zero for the first time, and that is
behind the brace. -/
theorem blockEnd_isLeast {text : List Char} {o j : Nat} (hopen : text[o]? = some '{')
    (h : blockEnd text o = some j) : o < j ∧ IsLeast (zeros 0 (codeChars text o)) j := by
  obtain ⟨r, hdrop⟩ : ∃ r, text.drop o = '{' :: r := by
    obtain ⟨hlt, hget⟩ := List.getElem?_eq_some_iff.mp hopen
    exact ⟨text.drop (o + 1), by rw [List.drop_eq_getElem_cons hlt, hget]⟩
  have hscan : codeChars text o = (o, '{') ::
      codeFrom ⟨.code, [], .mark '{'⟩ ('{' :: (text.take o).reverse) (o + 1) r := by
    rw [codeChars, hdrop]
    exact codeFrom_yield rfl o
  rw [blockEnd, hscan] at h
  have hlater : ∀ e ∈ codeFrom ⟨.code, [], .mark '{'⟩ ('{' :: (text.take o).reverse) (o + 1) r,
      o < e.1 := fun e he => (mem_codeFrom he).1
  -- The brace itself is counted, so the count begins at one behind it.
  have hfirst := closeIndex_isFirst Int.one_pos (codeFrom_pairwise_lt
    ⟨.code, [], .mark '{'⟩ ('{' :: (text.take o).reverse) r (o + 1))
  have hleast := (hfirst.iffs.1 j).mp h
  have hmem : (j, '}') ∈ codeFrom ⟨.code, [], .mark '{'⟩ ('{' :: (text.take o).reverse) (o + 1) r :=
    closeIndex_mem h
  refine ⟨hlater _ hmem, ?_⟩
  rw [hscan, zeros_cons hlater, show {j | j = o ∧ (0 : Int) + braceShift '{' = 0} = (∅ : Set Nat) from
    Set.eq_empty_of_forall_notMem fun j hj => absurd hj.2 (by decide), Set.empty_union]
  exact hleast

/-- Every unit that is found is the text between an opening brace and the brace at which the count of
braces is zero for the first time; and the keyword and name of a declaration of its kind, which begin
in code and are no part of longer words, stand before the opening brace. -/
theorem locate_sound {source name : String} {u : SourceUnit} (h : locate source name = some u) :
    let text := source.toList
    (u.name = name ∧ 0 < u.start ∧ u.start ≤ u.stop ∧ u.stop < text.length ∧
      text[u.start - 1]? = some '{' ∧ text[u.stop]? = some '}' ∧
      u.text.toList = (text.drop u.start).take (u.stop - u.start) ∧
      IsLeast (zeros 0 (codeChars text (u.start - 1))) u.stop) ∧
    ∃ before head after, text = before ++ (head ++ after) ∧ IsHead name.toList u.kind head ∧
      (codeMask text)[before.length]? = some true ∧
      before.length + head.length ≤ u.start - 1 ∧
      before.getLast?.any isIdentChar = false ∧ after.head?.any isIdentChar = false := by
  intro text
  obtain ⟨hname, htext⟩ := text_of_locate h
  obtain ⟨hdeclarable, start, stop, brace, hhead, hcode, hbody, hclose, hstart⟩ := locate_eq_some h
  have hmem := body?_mem hbody
  have hopen : text[brace]? = some '{' := getElem?_of_mem_codeChars hmem
  have hend : text[u.stop]? = some '}' := getElem?_of_mem_codeChars (closeIndex_mem hclose)
  obtain ⟨hlt, hleast⟩ := blockEnd_isLeast hopen hclose
  obtain ⟨hstop, -⟩ := List.getElem?_eq_some_iff.mp hend
  -- The brace of the body and the one that closes it are yielded, which bounds both offsets.
  have hbrace : u.start - 1 = brace := by omega
  rw [hbrace]
  constructor
  · exact ⟨hname, by omega, by omega, hstop, hopen, hend, htext, hleast⟩
  · obtain ⟨before, head, after, heq, hlength, hisHead, hle, hbefore, hafter⟩ :=
      isHead_of_mem_heads hhead hdeclarable
    have hsearch : stop ≤ brace := (mem_codeFrom hmem).1
    refine ⟨before, head, after, heq, hisHead, ?_, by omega, hbefore, hafter⟩
    rw [hlength]
    exact hcode

/-- A name that a comment and a longer name hold before it is declared, with a brace in a template. -/
theorem locate_sound_binding :
    let source := "// let f = 0\nlet f1, of\nlet  f = (\x7b a \x7d) => \x7b a(`\x7d`) \x7d"
    ∃ u, locate source "f" = some u ∧ u.text = " a(`\x7d`) " ∧
      IsLeast (zeros 0 (codeChars source.toList (u.start - 1))) u.stop := by
  intro source
  have hlocate : locate source "f" = some
      { name := "f", kind := .assignment, text := " a(`\x7d`) ", start := 45, stop := 53 } := by
    decide
  exact ⟨_, hlocate, rfl, (locate_sound hlocate).1.2.2.2.2.2.2.2⟩

end Grading.Source
