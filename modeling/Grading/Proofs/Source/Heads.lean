import Mathlib.Data.List.Infix
import Grading.Proofs.Source.Delimiters

/-!
# Heads — where heads of declarations stand

The head of a declaration is recognised at the start of what follows it, and nowhere where the
declared name does not come after its keyword.
-/

namespace Grading.Source

open Grading.Text

/-! ## 1. Names -/

/-- A name as it is declared: every identifier, in particular those of seven bits. -/
def IsName (name : List Char) : Prop :=
  name.head?.any isNameStart = true ∧ name.tail.all isIdentChar = true

instance (name : List Char) : Decidable (IsName name) := inferInstanceAs (Decidable (_ ∧ _))

theorem toNat_of_isNameStart {c : Char} (h : isNameStart c = true) :
    c.toNat = 36 ∨ 65 ≤ c.toNat ∧ c.toNat ≤ 90 ∨ c.toNat = 95 ∨ 97 ≤ c.toNat ∧ c.toNat ≤ 122 := by
  simp only [isNameStart, Bool.or_eq_true, Bool.and_eq_true, decide_eq_true_eq, beq_iff_eq] at h
  rcases h with ((⟨hlow, hhigh⟩ | ⟨hlow, hhigh⟩) | rfl) | rfl
  · exact .inr (.inr (.inr ⟨hlow, hhigh⟩))
  · exact .inr (.inl ⟨hlow, hhigh⟩)
  · exact .inr (.inr (.inl rfl))
  · exact .inl rfl

theorem isBlank_of_isNameStart {c : Char} (h : isNameStart c = true) : isBlank c = false := by
  have := toNat_of_isNameStart h
  simp [isBlank]
  omega

theorem isIdentChar_of_isNameStart {c : Char} (h : isNameStart c = true) :
    isIdentChar c = true := by
  have hsmall : c.toNat < 128 := by
    have := toNat_of_isNameStart h
    omega
  simp only [isNameStart, Bool.or_eq_true] at h
  simp only [isIdentChar, isWordChar, isAlnum, if_pos hsmall, isAsciiAlnum, Bool.or_eq_true]
  tauto

theorem IsName.cons {name : List Char} (h : IsName name) :
    ∃ c r, name = c :: r ∧ isNameStart c = true ∧ ∀ d ∈ r, isIdentChar d = true := by
  obtain ⟨hstart, hrest⟩ := h
  cases name with
  | nil => exact absurd hstart Bool.false_ne_true
  | cons c r => exact ⟨c, r, rfl, hstart, List.all_eq_true.mp hrest⟩

/-- A character that is part of no identifier stands in no name. -/
theorem IsName.notMem {name : List Char} (h : IsName name) {c : Char} (hc : isIdentChar c = false) :
    c ∉ name := by
  obtain ⟨d, r, rfl, hstart, hrest⟩ := h.cons
  intro hmem
  have hident : isIdentChar c = true := by
    rcases List.mem_cons.mp hmem with rfl | hr
    · exact isIdentChar_of_isNameStart hstart
    · exact hrest c hr
  rw [hc] at hident
  exact Bool.false_ne_true hident

theorem IsName.isDeclarable {name : List Char} (h : IsName name) : isDeclarable name = true := by
  obtain ⟨c, r, rfl, hstart, hrest⟩ := h.cons
  have hlast : r.getLast? ≠ some '\n' := fun hlast =>
    absurd (hrest '\n' (List.mem_of_getLast? hlast)) (by decide)
  simp only [Source.isDeclarable, hstart, if_neg hlast, Bool.true_and]
  exact List.all_eq_true.mpr hrest

/-- A name that stands in a text stands on one side of every character that is no part of it. -/
theorem infix_split {name a b : List Char} {c : Char} (hc : c ∉ name)
    (h : name <:+: a ++ c :: b) : name <:+: a ∨ name <:+: b := by
  rcases List.infix_append_iff.mp h with h | h | ⟨u, v, rfl, hu, hv⟩
  · exact .inl h
  · rcases List.infix_cons_iff.mp h with h | h
    · cases name with
      | nil => exact .inl (List.nil_infix)
      | cons d name =>
        obtain ⟨rfl, -⟩ := List.cons_prefix_cons.mp h
        exact absurd List.mem_cons_self hc
    · exact .inr h
  · cases v with
    | nil => exact .inl (by simpa using hu.isInfix)
    | cons d v =>
      obtain ⟨rfl, -⟩ := List.cons_prefix_cons.mp hv
      exact absurd (List.mem_append_right u List.mem_cons_self) hc

/-! ## 2. Heads -/

theorem dropChars?_append (word s : List Char) : dropChars? word (word ++ s) = some s := by
  induction word with
  | nil => rfl
  | cons c word ih => rw [List.cons_append, dropChars?, if_pos rfl, ih]

theorem dropName?_append (name : List Char) {c : Char} (hc : isIdentChar c = false)
    (s : List Char) : dropName? name (name ++ c :: s) = some (c :: s) := by
  rw [dropName?, dropChars?_append, Option.bind_some, unlessNext, hc, if_neg Bool.false_ne_true]

theorem IsName.dropWhile_isBlank {name : List Char} (h : IsName name) (s : List Char) :
    (' ' :: (name ++ s)).dropWhile isBlank = name ++ s := by
  obtain ⟨c, r, rfl, hstart, -⟩ := h.cons
  rw [List.dropWhile_cons_of_pos (by decide), List.cons_append,
    List.dropWhile_cons_of_neg (by simp [isBlank_of_isNameStart hstart])]

/-- The written head of a function is read as one. -/
theorem functionHead?_append {name : List Char} (h : IsName name) {c : Char}
    (hc : isIdentChar c = false) (s : List Char) :
    functionHead? name ("function ".toList ++ (name ++ c :: s)) = some (c :: s) := by
  obtain ⟨d, r, hcons, hstart, -⟩ := h.cons
  have hstar : d ≠ '*' := by
    rintro rfl
    exact absurd hstart (by decide)
  change functionHead? name ("function".toList ++ ' ' :: (name ++ c :: s)) = _
  rw [functionHead?, dropChars?_append]
  have hnext : unlessNext isWordChar (' ' :: (name ++ c :: s)) = some (' ' :: (name ++ c :: s)) := rfl
  simp only [Option.bind_eq_bind, Option.bind_some, hnext]
  rw [h.dropWhile_isBlank]
  split
  · next r heq =>
    rw [hcons] at heq
    exact absurd (List.cons.inj heq).1 hstar
  · exact dropName?_append name hc s

theorem IsName.dropBlanks? {name : List Char} (h : IsName name) (s : List Char) :
    dropBlanks? (' ' :: (name ++ s)) = some (name ++ s) := by
  have hdrop := h.dropWhile_isBlank s
  rw [List.dropWhile_cons_of_pos (by decide)] at hdrop
  rw [Source.dropBlanks?, if_pos (by decide), hdrop]

theorem assignmentHead?_append {name : List Char} (h : IsName name) (s : List Char) :
    assignmentHead? name ("const ".toList ++ (name ++ ' ' :: '=' :: ' ' :: s)) =
      some (' ' :: s) := by
  have hword : dropWord? ["const".toList, "let".toList, "var".toList]
      ("const".toList ++ ' ' :: (name ++ ' ' :: '=' :: ' ' :: s)) =
        some (' ' :: (name ++ ' ' :: '=' :: ' ' :: s)) := by
    rw [dropWord?, List.findSome?_cons, dropChars?_append]
  change assignmentHead? name ("const".toList ++ ' ' :: (name ++ ' ' :: '=' :: ' ' :: s)) = _
  rw [assignmentHead?, hword, Option.bind_eq_bind, Option.bind_some, h.dropBlanks?,
    Option.bind_some, dropName?_append name (by decide)]
  rfl

theorem classHead?_append {name : List Char} (h : IsName name) {c : Char}
    (hc : isIdentChar c = false) (s : List Char) :
    classHead? name ("class ".toList ++ (name ++ c :: s)) = some (c :: s) := by
  change classHead? name ("class".toList ++ ' ' :: (name ++ c :: s)) = _
  rw [classHead?, dropChars?_append, Option.bind_eq_bind, Option.bind_some, h.dropBlanks?,
    Option.bind_some, dropName?_append name hc]

/-! ## 3. Where no head stands -/

theorem headsFrom_eq_nil {head : List Char → Option (List Char)} {text : List Char}
    (h : ∀ t, t <:+ text → head t = none) (resume i : Nat) (before : Option Char) :
    headsFrom head resume i before text = [] := by
  induction text generalizing i before with
  | nil => rfl
  | cons c r ih =>
    have hrest := fun i before => ih (fun t ht => h t (ht.trans (List.suffix_cons c r))) i before
    rw [headsFrom, h _ (List.suffix_refl _), hrest]
    simp

theorem prefix_of_dropName? {name s rest : List Char} (h : dropName? name s = some rest) :
    name <+: s := by
  obtain ⟨r, hr, -⟩ := Option.bind_eq_some_iff.mp h
  rw [eq_of_dropChars? hr]
  exact List.prefix_append name r

/-- Where the head of a function is read its name is written: a text without the name has no
head. -/
theorem infix_of_functionHead? {name s rest : List Char} (h : functionHead? name s = some rest) :
    name <:+: s.drop 8 := by
  unfold functionHead? at h
  obtain ⟨s₁, hword, h⟩ := Option.bind_eq_some_iff.mp h
  obtain ⟨s₂, hend, h⟩ := Option.bind_eq_some_iff.mp h
  have hname : name <:+: s₂.dropWhile isBlank := by
    dsimp only at h
    split at h
    · next r hstar =>
      have hrest := (List.dropWhile_suffix isBlank).trans (List.suffix_cons '*' r)
      rw [hstar]
      exact (prefix_of_dropName? h).isInfix.trans hrest.isInfix
    · exact (prefix_of_dropName? h).isInfix
  have hdrop : s.drop 8 = s₁ := by
    rw [eq_of_dropChars? hword]
    rfl
  rw [hdrop, eq_of_unlessNext hend]
  exact hname.trans (List.dropWhile_suffix isBlank).isInfix

/-- Where the head of an assignment is read its name is written. -/
theorem infix_of_assignmentHead? {name s rest : List Char}
    (h : assignmentHead? name s = some rest) : name <:+: s.drop 4 := by
  unfold assignmentHead? at h
  obtain ⟨s₁, hword, h⟩ := Option.bind_eq_some_iff.mp h
  obtain ⟨s₂, hblanks, h⟩ := Option.bind_eq_some_iff.mp h
  obtain ⟨s₃, hname, -⟩ := Option.bind_eq_some_iff.mp h
  obtain ⟨word, hmem, hword⟩ := List.exists_of_findSome?_eq_some hword
  have hwords : ∀ word ∈ ["const".toList, "let".toList, "var".toList], 3 ≤ word.length := by decide
  have htail : s₂ <:+ s₁.drop 1 := by
    unfold dropBlanks? at hblanks
    split at hblanks
    · split at hblanks
      · rw [← Option.some.inj hblanks]
        exact List.dropWhile_suffix isBlank
      · exact nomatch hblanks
    · exact nomatch hblanks
  have hdrop : s₁.drop 1 <:+ s.drop 4 := by
    have hlength := hwords word hmem
    rw [eq_of_dropChars? hword, show s₁.drop 1 = (word ++ s₁).drop (word.length + 1) by simp]
    exact List.drop_suffix_drop_left _ (by omega)
  exact (prefix_of_dropName? hname).isInfix.trans (htail.trans hdrop).isInfix

theorem heads_function_eq_nil {name text : List Char} (h : ¬ name <:+: text.drop 7) :
    heads .function name text = [] := by
  apply headsFrom_eq_nil
  rintro t ⟨u, rfl⟩
  by_contra hne
  obtain ⟨rest, hrest⟩ := Option.ne_none_iff_exists'.mp hne
  apply h
  have hdrop : t.drop 8 <:+ (u ++ t).drop 7 := by
    rw [show t.drop 8 = (u ++ t).drop (u.length + 8) by simp]
    exact List.drop_suffix_drop_left _ (by omega)
  exact (infix_of_functionHead? hrest).trans hdrop.isInfix

/-- No binding begins in the first three characters of the word `class`. -/
theorem heads_assignment_eq_nil {name s : List Char}
    (h : ¬ name <:+: ("class".toList ++ s).drop 7) :
    heads .assignment name ("class".toList ++ s) = [] := by
  apply headsFrom_eq_nil
  intro t ht
  by_contra hne
  obtain ⟨rest, hrest⟩ := Option.ne_none_iff_exists'.mp hne
  obtain ⟨u, hu⟩ := ht
  by_cases hfar : 3 ≤ u.length
  · apply h
    have hdrop : t.drop 4 <:+ (u ++ t).drop 7 := by
      rw [show t.drop 4 = (u ++ t).drop (u.length + 4) by simp]
      exact List.drop_suffix_drop_left _ (by omega)
    rw [← hu]
    exact (infix_of_assignmentHead? hrest).trans hdrop.isInfix
  · have hdrop : t = ("class".toList ++ s).drop u.length := by rw [← hu, List.drop_left]
    have hnear : u.length = 0 ∨ u.length = 1 ∨ u.length = 2 := by omega
    rw [hdrop] at hrest
    rcases hnear with hlength | hlength | hlength <;> (rw [hlength] at hrest; exact nomatch hrest)

/-! ## 4. Names that stand nowhere else -/

/-- A name does not stand in a text without name characters. -/
theorem IsName.not_infix {name s : List Char} (h : IsName name)
    (hs : s.all (!isIdentChar ·) = true) : ¬ name <:+: s := by
  obtain ⟨c, r, rfl, hstart, -⟩ := h.cons
  intro hin
  have hother := List.all_eq_true.mp hs c (hin.subset List.mem_cons_self)
  simp [isIdentChar_of_isNameStart hstart] at hother

/-- A name that stands neither before a body nor in it nor after it stands nowhere in the text. -/
theorem IsName.not_infix_placed {name sig body rest : List Char} (h : IsName name)
    (hsig : ¬ name <:+: sig) (hbody : ¬ name <:+: body) (hrest : ¬ name <:+: rest) :
    ¬ name <:+: sig ++ '{' :: (body ++ '}' :: rest) := by
  intro hin
  rcases infix_split (h.notMem (by decide)) hin with hin | hin
  · exact hsig hin
  rcases infix_split (h.notMem (by decide)) hin with hin | hin
  · exact hbody hin
  · exact hrest hin

/-- Behind the first character of its head a declared name stands only where the rest has it. -/
theorem IsName.not_infix_drop {name word rest : List Char} (h : IsName name)
    (hword : word.length = 6) (hrest : ¬ name <:+: rest) :
    ¬ name <:+: (word ++ (name ++ ' ' :: rest)).drop 7 := by
  obtain ⟨c, r, hcons, -, -⟩ := h.cons
  have hdrop : (word ++ (name ++ ' ' :: rest)).drop 7 = r ++ ' ' :: rest := by
    rw [hcons, List.drop_append, hword, List.drop_of_length_le (by omega)]
    rfl
  rw [hdrop]
  intro hin
  rcases infix_split (h.notMem (by decide)) hin with hin | hin
  · have := hin.length_le
    rw [hcons, List.length_cons] at this
    omega
  · exact hrest hin

end Grading.Source
