import Mathlib.Data.List.Chain
import Mathlib.Data.Nat.Digits.Defs
import Grading.Proofs.Compiler.Colours
import Grading.Proofs.Text.Blank

/-!
# Printed — errors as compilers print them

An error that is printed in one of the two forms is found at its own place, however much its file and
its message look like another one: the place begins with a mark and a digit, and nothing before it
does.
-/

namespace Grading

open Grading.Text

/-! ## 1. Printing -/

def DiagnosticForm.mark : DiagnosticForm → Char
  | .brackets => '('
  | .colons => ':'

def digits (n : Nat) : List Char := (Nat.repr n).toList

def DiagnosticForm.place (line column : Nat) : DiagnosticForm → List Char
  | .brackets => '(' :: (digits line ++ ',' :: (digits column ++ "): ".toList))
  | .colons => ':' :: (digits line ++ ':' :: (digits column ++ " - ".toList))

/-- An error as compilers print it; `told` is what stands behind the word `error` and a blank. -/
def DiagnosticForm.print (form : DiagnosticForm) (file : List Char) (line column : Nat)
    (told : List Char) : List Char :=
  file ++ (form.place line column ++ ("error ".toList ++ told))

/-- No digit stands right behind a mark. -/
def NoDigitBehind (mark : Char) (s : List Char) : Prop :=
  s.IsChain fun a b => a = mark → isDigit b = false

instance (mark : Char) (s : List Char) : Decidable (NoDigitBehind mark s) :=
  inferInstanceAs (Decidable (s.IsChain _))

/-- A text that is a part of a line: it has no blank at an end, no break and no escape character. -/
structure Inline (s : List Char) : Prop where
  trimmed : trim s = s
  unbroken : Unbroken s
  plain : escapeChar ∉ s

/-! ## 2. Numbers -/

theorem digitValue?_of_isDigit {c : Char} (h : c.isDigit = true) :
    digitValue? c = some (c.toNat - '0'.toNat) := by
  have hcode : 48 ≤ c.toNat ∧ c.toNat ≤ 57 := Char.isDigit_iff_toNat.mp h
  have hdigit : ('0' ≤ c && c ≤ '9') = true := by
    rw [Bool.and_eq_true, decide_eq_true_eq, decide_eq_true_eq]
    exact hcode
  rw [digitValue?, if_pos (by omega), if_pos hdigit]
  rfl

theorem digits_eq (n : Nat) : digits n = Nat.toDigits 10 n := by
  rw [digits, Nat.repr_eq_ofList_toDigits, String.toList_ofList]

theorem digits_ne_nil (n : Nat) : digits n ≠ [] := by
  rw [digits_eq]
  exact Nat.toDigits_ne_nil

theorem isDigit_of_mem_digits {n : Nat} {c : Char} (h : c ∈ digits n) : c.isDigit = true := by
  rw [digits_eq] at h
  exact Nat.isDigit_of_mem_toDigits (by decide) (by decide) h

theorem toNat_of_mem_digits {n : Nat} {c : Char} (h : c ∈ digits n) : 48 ≤ c.toNat ∧ c.toNat ≤ 57 :=
  Char.isDigit_iff_toNat.mp (isDigit_of_mem_digits h)

theorem isDigit_digits {n : Nat} : ∀ c ∈ digits n, isDigit c = true := by
  intro c hc
  rw [isDigit, digitValue?_of_isDigit (isDigit_of_mem_digits hc)]
  rfl

/-- A number is read from its digits, if there are not too many. -/
theorem numberOf_digits {n : Nat} (h : isTooLongToWrite n = false) : numberOf (digits n) = .ok n := by
  have hbound : n < 10 ^ digitLimit := by
    unfold isTooLongToWrite at h
    -- The power is too large to be worked out, so that the limit has to be any number here.
    generalize digitLimit = limit at h ⊢
    rwa [decide_eq_false_iff_not, Nat.pow_eq, Nat.not_le] at h
  have hlength : (digits n).length ≤ digitLimit := by
    rw [digits_eq]
    exact Nat.toDigits_length 10 n digitLimit (by decide) hbound
  have hvalue : (digits n).foldl (fun n c => 10 * n + (digitValue? c).getD 0) 0 =
      Nat.ofDigitChars 10 (digits n) 0 := by
    apply List.foldl_ext
    intro m c hc
    rw [digitValue?_of_isDigit (isDigit_of_mem_digits hc)]
    rfl
  rw [numberOf, if_neg (by omega), hvalue, digits_eq, Nat.ofDigitChars_toDigits (by decide) (by decide)]

/-! ## 3. Places -/

/-- A text is cut where a test fails for the first time. -/
theorem cut_append {p : Char → Bool} {s r : List Char} (hs : ∀ c ∈ s, p c = true)
    (hr : ∀ c ∈ r.head?, p c = false) :
    (s ++ r).takeWhile p = s ∧ (s ++ r).dropWhile p = r := by
  induction s with
  | nil =>
    cases r with
    | nil => exact ⟨rfl, rfl⟩
    | cons c r => simp [hr c rfl]
  | cons c s ih =>
    have hrest := ih fun d hd => hs d (List.mem_cons_of_mem c hd)
    simp [hs c List.mem_cons_self, hrest]

theorem digits?_digits (n : Nat) {r : List Char} (hr : ∀ c ∈ r.head?, isDigit c = false) :
    digits? (digits n ++ r) = some (digits n, r) := by
  obtain ⟨htake, hdrop⟩ := cut_append isDigit_digits hr
  rw [digits?, htake, hdrop]
  cases h : digits n with
  | nil => exact absurd h (digits_ne_nil n)
  | cons d ds => rfl

theorem digits?_eq_none {s : List Char} (h : ∀ c ∈ s.head?, isDigit c = false) : digits? s = none := by
  have htake : s.takeWhile isDigit = [] := (cut_append (s := []) nofun h).1
  rw [digits?, htake]

@[simp] theorem after?_append (start r : List Char) : after? start (start ++ r) = some r := by
  simp [after?]

@[simp] theorem after?_singleton (a c : Char) (r : List Char) :
    after? [a] (c :: r) = if a = c then some r else none := by
  by_cases h : a = c <;> simp [after?, h]

/-- A place begins with the mark of its form and a digit. -/
theorem DiagnosticForm.place?_eq_none {form : DiagnosticForm} {c : Char} {r : List Char}
    (h : c = form.mark → ∀ d ∈ r.head?, isDigit d = false) : form.place? (c :: r) = none := by
  by_cases hc : form.mark = c
  · have hnone : digits? r = none := digits?_eq_none (h hc.symm)
    cases form with
    | brackets => simp [place?, ← hc, mark, hnone]
    | colons => simp [place?, ← hc, mark, hnone]
  · cases form with
    | brackets =>
      change ¬ '(' = c at hc
      simp [place?, hc]
    | colons =>
      change ¬ ':' = c at hc
      simp [place?, hc]

/-- The printed place of a diagnostic is read back. -/
theorem DiagnosticForm.place?_place (form : DiagnosticForm) (line column : Nat) (r : List Char) :
    form.place? (form.place line column ++ ("error ".toList ++ r)) =
      some (digits line, digits column, "error ".toList ++ r) := by
  cases form with
  | brackets =>
    have hsplit : place line column .brackets ++ ("error ".toList ++ r) =
        '(' :: (digits line ++ ',' :: (digits column ++ ')' :: ':' :: ' ' :: ("error ".toList ++ r))) := by
      simp [place]
    have hclosed : after? [')', ':'] (')' :: ':' :: ' ' :: ("error ".toList ++ r)) =
        some (' ' :: ("error ".toList ++ r)) := after?_append [')', ':'] _
    rw [hsplit, place?, after?_singleton, if_pos rfl]
    simp only [Option.bind_eq_bind, Option.bind_some]
    rw [digits?_digits line (by simp; decide)]
    simp only [Option.bind_some, after?_singleton, if_pos]
    rw [digits?_digits column (by simp; decide)]
    simp only [Option.bind_some, hclosed]
    rfl
  | colons =>
    have hsplit : place line column .colons ++ ("error ".toList ++ r) =
        ':' :: (digits line ++ ':' :: (digits column ++ ' ' :: '-' :: ' ' :: ("error ".toList ++ r))) := by
      simp [place]
    rw [hsplit, place?, after?_singleton, if_pos rfl]
    simp only [Option.bind_eq_bind, Option.bind_some]
    rw [digits?_digits line (by simp; decide)]
    simp only [Option.bind_some, after?_singleton, if_pos]
    rw [digits?_digits column (by simp; decide)]
    rfl

/-! ## 4. The search for the place -/

namespace DiagnosticForm

variable {form : DiagnosticForm} {file told : List Char} {line column : Nat}

def printed (file : List Char) (line column : Nat) (told : List Char) : Finding :=
  { file, line := digits line, column := digits column, code := (codeAndMessage told).1,
    message := (codeAndMessage told).2 }

theorem findingAt?_place (htold : ∀ c ∈ told.head?, isBlank c = false) :
    form.findingAt? file (form.place line column ++ ("error ".toList ++ told)) =
      some (printed file.reverse line column told) := by
  have hword : after? "error".toList ("error ".toList ++ told) = some (' ' :: told) :=
    after?_append "error".toList (' ' :: told)
  have hblank : trimLeft (' ' :: told) = told := trimLeft_eq_self htold
  rw [findingAt?, place?_place]
  simp only [Option.bind_eq_bind, Option.bind_some, hword, hblank]
  rfl

/-- The search goes on behind a character at which no place begins. -/
theorem find?_cons {c : Char} {r : List Char} (h : c = form.mark → ∀ d ∈ r.head?, isDigit d = false)
    (before : List Char) : form.find? before (c :: r) = form.find? (c :: before) r := by
  have hnone : form.findingAt? before (c :: r) = none := by
    rw [findingAt?, place?_eq_none h]
    rfl
  rw [find?, hnone, ite_self]

/-- Text without a digit behind the mark is passed over in the search for a place. -/
theorem find?_append {s t : List Char} (hs : NoDigitBehind form.mark s)
    (ht : ∀ d ∈ t.head?, isDigit d = false) (before : List Char) :
    form.find? before (s ++ t) = form.find? (s.reverse ++ before) t := by
  induction s generalizing before with
  | nil => rfl
  | cons c s ih =>
    obtain ⟨hc, hrest⟩ := List.isChain_cons.mp hs
    have hhead : c = form.mark → ∀ d ∈ (s ++ t).head?, isDigit d = false := by
      intro hmark d hd
      cases s with
      | nil => exact ht d hd
      | cons e s => exact hc d hd hmark
    rw [List.cons_append, find?_cons hhead, ih hrest]
    simp

theorem find?_eq_none {s : List Char} (h : NoDigitBehind form.mark s) (before : List Char) :
    form.find? before s = none := by
  have hall := find?_append h (t := []) nofun before
  rwa [List.append_nil, find?] at hall

theorem find?_of_findingAt? {before s : List Char} {f : Finding} (hbefore : before ≠ [])
    (h : form.findingAt? before s = some f) : form.find? before s = some f := by
  cases s with
  | nil => cases form <;> exact nomatch h
  | cons c r =>
    rw [find?, if_neg (by simpa using hbefore), h]

def signs : DiagnosticForm → List Char
  | .brackets => "(,): ".toList
  | .colons => ":: - ".toList

theorem mem_place {c : Char} (h : c ∈ form.place line column) : c ∈ form.signs ∨ ∃ n, c ∈ digits n := by
  cases form with
  | brackets =>
    simp only [place, List.mem_cons, List.mem_append] at h
    rcases h with rfl | h | rfl | h | h
    · exact .inl (by decide)
    · exact .inr ⟨line, h⟩
    · exact .inl (by decide)
    · exact .inr ⟨column, h⟩
    · exact .inl (List.mem_cons_of_mem _ (List.mem_cons_of_mem _ h))
  | colons =>
    simp only [place, List.mem_cons, List.mem_append] at h
    rcases h with rfl | h | rfl | h | h
    · exact .inl (by decide)
    · exact .inr ⟨line, h⟩
    · exact .inl (by decide)
    · exact .inr ⟨column, h⟩
    · exact .inl (List.mem_cons_of_mem _ (List.mem_cons_of_mem _ h))

theorem head?_place (form : DiagnosticForm) (line column : Nat) (r : List Char) :
    (form.place line column ++ r).head? = some form.mark := by
  cases form <;> rfl

/-- A printed error is found at its own place if none begins in the name of its file. -/
theorem find?_print (hnamed : file ≠ []) (hfile : NoDigitBehind form.mark file)
    (htold : ∀ c ∈ told.head?, isBlank c = false) :
    form.find? [] (form.print file line column told) = some (printed file line column told) := by
  have hmark : ∀ d ∈ (form.place line column ++ ("error ".toList ++ told)).head?,
      isDigit d = false := by
    rw [head?_place]
    cases form <;> simp <;> decide
  rw [print, find?_append hfile hmark, List.append_nil]
  apply find?_of_findingAt? (by simpa using hnamed)
  rw [findingAt?_place htold, List.reverse_reverse]

end DiagnosticForm

theorem noDigitBehind_append {mark : Char} {s t : List Char} (hs : mark ∉ s)
    (ht : NoDigitBehind mark t) : NoDigitBehind mark (s ++ t) := by
  induction s with
  | nil => exact ht
  | cons c s ih =>
    rw [List.mem_cons, not_or] at hs
    exact List.isChain_cons.mpr ⟨fun _ _ hc => absurd hc.symm hs.1, ih hs.2⟩

/-- In the form with colons no place of the other form begins, unless the file or what is told has
one. -/
theorem noDigitBehind_print {file told : List Char} (hfile : NoDigitBehind '(' file)
    (htold : NoDigitBehind '(' told) (line column : Nat) :
    NoDigitBehind '(' (DiagnosticForm.colons.print file line column told) := by
  have hplace : '(' ∉ DiagnosticForm.place line column .colons := by
    intro h
    rcases DiagnosticForm.mem_place h with h | ⟨n, h⟩
    · exact absurd h (by decide)
    · have := toNat_of_mem_digits h
      revert this
      decide
  have hrest : NoDigitBehind '('
      (DiagnosticForm.place line column .colons ++ ("error ".toList ++ told)) :=
    noDigitBehind_append hplace (noDigitBehind_append (by decide) htold)
  refine List.isChain_append.mpr ⟨hfile, hrest, fun c _ d hd _ => ?_⟩
  rw [DiagnosticForm.head?_place] at hd
  obtain rfl := Option.some.inj hd
  decide

/-- A printed diagnostic is found with its own file, place and text. -/
theorem finding?_print {form : DiagnosticForm} {file told : List Char} {line column : Nat}
    (hnamed : file ≠ []) (hfile : NoDigitBehind form.mark file)
    (htold : ∀ c ∈ told.head?, isBlank c = false)
    (hcolons : form = .colons → NoDigitBehind '(' file ∧ NoDigitBehind '(' told) :
    finding? (form.print file line column told) =
      some (DiagnosticForm.printed file line column told) := by
  have hfind : form.find? [] (form.print file line column told) = _ :=
    DiagnosticForm.find?_print hnamed hfile htold
  cases form with
  | brackets => rw [finding?, hfind, Option.some_or]
  | colons =>
    obtain ⟨hfile', htold'⟩ := hcolons rfl
    have hnone : DiagnosticForm.find? .brackets [] (DiagnosticForm.colons.print file line column told) =
        none :=
      @DiagnosticForm.find?_eq_none .brackets _ (noDigitBehind_print hfile' htold' line column) []
    rw [finding?, hfind, hnone, Option.none_or]

/-! ## 5. Reading -/

theorem toError_printed {file told : List Char} {line column : Nat} (hfile : trim file = file)
    (hline : isTooLongToWrite line = false) (hcolumn : isTooLongToWrite column = false) :
    (DiagnosticForm.printed file line column told).toError = .ok {
      message := String.ofList (trim (codeAndMessage told).2), file := some (String.ofList file)
      line := some (line : Int), column := some (column : Int)
      code := (codeAndMessage told).1.map String.ofList } := by
  rw [Finding.toError, DiagnosticForm.printed, numberOf_digits hline, numberOf_digits hcolumn, hfile]
  rfl

/-- What is printed around the file and what is told of it are visible seven-bit characters and
blanks. -/
theorem mem_print {form : DiagnosticForm} {file told : List Char} {line column : Nat} {c : Char}
    (h : c ∈ form.print file line column told) :
    c ∈ file ∨ c ∈ told ∨ 32 ≤ c.toNat ∧ c.toNat ≤ 126 := by
  simp only [DiagnosticForm.print, List.mem_append] at h
  rcases h with h | h | h | h
  · exact .inl h
  · rcases DiagnosticForm.mem_place h with h | ⟨n, h⟩
    · have hsigns : ∀ d ∈ form.signs, 32 ≤ d.toNat ∧ d.toNat ≤ 126 := by
        cases form <;> simp [DiagnosticForm.signs]
      exact .inr (.inr (hsigns c h))
    · have := toNat_of_mem_digits h
      exact .inr (.inr (by omega))
  · have hword : ∀ d ∈ "error ".toList, 32 ≤ d.toNat ∧ d.toNat ≤ 126 := by simp
    exact .inr (.inr (hword c h))
  · exact .inr (.inl h)

theorem unbroken_print {form : DiagnosticForm} {file told : List Char} {line column : Nat}
    (hfile : Unbroken file) (htold : Unbroken told) : Unbroken (form.print file line column told) := by
  intro c hc
  rcases mem_print hc with hc | hc | hcode
  · exact hfile c hc
  · exact htold c hc
  · simp [isLineBreak]
    omega

theorem escapeChar_not_mem_print {form : DiagnosticForm} {file told : List Char} {line column : Nat}
    (hfile : escapeChar ∉ file) (htold : escapeChar ∉ told) :
    escapeChar ∉ form.print file line column told := by
  intro h
  rcases mem_print h with h | h | hcode
  · exact hfile h
  · exact htold h
  · revert hcode
    decide

/-- The blanks at the end of a printed error are those at the end of what is told. -/
theorem trim_print {form : DiagnosticForm} {file told : List Char} {line column : Nat}
    (hnamed : file ≠ []) (hfile : trim file = file) (htold : trimRight told ≠ []) :
    trim (form.print file line column told) = form.print file line column (trimRight told) := by
  have hhead : ∀ c ∈ (form.print file line column told).head?, isBlank c = false := by
    cases file with
    | nil => exact absurd rfl hnamed
    | cons c r => exact fun d hd => head?_of_trim hfile d hd
  have hsplit : ∀ told, form.print file line column told =
      (file ++ form.place line column ++ "error ".toList) ++ told := by simp [DiagnosticForm.print]
  rw [trim, trimLeft_eq_self hhead, hsplit, hsplit, trimRight_append htold]

/-- A printed error is read as the error that it is, with colours or without. -/
theorem Diagnostics.read_print (form : DiagnosticForm) {file told output : List Char}
    {line column : Nat} (hfile : Inline file) (hnamed : file ≠ [])
    (hplaces : NoDigitBehind form.mark file)
    (hcolons : form = .colons → NoDigitBehind '(' file ∧ NoDigitBehind '(' (trimRight told))
    (hunbroken : Unbroken told) (hplain : escapeChar ∉ told)
    (htold : ∀ c ∈ (trimRight told).head?, isBlank c = false) (hsaid : trimRight told ≠ [])
    (hline : isTooLongToWrite line = false) (hcolumn : isTooLongToWrite column = false)
    (houtput : Coloured (form.print file line column told) output) :
    Diagnostics.read output = .ok { errors := [{
      message := String.ofList (trim (codeAndMessage (trimRight told)).2)
      file := some (String.ofList file), line := some (line : Int), column := some (column : Int)
      code := (codeAndMessage (trimRight told)).1.map String.ofList }] } := by
  have hlines : lines output = [output] := by
    apply lines_of_unbroken (unbroken_of_coloured houtput (unbroken_print hfile.unbroken hunbroken))
    apply ne_nil_of_coloured houtput
    simp [DiagnosticForm.print, hnamed]
  have hclean : trim (withoutColours output) = form.print file line column (trimRight told) := by
    rw [withoutColours_of_coloured houtput (escapeChar_not_mem_print hfile.plain hplain),
      trim_print hnamed hfile.trimmed hsaid]
  have hsome : (form.print file line column (trimRight told)).isEmpty = false := by
    simp [DiagnosticForm.print, hnamed]
  rw [read, hlines, ofLines, ofLine, hclean]
  simp only [hsome, Bool.false_eq_true, if_false, finding?_print hnamed hplaces htold hcolons,
    toError_printed hfile.trimmed hline hcolumn]
  rfl

end Grading
