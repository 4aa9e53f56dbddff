import Grading.Proofs.Compiler.Printed

/-!
# Told — the code and the message of an error

What stands behind the word `error` is divided into a first word, a colon, blanks and the rest, each of
which may be missing. An error that is printed with its code is read back. One that is printed without a
code keeps its message just when that begins neither with a word nor with a colon.
-/

namespace Grading

open Grading.Text

/-! ## 1. Code and message -/

/-- How what is told falls into a code and a message: each part reaches as far as it can. -/
inductive Divided : List Char → Option (List Char) → List Char → Prop
  | parts {word colon gap message : List Char} (hword : ∀ c ∈ word, isWordChar c = true)
      (hnext : ∀ c ∈ (colon ++ gap ++ message).head?, isWordChar c = false)
      (hcolon : colon = [':'] ∨ colon = [] ∧ (gap ++ message).head? ≠ some ':')
      (hgap : ∀ c ∈ gap, isBlank c = true) (hmessage : ∀ c ∈ message.head?, isBlank c = false) :
      Divided (word ++ (colon ++ gap ++ message)) (if word.isEmpty then none else some word) message

/-- The message is what stands behind the first word, without a colon and then without blanks. -/
theorem codeAndMessage_eq {told colon rest : List Char}
    (h : told.dropWhile isWordChar = colon ++ rest)
    (hcolon : colon = [':'] ∨ colon = [] ∧ rest.head? ≠ some ':') :
    codeAndMessage told =
      (if (told.takeWhile isWordChar).isEmpty then none else some (told.takeWhile isWordChar),
        trimLeft rest) := by
  rw [codeAndMessage, h]
  rcases hcolon with rfl | ⟨rfl, hhead⟩
  · rfl
  · rw [List.nil_append]
    refine congrArg (fun s => (_, trimLeft s)) ?_
    split
    · exact absurd rfl hhead
    · rfl

/-- The text of a diagnostic is divided into code and message as the pattern says. -/
theorem divided_codeAndMessage (told : List Char) :
    Divided told (codeAndMessage told).1 (codeAndMessage told).2 := by
  obtain ⟨colon, rest, hrest, hcolon⟩ : ∃ colon rest, told.dropWhile isWordChar = colon ++ rest ∧
      (colon = [':'] ∨ colon = [] ∧ rest.head? ≠ some ':') := by
    -- Only a colon right behind the word is passed over.
    by_cases h : (told.dropWhile isWordChar).head? = some ':'
    · obtain ⟨rest, hrest⟩ := List.head?_eq_some_iff.mp h
      exact ⟨[':'], rest, hrest, .inl rfl⟩
    · exact ⟨[], _, rfl, .inr ⟨rfl, h⟩⟩
  have hcode := codeAndMessage_eq hrest hcolon
  have hgap : rest.takeWhile isBlank ++ trimLeft rest = rest := List.takeWhile_append_dropWhile
  have htold : told.takeWhile isWordChar ++ (colon ++ rest) = told := by
    rw [← hrest]
    exact List.takeWhile_append_dropWhile
  have hnext : ∀ c ∈ (colon ++ rest).head?, isWordChar c = false := by
    intro c hc
    have hnot := List.head?_dropWhile_not isWordChar told
    rw [hrest] at hnot
    rwa [hc] at hnot
  have hword : ∀ c ∈ told.takeWhile isWordChar, isWordChar c = true :=
    fun c hc => List.mem_takeWhile_imp hc
  have hblank : ∀ c ∈ rest.takeWhile isBlank, isBlank c = true := fun c hc => List.mem_takeWhile_imp hc
  rw [← hgap, ← List.append_assoc] at hnext
  rw [← hgap] at hcolon
  have hparts := Divided.parts hword hnext hcolon hblank (head?_trimLeft rest)
  rw [List.append_assoc, hgap, htold] at hparts
  rw [hcode]
  exact hparts

/-- What is told is divided in one way only. -/
theorem Divided.eq {told message : List Char} {code : Option (List Char)}
    (h : Divided told code message) : codeAndMessage told = (code, message) := by
  cases h with
  | @parts word colon gap _ hword hnext hcolon hgap hmessage =>
    obtain ⟨htake, hdrop⟩ := cut_append hword hnext
    have hblank : trimLeft (gap ++ message) = message := (cut_append hgap hmessage).2
    rw [List.append_assoc colon] at hdrop htake ⊢
    rw [codeAndMessage_eq hdrop hcolon, htake, hblank]

/-- All that is told is the message just when it begins neither with a word nor with a colon. -/
theorem Divided.whole_iff {told message : List Char} {code : Option (List Char)}
    (h : Divided told code message) (htold : ∀ c ∈ told.head?, isBlank c = false) :
    code = none ∧ message = told ↔ ∀ c ∈ told.head?, isWordChar c = false ∧ c ≠ ':' := by
  cases h with
  | @parts word colon gap _ hword hnext hcolon hgap hmessage =>
    constructor
    · rintro ⟨hcode, hwhole⟩
      obtain rfl : word = [] := by
        by_contra hne
        simp [hne] at hcode
      -- Whatever stood in front of the message would make the whole longer.
      have hlength := congrArg List.length hwhole
      simp only [List.nil_append, List.length_append] at hlength
      obtain rfl : colon = [] := List.length_eq_zero_iff.mp (by omega)
      obtain rfl : gap = [] := List.length_eq_zero_iff.mp (by omega)
      intro c hc
      refine ⟨hnext c hc, ?_⟩
      rintro rfl
      simp at hcolon
      exact hcolon hc
    · intro hhead
      -- The first part that is not empty begins with the first character of the whole.
      obtain rfl : word = [] := by
        cases word with
        | nil => rfl
        | cons c r =>
          have hnot := (hhead c rfl).1
          rw [hword c List.mem_cons_self] at hnot
          exact Bool.noConfusion hnot
      obtain rfl : colon = [] := by
        rcases hcolon with rfl | ⟨rfl, -⟩
        · exact absurd rfl (hhead ':' rfl).2
        · rfl
      obtain rfl : gap = [] := by
        cases gap with
        | nil => rfl
        | cons c r =>
          have hnot := htold c rfl
          rw [hgap c List.mem_cons_self] at hnot
          exact Bool.noConfusion hnot
      exact ⟨rfl, rfl⟩

/-- A message has no more blanks at its ends than what is told. -/
theorem Divided.trim_message {told message : List Char} {code : Option (List Char)}
    (h : Divided told code message) (htold : trimRight told = told) : trim message = message := by
  cases h with
  | @parts word colon gap _ hword hnext hcolon hgap hmessage =>
    rw [← List.append_assoc, ← List.append_assoc] at htold
    exact trim_eq_self_iff.mpr ⟨trimLeft_eq_self hmessage, trimRight_of_append htold⟩

/-- What is told with a code, without the blank that no message follows. -/
theorem divided_coded {code message : List Char} (hcode : code ≠ [])
    (hword : ∀ c ∈ code, isWordChar c = true) (hmessage : trim message = message) :
    ∃ gap, (gap = [] ∨ gap = [' ']) ∧
      trimRight (code ++ ": ".toList ++ message) = code ++ (":".toList ++ gap ++ message) ∧
      Divided (code ++ (":".toList ++ gap ++ message)) (some code) message := by
  have hdivided : ∀ gap, (∀ c ∈ gap, isBlank c = true) →
      Divided (code ++ (":".toList ++ gap ++ message)) (some code) message := by
    intro gap hgap
    have hnext : ∀ c ∈ (":".toList ++ gap ++ message).head?, isWordChar c = false := by
      simp
      decide
    have hparts := Divided.parts hword hnext (.inl rfl) hgap (head?_of_trim hmessage)
    rwa [if_neg (by simpa using hcode)] at hparts
  cases message with
  | nil =>
    refine ⟨[], .inl rfl, ?_, hdivided [] nofun⟩
    rw [List.append_nil, trimRight_append (by decide)]
    rfl
  | cons c r =>
    have hright := (trim_eq_self_iff.mp hmessage).2
    refine ⟨[' '], .inr rfl, ?_, hdivided [' '] (List.forall_mem_singleton.mpr rfl)⟩
    rw [trimRight_append (by rw [hright]; exact List.cons_ne_nil c r), hright]
    simp

/-! ## 2. Errors with a code -/

theorem isLineBreak_of_isWordChar {c : Char} (h : isWordChar c = true) : isLineBreak c = false := by
  have hblank := isBlank_of_isWordChar h
  simp only [isBlank, Bool.or_eq_false_iff, Bool.and_eq_false_iff, decide_eq_false_iff_not,
    beq_eq_false_iff_ne] at hblank
  simp [isLineBreak]
  omega

section Coded

variable {code message : List Char} (hword : ∀ c ∈ code, isWordChar c = true)

include hword

theorem unbroken_coded (hmessage : Unbroken message) : Unbroken (code ++ ": ".toList ++ message) := by
  have hsigns : Unbroken ": ".toList := by decide
  intro c hc
  rw [List.append_assoc] at hc
  rcases List.mem_append.mp hc with hc | hc
  · exact isLineBreak_of_isWordChar (hword c hc)
  · exact (List.mem_append.mp hc).elim (hsigns c) (hmessage c)

theorem escapeChar_not_mem_coded (hmessage : escapeChar ∉ message) :
    escapeChar ∉ code ++ ": ".toList ++ message := by
  have hnot : escapeChar ∉ code := fun h => absurd (hword _ h) (by decide)
  have hsigns : escapeChar ∉ ": ".toList := by decide
  simp only [List.mem_append, not_or]
  exact ⟨⟨hnot, hsigns⟩, hmessage⟩

theorem noDigitBehind_coded (hmessage : NoDigitBehind '(' message) {gap : List Char}
    (hgap : gap = [] ∨ gap = [' ']) : NoDigitBehind '(' (code ++ (":".toList ++ gap ++ message)) := by
  have hnot : '(' ∉ code := fun h => absurd (hword _ h) (by decide)
  have hbracket : '(' ∉ code ++ (":".toList ++ gap) := by
    rcases hgap with rfl | rfl <;> simpa using hnot
  rw [← List.append_assoc]
  exact noDigitBehind_append hbracket hmessage

theorem head?_coded (hcode : code ≠ []) (r : List Char) :
    ∀ c ∈ (code ++ r).head?, isBlank c = false := by
  cases code with
  | nil => exact absurd rfl hcode
  | cons c s =>
    intro d hd
    obtain rfl := Option.some.inj hd
    exact isBlank_of_isWordChar (hword c List.mem_cons_self)

end Coded

/-- An error that is printed with a code in either form, with colour sequences anywhere in it, is read
as one error with its file, line, column, code and message. -/
theorem printed_error_read (form : DiagnosticForm) {file code message output : List Char}
    {line column : Nat} (hfile : Inline file) (hmessage : Inline message) (hnamed : file ≠ [])
    (hcode : code ≠ []) (hword : ∀ c ∈ code, isWordChar c = true)
    (hline : isTooLongToWrite line = false) (hcolumn : isTooLongToWrite column = false)
    (hfileBrackets : NoDigitBehind '(' file) (hmessageBrackets : NoDigitBehind '(' message)
    (hfileColons : NoDigitBehind ':' file)
    (houtput : Coloured (form.print file line column (code ++ ": ".toList ++ message)) output) :
    Diagnostics.read output = .ok { errors := [{
      message := String.ofList message, file := some (String.ofList file)
      line := some (line : Int), column := some (column : Int)
      code := some (String.ofList code) }], other := [] } := by
  obtain ⟨gap, hgap, hsaid, hdivided⟩ := divided_coded hcode hword hmessage.trimmed
  have htold := noDigitBehind_coded hword hmessageBrackets hgap
  have hmark : NoDigitBehind form.mark file := by
    cases form with
    | brackets => exact hfileBrackets
    | colons => exact hfileColons
  have hread := Diagnostics.read_print form hfile hnamed hmark
    (fun _ => ⟨hfileBrackets, by rwa [hsaid]⟩) (unbroken_coded hword hmessage.unbroken)
    (escapeChar_not_mem_coded hword hmessage.plain) (by rw [hsaid]; exact head?_coded hword hcode _)
    (by rw [hsaid]; simp [hcode]) hline hcolumn houtput
  rw [hread, hsaid, hdivided.eq, hmessage.trimmed]
  rfl

/-- Colours inside of the place, brackets and colons in the name of the file, digits in the message. -/
theorem printed_error_read_coloured :
    let file := "src/a (b):c.tsx".toList
    let message := "5 (of x:1) differ".toList
    let output := ("\x1b[96msrc/a (b):c.tsx\x1b[0m:12:\x1b[1;93m5\x1b[m - error TS2304: " ++
      "5 (of x:1) differ\x1b[0m").toList
    Coloured (DiagnosticForm.colons.print file 12 5 ("TS2304".toList ++ ": ".toList ++ message)) output ∧
      Diagnostics.read output = .ok { errors := [{
        message := "5 (of x:1) differ", file := some "src/a (b):c.tsx", line := some 12
        column := some 5, code := some "TS2304" }] } := by
  intro file message output
  have houtput : Coloured
      (DiagnosticForm.colons.print file 12 5 ("TS2304".toList ++ ": ".toList ++ message)) output := by
    have hclean : withoutColours output =
        DiagnosticForm.colons.print file 12 5 ("TS2304".toList ++ ": ".toList ++ message) := by
      decide +kernel
    rw [← hclean]
    exact coloured_withoutColours output
  have hfile : Inline file := ⟨by decide +kernel, by decide +kernel, by decide +kernel⟩
  have hmessage : Inline message := ⟨by decide +kernel, by decide +kernel, by decide +kernel⟩
  have hword : ∀ c ∈ "TS2304".toList, isWordChar c = true := List.all_eq_true.mp (by decide +kernel)
  exact ⟨houtput, printed_error_read .colons hfile hmessage (by decide) (by decide) hword
    (by decide +kernel) (by decide +kernel) (by decide +kernel) (by decide +kernel)
    (by decide +kernel) houtput⟩

/-! ## 3. Errors without a code -/

/-- An error that is printed without a code is read as one error, at its place, whose code and message
are the parts of what is printed. It has no code and the whole message just when that begins neither
with a character of a word nor with a colon. -/
theorem message_kept_iff {file message : List Char} {line column : Nat} (hfile : Inline file)
    (hmessage : Inline message) (hnamed : file ≠ []) (hsaid : message ≠ [])
    (hline : isTooLongToWrite line = false) (hcolumn : isTooLongToWrite column = false)
    (hbrackets : NoDigitBehind '(' file) :
    ∃ code rest, Diagnostics.read (DiagnosticForm.brackets.print file line column message) = .ok {
        errors := [{
          message := String.ofList rest, file := some (String.ofList file)
          line := some (line : Int), column := some (column : Int)
          code := code.map String.ofList }], other := [] } ∧
      Divided message code rest ∧
      (code = none ∧ rest = message ↔ ∀ c ∈ message.head?, isWordChar c = false ∧ c ≠ ':') := by
  have hright : trimRight message = message := (trim_eq_self_iff.mp hmessage.trimmed).2
  have hhead := head?_of_trim hmessage.trimmed
  have hread := Diagnostics.read_print .brackets hfile hnamed hbrackets nofun
    hmessage.unbroken hmessage.plain (by rwa [hright]) (by rwa [hright]) hline hcolumn (.refl _)
  have hdivided := divided_codeAndMessage message
  refine ⟨_, _, ?_, hdivided, hdivided.whole_iff hhead⟩
  rw [hread, hright, hdivided.trim_message hright]

/-- A message that begins with a quote is kept. -/
theorem message_kept_iff_quote :
    let file := "a.ts".toList
    let message := "'x' (y): not found".toList
    Inline file ∧ Inline message ∧ isTooLongToWrite 1 = false ∧ NoDigitBehind '(' file ∧
      Diagnostics.read (DiagnosticForm.brackets.print file 1 1 message) = .ok { errors := [{
        message := "'x' (y): not found", file := some "a.ts", line := some 1, column := some 1 }] } := by
  intro file message
  have hfile : Inline file := ⟨by decide +kernel, by decide +kernel, by decide +kernel⟩
  have hmessage : Inline message := ⟨by decide +kernel, by decide +kernel, by decide +kernel⟩
  have hone : isTooLongToWrite 1 = false := by decide +kernel
  have hbrackets : NoDigitBehind '(' file := by decide +kernel
  refine ⟨hfile, hmessage, hone, hbrackets, ?_⟩
  obtain ⟨code, rest, hread, -, hkept⟩ := message_kept_iff hfile hmessage (by decide) (by decide) hone
    hone hbrackets
  have hquote : ∀ c ∈ message.head?, isWordChar c = false ∧ c ≠ ':' := by
    intro c hc
    obtain rfl : '\'' = c := Option.some.inj hc
    decide +kernel
  obtain ⟨rfl, rfl⟩ := hkept.mpr hquote
  exact hread

/-- The first word of a message that no colon follows is taken for a code, and missing in the message. -/
theorem first_word_taken :
    let file := "a.ts".toList
    let message := "Cannot find name".toList
    Inline file ∧ Inline message ∧ NoDigitBehind '(' file ∧
      (message.dropWhile isWordChar).head? ≠ some ':' ∧
      DiagnosticForm.brackets.print file 1 2 message = "a.ts(1,2): error Cannot find name".toList ∧
      Diagnostics.read "a.ts(1,2): error Cannot find name".toList = .ok { errors := [{
        message := "find name", file := some "a.ts", line := some 1, column := some 2
        code := some "Cannot" }] } :=
  ⟨⟨by decide +kernel, by decide +kernel, by decide +kernel⟩,
    ⟨by decide +kernel, by decide +kernel, by decide +kernel⟩, by decide +kernel, by decide +kernel,
    by decide +kernel, by decide +kernel⟩

end Grading
