import Mathlib.Data.List.Forall2
import Grading.Compiler.Command
import Grading.Proofs.Text.Lines

/-!
# LineByLine — an output of a compiler is read line by line

Every line that says something is reported once, as an error or as another line, and the reports stand
in the order of the lines. So what two outputs say together is what each of them says by itself.
-/

namespace Grading

open Grading.Text

/-! ## 1. Reports -/

/-- Of several lines those that say something, without their colours and the blanks around them. -/
def spoken (ls : List (List Char)) : List (List Char) :=
  (ls.map fun l => trim (withoutColours l)).filter (!·.isEmpty)

inductive Tells : List Char → CompilationError ⊕ String → Prop
  | error {line : List Char} {f : Finding} {e : CompilationError} (hfind : finding? line = some f)
      (herror : f.toError = .ok e) : Tells line (.inl e)
  | other {line : List Char} (hnone : finding? line = none) : Tells line (.inr (String.ofList line))

/-- The errors and the other lines are those of one report for each of the lines given. -/
def Diagnostics.Accounts (d : Diagnostics) (said : List (List Char)) : Prop :=
  ∃ reports, List.Forall₂ Tells said reports ∧ d.errors = reports.filterMap Sum.getLeft? ∧
    d.other = reports.filterMap Sum.getRight?

/-- No error among several lines has a number with more digits than are read. -/
def NumbersFit (said : List (List Char)) : Prop :=
  ∀ line ∈ said, ∀ f ∈ finding? line, f.line.length ≤ digitLimit ∧ f.column.length ≤ digitLimit

instance (said : List (List Char)) : Decidable (NumbersFit said) :=
  inferInstanceAs (Decidable (∀ line ∈ said, ∀ f ∈ finding? line, _))

theorem spoken_append (ls ls' : List (List Char)) : spoken (ls ++ ls') = spoken ls ++ spoken ls' := by
  simp [spoken]

theorem spoken_cons (l : List Char) (ls : List (List Char)) :
    spoken (l :: ls) = spoken [l] ++ spoken ls := spoken_append [l] ls

theorem numberOf_of_length_le {ds : List Char} (h : ds.length ≤ digitLimit) :
    ∃ n, numberOf ds = .ok n := by
  unfold numberOf
  rw [if_neg (by omega)]
  exact ⟨_, rfl⟩

theorem Finding.exists_toError {f : Finding} (hline : f.line.length ≤ digitLimit)
    (hcolumn : f.column.length ≤ digitLimit) : ∃ e, f.toError = .ok e := by
  obtain ⟨line, hline⟩ := numberOf_of_length_le hline
  obtain ⟨column, hcolumn⟩ := numberOf_of_length_le hcolumn
  unfold Finding.toError
  rw [hline, hcolumn]
  exact ⟨_, rfl⟩

namespace Diagnostics

theorem append_assoc (d e f : Diagnostics) : (d.append e).append f = d.append (e.append f) := by
  simp [append]

/-- Two accounts, one behind the other, account for both outputs. -/
theorem Accounts.append {d e : Diagnostics} {said said' : List (List Char)} (hd : d.Accounts said)
    (he : e.Accounts said') : (d.append e).Accounts (said ++ said') := by
  obtain ⟨reports, htells, herrors, hother⟩ := hd
  obtain ⟨reports', htells', herrors', hother'⟩ := he
  refine ⟨reports ++ reports', List.rel_append htells htells', ?_, ?_⟩
  · rw [List.filterMap_append, ← herrors, ← herrors']
    rfl
  · rw [List.filterMap_append, ← hother, ← hother']
    rfl

/-! ## 2. Lines -/

/-- One line is reported once if it says something, else not at all. -/
theorem exists_ofLine {l : List Char} (h : NumbersFit (spoken [l])) :
    ∃ d, ofLine l = .ok d ∧ d.Accounts (spoken [l]) := by
  by_cases hblank : (trim (withoutColours l)).isEmpty
  · have hnone : spoken [l] = [] := by simp [spoken, hblank]
    rw [hnone]
    exact ⟨{}, by simp [ofLine, hblank], [], .nil, rfl, rfl⟩
  · have hone : spoken [l] = [trim (withoutColours l)] := by simp [spoken, hblank]
    rw [hone] at h ⊢
    cases hfind : finding? (trim (withoutColours l)) with
    | none =>
      refine ⟨{ other := [String.ofList (trim (withoutColours l))] }, ?_, ?_⟩
      · simp [ofLine, hblank, hfind]
      · exact ⟨[.inr _], .cons (.other hfind) .nil, rfl, rfl⟩
    | some f =>
      obtain ⟨hline, hcolumn⟩ := h _ (List.mem_singleton_self _) f hfind
      obtain ⟨e, he⟩ := Finding.exists_toError hline hcolumn
      refine ⟨{ errors := [e] }, ?_, ?_⟩
      · simp only [ofLine, hblank, hfind, he]
        rfl
      · exact ⟨[.inl e], .cons (.error hfind he) .nil, rfl, rfl⟩

/-- Lines are read one after the other. -/
theorem exists_ofLines {ls : List (List Char)} (h : NumbersFit (spoken ls)) :
    ∃ d, ofLines ls = .ok d ∧ d.Accounts (spoken ls) := by
  induction ls with
  | nil => exact ⟨{}, rfl, [], .nil, rfl, rfl⟩
  | cons l ls ih =>
    rw [spoken_cons] at h ⊢
    obtain ⟨d, hd, hfirst⟩ := exists_ofLine fun line hline => h line (List.mem_append_left _ hline)
    obtain ⟨e, he, hrest⟩ := ih fun line hline => h line (List.mem_append_right _ hline)
    refine ⟨d.append e, ?_, hfirst.append hrest⟩
    rw [ofLines, hd, he]
    rfl

/-- Lines are read one at a time: reading two stretches is reading each and joining the results. -/
theorem ofLines_append (ls ls' : List (List Char)) :
    ofLines (ls ++ ls') = do
      let d ← ofLines ls
      let e ← ofLines ls'
      return d.append e := by
  induction ls with
  | nil =>
    show ofLines ls' = _
    cases ofLines ls' <;> rfl
  | cons l ls ih =>
    rw [List.cons_append, ofLines, ofLines, ih]
    cases ofLine l with
    | error e => rfl
    | ok d =>
      cases ofLines ls with
      | error e => rfl
      | ok d' =>
        cases ofLines ls' with
        | error e => rfl
        | ok d'' => exact congrArg Except.ok (append_assoc d d' d'').symm

/-- An empty line says nothing. -/
theorem ofLines_empty_line (ls : List (List Char)) : ofLines ([] :: ls) = ofLines ls := by
  rw [ofLines]
  show (ofLines ls >>= fun e => .ok (append {} e)) = _
  cases ofLines ls <;> rfl

theorem read_append_newline (a b : List Char) :
    read (a ++ '\n' :: b) = do
      let d ← read a
      let e ← read b
      return d.append e := by
  unfold read
  rcases lines_append_newline a b with h | h
  · rw [h, ofLines_append]
  · rw [h, ofLines_append, ofLines_empty_line]

end Diagnostics

/-! ## 3. Outputs -/

/-- What two texts with a line feed between them say is what they say one after the other. A text falls
into its lines, and each of them that says something is reported once, in order. A command whose output
is not the compiled text has the errors and the lines of its standard output and then those of its
standard error. -/
theorem output_read_by_lines :
    (∀ a b : List Char, Diagnostics.read (a ++ '\n' :: b) = do
      let d ← Diagnostics.read a
      let e ← Diagnostics.read b
      return { errors := d.errors ++ e.errors, other := d.other ++ e.other }) ∧
    (∀ s : List Char, NumbersFit (spoken (lines s)) →
      FallsInto s (lines s) ∧
        ∃ d, Diagnostics.read s = .ok d ∧ d.Accounts (spoken (lines s))) ∧
    ∀ (c : Command) (launch : Launcher) (source : String) (file : Files.Path)
      (stdout stderr : List UInt8) (code : Int),
      c.output = .source → launch (c.filled file) (encode source) c.timeout =
        .finished stdout stderr code →
      NumbersFit (spoken (lines (decodeLossy stdout))) →
      NumbersFit (spoken (lines (decodeLossy stderr))) →
      ∃ d e, Diagnostics.read (decodeLossy stdout) = .ok d ∧
        Diagnostics.read (decodeLossy stderr) = .ok e ∧
        c.compile launch source file = .ok {
          text := source
          errors := Command.errorsOf (decodeLossy stdout) (decodeLossy stderr) code file
            (d.errors ++ e.errors)
          console := d.other ++ e.other } := by
  refine ⟨Diagnostics.read_append_newline, fun s hs => ?_, ?_⟩
  · exact ⟨fallsInto_lines s, Diagnostics.exists_ofLines hs⟩
  · intro c launch source file stdout stderr code hmode hlaunch hout herr
    obtain ⟨d, hd, -⟩ := Diagnostics.exists_ofLines hout
    obtain ⟨e, he, -⟩ := Diagnostics.exists_ofLines herr
    refine ⟨d, e, hd, he, ?_⟩
    have hboth : Diagnostics.read (decodeLossy stdout ++ '\n' :: decodeLossy stderr) =
        .ok (d.append e) := by
      rw [Diagnostics.read_append_newline]
      simp only [Diagnostics.read, hd, he]
      rfl
    unfold Command.compile
    rw [hlaunch]
    simp only [Command.finish, hmode, hboth]
    rfl

/-- A standard output that ends with a carriage return, and a standard error with a line that is blank
but for its colours. -/
theorem output_read_by_lines_seam :
    let stdout := encode "a.ts(1,2): error TS1: m\x0d"
    let stderr := encode "\x1b[31m \x1b[0m\x0bnote"
    let c : Command := { program := "tsc" }
    let launch : Launcher := fun _ _ _ => .finished stdout stderr 1
    NumbersFit (spoken (lines (decodeLossy stdout))) ∧
      NumbersFit (spoken (lines (decodeLossy stderr))) ∧
      (∃ d, Diagnostics.read (decodeLossy stderr) = .ok d ∧ d.Accounts ["note".toList]) ∧
      c.compile launch "s" ⟨"", ["a.ts"]⟩ = .ok {
        text := "s"
        errors := [{
          message := "m", file := some "a.ts", line := some 1, column := some 2, code := some "TS1" }]
        console := ["note"] } := by
  intro stdout stderr c launch
  have hout : NumbersFit (spoken (lines (decodeLossy stdout))) := by decide +kernel
  have herr : NumbersFit (spoken (lines (decodeLossy stderr))) := by decide +kernel
  have hsaid : spoken (lines (decodeLossy stderr)) = ["note".toList] := by decide +kernel
  obtain ⟨-, hlines, hcommand⟩ := output_read_by_lines
  refine ⟨hout, herr, ?_, ?_⟩
  · rw [← hsaid]
    exact (hlines _ herr).2
  · obtain ⟨d, e, hd, he, hcompile⟩ :=
      hcommand c launch "s" ⟨"", ["a.ts"]⟩ stdout stderr 1 rfl rfl hout herr
    have hd' : Diagnostics.read (decodeLossy stdout) = .ok {
        errors := [{
          message := "m", file := some "a.ts", line := some 1, column := some 2, code := some "TS1" }] } :=
      by decide +kernel
    have he' : Diagnostics.read (decodeLossy stderr) = .ok { other := ["note"] } := by decide +kernel
    obtain rfl := Except.ok.inj (hd.symm.trans hd')
    obtain rfl := Except.ok.inj (he.symm.trans he')
    exact hcompile

end Grading
