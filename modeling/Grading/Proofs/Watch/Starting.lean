import Grading.Proofs.Watch.Scheduled

/-!
# Starting — what a failed start leaves behind

A start fails because the observer does not run or because it refuses a directory. The first leaves
nothing behind. The second leaves the observer running, with the directories of the files that came
before; the watch counts as started from then on, so that it is only started anew once it was stopped.
-/

namespace Grading.Watch

open Grading.Files

namespace DirectoryWatch

variable {w : DirectoryWatch}

/-! ## 1. Up to the refused directory -/

namespace Schedules

variable {missing scheduled ds new : List Path} {refused : Option Path} {d : Path}

theorem watchable (h : Schedules missing scheduled ds new refused) : ∀ e ∈ new, e ∉ missing := by
  induction h with
  | nil => exact nofun
  | known _ _ ih => exact ih
  | refused => exact nofun
  | new _ hmissing _ ih => exact List.forall_mem_cons.mpr ⟨hmissing, ih⟩

/-- The directories before the one that is refused are scheduled, and no other new ones. -/
theorem refused_at (h : Schedules missing scheduled ds new (some d)) :
    d ∈ missing ∧ ∃ before later, ds = before ++ d :: later ∧
      before ⊆ scheduled ++ new ∧ new ⊆ before := by
  generalize hsome : some d = refused at h
  induction h with
  | nil => exact nomatch hsome
  | known hknown _ ih =>
    obtain ⟨hmissing, before, later, rfl, hbefore, hnew⟩ := ih hsome
    exact ⟨hmissing, _ :: before, later, rfl,
      List.cons_subset.mpr ⟨List.mem_append_left _ hknown, hbefore⟩,
      List.subset_cons_of_subset _ hnew⟩
  | refused _ hmissing =>
    obtain rfl := Option.some.inj hsome
    exact ⟨hmissing, [], _, rfl, List.nil_subset _, List.nil_subset _⟩
  | new _ _ _ ih =>
    obtain ⟨hmissing, before, later, rfl, hbefore, hnew⟩ := ih hsome
    rw [List.append_assoc, List.singleton_append] at hbefore
    exact ⟨hmissing, _ :: before, later, rfl, List.cons_subset.mpr ⟨by simp, hbefore⟩,
      List.cons_subset_cons _ hnew⟩

end Schedules

/-! ## 2. One start -/

theorem start_of_observing (h : w.observing = true) : w.start = (⟨w, none⟩, []) := if_pos h

theorem start_of_startError (hidle : w.observing = false) {reason : String}
    (hreason : w.observer.startError = some reason) :
    w.start = (⟨{ w with listening := true }, some (.cannotStart reason)⟩, []) := by
  simp [start, hidle, hreason]

theorem exists_start (hidle : w.observing = false) (hnone : w.scheduled = [])
    (hstarts : w.observer.startError = none) :
    ∃ new refused, Schedules w.observer.missing [] (w.files.map Path.parent) new refused ∧
      w.start = (⟨{ w with scheduled := new, observing := true, listening := true },
        refused.map fun d => .cannotWatch d d.text⟩, .start :: new.map .schedule) := by
  obtain ⟨new, refused, hnew, hall⟩ :=
    exists_schedules (w := { w with observing := true, listening := true }) rfl
      (w.files.map Path.parent)
  refine ⟨new, refused, hnone ▸ hnew, ?_⟩
  simp only [start, hidle, hstarts, Bool.false_eq_true, if_false]
  rw [hall, hnone, List.nil_append]

/-- Whether a start comes out in one of two ways: the directory of every file is scheduled, or there is a
failure, no observer and nothing scheduled. -/
def Settles (w : DirectoryWatch) : Prop :=
  let r := w.start.1
  (r.failure = none ∧ r.after.observing = true ∧ ∀ f ∈ w.files, f.parent ∈ r.after.scheduled) ∨
    (r.failure ≠ none ∧ r.after.observing = false ∧ r.after.scheduled = [])

/-- A start settles when the observer starts and every directory can be scheduled. -/
theorem start_watchable (hidle : w.observing = false) (hnone : w.scheduled = [])
    (hstarts : w.observer.startError = none) (hfiles : ∀ f ∈ w.files, f.parent ∉ w.observer.missing) :
    w.start.1.failure = none ∧ w.Settles := by
  obtain ⟨new, refused, hnew, hstart⟩ := exists_start hidle hnone hstarts
  unfold Settles
  rw [hstart]
  cases refused with
  | none =>
    exact ⟨rfl, .inl ⟨rfl, rfl, fun f hf => hnew.complete (List.mem_map_of_mem hf)⟩⟩
  | some d =>
    obtain ⟨hmissing, before, later, hparents, -⟩ := hnew.refused_at
    obtain ⟨f, hf, rfl⟩ : ∃ f ∈ w.files, f.parent = d := by
      rw [← List.mem_map, hparents]
      exact List.mem_append_right _ List.mem_cons_self
    exact absurd hmissing (hfiles f hf)

/-- The start ends at the first file whose directory cannot be watched. -/
theorem start_unwatchable (hidle : w.observing = false) (hnone : w.scheduled = [])
    (hstarts : w.observer.startError = none) {f : Path} (hf : f ∈ w.files)
    (hmissing : f.parent ∈ w.observer.missing) :
    ∃ before g later scheduled, w.files = before ++ g :: later ∧ g.parent ∈ w.observer.missing ∧
      (∀ e ∈ before, e.parent ∉ w.observer.missing) ∧
      (∀ d, d ∈ scheduled ↔ ∃ e ∈ before, e.parent = d) ∧
      w.start = (⟨{ w with scheduled, observing := true, listening := true },
        some (.cannotWatch g.parent g.parent.text)⟩, .start :: scheduled.map .schedule) := by
  obtain ⟨new, refused, hnew, hstart⟩ := exists_start hidle hnone hstarts
  cases refused with
  | none => exact absurd hmissing (hnew.watchable _ (hnew.complete (List.mem_map_of_mem hf)))
  | some d =>
    obtain ⟨hd, before, later, hparents, hbefore, hsubset⟩ := hnew.refused_at
    -- The directories are those of the files in order, so that the files fall apart where they do.
    obtain ⟨files, rest, hfiles, rfl, hrest⟩ := List.map_eq_append_iff.mp hparents
    obtain ⟨g, others, rfl, rfl, -⟩ := List.map_eq_cons_iff.mp hrest
    refine ⟨files, g, others, new, hfiles, hd, fun e he => ?_, fun d => ?_, hstart⟩
    · exact hnew.watchable _ (hbefore (List.mem_map_of_mem he))
    · rw [← List.mem_map]
      exact ⟨fun h => hsubset h, fun h => hbefore h⟩

theorem start_mem_calls (hidle : w.observing = false) (hstarts : w.observer.startError = none) :
    .start ∈ w.start.2 := by
  simp [start, hidle, hstarts]

/-! ## 3. Starting again -/

/-- A start comes out in one of two ways if and only if the observer does not run or can watch all
directories. Otherwise it fails at the first file whose directory cannot be watched, and leaves an observer
that has the directories of the files before. To start again does nothing then, whatever can be watched;
it is after a stop that the directories of all files are scheduled. -/
theorem start_settles_iff {ops : List WatchOperation} {log : List Asking} (h : Reached ops log w)
    (hidle : w.observing = false) :
    (w.Settles ↔
        w.observer.startError.isSome = true ∨ ∀ f ∈ w.files, f.parent ∉ w.observer.missing) ∧
      (∀ reason, w.observer.startError = some reason →
        w.start = (⟨{ w with listening := true }, some (.cannotStart reason)⟩, [])) ∧
      (w.start.1.after.observing = false → ∀ observer : Observer, observer.startError = none →
        .start ∈ { w.start.1.after with observer }.start.2) ∧
      (w.observer.startError = none → ∀ f ∈ w.files, f.parent ∈ w.observer.missing →
        ∃ before g later scheduled, w.files = before ++ g :: later ∧
          g.parent ∈ w.observer.missing ∧ (∀ e ∈ before, e.parent ∉ w.observer.missing) ∧
          (∀ d, d ∈ scheduled ↔ ∃ e ∈ before, e.parent = d) ∧
          let left := { w with scheduled, observing := true, listening := true }
          w.start = (⟨left, some (.cannotWatch g.parent g.parent.text)⟩,
            .start :: scheduled.map .schedule) ∧
          ∀ observer : Observer,
            { left with observer }.start = (⟨{ left with observer }, none⟩, []) ∧
            (observer.startError = none → (∀ e ∈ w.files, e.parent ∉ observer.missing) →
              { left.stop.1 with observer }.start.1.failure = none ∧
                { left.stop.1 with observer }.Settles)) := by
  have hnone := h.aligned.2.idle hidle
  refine ⟨⟨fun hsettled => ?_, ?_⟩, fun _ => start_of_startError hidle, fun hafter observer hstarts =>
    start_mem_calls hafter hstarts, fun hstarts f hf hmissing => ?_⟩
  · cases hstarts : w.observer.startError with
    | some reason => exact .inl rfl
    | none =>
      refine .inr fun f hf hmissing => ?_
      -- There is a failure and an observer: neither way of coming out.
      obtain ⟨_, _, _, _, -, -, -, -, hstart⟩ := start_unwatchable hidle hnone hstarts hf hmissing
      unfold Settles at hsettled
      rw [hstart] at hsettled
      rcases hsettled with ⟨hfailure, -⟩ | ⟨-, hafter, -⟩
      · exact nomatch hfailure
      · exact nomatch hafter
  · intro hor
    cases hstarts : w.observer.startError with
    | some reason =>
      unfold Settles
      rw [start_of_startError hidle hstarts]
      exact .inr ⟨nofun, hidle, hnone⟩
    | none =>
      have hwatchable := hor.resolve_left (by simp [hstarts])
      exact (start_watchable hidle hnone hstarts hwatchable).2
  · obtain ⟨before, g, later, scheduled, hfiles, hg, hbefore, hscheduled, hstart⟩ :=
      start_unwatchable hidle hnone hstarts hf hmissing
    exact ⟨before, g, later, scheduled, hfiles, hg, hbefore, hscheduled, hstart, fun observer =>
      ⟨start_of_observing rfl, fun hruns hall => start_watchable rfl rfl hruns hall⟩⟩

/-- Of two files the directory of the second is refused. -/
theorem start_settles_iff_second :
    let x : Path := ⟨"/", ["w", "a", "x.tsx"]⟩
    let y : Path := ⟨"/", ["w", "b", "y.tsx"]⟩
    let w : DirectoryWatch := { observer := { missing := [y.parent] }, files := [x, y] }
    Reached [.add x, .add y] [] w ∧ ¬ w.Settles ∧
      w.start.2 = [.start, .schedule x.parent] ∧
      (∃ g ∈ w.files, w.start.1.failure = some (.cannotWatch g.parent g.parent.text)) ∧
      { w.start.1.after with observer := {} }.start.2 = [] ∧
      { w.start.1.after.stop.1 with observer := {} }.Settles := by
  intro x y w
  have hreached : Reached [.add x, .add y] [] w :=
    (((Reached.new "/" {}).operate (.add x)).operate (.add y)).vary "/" { missing := [y.parent] }
      (.refl _)
  obtain ⟨hsettled, -, -, hfails⟩ := start_settles_iff hreached rfl
  have hy : y ∈ w.files := by decide
  have hmissing : y.parent ∈ w.observer.missing := by decide
  obtain ⟨before, g, later, scheduled, hfiles, -, -, -, hstart, hagain⟩ := hfails rfl y hy hmissing
  refine ⟨hreached, fun h => ?_, rfl, ⟨g, ?_, by rw [hstart]⟩, ?_, ?_⟩
  · exact (hsettled.mp h).elim nofun fun hall => hall y hy hmissing
  · exact hfiles ▸ List.mem_append_right _ List.mem_cons_self
  · rw [hstart, (hagain {}).1]
  · rw [hstart]
    exact ((hagain {}).2 rfl fun _ _ => List.not_mem_nil).2

/-- The directory of the only file is refused once: the start fails, the watch counts as started, and the
next start leaves the file unwatched without a word. -/
theorem start_leaves_observer :
    let file : Path := ⟨"/", ["w", "a", "x.tsx"]⟩
    let w : DirectoryWatch := { observer := { missing := [file.parent] }, files := [file] }
    let left := w.start.1.after
    let again := { left with observer := {} }.start
    Reached [.add file] [] w ∧ w.observing = false ∧
      w.start.1.failure = some (.cannotWatch file.parent "/w/a") ∧ left.observing = true ∧
      ¬ w.Settles ∧
      again.1.failure = none ∧ again.2 = [] ∧ file ∈ again.1.after.files ∧
      file.parent ∉ again.1.after.scheduled := by
  intro file w left again
  have hreached : Reached [.add file] [] w :=
    ((Reached.new "/" {}).operate (.add file)).vary "/" { missing := [file.parent] } (.refl _)
  have hfailure : w.start.1.failure = some (.cannotWatch file.parent "/w/a") := by decide +kernel
  refine ⟨hreached, rfl, hfailure, by decide, ?_, by decide, by decide, by decide, by decide⟩
  rintro (⟨hnone, -⟩ | ⟨-, hidle, -⟩)
  · exact nomatch hfailure.symm.trans hnone
  · exact nomatch hidle

end DirectoryWatch

end Grading.Watch
