import Grading.Watch.DirectoryWatch

/-!
# Scheduled — which directories an observer is given

Files are added and removed, and the watch is started and stopped, in any order and over observers that
refuse any of their calls. What the watch takes for scheduled is what its observer has been given and not
lost: a directory at most once, none without a watched file in it, and all of them unless one was refused.
The watched files are those that were added and not removed since.
-/

namespace Grading.Watch

open Grading.Files

/-! ## 1. Calls made to the observer -/

/-- A call made to the observer, and whether it was carried out. -/
structure Asking where
  call : ObserverCall
  done : Bool
  deriving DecidableEq, Repr

structure ObserverState where
  /-- Whether one was started and not stopped since. -/
  running : Bool := false
  /-- The directories that it was given and did not lose. -/
  scheduled : List Path := []
  /-- Whether it refused to schedule a directory. -/
  refused : Bool := false
  deriving DecidableEq, Repr

namespace ObserverState

def after (o : ObserverState) : Asking → ObserverState
  | ⟨.start, true⟩ => { running := true }
  | ⟨.start, false⟩ => o
  | ⟨.stop, _⟩ => {}
  | ⟨.schedule d, true⟩ => { o with scheduled := o.scheduled ++ [d] }
  | ⟨.schedule _, false⟩ => { o with refused := true }
  -- An observer that does not carry this out knows nothing of the directory.
  | ⟨.unschedule d, _⟩ => { o with scheduled := o.scheduled.filter (· ≠ d) }

def afterAll (o : ObserverState) (asked : List Asking) : ObserverState := asked.foldl after o

/-- Whether a call is in place: a directory is scheduled with a running observer that does not have it,
and unscheduled with one that does. -/
def Permits (o : ObserverState) : ObserverCall → Prop
  | .start => o.running = false
  | .stop => o.running = true
  | .schedule d => o.running = true ∧ d ∉ o.scheduled
  | .unschedule d => o.running = true ∧ d ∈ o.scheduled

def PermitsAll (o : ObserverState) : List Asking → Prop
  | [] => True
  | a :: asked => o.Permits a.call ∧ (o.after a).PermitsAll asked

theorem afterAll_append (o : ObserverState) (asked more : List Asking) :
    o.afterAll (asked ++ more) = (o.afterAll asked).afterAll more := List.foldl_append

theorem permitsAll_append {o : ObserverState} {asked more : List Asking} :
    o.PermitsAll (asked ++ more) ↔ o.PermitsAll asked ∧ (o.afterAll asked).PermitsAll more := by
  induction asked generalizing o with
  | nil => exact (iff_of_eq (true_and _)).symm
  | cons a asked ih =>
    show o.Permits a.call ∧ (o.after a).PermitsAll (asked ++ more) ↔ _
    rw [ih, ← and_assoc]
    rfl

theorem PermitsAll.at_split {o : ObserverState} {before later : List Asking} {a : Asking}
    (h : o.PermitsAll (before ++ a :: later)) : (o.afterAll before).Permits a.call :=
  (permitsAll_append.mp h).2.1

end ObserverState

/-! ## 2. Operations -/

inductive WatchOperation where
  | add (file : Path)
  | remove (file : Path)
  | start
  | stop
  deriving DecidableEq, Repr

def askedBy (r : Attempt DirectoryWatch × List ObserverCall) : List Asking :=
  r.2.map (⟨·, true⟩) ++ match r.1.failure with
    | some (.cannotStart _) => [⟨.start, false⟩]
    | some (.cannotWatch d _) => [⟨.schedule d, false⟩]
    | _ => []

namespace DirectoryWatch

variable {w : DirectoryWatch} {o : ObserverState} {file other : Path}

def operate (w : DirectoryWatch) : WatchOperation → Attempt DirectoryWatch × List ObserverCall
  | .add file => w.add file
  | .remove file => (⟨(w.remove file).1, none⟩, (w.remove file).2)
  | .start => w.start
  | .stop => (⟨w.stop.1, none⟩, w.stop.2)

def directoryOf (w : DirectoryWatch) (file : Path) : Path := (file.absolute w.root).parent

def drops (w : DirectoryWatch) (file : Path) : Bool :=
  w.scheduled.contains (w.directoryOf file) &&
    !(w.remove file).1.scheduled.contains (w.directoryOf file)

/-- The calls that an operation makes, those that the observer refuses among them. -/
def asked (w : DirectoryWatch) : WatchOperation → List Asking
  | .add file => askedBy (w.add file)
  | .remove file =>
    if w.observing && w.drops file then
      [⟨.unschedule (w.directoryOf file), !w.observer.forgetful⟩]
    else []
  | .start => askedBy w.start
  | .stop => w.stop.2.map (⟨·, true⟩)

def resolved (w : DirectoryWatch) : WatchOperation → WatchOperation
  | .add file => .add (file.absolute w.root)
  | .remove file => .remove (file.absolute w.root)
  | op => op

/-- The watches that operations lead to, each with the operations and all calls made. Meanwhile relative
paths may come to count from another directory, the observer may come to answer in another way, and the
files, which are a set, may come to be gone through in another order. An operation gives each directory to
the observer once, so that which of its calls are refused is told by the directories that it cannot watch. -/
inductive Reached : List WatchOperation → List Asking → DirectoryWatch → Prop
  | new (root : String) (observer : Observer) : Reached [] [] { root, observer }
  | vary {ops : List WatchOperation} {log : List Asking} {w : DirectoryWatch} (h : Reached ops log w)
      (root : String) (observer : Observer) {files : List Path} (hfiles : files.Perm w.files) :
      Reached ops log { w with root, observer, files }
  | operate {ops : List WatchOperation} {log : List Asking} {w : DirectoryWatch} (h : Reached ops log w)
      (op : WatchOperation) : Reached (ops ++ [w.resolved op]) (log ++ w.asked op) (w.operate op).1.after

/-! ## 3. Scheduling one directory after the other -/

inductive Schedules (missing : List Path) :
    (scheduled directories new : List Path) → (refused : Option Path) → Prop
  | nil {scheduled : List Path} : Schedules missing scheduled [] [] none
  | known {scheduled ds new : List Path} {d : Path} {refused : Option Path} (hd : d ∈ scheduled)
      (h : Schedules missing scheduled ds new refused) :
      Schedules missing scheduled (d :: ds) new refused
  | refused {scheduled ds : List Path} {d : Path} (hd : d ∉ scheduled) (hmissing : d ∈ missing) :
      Schedules missing scheduled (d :: ds) [] (some d)
  | new {scheduled ds new : List Path} {d : Path} {refused : Option Path} (hd : d ∉ scheduled)
      (hmissing : d ∉ missing) (h : Schedules missing (scheduled ++ [d]) ds new refused) :
      Schedules missing scheduled (d :: ds) (d :: new) refused

theorem schedule_of_idle (h : w.observing = false) (d : Path) : w.schedule d = (⟨w, none⟩, []) := by
  simp [schedule, h]

theorem schedule_known {d : Path} (h : d ∈ w.scheduled) : w.schedule d = (⟨w, none⟩, []) := by
  simp [schedule, h]

theorem schedule_refused {d : Path} (h : d ∉ w.scheduled) (hrunning : w.observing = true)
    (hmissing : d ∈ w.observer.missing) :
    w.schedule d = (⟨w, some (.cannotWatch d d.text)⟩, []) := by
  simp [schedule, h, hrunning, hmissing]

theorem schedule_new {d : Path} (h : d ∉ w.scheduled) (hrunning : w.observing = true)
    (hmissing : d ∉ w.observer.missing) :
    w.schedule d = (⟨{ w with scheduled := w.scheduled ++ [d] }, none⟩, [.schedule d]) := by
  simp [schedule, h, hrunning, hmissing]

theorem scheduleAll_singleton (w : DirectoryWatch) (d : Path) : w.scheduleAll [d] = w.schedule d := by
  rcases hfirst : w.schedule d with ⟨⟨v, failure⟩, calls⟩
  cases failure <;> simp [scheduleAll, hfirst]

/-- Scheduling directories adds those that can be scheduled, each once, and refuses the others. -/
theorem exists_schedules (hrunning : w.observing = true) (ds : List Path) :
    ∃ new refused, Schedules w.observer.missing w.scheduled ds new refused ∧
      w.scheduleAll ds = (⟨{ w with scheduled := w.scheduled ++ new },
        refused.map fun d => .cannotWatch d d.text⟩, new.map .schedule) := by
  -- Each directory goes to the watch that those before it have left behind.
  induction ds generalizing w with
  | nil => exact ⟨[], none, .nil, by simp [scheduleAll]⟩
  | cons d ds ih =>
    by_cases hd : d ∈ w.scheduled
    · obtain ⟨new, refused, hnew, hrest⟩ := ih hrunning
      exact ⟨new, refused, .known hd hnew, by simp [scheduleAll, schedule_known hd, hrest]⟩
    by_cases hmissing : d ∈ w.observer.missing
    · exact ⟨[], some d, .refused hd hmissing,
        by simp [scheduleAll, schedule_refused hd hrunning hmissing]⟩
    · obtain ⟨new, refused, hnew, hrest⟩ :=
        ih (w := { w with scheduled := w.scheduled ++ [d] }) hrunning
      refine ⟨d :: new, refused, .new hd hmissing hnew, ?_⟩
      simp [scheduleAll, schedule_new hd hrunning hmissing, hrest]

namespace Schedules

variable {missing scheduled ds new : List Path} {refused : Option Path}

theorem subset (h : Schedules missing scheduled ds new refused) : new ⊆ ds := by
  induction h with
  | nil => exact List.Subset.refl _
  | known _ _ ih => exact List.subset_cons_of_subset _ ih
  | refused => exact List.nil_subset _
  | new _ _ _ ih => exact List.cons_subset_cons _ ih

theorem nodup (h : Schedules missing scheduled ds new refused) (hscheduled : scheduled.Nodup) :
    (scheduled ++ new).Nodup := by
  induction h with
  | nil => simpa using hscheduled
  | known _ _ ih => exact ih hscheduled
  | refused => simpa using hscheduled
  | @new scheduled _ new d _ hd _ _ ih =>
    have hfirst : (scheduled ++ [d]).Nodup := by
      refine List.nodup_append.mpr ⟨hscheduled, by simp, fun e he e' he' heq => ?_⟩
      obtain rfl := List.mem_singleton.mp he'
      exact hd (heq ▸ he)
    simpa using ih hfirst

/-- What is not refused is scheduled in the end. -/
theorem complete (h : Schedules missing scheduled ds new none) : ds ⊆ scheduled ++ new := by
  generalize hnone : (none : Option Path) = refused at h
  induction h with
  | nil => exact List.nil_subset _
  | known hd _ ih => exact List.cons_subset.mpr ⟨List.mem_append_left _ hd, ih hnone⟩
  | refused => exact nomatch hnone
  | new _ _ _ ih => simpa [List.cons_subset] using ih hnone

/-- The calls made are in place and leave the observer with what was new. -/
theorem permits (h : Schedules missing scheduled ds new refused) {o : ObserverState}
    (hrunning : o.running = true) (hscheduled : o.scheduled = scheduled) :
    let asked : List Asking :=
      new.map (⟨.schedule ·, true⟩) ++ refused.toList.map (⟨.schedule ·, false⟩)
    o.PermitsAll asked ∧ o.afterAll asked =
      { o with scheduled := scheduled ++ new, refused := o.refused || refused.isSome } := by
  induction h generalizing o with
  | nil => simp [ObserverState.PermitsAll, ObserverState.afterAll, ← hscheduled]
  | known _ _ ih => exact ih hrunning hscheduled
  | @refused _ _ d hd =>
    subst hscheduled
    refine ⟨⟨⟨hrunning, hd⟩, trivial⟩, ?_⟩
    simp [ObserverState.afterAll, ObserverState.after]
  | @new scheduled _ new d refused hd _ _ ih =>
    subst hscheduled
    obtain ⟨hpermits, hafter⟩ :=
      ih (o := { o with scheduled := o.scheduled ++ [d] }) hrunning rfl
    refine ⟨⟨⟨hrunning, hd⟩, hpermits⟩, ?_⟩
    simpa [ObserverState.afterAll, ObserverState.after] using hafter

end Schedules

/-! ## 4. What every operation keeps -/

/-- What the watch takes for scheduled is what its observer has, each directory once and for a file; and
every file has its directory scheduled unless the observer refused one. -/
structure Aligned (o : ObserverState) (w : DirectoryWatch) : Prop where
  running : o.running = w.observing
  scheduled : o.scheduled = w.scheduled
  idle : w.observing = false → w.scheduled = []
  used : ∀ d ∈ w.scheduled, ∃ f ∈ w.files, f.parent = d
  distinct : w.scheduled.Nodup
  complete : w.observing = true → o.refused = false → ∀ f ∈ w.files, f.parent ∈ w.scheduled

theorem aligned_new (root : String) (observer : Observer) : Aligned {} { root, observer } :=
  ⟨rfl, rfl, fun _ => rfl, nofun, List.nodup_nil, nofun⟩

theorem Aligned.observing (h : Aligned o w) {d : Path} (hd : d ∈ w.scheduled) : w.observing = true := by
  cases hrunning : w.observing with
  | true => rfl
  | false => exact absurd (h.idle hrunning ▸ hd) List.not_mem_nil

/-- Nothing of this is about the order of the files, where they count from or how the observer will
answer. -/
theorem Aligned.vary (h : Aligned o w) (root : String) (observer : Observer) {files : List Path}
    (hfiles : files.Perm w.files) : Aligned o { w with root, observer, files } where
  running := h.running
  scheduled := h.scheduled
  idle := h.idle
  used d hd := (h.used d hd).imp fun _ hf => ⟨hfiles.mem_iff.mpr hf.1, hf.2⟩
  distinct := h.distinct
  complete hrunning hrefused f hf := h.complete hrunning hrefused f (hfiles.mem_iff.mp hf)

/-- Scheduling the directories of files that may lack them makes up for what is not complete. -/
theorem aligned_scheduleAll (ds : List Path) (hrunning : w.observing = true)
    (ho : o.running = true) (hscheduled : o.scheduled = w.scheduled) (hdistinct : w.scheduled.Nodup)
    (hused : ∀ d ∈ w.scheduled ++ ds, ∃ f ∈ w.files, f.parent = d)
    (hfiles : o.refused = false → ∀ f ∈ w.files, f.parent ∈ w.scheduled ++ ds) :
    o.PermitsAll (askedBy (w.scheduleAll ds)) ∧
      Aligned (o.afterAll (askedBy (w.scheduleAll ds))) (w.scheduleAll ds).1.after := by
  obtain ⟨new, refused, hnew, hall⟩ := exists_schedules hrunning ds
  obtain ⟨hpermits, hafter⟩ := hnew.permits ho hscheduled
  have hasked : askedBy (w.scheduleAll ds) =
      new.map (⟨.schedule ·, true⟩) ++ refused.toList.map (⟨.schedule ·, false⟩) := by
    rw [hall, askedBy, List.map_map]
    cases refused <;> rfl
  rw [hasked, hafter, hall]
  refine ⟨hpermits, ho.trans hrunning.symm, rfl, fun hidle => ?_, ?_, hnew.nodup hdistinct, ?_⟩
  · exact nomatch hrunning.symm.trans hidle
  · intro d hd
    refine hused d (List.mem_append.mpr ((List.mem_append.mp hd).imp_right fun hd => hnew.subset hd))
  · -- With nothing refused, neither before nor now, every directory asked for is there in the end.
    intro _ hrefused f hf
    obtain ⟨hbefore, hnone⟩ := Bool.or_eq_false_iff.mp hrefused
    obtain rfl := Option.isSome_eq_false_iff.mp hnone |> Option.isNone_iff_eq_none.mp
    rcases List.mem_append.mp (hfiles hbefore f hf) with hknown | hasked
    · exact List.mem_append_left _ hknown
    · exact hnew.complete hasked

/-- A start asks the observer for what it permits and stays aligned with it, also when a call is
refused. -/
theorem aligned_start (h : Aligned o w) :
    o.PermitsAll (w.asked .start) ∧
      Aligned (o.afterAll (w.asked .start)) (w.operate .start).1.after := by
  unfold asked operate start
  by_cases hrunning : w.observing = true
  · rw [if_pos hrunning]
    exact ⟨trivial, h⟩
  rw [if_neg hrunning]
  have hidle : w.observing = false := by simpa using hrunning
  dsimp only
  cases w.observer.startError with
  | some reason =>
    exact ⟨⟨h.running.trans hidle, trivial⟩, h.running, h.scheduled, h.idle, h.used, h.distinct,
      h.complete⟩
  | none =>
    -- The observer is new: it has nothing, as the watch that had none.
    have hnone := h.idle hidle
    obtain ⟨hpermits, haligned⟩ := aligned_scheduleAll
      (w := { w with observing := true, listening := true }) (o := { running := true })
      (w.files.map Path.parent) rfl rfl hnone.symm h.distinct
      (fun d hd => by rwa [hnone, List.nil_append, List.mem_map] at hd)
      (fun _ f hf => List.mem_append_right _ (List.mem_map_of_mem hf))
    exact ⟨⟨h.running.trans hidle, hpermits⟩, haligned⟩

theorem aligned_stop (h : Aligned o w) :
    o.PermitsAll (w.asked .stop) ∧
      Aligned (o.afterAll (w.asked .stop)) (w.operate .stop).1.after := by
  unfold asked operate stop
  cases hrunning : w.observing with
  | true =>
    exact ⟨⟨h.running.trans hrunning, trivial⟩, rfl, rfl, fun _ => rfl, nofun, List.nodup_nil, nofun⟩
  | false =>
    exact ⟨trivial, h.running.trans hrunning, h.scheduled.trans (h.idle hrunning), fun _ => rfl, nofun,
      List.nodup_nil, nofun⟩

theorem exists_add (w : DirectoryWatch) (file : Path) :
    ∃ files, (∀ f, f ∈ files ↔ f ∈ w.files ∨ f = file.absolute w.root) ∧
      w.add file = { w with files }.schedule (w.directoryOf file) := by
  refine ⟨_, fun f => ?_, rfl⟩
  split
  · next hknown => exact (or_iff_left_of_imp fun hf => hf ▸ List.contains_iff_mem.mp hknown).symm
  · simp

/-- An addition stays aligned with the observer, also when a call is refused. -/
theorem aligned_add (h : Aligned o w) (file : Path) :
    o.PermitsAll (w.asked (.add file)) ∧
      Aligned (o.afterAll (w.asked (.add file))) (w.operate (.add file)).1.after := by
  obtain ⟨files, hmem, hadd⟩ := exists_add w file
  have hused : ∀ d ∈ w.scheduled, ∃ f ∈ files, f.parent = d := fun d hd =>
    (h.used d hd).imp fun f hf => ⟨(hmem f).mpr (.inl hf.1), hf.2⟩
  show o.PermitsAll (askedBy (w.add file)) ∧
    Aligned (o.afterAll (askedBy (w.add file))) (w.add file).1.after
  rw [hadd]
  by_cases hrunning : w.observing = true
  · rw [← scheduleAll_singleton]
    refine aligned_scheduleAll (w := { w with files }) [w.directoryOf file] hrunning
      (h.running.trans hrunning) h.scheduled h.distinct (fun d hd => ?_) (fun hrefused f hf => ?_)
    · rcases List.mem_append.mp hd with hd | hd
      · exact hused d hd
      · exact ⟨_, (hmem _).mpr (.inr rfl), (List.mem_singleton.mp hd).symm⟩
    · rcases (hmem f).mp hf with hf | rfl
      · exact List.mem_append_left _ (h.complete hrunning hrefused f hf)
      · exact List.mem_append_right _ (List.mem_singleton_self _)
  · rw [schedule_of_idle (w := { w with files }) (by simpa using hrunning)]
    exact ⟨trivial, h.running, h.scheduled, h.idle, hused, h.distinct,
      fun htrue => absurd htrue hrunning⟩

/-! ## 5. Removing a file -/

def others (w : DirectoryWatch) (file : Path) : List Path :=
  w.files.filter (· ≠ file.absolute w.root)

theorem mem_others {f : Path} : f ∈ w.others file ↔ f ∈ w.files ∧ f ≠ file.absolute w.root := by
  simp [others]

/-- A file leaves its directory as it is, or is the last one in it and takes it back. -/
theorem remove_cases (w : DirectoryWatch) (file : Path) :
    (w.remove file = ({ w with files := w.others file }, []) ∧ w.drops file = false ∧
        (w.directoryOf file ∈ w.scheduled → ∃ f ∈ w.others file, f.parent = w.directoryOf file)) ∨
      (w.remove file =
          ({ w with files := w.others file, scheduled := w.scheduled.filter (· ≠ w.directoryOf file) },
            if w.observing && !w.observer.forgetful then [.unschedule (w.directoryOf file)] else []) ∧
        w.drops file = true ∧ w.directoryOf file ∈ w.scheduled ∧
        ∀ f ∈ w.others file, f.parent ≠ w.directoryOf file) := by
  by_cases hstays : ((w.others file).any (·.parent = w.directoryOf file) ||
      !w.scheduled.contains (w.directoryOf file)) = true
  · have hremove : w.remove file = ({ w with files := w.others file }, []) := if_pos hstays
    refine .inl ⟨hremove, by simp [drops, hremove], fun hscheduled => ?_⟩
    simpa [hscheduled] using hstays
  · have hremove : w.remove file = _ := if_neg hstays
    obtain ⟨hlast, hscheduled⟩ : (∀ f ∈ w.others file, f.parent ≠ w.directoryOf file) ∧
        w.directoryOf file ∈ w.scheduled := by simpa using hstays
    have hdrops : w.drops file = true := by
      unfold drops
      rw [hremove]
      simpa [directoryOf] using hscheduled
    exact .inr ⟨hremove, hdrops, hscheduled, hlast⟩

/-- A removal stays aligned with the observer. -/
theorem aligned_remove (h : Aligned o w) (file : Path) :
    o.PermitsAll (w.asked (.remove file)) ∧
      Aligned (o.afterAll (w.asked (.remove file))) (w.operate (.remove file)).1.after := by
  show o.PermitsAll (if w.observing && w.drops file then _ else []) ∧
    Aligned (o.afterAll (if w.observing && w.drops file then _ else [])) (w.remove file).1
  rcases remove_cases w file with ⟨hremove, hdrops, hshared⟩ | ⟨hremove, hdrops, hscheduled, hlast⟩
  · -- A scheduled directory may be that of the removed file; it is then that of another one too.
    simp only [hdrops, hremove, Bool.and_false, Bool.false_eq_true, if_false]
    refine ⟨trivial, h.running, h.scheduled, h.idle, fun d hd => ?_, h.distinct,
      fun hrunning hrefused f hf => h.complete hrunning hrefused f (mem_others.mp hf).1⟩
    obtain ⟨f, hf, rfl⟩ := h.used d hd
    by_cases hremoved : f = file.absolute w.root
    · subst hremoved
      exact hshared hd
    · exact ⟨f, mem_others.mpr ⟨hf, hremoved⟩, rfl⟩
  · have hrunning := h.observing hscheduled
    simp only [hdrops, hremove, hrunning, Bool.and_true, if_true]
    refine ⟨⟨⟨h.running.trans hrunning, h.scheduled ▸ hscheduled⟩, trivial⟩, h.running.trans hrunning,
      congrArg (List.filter _) h.scheduled, nofun, fun d hd => ?_, h.distinct.filter _,
      fun _ hrefused f hf => ?_⟩
    · obtain ⟨hd, hother⟩ := List.mem_filter.mp hd
      obtain ⟨f, hf, rfl⟩ := h.used d hd
      refine ⟨f, mem_others.mpr ⟨hf, fun hremoved => ?_⟩, rfl⟩
      simp [hremoved, directoryOf] at hother
    · have hf' := (mem_others.mp hf).1
      exact List.mem_filter.mpr
        ⟨h.complete hrunning hrefused f hf', by simpa using hlast f hf⟩

theorem aligned_operate (h : Aligned o w) (op : WatchOperation) :
    o.PermitsAll (w.asked op) ∧ Aligned (o.afterAll (w.asked op)) (w.operate op).1.after := by
  cases op with
  | add file => exact aligned_add h file
  | remove file => exact aligned_remove h file
  | start => exact aligned_start h
  | stop => exact aligned_stop h

/-! ## 6. The files -/

theorem files_schedule (w : DirectoryWatch) (d : Path) : (w.schedule d).1.after.files = w.files := by
  unfold schedule
  split
  · rfl
  · split <;> rfl

theorem files_scheduleAll (w : DirectoryWatch) (ds : List Path) :
    (w.scheduleAll ds).1.after.files = w.files := by
  induction ds generalizing w with
  | nil => rfl
  | cons d ds ih =>
    unfold scheduleAll
    dsimp only
    split
    · exact files_schedule w d
    · exact (ih _).trans (files_schedule w d)

theorem files_start (w : DirectoryWatch) : w.start.1.after.files = w.files := by
  unfold start
  split
  · rfl
  · dsimp only
    split
    · rfl
    · exact files_scheduleAll _ _

/-- What an operation does to the files. -/
theorem mem_files_operate (w : DirectoryWatch) (op : WatchOperation) (f : Path) :
    f ∈ (w.operate op).1.after.files ↔
      w.resolved op = .add f ∨ f ∈ w.files ∧ w.resolved op ≠ .remove f := by
  cases op with
  | add file =>
    obtain ⟨files, hmem, hadd⟩ := exists_add w file
    show f ∈ (w.add file).1.after.files ↔ _
    rw [hadd, files_schedule, hmem]
    simp [resolved, or_comm, eq_comm]
  | remove file =>
    have hfiles : (w.remove file).1.files = w.others file := by
      rcases remove_cases w file with ⟨hremove, -⟩ | ⟨hremove, -⟩ <;> rw [hremove]
    show f ∈ (w.remove file).1.files ↔ _
    rw [hfiles, mem_others]
    simp [resolved, eq_comm]
  | start =>
    show f ∈ w.start.1.after.files ↔ _
    simp [files_start, resolved]
  | stop => simp [operate, stop, resolved]

/-- A file was added by one of several operations and not removed by a later one. -/
def Stays (ops : List WatchOperation) (f : Path) : Prop :=
  ∃ before later, ops = before ++ .add f :: later ∧ .remove f ∉ later

/-- A file stays if the last operation adds it, or if it stayed and is not removed. -/
theorem stays_concat {ops : List WatchOperation} {op : WatchOperation} {f : Path} :
    Stays (ops ++ [op]) f ↔ op = .add f ∨ Stays ops f ∧ op ≠ .remove f := by
  constructor
  · rintro ⟨before, later, hops, hlater⟩
    rcases List.eq_nil_or_concat later with rfl | ⟨later, last, rfl⟩
    · exact .inl (List.cons.inj (List.append_inj' hops rfl).2).1
    · rw [List.concat_eq_append] at hops hlater
      rw [← List.cons_append, ← List.append_assoc] at hops
      obtain ⟨hbefore, hlast⟩ := List.append_inj' hops rfl
      obtain rfl := (List.cons.inj hlast).1
      rw [List.mem_append, List.mem_singleton, not_or] at hlater
      exact .inr ⟨⟨before, later, hbefore, hlater.1⟩, Ne.symm hlater.2⟩
  · rintro (rfl | ⟨⟨before, later, rfl, hlater⟩, hop⟩)
    · exact ⟨ops, [], rfl, List.not_mem_nil⟩
    · refine ⟨before, later ++ [op], by simp, ?_⟩
      rw [List.mem_append, List.mem_singleton, not_or]
      exact ⟨hlater, Ne.symm hop⟩

/-- The files are those added and not removed since. -/
theorem Reached.mem_files {ops : List WatchOperation} {log : List Asking} (h : Reached ops log w)
    (f : Path) : f ∈ w.files ↔ Stays ops f := by
  induction h with
  | new => exact ⟨nofun, fun ⟨_, _, hnil, _⟩ => by simp at hnil⟩
  | vary _ _ _ hfiles ih => exact hfiles.mem_iff.trans ih
  | operate _ op ih => rw [mem_files_operate, ih, stays_concat]

/-! ## 7. Every history -/

theorem done_map (calls : List ObserverCall) :
    ((calls.map (⟨·, true⟩ : ObserverCall → Asking)).filter (·.done)).map (·.call) = calls := by
  rw [List.filter_eq_self.mpr (by simp), List.map_map]
  exact List.map_id _

theorem done_askedBy (r : Attempt DirectoryWatch × List ObserverCall) :
    ((askedBy r).filter (·.done)).map (·.call) = r.2 := by
  unfold askedBy
  rw [List.filter_append, List.map_append, done_map]
  split <;> simp

/-- Of the calls that an operation makes, those carried out are the ones it reports. -/
theorem asked_done (w : DirectoryWatch) (op : WatchOperation) :
    ((w.asked op).filter (·.done)).map (·.call) = (w.operate op).2 := by
  cases op with
  | add file => exact done_askedBy (w.add file)
  | start => exact done_askedBy w.start
  | stop => exact done_map w.stop.2
  | remove file =>
    unfold asked operate
    rcases remove_cases w file with ⟨hremove, hdrops, -⟩ | ⟨hremove, hdrops, -, -⟩
    · simp [hremove, hdrops]
    · cases hrunning : w.observing <;> cases hforgetful : w.observer.forgetful <;>
        simp [hremove, hdrops, hrunning, hforgetful]

theorem Reached.aligned {ops : List WatchOperation} {log : List Asking} (h : Reached ops log w) :
    ObserverState.PermitsAll {} log ∧ Aligned (ObserverState.afterAll {} log) w := by
  induction h with
  | new root observer => exact ⟨trivial, aligned_new root observer⟩
  | vary _ root observer hfiles ih => exact ih.imp_right fun h => h.vary root observer hfiles
  | operate _ op ih =>
    obtain ⟨hpermits, haligned⟩ := aligned_operate ih.2 op
    exact ⟨ObserverState.permitsAll_append.mpr ⟨ih.1, hpermits⟩,
      ObserverState.afterAll_append .. ▸ haligned⟩

/-- A file that shares its directory keeps it when another one is removed. -/
theorem remove_shared (hother : other ∈ w.files) (hdiffers : other ≠ file.absolute w.root)
    (hshared : other.parent = w.directoryOf file) :
    other ∈ (w.remove file).1.files ∧ (w.remove file).1.scheduled = w.scheduled ∧
      w.asked (.remove file) = [] := by
  have hstays : other ∈ w.others file := mem_others.mpr ⟨hother, hdiffers⟩
  rcases remove_cases w file with ⟨hremove, hdrops, -⟩ | ⟨-, -, -, hlast⟩
  · rw [hremove]
    exact ⟨hstays, rfl, by simp [asked, hdrops]⟩
  · exact absurd hshared (hlast other hstays)

/-- Whatever files come and go, however often the watch is started and stopped and whichever calls are
refused, the watched files are those added and not removed since, and the watch and its observer agree on
what is scheduled. Nothing is without an observer; a scheduled directory is one of a watched file; with
nothing refused since the observer was started, each file has its directory scheduled; and each call is in
place when it is made, so that no directory is scheduled where it already is, and a file that shares its
directory keeps it. -/
theorem directories_scheduled_once {ops : List WatchOperation} {log : List Asking}
    (h : Reached ops log w) :
    let o := ObserverState.afterAll {} log
    (∀ f, f ∈ w.files ↔ Stays ops f) ∧
      o.running = w.observing ∧ o.scheduled = w.scheduled ∧ w.scheduled.Nodup ∧
      (w.observing = false → w.scheduled = []) ∧
      (∀ d ∈ w.scheduled, ∃ f ∈ w.files, f.parent = d) ∧
      (w.observing = true → o.refused = false → ∀ f ∈ w.files, f.parent ∈ w.scheduled) ∧
      (∀ before a later, log = before ++ a :: later →
        (ObserverState.afterAll {} before).Permits a.call) ∧
      (∀ op, ((w.asked op).filter (·.done)).map (·.call) = (w.operate op).2) ∧
      ∀ file, ∀ other ∈ w.files, other ≠ file.absolute w.root → other.parent = w.directoryOf file →
        other ∈ (w.remove file).1.files ∧ (w.remove file).1.scheduled = w.scheduled ∧
          w.asked (.remove file) = [] := by
  obtain ⟨hpermits, haligned⟩ := h.aligned
  refine ⟨h.mem_files, haligned.running, haligned.scheduled, haligned.distinct, haligned.idle,
    haligned.used, haligned.complete, ?_, asked_done w, fun _ _ => remove_shared⟩
  rintro before a later rfl
  exact hpermits.at_split

/-- A directory that is refused at first is scheduled with the next observer, for two files; one of them
may go. -/
theorem directories_scheduled_once_shared :
    let x : Path := ⟨"/", ["w", "x.tsx"]⟩
    let y : Path := ⟨"/", ["w", "y.tsx"]⟩
    let d : Path := ⟨"/", ["w"]⟩
    let log : List Asking := [⟨.start, true⟩, ⟨.schedule d, false⟩, ⟨.stop, true⟩, ⟨.start, true⟩,
      ⟨.schedule d, true⟩]
    ∃ w, Reached [.add x, .start, .stop, .start, .add y] log w ∧ w.files = [x, y] ∧
      w.observing = true ∧ w.scheduled = [d] ∧ (∀ f ∈ w.files, f.parent ∈ w.scheduled) ∧
      (ObserverState.afterAll {} (log.take 4)).Permits (.schedule d) ∧
      y ∈ (w.remove x).1.files ∧ (w.remove x).1.scheduled = w.scheduled ∧ w.asked (.remove x) = [] := by
  intro x y d log
  let first : DirectoryWatch :=
    { observer := { missing := [d] }, files := [x], observing := true, listening := true }
  let second : DirectoryWatch := { first with observer := {}, scheduled := [d] }
  have hrefused : Reached [.add x, .start] (log.take 2) first :=
    (((Reached.new "/" {}).operate (.add x)).vary "/" { missing := [d] } (.refl _)).operate .start
  have hretried : Reached [.add x, .start, .stop, .start] log second :=
    ((hrefused.operate .stop).vary "/" {} (.refl _)).operate .start
  have hreached : Reached [.add x, .start, .stop, .start, .add y] log { second with files := [x, y] } :=
    hretried.operate (.add y)
  obtain ⟨-, -, -, -, -, -, hcomplete, hpermits, -, hshared⟩ := directories_scheduled_once hreached
  exact ⟨_, hreached, rfl, rfl, rfl, hcomplete rfl (by decide), hpermits (log.take 4) _ [] rfl,
    hshared x y (by decide) (by decide) (by decide)⟩

end DirectoryWatch

end Grading.Watch
