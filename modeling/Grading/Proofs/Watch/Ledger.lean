import Mathlib.Logic.Function.Basic
import Grading.Watch.History

/-!
# Ledger — what tokens and sessions amount to

A ledger is what remains of a coordinator when all but its tokens is forgotten: for each exercise
the token given out last and, while it is watched, the numbers of its session. Every entry that a
ledger can make is one of six. Whatever entries are made, the tokens dispatched for an exercise
increase strictly, and so do those published.
-/

namespace Grading.Watch

/-! ## 1. Ledgers -/

structure Standing where
  serial : Nat
  latest : Nat
  published : Nat

def Session.standing (s : Session) : Standing := ⟨s.serial, s.latest, s.published⟩

@[ext] structure Ledger where
  /-- How many sessions have been opened. -/
  opened : Nat
  token : String → Nat
  standing : String → Option Standing

namespace Ledger

def openSession (l : Ledger) (e : String) : Ledger :=
  { l with opened := l.opened + 1
           standing := Function.update l.standing e (some ⟨l.opened, l.token e, l.token e⟩) }

def closeSession (l : Ledger) (e : String) : Ledger :=
  { l with token := Function.update l.token e (l.token e + 1)
           standing := Function.update l.standing e none }

def advance (l : Ledger) (e : String) : Ledger :=
  { l with token := Function.update l.token e (l.token e + 1)
           standing := Function.update l.standing e
             ((l.standing e).map fun x => { x with latest := l.token e + 1 }) }

def publish (l : Ledger) (e : String) (token : Nat) : Ledger :=
  { l with standing := Function.update l.standing e
             ((l.standing e).map fun x => { x with published := token }) }

end Ledger

/-- An occurrence that no token and no session has part in. -/
def Occurrence.isPlain : Occurrence → Bool
  | .told .. | .event _ => true
  | _ => false

/-- The entries that a ledger can make, each with what happens. -/
inductive Ledger.Entry : Ledger → List Occurrence → Ledger → Prop where
  | none {l : Ledger} {more : List Occurrence} (hmore : ∀ s ∈ more, s.isPlain) : Entry l more l
  | opened {l : Ledger} {e : String} {more : List Occurrence} (hmore : ∀ s ∈ more, s.isPlain)
      (h : l.standing e = .none) : Entry l (.opened e l.opened :: more) (l.openSession e)
  | closed {l : Ledger} {e : String} {x : Standing} {more : List Occurrence}
      (hmore : ∀ s ∈ more, s.isPlain) (h : l.standing e = some x) :
      Entry l (.closed e x.serial :: more) (l.closeSession e)
  | dispatched {l : Ledger} {e : String} {x : Standing} (h : l.standing e = some x) :
      Entry l [.dispatched ⟨e, x.serial, l.token e + 1⟩] (l.advance e)
  | published {l : Ledger} {run : Run} {x : Standing} (report : Report)
      (h : l.standing run.exercise = some x) (hlatest : x.latest = run.token)
      (hnew : x.published < run.token) :
      Entry l [.published run report] (l.publish run.exercise run.token)
  | outdated {l : Ledger} {more : List Occurrence} (exercises : List String)
      (hmore : ∀ s ∈ more, s.isPlain) : Entry l more (exercises.foldl advance l)

theorem Ledger.Entry.refl (l : Ledger) : l.Entry [] l :=
  .none fun _ h => absurd h List.not_mem_nil

/-- A run is dispatched for the session of its exercise. -/
theorem Ledger.Entry.standing_of_dispatched {l m : Ledger} {occurred : List Occurrence} {run : Run}
    (h : l.Entry occurred m) (hrun : Occurrence.dispatched run ∈ occurred) :
    ∃ x, l.standing run.exercise = some x ∧ x.serial = run.session := by
  -- Only one entry dispatches a run. All that others add is plain or tells of a session.
  have hplain : ∀ {more : List Occurrence}, (∀ s ∈ more, s.isPlain) →
      Occurrence.dispatched run ∉ more := fun hmore hmem => nomatch hmore _ hmem
  cases h with
  | none hmore => exact absurd hrun (hplain hmore)
  | opened hmore _ => exact absurd ((List.mem_cons.mp hrun).resolve_left nofun) (hplain hmore)
  | closed hmore _ => exact absurd ((List.mem_cons.mp hrun).resolve_left nofun) (hplain hmore)
  | @dispatched e x h =>
    obtain rfl : run = ⟨e, x.serial, l.token e + 1⟩ := by simpa using hrun
    exact ⟨x, h, rfl⟩
  | published => exact nomatch List.mem_singleton.mp hrun
  | outdated _ hmore => exact absurd hrun (hplain hmore)

/-! ## 2. One more occurrence in a log -/

variable {log : List Occurrence} {s : Occurrence}

theorem openedSessions_append (log more : List Occurrence) :
    openedSessions (log ++ more) = openedSessions log ++ openedSessions more :=
  List.filterMap_append

theorem dispatchedTokens_append (e : String) (log more : List Occurrence) :
    dispatchedTokens e (log ++ more) = dispatchedTokens e log ++ dispatchedTokens e more :=
  List.filterMap_append

theorem publishedTokens_append (e : String) (log more : List Occurrence) :
    publishedTokens e (log ++ more) = publishedTokens e log ++ publishedTokens e more :=
  List.filterMap_append

theorem dispatchedTokens_dispatched (run : Run) (e : String) :
    dispatchedTokens e [.dispatched run] = if run.exercise = e then [run.token] else [] := by
  by_cases he : run.exercise = e <;> simp [dispatchedTokens, he]

theorem publishedTokens_published (run : Run) (report : Report) (e : String) :
    publishedTokens e [.published run report] =
      if run.exercise = e then [run.token] else [] := by
  by_cases he : run.exercise = e <;> simp [publishedTokens, he]

theorem dispatchedTokens_single (e : String) (s : Occurrence) :
    (dispatchedTokens e [s]).Pairwise (· < ·) := by
  cases s with
  | dispatched run => rw [dispatchedTokens_dispatched]; split <;> simp
  | _ => exact .nil

theorem publishedTokens_single (e : String) (s : Occurrence) :
    (publishedTokens e [s]).Pairwise (· < ·) := by
  cases s with
  | published run report => rw [publishedTokens_published]; split <;> simp
  | _ => exact .nil

/-! ## 3. What every ledger keeps -/

/-- What a log says about the session of an exercise: it was opened and not closed, and neither its
numbers nor the token of its exercise fall behind what was published. -/
structure Standing.Sound (x : Standing) (e : String) (l : Ledger) (log : List Occurrence) : Prop where
  serial_lt : x.serial < l.opened
  opened : Occurrence.opened e x.serial ∈ log
  notClosed : Occurrence.closed e x.serial ∉ log
  published_le : x.published ≤ l.token e
  latest_le : x.latest ≤ l.token e
  published_ge : ∀ t ∈ publishedTokens e log, t ≤ x.published

/-- What a log says about a ledger. -/
structure Ledger.Sound (l : Ledger) (log : List Occurrence) : Prop where
  opened_lt : ∀ k ∈ openedSessions log, k < l.opened
  opened_nodup : (openedSessions log).Nodup
  closed_lt : ∀ e k, Occurrence.closed e k ∈ log → k < l.opened
  dispatched_le : ∀ e, ∀ t ∈ dispatchedTokens e log, t ≤ l.token e
  dispatched_lt : ∀ e, (dispatchedTokens e log).Pairwise (· < ·)
  published_le : ∀ e, ∀ t ∈ publishedTokens e log, t ≤ l.token e
  published_lt : ∀ e, (publishedTokens e log).Pairwise (· < ·)
  standing : ∀ e x, l.standing e = some x → x.Sound e l log

namespace Ledger.Sound

variable {l m : Ledger} {e : String}

/-- Tokens may grow, and sessions may take later ones, publish or end. -/
theorem grow (hs : l.Sound log) (hopened : m.opened = l.opened)
    (htoken : ∀ d, l.token d ≤ m.token d)
    (hstanding : ∀ d y, m.standing d = some y → y.latest ≤ m.token d ∧ y.published ≤ m.token d ∧
      ∃ x, l.standing d = some x ∧ y.serial = x.serial ∧ x.published ≤ y.published) :
    m.Sound log := by
  refine ⟨?_, hs.opened_nodup, ?_, fun d t ht => Nat.le_trans (hs.dispatched_le d t ht) (htoken d),
    hs.dispatched_lt, fun d t ht => Nat.le_trans (hs.published_le d t ht) (htoken d),
    hs.published_lt, fun d y hy => ?_⟩
  · rw [hopened]; exact hs.opened_lt
  · rw [hopened]; exact hs.closed_lt
  · obtain ⟨hlatest, hpublished, x, hx, hserial, hle⟩ := hstanding d y hy
    have hsx := hs.standing d x hx
    refine ⟨?_, ?_, ?_, hpublished, hlatest, fun t ht => Nat.le_trans (hsx.published_ge t ht) hle⟩
    · rw [hserial, hopened]; exact hsx.serial_lt
    · rw [hserial]; exact hsx.opened
    · rw [hserial]; exact hsx.notClosed

/-- An occurrence that opens no session may be added to the log when its token is later than those
seen before it. -/
theorem sees (hs : l.Sound log) (hopened : openedSessions [s] = [])
    (hclosed : ∀ d k, s = .closed d k →
      k < l.opened ∧ ∀ x, l.standing d = some x → x.serial ≠ k)
    (hdispatched : ∀ d, ∀ t ∈ dispatchedTokens d [s],
      t ≤ l.token d ∧ ∀ u ∈ dispatchedTokens d log, u < t)
    (hpublished : ∀ d, ∀ t ∈ publishedTokens d [s],
      t ≤ l.token d ∧ (∀ u ∈ publishedTokens d log, u < t) ∧
        ∀ x, l.standing d = some x → t ≤ x.published) :
    l.Sound (log ++ [s]) := by
  -- The session that is closed now is not the one that stands, so what stands stays unclosed.
  have hclosed' : ∀ d k, Occurrence.closed d k ∈ log ++ [s] → Occurrence.closed d k ∈ log ∨
      k < l.opened ∧ ∀ x, l.standing d = some x → x.serial ≠ k := fun d k hk =>
    (List.mem_append.mp hk).imp_right fun hlast => hclosed d k (List.mem_singleton.mp hlast).symm
  refine ⟨?_, ?_, fun d k hk => ?_, fun d t ht => ?_, fun d => ?_, fun d t ht => ?_, fun d => ?_,
    fun d x hx => ?_⟩
  · rw [openedSessions_append, hopened, List.append_nil]; exact hs.opened_lt
  · rw [openedSessions_append, hopened, List.append_nil]; exact hs.opened_nodup
  · exact (hclosed' d k hk).elim (hs.closed_lt d k) And.left
  · rw [dispatchedTokens_append] at ht
    exact (List.mem_append.mp ht).elim (hs.dispatched_le d t) fun h => (hdispatched d t h).1
  · rw [dispatchedTokens_append]
    exact List.pairwise_append.mpr ⟨hs.dispatched_lt d, dispatchedTokens_single d s,
      fun u hu t ht => (hdispatched d t ht).2 u hu⟩
  · rw [publishedTokens_append] at ht
    exact (List.mem_append.mp ht).elim (hs.published_le d t) fun h => (hpublished d t h).1
  · rw [publishedTokens_append]
    exact List.pairwise_append.mpr ⟨hs.published_lt d, publishedTokens_single d s,
      fun u hu t ht => (hpublished d t ht).2.1 u hu⟩
  · have hsx := hs.standing d x hx
    refine ⟨hsx.serial_lt, List.mem_append_left _ hsx.opened, fun hk => ?_, hsx.published_le,
      hsx.latest_le, fun t ht => ?_⟩
    · exact (hclosed' d x.serial hk).elim hsx.notClosed fun h => h.2 x hx rfl
    · rw [publishedTokens_append] at ht
      exact (List.mem_append.mp ht).elim (hsx.published_ge t) fun h => (hpublished d t h).2.2 x hx

theorem plain {more : List Occurrence} (hs : l.Sound log) (h : ∀ s ∈ more, s.isPlain) :
    l.Sound (log ++ more) := by
  induction more generalizing log with
  | nil => rwa [List.append_nil]
  | cons s more ih =>
    have hs' : l.Sound (log ++ [s]) := by
      have hplain := h s List.mem_cons_self
      cases s with
      | told run who report => exact hs.sees rfl nofun nofun nofun
      | event ev => exact hs.sees rfl nofun nofun nofun
      | _ => exact nomatch hplain
    rw [List.append_cons]
    exact ih hs' fun t ht => h t (List.mem_cons_of_mem _ ht)

/-- Opening a session keeps the ledger true to the log. -/
theorem openSession (hs : l.Sound log) :
    (l.openSession e).Sound (log ++ [.opened e l.opened]) := by
  have hlt : ∀ {k}, k < l.opened → k < l.opened + 1 := Nat.lt_succ_of_lt
  have hclosed : ∀ {d k}, Occurrence.closed d k ∈ log ++ [.opened e l.opened] →
      Occurrence.closed d k ∈ log :=
    fun hk => (List.mem_append.mp hk).resolve_right fun h => nomatch List.mem_singleton.mp h
  have hdispatched : ∀ d, dispatchedTokens d (log ++ [.opened e l.opened]) =
      dispatchedTokens d log := by
    intro d
    rw [dispatchedTokens_append]
    exact List.append_nil _
  have hpublished : ∀ d, publishedTokens d (log ++ [.opened e l.opened]) =
      publishedTokens d log := by
    intro d
    rw [publishedTokens_append]
    exact List.append_nil _
  refine ⟨fun k hk => ?_, ?_, fun d k hk => hlt (hs.closed_lt d k (hclosed hk)), fun d => ?_,
    fun d => ?_, fun d => ?_, fun d => ?_, fun d x hx => ?_⟩
  · rw [openedSessions_append] at hk
    rcases List.mem_append.mp hk with hlog | hlast
    · exact hlt (hs.opened_lt k hlog)
    · rw [List.mem_singleton.mp hlast]
      exact Nat.lt_succ_self _
  · rw [openedSessions_append]
    refine List.nodup_append.mpr ⟨hs.opened_nodup, by simp [openedSessions], fun k hk j hj => ?_⟩
    rw [List.mem_singleton.mp hj]
    exact Nat.ne_of_lt (hs.opened_lt k hk)
  · rw [hdispatched]; exact hs.dispatched_le d
  · rw [hdispatched]; exact hs.dispatched_lt d
  · rw [hpublished]; exact hs.published_le d
  · rw [hpublished]; exact hs.published_lt d
  · by_cases hd : d = e
    -- The new session has a serial that no session had, and starts at the token of its exercise.
    · subst hd
      have hx : (⟨l.opened, l.token d, l.token d⟩ : Standing) = x := by
        simpa [Ledger.openSession] using hx
      subst hx
      refine ⟨Nat.lt_succ_self _, List.mem_append_right _ List.mem_cons_self,
        fun hk => Nat.lt_irrefl _ (hs.closed_lt d _ (hclosed hk)), Nat.le_refl _, Nat.le_refl _, ?_⟩
      rw [hpublished]
      exact hs.published_le d
    · have hx : l.standing d = some x := by simpa [Ledger.openSession, hd] using hx
      have hsx := hs.standing d x hx
      refine ⟨hlt hsx.serial_lt, List.mem_append_left _ hsx.opened,
        fun hk => hsx.notClosed (hclosed hk), hsx.published_le, hsx.latest_le, ?_⟩
      rw [hpublished]
      exact hsx.published_ge

/-- Closing a session keeps the ledger true to the log. -/
theorem closeSession {x : Standing} (hs : l.Sound log) (h : l.standing e = some x) :
    (l.closeSession e).Sound (log ++ [.closed e x.serial]) := by
  have hgrown : (l.closeSession e).Sound log := by
    refine hs.grow rfl (fun d => ?_) fun d y hy => ?_
    · by_cases hd : d = e <;> simp [Ledger.closeSession, hd]
    · by_cases hd : d = e
      · simp [Ledger.closeSession, hd] at hy
      · have hy : l.standing d = some y := by simpa [Ledger.closeSession, hd] using hy
        have hsy := hs.standing d y hy
        have htoken : (l.closeSession e).token d = l.token d := by simp [Ledger.closeSession, hd]
        rw [htoken]
        exact ⟨hsy.latest_le, hsy.published_le, y, hy, rfl, Nat.le_refl _⟩
  -- Nothing stands for the exercise any more that the closing could contradict.
  refine hgrown.sees rfl (fun d k hk => ?_) nofun nofun
  obtain ⟨rfl, rfl⟩ : e = d ∧ x.serial = k := by simpa using hk
  refine ⟨(hs.standing e x h).serial_lt, fun y hy => ?_⟩
  simp [Ledger.closeSession] at hy

theorem advance (hs : l.Sound log) (e : String) : (l.advance e).Sound log := by
  have htoken : ∀ d, l.token d ≤ (l.advance e).token d := by
    intro d
    by_cases hd : d = e <;> simp [Ledger.advance, hd]
  refine hs.grow rfl htoken fun d y hy => ?_
  by_cases hd : d = e
  · subst hd
    obtain ⟨x, hx, hy⟩ : ∃ x, l.standing d = some x ∧
        ({ x with latest := l.token d + 1 } : Standing) = y := by
      simpa [Ledger.advance, Option.map_eq_some_iff] using hy
    rw [← hy]
    refine ⟨?_, Nat.le_trans (hs.standing d x hx).published_le (htoken d), x, hx, rfl,
      Nat.le_refl _⟩
    simp [Ledger.advance]
  · have hy : l.standing d = some y := by simpa [Ledger.advance, hd] using hy
    have hsy := hs.standing d y hy
    exact ⟨Nat.le_trans hsy.latest_le (htoken d), Nat.le_trans hsy.published_le (htoken d), y, hy,
      rfl, Nat.le_refl _⟩

/-- Dispatching the next token keeps the ledger true to the log. -/
theorem dispatch (hs : l.Sound log) (e : String) (session : Nat) :
    (l.advance e).Sound (log ++ [.dispatched ⟨e, session, l.token e + 1⟩]) := by
  refine (hs.advance e).sees rfl nofun (fun d t ht => ?_) nofun
  rw [dispatchedTokens_dispatched] at ht
  split at ht
  · next hd =>
    change e = d at hd
    subst hd
    rw [List.mem_singleton.mp ht]
    exact ⟨by simp [Ledger.advance], fun u hu => Nat.lt_succ_of_le (hs.dispatched_le e u hu)⟩
  · exact nomatch ht

theorem advanceAll (hs : l.Sound log) (exercises : List String) :
    (exercises.foldl Ledger.advance l).Sound log := by
  induction exercises generalizing l with
  | nil => exact hs
  | cons e es ih => exact ih (hs.advance e)

/-- Publishing a newer token of the open session keeps the ledger true to the log. -/
theorem publish {run : Run} {x : Standing} (report : Report) (hs : l.Sound log)
    (h : l.standing run.exercise = some x) (hlatest : x.latest = run.token)
    (hnew : x.published < run.token) :
    (l.publish run.exercise run.token).Sound (log ++ [.published run report]) := by
  have hsx := hs.standing run.exercise x h
  -- The latest token of a session is one of its exercise, even after an earlier session has gone.
  have hle : run.token ≤ l.token run.exercise := by rw [← hlatest]; exact hsx.latest_le
  have hgrown : (l.publish run.exercise run.token).Sound log := by
    refine hs.grow rfl (fun d => Nat.le_refl _) fun d y hy => ?_
    by_cases hd : d = run.exercise
    · subst hd
      have hy : ({ x with published := run.token } : Standing) = y := by
        simpa [Ledger.publish, h] using hy
      rw [← hy]
      exact ⟨hsx.latest_le, hle, x, h, rfl, Nat.le_of_lt hnew⟩
    · have hy : l.standing d = some y := by simpa [Ledger.publish, hd] using hy
      have hsy := hs.standing d y hy
      exact ⟨hsy.latest_le, hsy.published_le, y, hy, rfl, Nat.le_refl _⟩
  refine hgrown.sees rfl nofun nofun fun d t ht => ?_
  rw [publishedTokens_published] at ht
  split at ht
  · next hd =>
    subst hd
    rw [List.mem_singleton.mp ht]
    refine ⟨hle, fun u hu => Nat.lt_of_le_of_lt (hsx.published_ge u hu) hnew, fun y hy => ?_⟩
    have hy : ({ x with published := run.token } : Standing) = y := by
      simpa [Ledger.publish, h] using hy
    subst hy
    exact Nat.le_refl _
  · exact nomatch ht

/-- Whatever entry a ledger makes, it stays sound. -/
theorem entry {occurred : List Occurrence} (hs : l.Sound log) (h : l.Entry occurred m) :
    m.Sound (log ++ occurred) := by
  cases h with
  | none hmore => exact hs.plain hmore
  | opened hmore h => rw [List.append_cons]; exact hs.openSession.plain hmore
  | closed hmore h => rw [List.append_cons]; exact (hs.closeSession h).plain hmore
  | dispatched h => exact hs.dispatch _ _
  | published report h hlatest hnew => exact hs.publish report h hlatest hnew
  | outdated exercises hmore => exact (hs.advanceAll exercises).plain hmore

end Ledger.Sound

end Grading.Watch
