import DroneBridge.Lib.Machine
import Mathlib.Data.Int.Notation
import Mathlib.Data.Nat.Notation

/-!
# The feed of the worker

The capture loop hands frames to the worker through a queue with one place. When the place is taken,
`submit` removes the job that is there and puts its own. If the worker takes that job in between,
there is nothing to remove: `get_nowait` raises `queue.Empty`, and `submit` returns without having
queued its frame.

What the worker publishes is in the order of the submissions, whatever is dropped on the way.

The ghosts of the state are lists of what has happened. A job keeps, as a ghost, how many jobs were
submitted before it, so that two jobs with the same frame are two.
-/

open scoped List

namespace DroneBridge

/-! ## The queue -/

structure FrameJob (ι : Type*) where
  frameID : ℤ
  image : ι
  /-- Ghost: how many jobs were submitted before. -/
  number : ℕ
  deriving DecidableEq

inductive SubmitPoint (ι : Type*)
  | idle
  | put (job : FrameJob ι)
  /-- The queue was full; before `get_nowait`. -/
  | get (job : FrameJob ι)
  /-- `get_nowait` has removed the old job; before the second `put_nowait`. -/
  | putAgain (job old : FrameJob ι)
  /-- The second `put_nowait` has raised `queue.Full`, which nothing catches. -/
  | raised (job old : FrameJob ι)
  deriving DecidableEq

def SubmitPoint.job {ι : Type*} : SubmitPoint ι → Option (FrameJob ι)
  | .idle => none
  | .put job => some job
  | .get job => some job
  | .putAgain job _ => some job
  | .raised job _ => some job

/-- A result; what else is in it does not bear on the order. -/
structure ProcessResult (ι : Type*) where
  frameID : ℤ
  overlayFrame : Option ι
  deriving DecidableEq

structure Feed (ι : Type*) where
  queue : Option (FrameJob ι) := none
  point : SubmitPoint ι := .idle
  /-- The job that the worker is at. -/
  working : Option (FrameJob ι) := none
  latest : Option (ProcessResult ι) := none
  /-- Ghost: the jobs for which `submit` was called. -/
  submitted : List (FrameJob ι) := []
  /-- Ghost: the jobs that were put in the queue. -/
  queued : List (FrameJob ι) := []
  /-- Ghost: the jobs for which `submit` has returned. -/
  returned : List (FrameJob ι) := []
  /-- Ghost: the jobs that the worker has taken. -/
  taken : List (FrameJob ι) := []
  /-- Ghost: the jobs that were removed, each with the one that took its place. -/
  replaced : List (FrameJob ι × FrameJob ι) := []
  /-- Ghost: the frames of the results. -/
  published : List ℤ := []
  /-- Ghost: the frames of the overlays that went to the stream. -/
  shown : List ℤ := []
  deriving DecidableEq

inductive FeedEvent (ι : Type*)
  | submit (frameID : ℤ) (image : ι)
  | put
  | get
  | putAgain
  | take
  | publish (overlay : Option ι)
  | read
  deriving DecidableEq

namespace Feed

variable {ι : Type*}

/-- A `put_nowait` that finds room ends `submit`. -/
def enqueue (s : Feed ι) (job : FrameJob ι) : Feed ι :=
  { s with
    queue := some job
    point := .idle
    queued := s.queued ++ [job]
    returned := s.returned ++ [job] }

def step (s : Feed ι) : FeedEvent ι → Option (Feed ι)
  | .submit frameID image =>
    match s.point with
    | .idle =>
      let job := ⟨frameID, image, s.submitted.length⟩
      some { s with point := .put job, submitted := s.submitted ++ [job] }
    | _ => none
  | .put =>
    match s.point, s.queue with
    | .put job, none => some (s.enqueue job)
    | .put job, some _ => some { s with point := .get job }
    | _, _ => none
  | .get =>
    match s.point, s.queue with
    | .get job, some old => some { s with queue := none, point := .putAgain job old }
    | .get job, none => some { s with point := .idle, returned := s.returned ++ [job] }
    | _, _ => none
  | .putAgain =>
    match s.point, s.queue with
    | .putAgain job old, none =>
      some { s.enqueue job with replaced := s.replaced ++ [(old, job)] }
    | .putAgain job old, some _ => some { s with point := .raised job old }
    | _, _ => none
  | .take =>
    match s.working, s.queue with
    | none, some job =>
      some { s with queue := none, working := some job, taken := s.taken ++ [job] }
    | _, _ => none
  | .publish overlay =>
    match s.working with
    | some job =>
      some { s with
        working := none
        latest := some ⟨job.frameID, overlay⟩
        published := s.published ++ [job.frameID] }
    | none => none
  | .read =>
    match s.point, s.latest with
    | .idle, some ⟨frameID, some _⟩ => some { s with shown := s.shown ++ [frameID] }
    | .idle, _ => some s
    | _, _ => none

inductive Step (s : Feed ι) : FeedEvent ι → Feed ι → Prop
  | submit {frameID : ℤ} {image : ι} (hpoint : s.point = .idle) :
    Step s (.submit frameID image)
      { s with
        point := .put ⟨frameID, image, s.submitted.length⟩
        submitted := s.submitted ++ [⟨frameID, image, s.submitted.length⟩] }
  | put {job : FrameJob ι} (hpoint : s.point = .put job) (hqueue : s.queue = none) :
    Step s .put (s.enqueue job)
  | full {job old : FrameJob ι} (hpoint : s.point = .put job) (hqueue : s.queue = some old) :
    Step s .put { s with point := .get job }
  | get {job old : FrameJob ι} (hpoint : s.point = .get job) (hqueue : s.queue = some old) :
    Step s .get { s with queue := none, point := .putAgain job old }
  | empty {job : FrameJob ι} (hpoint : s.point = .get job) (hqueue : s.queue = none) :
    Step s .get { s with point := .idle, returned := s.returned ++ [job] }
  | putAgain {job old : FrameJob ι} (hpoint : s.point = .putAgain job old)
    (hqueue : s.queue = none) :
    Step s .putAgain { s.enqueue job with replaced := s.replaced ++ [(old, job)] }
  | raised {job old other : FrameJob ι} (hpoint : s.point = .putAgain job old)
    (hqueue : s.queue = some other) : Step s .putAgain { s with point := .raised job old }
  | take {job : FrameJob ι} (hworking : s.working = none) (hqueue : s.queue = some job) :
    Step s .take { s with queue := none, working := some job, taken := s.taken ++ [job] }
  | publish {job : FrameJob ι} {overlay : Option ι} (hworking : s.working = some job) :
    Step s (.publish overlay)
      { s with
        working := none
        latest := some ⟨job.frameID, overlay⟩
        published := s.published ++ [job.frameID] }
  | read {frameID : ℤ} {overlay : ι} (hlatest : s.latest = some ⟨frameID, some overlay⟩) :
    Step s .read { s with shown := s.shown ++ [frameID] }
  | readNothing : Step s .read s

variable {s s' : Feed ι} {e : FeedEvent ι}

theorem step_of_eq (h : s.step e = some s') : Step s e s' := by
  cases e <;> rw [step] at h <;> split at h <;> cases h
  · exact .submit ‹_›
  · exact .put ‹_› ‹_›
  · exact .full ‹_› ‹_›
  · exact .get ‹_› ‹_›
  · exact .empty ‹_› ‹_›
  · exact .putAgain ‹_› ‹_›
  · exact .raised ‹_› ‹_›
  · exact .take ‹_› ‹_›
  · exact .publish ‹_›
  · exact .read ‹_›
  · exact .readNothing

end Feed

def feedMachine (ι : Type*) : Machine (Feed ι) (FeedEvent ι) := ⟨Feed.step⟩

/-! ## What becomes of a job -/

namespace Feed

variable {ι : Type*} {s s' : Feed ι} {e : FeedEvent ι}

/-- The jobs are numbered in the order of their submission, and the submitter is alone in putting
them. -/
structure Numbered (s : Feed ι) : Prop where
  bound : ∀ j ∈ s.queued, j.number < s.submitted.length
  current : ∀ job, s.point.job = some job → job.number < s.submitted.length
  earlier : ∀ job, s.point.job = some job → ∀ j ∈ s.queued, j.number < job.number
  queue : ∀ j, s.queue = some j → j ∈ s.queued
  removed : ∀ job old, s.point = .putAgain job old → s.queue = none

theorem numbered_init : Numbered ({} : Feed ι) where
  bound := by simp
  current := by simp [SubmitPoint.job]
  earlier := by simp [SubmitPoint.job]
  queue := by simp
  removed := by simp

theorem Numbered.enqueue {job : FrameJob ι} (hs : Numbered s) (hjob : s.point.job = some job) :
    Numbered (s.enqueue job) where
  bound := by
    refine List.forall_mem_append.mpr ⟨hs.bound, ?_⟩
    rw [List.forall_mem_singleton]
    exact hs.current job hjob
  current := by simp [Feed.enqueue, SubmitPoint.job]
  earlier := by simp [Feed.enqueue, SubmitPoint.job]
  queue := by simp [Feed.enqueue]
  removed := by simp [Feed.enqueue]

theorem Numbered.step (hs : Numbered s) (hstep : Step s e s') : Numbered s' := by
  cases hstep with
  | submit hpoint =>
    refine ⟨?_, ?_, ?_, hs.queue, by simp⟩
    · intro j hj
      exact Nat.lt_of_lt_of_le (hs.bound j hj) (by simp)
    · rintro _ ⟨⟩
      simp
    · rintro _ ⟨⟩
      exact hs.bound
  | put hpoint hqueue => exact hs.enqueue (by rw [hpoint]; rfl)
  | @full job old hpoint hqueue =>
    have hjob : s.point.job = some job := by rw [hpoint]; rfl
    exact ⟨hs.bound, fun _ h ↦ hs.current _ (hjob.trans h), fun _ h ↦ hs.earlier _ (hjob.trans h),
      hs.queue, by simp⟩
  | @get job old hpoint hqueue =>
    have hjob : s.point.job = some job := by rw [hpoint]; rfl
    exact ⟨hs.bound, fun _ h ↦ hs.current _ (hjob.trans h), fun _ h ↦ hs.earlier _ (hjob.trans h),
      by simp, fun _ _ _ ↦ rfl⟩
  | empty hpoint hqueue =>
    exact ⟨hs.bound, by simp [SubmitPoint.job], by simp [SubmitPoint.job], hs.queue, by simp⟩
  | putAgain hpoint hqueue =>
    obtain ⟨hbound, hcurrent, hearlier, hqueued, hremoved⟩ := hs.enqueue (by rw [hpoint]; rfl)
    exact ⟨hbound, hcurrent, hearlier, hqueued, hremoved⟩
  | raised hpoint hqueue =>
    -- the queue is empty: the submitter has emptied it, and no one else puts
    rw [hs.removed _ _ hpoint] at hqueue
    cases hqueue
  | take hworking hqueue =>
    exact ⟨hs.bound, hs.current, hs.earlier, by simp, fun _ _ _ ↦ rfl⟩
  | publish hworking => exact ⟨hs.bound, hs.current, hs.earlier, hs.queue, hs.removed⟩
  | read hlatest => exact ⟨hs.bound, hs.current, hs.earlier, hs.queue, hs.removed⟩
  | readNothing => exact hs

/-- A newer job has taken the place of the job, or is about to. -/
def ReplacedByNewer (s : Feed ι) (j : FrameJob ι) : Prop :=
  ∃ new, (s.point = .putAgain new j ∨ (j, new) ∈ s.replaced) ∧ j.number < new.number

/-- It is being submitted, is in the queue, was taken, or had to make room for a newer one. -/
def Placed (s : Feed ι) (j : FrameJob ι) : Prop :=
  s.point.job = some j ∨ s.queue = some j ∨ j ∈ s.taken ∨ s.ReplacedByNewer j

/-- Every job for which `submit` has returned was queued, and every job has its place. -/
structure Kept (s : Feed ι) : Prop where
  returned : ∀ j ∈ s.returned, j ∈ s.queued
  placed : ∀ j ∈ s.submitted, s.Placed j

/-- The worker has not taken the job that the submitter is about to remove. -/
def FindsOld (s : Feed ι) (e : FeedEvent ι) : Prop := e = .get → s.queue ≠ none

instance [DecidableEq ι] (s : Feed ι) (e : FeedEvent ι) : Decidable (FindsOld s e) :=
  inferInstanceAs (Decidable (e = .get → s.queue ≠ none))

theorem kept_init : Kept ({} : Feed ι) := ⟨by simp, by simp⟩

theorem not_kept_of_empty {job : FrameJob ι} (hs : Numbered s) (hpoint : s.point = .get job) :
    ¬ Kept { s with point := .idle, returned := s.returned ++ [job] } := by
  intro hkept
  have hqueued : job ∈ s.queued := hkept.returned job (by simp)
  exact Nat.lt_irrefl _ (hs.earlier job (by rw [hpoint]; rfl) job hqueued)

theorem Placed.step {j : FrameJob ι} (hs : Numbered s) (hj : s.Placed j) (hstep : Step s e s')
    (hold : FindsOld s e) : s'.Placed j := by
  cases hstep with
  | submit hpoint => grind [Placed, ReplacedByNewer, SubmitPoint.job]
  | put hpoint hqueue =>
    -- the job that was being submitted is now in the queue, which was empty
    grind [Placed, ReplacedByNewer, SubmitPoint.job, Feed.enqueue]
  | full hpoint hqueue => grind [Placed, ReplacedByNewer, SubmitPoint.job]
  | @get job old hpoint hqueue =>
    -- the job that was in the queue has to make room for the one that is being submitted
    have hnewer : old.number < job.number :=
      hs.earlier job (by rw [hpoint]; rfl) old (hs.queue old hqueue)
    grind [Placed, ReplacedByNewer, SubmitPoint.job]
  | empty hpoint hqueue => exact absurd hqueue (hold rfl)
  | putAgain hpoint hqueue => grind [Placed, ReplacedByNewer, SubmitPoint.job, Feed.enqueue]
  | raised hpoint hqueue =>
    rw [hs.removed _ _ hpoint] at hqueue
    cases hqueue
  | take hworking hqueue =>
    -- the job that was in the queue is now with the worker
    grind [Placed, ReplacedByNewer, SubmitPoint.job]
  | publish hworking => exact hj
  | read hlatest => exact hj
  | readNothing => exact hj

theorem returned_step (h : ∀ j ∈ s.returned, j ∈ s.queued) (hstep : Step s e s')
    (hold : FindsOld s e) : ∀ j ∈ s'.returned, j ∈ s'.queued := by
  have henqueue : ∀ job, ∀ j ∈ s.returned ++ [job], j ∈ s.queued ++ [job] := by
    intro job j hj
    rw [List.mem_append] at hj ⊢
    exact hj.imp_left (h j)
  cases hstep with
  | put hpoint hqueue => exact henqueue _
  | putAgain hpoint hqueue => exact henqueue _
  | empty hpoint hqueue => exact absurd hqueue (hold rfl)
  | _ => exact h

theorem submitted_step (hstep : Step s e s') :
    s'.submitted = s.submitted ∨
      ∃ job, s'.submitted = s.submitted ++ [job] ∧ s'.point.job = some job := by
  cases hstep with
  | submit hpoint => exact .inr ⟨_, rfl, rfl⟩
  | _ => exact .inl rfl

theorem Kept.step (hs : Numbered s) (hk : Kept s) (hstep : Step s e s') (hold : FindsOld s e) :
    Kept s' := by
  have hplaced : ∀ j ∈ s.submitted, s'.Placed j := fun j hj ↦ (hk.placed j hj).step hs hstep hold
  refine ⟨returned_step hk.returned hstep hold, ?_⟩
  rcases submitted_step hstep with heq | ⟨job, heq, hjob⟩
  · rwa [heq]
  · rw [heq, List.forall_mem_append, List.forall_mem_singleton]
    exact ⟨hplaced, .inl hjob⟩

theorem kept_step_iff (hs : Numbered s) (hk : Kept s) (hstep : Step s e s') :
    Kept s' ↔ FindsOld s e := by
  refine ⟨?_, hk.step hs hstep⟩
  rintro hk' rfl
  cases hstep with
  | get hpoint hqueue => simp [hqueue]
  | empty hpoint hqueue => exact absurd hk' (not_kept_of_empty hs hpoint)

/-- All along a run every job is kept exactly when the worker never takes the old job between the
two calls of `submit` that replace it. -/
theorem submitted_kept_iff {es : List (FeedEvent ι)} (hrun : (feedMachine ι).run {} es = some s) :
    (∀ fs m, fs <+: es → (feedMachine ι).run {} fs = some m → Kept m) ↔
      (feedMachine ι).Along FindsOld {} es :=
  Machine.forall_run_iff_along (I := Kept) (J := Numbered) (fun _ _ _ hs h ↦ hs.step (step_of_eq h))
    (fun _ _ _ hs hk h ↦ kept_step_iff hs hk (step_of_eq h)) numbered_init kept_init hrun

/-- A second frame replaces the first one in the queue. -/
theorem submitted_kept_of_replacement :
    let es := [.submit 0 (), .put, .submit 3 (), .put, .get, .putAgain]
    ∃ s, (feedMachine Unit).run {} es = some s ∧ s.queue = some ⟨3, (), 1⟩ ∧ Kept s := by
  intro es
  have hrun : (feedMachine Unit).run {} es = some _ := rfl
  exact ⟨_, hrun, rfl, (submitted_kept_iff hrun).mpr (by decide) es _ List.prefix_rfl hrun⟩

/-- The worker takes the first frame when the second one has found the queue full. The second frame
is not queued although the queue is empty. -/
theorem submit_loses_frame :
    ∃ s, (feedMachine Unit).run {} [.submit 0 (), .put, .submit 3 (), .put, .take, .get] = some s ∧
      s.queue = none ∧ ∃ job ∈ s.returned, job.frameID = 3 ∧ job ∉ s.queued ∧ ¬ s.Placed job := by
  refine ⟨_, rfl, rfl, ⟨3, (), 1⟩, by decide, rfl, by decide, ?_⟩
  rintro (hjob | hqueue | htaken | ⟨new, hpoint | hreplaced, -⟩)
  · cases hjob
  · cases hqueue
  · exact absurd htaken (by decide)
  · cases hpoint
  · cases hreplaced

/-! ## The order of the results -/

/-- The jobs are in the order of submission, with gaps. The results are those of the jobs that the
worker is done with. An overlay is never followed by one of an earlier result. -/
structure Ordered (s : Feed ι) : Prop where
  line : s.taken ++ s.queue.toList ++ s.point.job.toList <+ s.submitted
  published : s.published ++ (s.working.map (·.frameID)).toList = s.taken.map (·.frameID)
  latest : s.latest.map (·.frameID) = s.published.getLast?
  mem_published : ∀ a ∈ s.shown, a ∈ s.published
  shown : s.shown.Pairwise fun a b ↦ a = b ∨ [a, b] <+ s.published

theorem ordered_init : Ordered ({} : Feed ι) where
  line := by simp [SubmitPoint.job]
  published := by simp
  latest := by simp
  mem_published := by simp
  shown := by simp

theorem line_step (hs : Ordered s) (hstep : Step s e s') :
    s'.taken ++ s'.queue.toList ++ s'.point.job.toList <+ s'.submitted := by
  have hline := hs.line
  cases hstep with
  | @submit frameID image hpoint =>
    rw [hpoint, SubmitPoint.job, Option.toList_none, List.append_nil] at hline
    exact hline.append (List.Sublist.refl [(⟨frameID, image, s.submitted.length⟩ : FrameJob ι)])
  | put hpoint hqueue => simpa [hpoint, hqueue, SubmitPoint.job, enqueue] using hline
  | full hpoint hqueue => simpa [hpoint, SubmitPoint.job] using hline
  | get hpoint hqueue =>
    rw [hpoint] at hline
    exact (((List.Sublist.refl _).append (List.nil_sublist _)).append (.refl _)).trans hline
  | empty hpoint hqueue => exact ((List.Sublist.refl _).append (List.nil_sublist _)).trans hline
  | putAgain hpoint hqueue => simpa [hpoint, hqueue, SubmitPoint.job, enqueue] using hline
  | raised hpoint hqueue => simpa [hpoint, SubmitPoint.job] using hline
  | take hworking hqueue => simpa [hqueue] using hline
  | publish hworking => exact hline
  | read hlatest => exact hline
  | readNothing => exact hline

theorem eq_or_pair_sublist_of_getLast? {α : Type*} {l : List α} {a b : α} (ha : a ∈ l)
    (hb : l.getLast? = some b) : a = b ∨ [a, b] <+ l := by
  obtain ⟨init, rfl⟩ := List.getLast?_eq_some_iff.mp hb
  rcases List.mem_append.mp ha with hinit | hlast
  · exact .inr ((List.singleton_sublist.mpr hinit).append (.refl [b]))
  · exact .inl (List.mem_singleton.mp hlast)

theorem Ordered.step (hs : Ordered s) (hstep : Step s e s') : Ordered s' := by
  have hline := line_step hs hstep
  cases hstep with
  | @take job hworking hqueue =>
    have hpublished := hs.published
    rw [hworking] at hpublished
    refine ⟨hline, ?_, hs.latest, hs.mem_published, hs.shown⟩
    simpa using hpublished
  | @publish job overlay hworking =>
    have hpublished := hs.published
    rw [hworking] at hpublished
    refine ⟨hline, by simpa using hpublished, by simp, ?_, ?_⟩
    · intro a ha
      exact List.mem_append_left _ (hs.mem_published a ha)
    · refine hs.shown.imp fun {a b} hab ↦ hab.imp_right fun hpair ↦ ?_
      exact hpair.trans (List.sublist_append_left _ _)
  | @read frameID overlay hlatest =>
    have hlast : s.published.getLast? = some frameID := by rw [← hs.latest, hlatest]; rfl
    refine ⟨hline, hs.published, hs.latest, ?_, ?_⟩
    · rw [List.forall_mem_append, List.forall_mem_singleton]
      exact ⟨hs.mem_published, List.mem_of_getLast? hlast⟩
    · rw [List.pairwise_append]
      refine ⟨hs.shown, List.pairwise_singleton _ _, ?_⟩
      intro a ha b hb
      rw [List.mem_singleton.mp hb]
      exact eq_or_pair_sublist_of_getLast? (hs.mem_published a ha) hlast
  | _ => exact ⟨hline, hs.published, hs.latest, hs.mem_published, hs.shown⟩

theorem ordered_of_run {es : List (FeedEvent ι)} (hrun : (feedMachine ι).run {} es = some s) :
    Ordered s :=
  Machine.invariant (I := Ordered) (fun _ _ _ hs h ↦ hs.step (step_of_eq h)) ordered_init hrun

/-- The frames of the results are those of submitted jobs, in the order of submission. -/
theorem Ordered.published_sublist (hs : Ordered s) :
    s.published <+ s.submitted.map (·.frameID) := by
  have htaken : s.taken <+ s.submitted :=
    ((List.sublist_append_left _ _).trans (List.sublist_append_left _ _)).trans hs.line
  refine (List.sublist_append_left _ (s.working.map (·.frameID)).toList).trans ?_
  rw [hs.published]
  exact htaken.map _

/-- When the submitted frames are in increasing order, so are those of the results, and the stream
never goes back to an earlier overlay. -/
theorem published_increasing {es : List (FeedEvent ι)} (hrun : (feedMachine ι).run {} es = some s)
    (hids : (s.submitted.map (·.frameID)).Pairwise (· < ·)) :
    s.latest.map (·.frameID) = s.published.getLast? ∧ s.published.Pairwise (· < ·) ∧
      (∀ id ∈ s.published, ∃ job ∈ s.submitted, job.frameID = id) ∧ s.shown.Pairwise (· ≤ ·) := by
  have hs := ordered_of_run hrun
  have hpublished : s.published.Pairwise (· < ·) := hids.sublist hs.published_sublist
  refine ⟨hs.latest, hpublished, ?_, ?_⟩
  · intro id hid
    exact List.mem_map.mp (hs.published_sublist.subset hid)
  · refine hs.shown.imp fun {a b} hab ↦ ?_
    rcases hab with rfl | hpair
    · exact Int.le_refl a
    · exact Int.le_of_lt (List.pairwise_pair.mp (hpublished.sublist hpair))

/-- The second frame is lost, the third one comes after the first. -/
theorem published_increasing_of_loss :
    let es := [.submit 0 (), .put, .submit 3 (), .put, .take, .get, .publish (some ()), .read,
      .submit 6 (), .put, .take, .publish (some ()), .read]
    ∃ s, (feedMachine Unit).run {} es = some s ∧ s.published = [0, 6] ∧
      s.shown.Pairwise (· ≤ ·) := by
  intro es
  have hrun : (feedMachine Unit).run {} es = some _ := rfl
  exact ⟨_, hrun, rfl, (published_increasing hrun (by decide)).2.2.2⟩

end Feed

end DroneBridge
