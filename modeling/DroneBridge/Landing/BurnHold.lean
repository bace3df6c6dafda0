import DroneBridge.Landing.Worker

/-!
# The overlay on the stream

The callback of the encoder draws the latest detection of the worker into each frame of the stream.
It holds a detection of its own: when the worker reports none, the callback goes on drawing the last
one it has seen for some frames. This is the third hold in a row, after that of the tracker and that
of the pipeline, and it counts frames of the stream, whereas they count frames that were processed.

`overlay_burned_iff` puts the three together: what is drawn rests on a mark that the detector has
found, and how long ago that can have been is counted in both kinds of frames.
-/

namespace DroneBridge

structure BurnLock where
  det : Detection
  miss : ℤ
  deriving DecidableEq, Repr

namespace BurnLock

def init : BurnLock := ⟨.none, 0⟩

/-- `_resolve_burn_detection` with what the worker reports; it returns `det`. -/
def resolve (hold : ℤ) (b : BurnLock) (fresh : Detection) : BurnLock :=
  if fresh.detected then ⟨fresh, 0⟩
  else if b.det.detected = true ∧ b.miss < hold then { b with miss := b.miss + 1 }
  else if hold ≤ b.miss + 1 then ⟨.none, b.miss + 1⟩
  else { b with miss := b.miss + 1 }

end BurnLock

/-- What happens while a stream with detection runs. -/
inductive StreamEvent
  | frame (f : LandingFrame)
  /-- The callback of the encoder, for the next frame of the stream. A callback that raises before
  it asks for the detection changes nothing here and is no event. -/
  | preCallback

def StreamEvent.isCallback : StreamEvent → Bool
  | preCallback => true
  | frame _ => false

def processed (evs : List StreamEvent) : List LandingFrame :=
  evs.filterMap fun
    | .frame f => some f
    | .preCallback => none

theorem processed_concat_frame (evs : List StreamEvent) (f : LandingFrame) :
    processed (evs ++ [.frame f]) = processed evs ++ [f] := List.filterMap_append

theorem processed_concat_preCallback (evs : List StreamEvent) :
    processed (evs ++ [.preCallback]) = processed evs := by
  rw [processed, List.filterMap_append]
  exact List.append_nil _

structure BurnLoop where
  worker : LandingWorker
  burnLock : BurnLock
  /-- What the worker reported at each callback. -/
  fresh : List Detection

namespace BurnLoop

variable (F : TrackerFloat) (p : LandingProcessor) (size : ℤ × ℤ) (overlayHoldFrames : ℤ)

def start (now : ℕ) : BurnLoop := ⟨.start now, .init, []⟩

/-- The hold of the callback is that of the pipeline. -/
def step (s : BurnLoop) : StreamEvent → BurnLoop
  | .frame f => { s with worker := s.worker.turn F p size overlayHoldFrames f }
  | .preCallback =>
    let fresh := s.worker.pipeline.latestDetection
    { s with burnLock := s.burnLock.resolve (displayHold overlayHoldFrames) fresh
             fresh := s.fresh ++ [fresh] }

def run (now : ℕ) (evs : List StreamEvent) : BurnLoop :=
  evs.foldl (step F p size overlayHoldFrames) (start now)

end BurnLoop

/-! ## One hold -/

namespace BurnLock

/-- What the callback holds, by the age of the last report it has seen. -/
inductive Phase (hold : ℤ) (reports : List Detection) : Option ℕ → BurnLock → Prop
  | never {b : BurnLock} (hdet : b.det.detected = false) : Phase hold reports none b
  | held {b : BurnLock} {k : ℕ} (hk : k ≤ hold) (hdet : b.det.detected = true)
    (hreport : reports.reverse[k]? = some b.det) (hmiss : b.miss = k) :
    Phase hold reports (some k) b
  | gone {b : BurnLock} {k : ℕ} (hk : hold < k) (hdet : b.det.detected = false) :
    Phase hold reports (some k) b

variable {hold : ℤ} {reports : List Detection} {b : BurnLock} {fresh : Detection}

theorem phase_hit (hhold : 0 ≤ hold) (hfresh : fresh.detected = true) :
    Phase hold (reports ++ [fresh]) (some 0) (b.resolve hold fresh) := by
  rw [resolve, if_pos hfresh]
  exact .held hhold hfresh (by simp) rfl

theorem resolve_miss_of_not (hfresh : fresh.detected = false) (hdet : b.det.detected = false) :
    (b.resolve hold fresh).det.detected = false := by
  rw [resolve, if_neg (by simp [hfresh]), if_neg (by simp [hdet])]
  split
  · rfl
  · exact hdet

theorem phase_miss {a : Option ℕ} (hfresh : fresh.detected = false) (h : Phase hold reports a b) :
    Phase hold (reports ++ [fresh]) (a.map (· + 1)) (b.resolve hold fresh) := by
  cases h with
  | never hdet => exact .never (resolve_miss_of_not hfresh hdet)
  | gone hk hdet =>
    rw [Option.map_some]
    exact .gone (by omega) (resolve_miss_of_not hfresh hdet)
  | held hk hdet hreport hmiss =>
    rw [Option.map_some]
    by_cases hlt : b.miss < hold
    · have heq : b.resolve hold fresh = { b with miss := b.miss + 1 } := by
        rw [resolve, if_neg (by simp [hfresh]), if_pos ⟨hdet, hlt⟩]
      rw [heq]
      refine .held (by omega) hdet ?_ (by rw [hmiss]; rfl)
      rw [List.reverse_concat, List.getElem?_cons_succ, hreport]
    · have heq : b.resolve hold fresh = ⟨.none, b.miss + 1⟩ := by
        rw [resolve, if_neg (by simp [hfresh]), if_neg (by tauto), if_pos (by omega)]
      rw [heq]
      exact .gone (by omega) rfl

theorem phase_foldl (hhold : 0 ≤ hold) (reports : List Detection) :
    Phase hold reports (age (reports.map (·.detected))) (reports.foldl (resolve hold) init) := by
  induction reports using List.reverseRecOn with
  | nil => exact .never rfl
  | append_singleton reports fresh ih =>
    rw [List.foldl_append, List.map_append, List.map_singleton, age_concat]
    cases hfresh : fresh.detected with
    | true => exact phase_hit hhold hfresh
    | false => exact phase_miss hfresh ih

theorem Phase.detected_iff {a : Option ℕ} (h : Phase hold reports a b) :
    b.det.detected = true ↔ ∃ k : ℕ, a = some k ∧ k ≤ hold := by
  cases h with
  | never hdet => simp [hdet]
  | held hk hdet hreport hmiss => simp [hdet, hk]
  | gone hk hdet => simp [hdet, hk]

theorem Phase.report {a : Option ℕ} (h : Phase hold reports a b) (hdet : b.det.detected = true) :
    ∃ k : ℕ, k ≤ hold ∧ reports.reverse[k]? = some b.det := by
  cases h with
  | never hnot => exact nomatch hnot.symm.trans hdet
  | held hk hdet hreport hmiss => exact ⟨_, hk, hreport⟩
  | gone hk hnot => exact nomatch hnot.symm.trans hdet

/-- The callback draws exactly when one of the last reports was a detection. -/
theorem detected_foldl_iff (hhold : 0 ≤ hold) (reports : List Detection) :
    (reports.foldl (resolve hold) init).det.detected = true ↔
      ∃ k : ℕ, k ≤ hold ∧ ∃ d, reports.reverse[k]? = some d ∧ d.detected = true := by
  rw [(phase_foldl hhold reports).detected_iff, age_le_iff]
  simp only [← List.map_reverse, List.getElem?_map, Option.map_eq_some_iff]

end BurnLock

/-! ## The three holds -/

namespace BurnLoop

variable {F : TrackerFloat} {p : LandingProcessor} {size : ℤ × ℤ} {overlayHoldFrames : ℤ} {now : ℕ}

theorem run_concat (evs : List StreamEvent) (e : StreamEvent) :
    run F p size overlayHoldFrames now (evs ++ [e]) =
      (run F p size overlayHoldFrames now evs).step F p size overlayHoldFrames e := by
  rw [run, run, List.foldl_append, List.foldl_cons, List.foldl_nil]

theorem run_eq (evs : List StreamEvent) :
    (run F p size overlayHoldFrames now evs).worker =
        LandingWorker.run F p size overlayHoldFrames now (processed evs) ∧
      (run F p size overlayHoldFrames now evs).burnLock =
        (run F p size overlayHoldFrames now evs).fresh.foldl
          (BurnLock.resolve (displayHold overlayHoldFrames)) .init := by
  induction evs using List.reverseRecOn with
  | nil => exact ⟨rfl, rfl⟩
  | append_singleton evs e ih =>
    rw [run_concat]
    cases e with
    | frame f =>
      refine ⟨?_, ih.2⟩
      rw [step, ih.1, processed_concat_frame, LandingWorker.run_concat]
    | preCallback =>
      refine ⟨?_, ?_⟩
      · rw [step, ih.1, processed_concat_preCallback]
      · rw [step, List.foldl_append, ← ih.2]
        rfl

theorem concat_eq_append_cons_iff {α : Type} {l part rest : List α} {a b : α} :
    l ++ [b] = part ++ a :: rest ↔
      (rest = [] ∧ l = part ∧ b = a) ∨ ∃ rest', rest = rest' ++ [b] ∧ l = part ++ a :: rest' := by
  constructor
  · intro h
    rcases List.eq_nil_or_concat rest with rfl | ⟨rest', b', rfl⟩
    · obtain ⟨hl, hb⟩ := List.append_inj' h rfl
      exact .inl ⟨rfl, hl, List.singleton_inj.mp hb⟩
    · rw [List.concat_eq_append, ← List.cons_append, ← List.append_assoc] at h
      obtain ⟨hl, hb⟩ := List.append_inj' h rfl
      exact .inr ⟨rest', by rw [List.concat_eq_append, List.singleton_inj.mp hb], hl⟩
  · rintro (⟨rfl, rfl, rfl⟩ | ⟨rest', rfl, rfl⟩) <;> simp

theorem fresh_getElem? (evs : List StreamEvent) (k : ℕ) (d : Detection) :
    (run F p size overlayHoldFrames now evs).fresh.reverse[k]? = some d ↔
      ∃ part rest, evs = part ++ .preCallback :: rest ∧ rest.countP (·.isCallback) = k ∧
        (LandingWorker.run F p size overlayHoldFrames now
          (processed part)).pipeline.latestDetection = d := by
  induction evs using List.reverseRecOn generalizing k with
  | nil => simp [run, start]
  | append_singleton evs e ih =>
    rw [run_concat]
    simp only [concat_eq_append_cons_iff]
    cases e with
    | frame f =>
      rw [step, ih]
      constructor
      · rintro ⟨part, rest, hevs, hcount, hd⟩
        exact ⟨part, rest ++ [.frame f], .inr ⟨rest, rfl, hevs⟩,
          by rw [List.countP_append, hcount]; rfl, hd⟩
      · rintro ⟨part, _, ⟨-, -, hframe⟩ | ⟨rest, rfl, hevs⟩, hcount, hd⟩
        · exact nomatch hframe
        · exact ⟨part, rest, hevs, by rw [← hcount, List.countP_append]; rfl, hd⟩
    | preCallback =>
      rw [step, List.reverse_concat, (run_eq evs).1]
      cases k with
      | zero =>
        rw [List.getElem?_cons_zero, Option.some.injEq]
        constructor
        · intro hd
          exact ⟨evs, [], .inl ⟨rfl, rfl, rfl⟩, rfl, hd⟩
        · rintro ⟨part, _, ⟨rfl, rfl, -⟩ | ⟨rest, rfl, hevs⟩, hcount, hd⟩
          · exact hd
          · rw [List.countP_append] at hcount
            exact absurd hcount (Nat.succ_ne_zero _)
      | succ k =>
        rw [List.getElem?_cons_succ, ih]
        constructor
        · rintro ⟨part, rest, hevs, hcount, hd⟩
          exact ⟨part, rest ++ [.preCallback], .inr ⟨rest, rfl, hevs⟩,
            by rw [List.countP_append, hcount]; rfl, hd⟩
        · rintro ⟨part, _, ⟨rfl, -, -⟩ | ⟨rest, rfl, hevs⟩, hcount, hd⟩
          · exact nomatch hcount
          · rw [List.countP_append] at hcount
            exact ⟨part, rest, hevs, Nat.succ.inj hcount, hd⟩

end BurnLoop

/-- **The overlay on the stream.** An overlay is drawn exactly when, at this callback or one within
the hold before it, a mark had been found within the holds of tracker and pipeline. What is drawn is
the worker's report at such a callback. -/
theorem overlay_burned_iff {F : TrackerFloat} {p : LandingProcessor} {size : ℤ × ℤ}
    {overlayHoldFrames : ℤ} {now : ℕ} {evs : List StreamEvent}
    (hall : LandingWorker.Detects p (processed evs)) :
    let det := (BurnLoop.run F p size overlayHoldFrames now (evs ++ [.preCallback])).burnLock.det
    (det.detected = true ↔
      ∃ part rest, evs ++ [.preCallback] = part ++ .preCallback :: rest ∧
        rest.countP (·.isCallback) ≤ displayHold overlayHoldFrames ∧
        ∃ k : ℕ, k ≤ p.conf.hold + displayHold overlayHoldFrames ∧
          ∃ f raw, (processed part).reverse[k]? = some f ∧ f.raw = .ok (some raw)) ∧
    (det.detected = true →
      ∃ part rest, evs ++ [.preCallback] = part ++ .preCallback :: rest ∧
        rest.countP (·.isCallback) ≤ displayHold overlayHoldFrames ∧
        det = (LandingWorker.run F p size overlayHoldFrames now
          (processed part)).pipeline.latestDetection) := by
  intro det
  have hhold : 0 ≤ displayHold overlayHoldFrames := le_max_of_le_right (by decide)
  have hdet : det = _ := congrArg BurnLock.det (BurnLoop.run_eq (evs ++ [.preCallback])).2
  have hworker : ∀ part rest, evs ++ [.preCallback] = part ++ .preCallback :: rest →
      ((LandingWorker.run F p size overlayHoldFrames now
          (processed part)).pipeline.latestDetection.detected = true ↔
        ∃ k : ℕ, k ≤ p.conf.hold + displayHold overlayHoldFrames ∧
          ∃ f raw, (processed part).reverse[k]? = some f ∧ f.raw = .ok (some raw)) := by
    intro part rest hevs
    have hpart : LandingWorker.Detects p (processed part) := by
      intro f hf
      refine hall f ?_
      rw [← processed_concat_preCallback, hevs, processed, List.filterMap_append]
      exact List.mem_append_left _ hf
    rw [(LandingWorker.phase_run hpart).detected_iff hhold, age_le_iff]
    simp only [← List.map_reverse, List.getElem?_map, Option.map_eq_some_iff, LandingFrame.hit_iff,
      exists_and_left]
  constructor
  · rw [hdet, BurnLock.detected_foldl_iff hhold]
    constructor
    · rintro ⟨k, hk, d, hd, hdetected⟩
      obtain ⟨part, rest, hevs, rfl, rfl⟩ := (BurnLoop.fresh_getElem? _ k d).mp hd
      exact ⟨part, rest, hevs, hk, (hworker part rest hevs).mp hdetected⟩
    · rintro ⟨part, rest, hevs, hcount, hhit⟩
      exact ⟨_, hcount, _, (BurnLoop.fresh_getElem? _ _ _).mpr ⟨part, rest, hevs, rfl, rfl⟩,
        (hworker part rest hevs).mpr hhit⟩
  · intro hdetected
    rw [hdet] at hdetected ⊢
    obtain ⟨k, hk, hd⟩ := (BurnLock.phase_foldl hhold _).report hdetected
    obtain ⟨part, rest, hevs, rfl, hlatest⟩ := (BurnLoop.fresh_getElem? _ k _).mp hd
    exact ⟨part, rest, hevs, hk, hlatest.symm⟩

/-- A mark that is lost at once is reported for 36 frames more, and drawn for 18 callbacks more
after that, though the worker has long reported its loss. -/
theorem overlay_burned_of_lost :
    let lost := (List.range 37).map fun i ↦ (⟨(3 * (i + 1) : ℕ), .ok none, i⟩ : LandingFrame)
    let frames := ⟨0, .ok (TrackerFrame.markAt 100 100 (640, 480)).raw, 0⟩ :: lost
    let shown := (frames.take 37).map StreamEvent.frame
    let evs := shown ++ .preCallback :: (frames.drop 37).map StreamEvent.frame ++
      List.replicate 17 .preCallback
    (BurnLoop.run .exact {} (640, 480) 18 0 (evs ++ [.preCallback])).burnLock.det.detected =
      true := by
  intro lost frames shown evs
  refine (overlay_burned_iff ?_).1.mpr
    ⟨shown, (frames.drop 37).map .frame ++ List.replicate 18 .preCallback, rfl, by decide,
      36, by decide, _, _, rfl, rfl⟩
  have hevs : processed evs = frames := rfl
  rw [hevs]
  refine List.forall_mem_cons.mpr ⟨⟨⟨rfl, rfl⟩, _, rfl⟩, ?_⟩
  intro f hf
  obtain ⟨i, -, rfl⟩ := List.mem_map.mp hf
  refine ⟨⟨rfl, ?_⟩, _, rfl⟩
  simp [wantsFrame]

end DroneBridge
