import DroneBridge.Lib.Clock
import DroneBridge.Lib.Deadline
import DroneBridge.Lib.Machine
import Mathlib.Tactic.SplitIfs

/-!
# The supervisor's two clocks

The link supervisor wakes up on a ticker and does at most one thing: check the links every half
second, or send the heartbeat every second. When a stall makes both due, the check runs and the
heartbeat is put off by 200 ms.

The checks start a quarter of a second after the supervisor. Their deadlines then lie on a grid
that stays 250 ms away from the heartbeats' grid, and with ticks at most 100 ms apart no tick
reaches two deadlines (`OnSchedule.not_both_due`). So nothing is ever put off, and each task keeps
its period up to the 100 ms of a late tick.
-/

namespace DroneBridge

def linkHealthPeriod : ℤ := 500 * Clock.millisecond
def linkHeartbeatPeriod : ℤ := Clock.second
def linkHealthOffset : ℤ := 250 * Clock.millisecond

inductive LinkPhase
  | none
  | health
  | heartbeat
  deriving DecidableEq, Repr

/-! ## Deadlines -/

def advanceLoop (period : ℤ) (now : ℕ) : ℕ → ℕ → ℕ
  | 0, next => next
  | fuel + 1, next =>
    if now < next then next else advanceLoop period now fuel (Clock.add next period)

/-- The first deadline after `now` on the grid of `due`. -/
def advanceDeadline (due : ℕ) (period : ℤ) (now : ℕ) : ℕ :=
  advanceLoop period now (now + 1) (Clock.add due period)

/-- The single action due at `now`, the two deadlines after it, and whether there is one. -/
def nextLinkPhase (now nextHealth nextHB : ℕ) : LinkPhase × ℕ × ℕ × Bool :=
  if nextHealth ≤ now ∧ nextHB ≤ now then
    (.health, advanceDeadline nextHealth linkHealthPeriod now,
      Clock.add now (200 * Clock.millisecond), true)
  else if nextHB ≤ now then
    (.heartbeat, nextHealth, advanceDeadline nextHB linkHeartbeatPeriod now, true)
  else if nextHealth ≤ now then
    (.health, advanceDeadline nextHealth linkHealthPeriod now, nextHB, true)
  else (.none, nextHealth, nextHB, false)

/-- Less than a period late, the deadline moves by one period. -/
theorem advanceDeadline_eq {period : ℤ} {due now : ℕ} (h : now < Clock.add due period) :
    advanceDeadline due period now = Clock.add due period :=
  if_pos h

/-! ## The loop -/

structure Supervisor where
  nextHealth : ℕ
  nextHB : ℕ
  now : ℕ
  /-- Ghost: the phases that ran, newest first. -/
  ran : List (LinkPhase × ℕ)
  /-- Ghost: how often the next heartbeat was put off. -/
  postponed : ℕ
  deriving DecidableEq, Repr

namespace Supervisor

def start (start : ℕ) : Supervisor where
  nextHealth := Clock.add start linkHealthOffset
  nextHB := Clock.add start linkHeartbeatPeriod
  now := start
  ran := []
  postponed := 0

def tick (s : Supervisor) (now : ℕ) : Supervisor :=
  let next := nextLinkPhase now s.nextHealth s.nextHB
  { nextHealth := next.2.1
    nextHB := next.2.2.1
    now := now
    ran := if next.2.2.2 then (next.1, now) :: s.ran else s.ran
    postponed :=
      if next.1 = .heartbeat then 0
      else if s.nextHB ≤ now then s.postponed + 1
      else s.postponed }

/-- When a phase ran, newest first. -/
def times (s : Supervisor) (phase : LinkPhase) : List ℕ :=
  (s.ran.filter (·.1 = phase)).map Prod.snd

end Supervisor

/-- Ticks strictly increase and are at most 100 ms apart. -/
def supervisorMachine : Machine Supervisor ℕ where
  step s now :=
    if s.now < now ∧ Clock.sub now s.now ≤ 100 * Clock.millisecond then some (s.tick now) else none

namespace Supervisor

variable {s : Supervisor} {start now : ℕ}

theorem tick_idle (hh : now < s.nextHealth) (hb : now < s.nextHB) :
    s.tick now = { s with now := now } := by
  simp [tick, nextLinkPhase, Nat.not_le.mpr hh, Nat.not_le.mpr hb]

theorem tick_health (hh : s.nextHealth ≤ now) (hb : now < s.nextHB)
    (hnext : now < Clock.add s.nextHealth linkHealthPeriod) :
    s.tick now = { s with
      nextHealth := Clock.add s.nextHealth linkHealthPeriod
      now := now
      ran := (.health, now) :: s.ran } := by
  simp [tick, nextLinkPhase, hh, Nat.not_le.mpr hb, advanceDeadline_eq hnext]

theorem tick_heartbeat (hh : now < s.nextHealth) (hb : s.nextHB ≤ now)
    (hnext : now < Clock.add s.nextHB linkHeartbeatPeriod) :
    s.tick now = { s with
      nextHB := Clock.add s.nextHB linkHeartbeatPeriod
      now := now
      ran := (.heartbeat, now) :: s.ran
      postponed := 0 } := by
  simp [tick, nextLinkPhase, Nat.not_le.mpr hh, hb, advanceDeadline_eq hnext]

/-! ## The grids -/

/-- A deadline in the future, on the grid of its task, and the runs of the task. -/
structure Kept (period start first : ℕ) (now deadline : ℕ) (runs : List ℕ) : Prop where
  grid : ∃ k, deadline = first + period * k
  future : now < deadline
  onTime : OnTime period 100000000 start deadline runs

/-- Both tasks keep their periods, and nothing was put off. -/
structure OnSchedule (start : ℕ) (s : Supervisor) : Prop where
  health : Kept 500000000 start (start + 250000000) s.now s.nextHealth (s.times .health)
  heartbeat : Kept 1000000000 start (start + 1000000000) s.now s.nextHB (s.times .heartbeat)
  postponed : s.postponed = 0
  sorted : (s.ran.map Prod.snd).Pairwise (· > ·)
  past : ∀ t ∈ s.ran.map Prod.snd, t ≤ s.now

theorem Kept.wait {period first deadline : ℕ} {runs : List ℕ} {before : ℕ}
    (h : Kept period start first before deadline runs) (hnow : now < deadline) :
    Kept period start first now deadline runs :=
  ⟨h.grid, hnow, h.onTime⟩

theorem Kept.run {period first deadline : ℕ} {runs : List ℕ} {before : ℕ}
    (h : Kept period start first before deadline runs) (hperiod : 100000000 ≤ period)
    (hgap : now ≤ before + 100000000) (hdue : deadline ≤ now) :
    Kept period start first now (deadline + period) (now :: runs) := by
  have hlate : now < deadline + 100000000 := by
    have hfuture := h.future
    omega
  obtain ⟨k, hk⟩ := h.grid
  refine ⟨⟨k + 1, ?_⟩, by omega, h.onTime.run hdue hlate⟩
  rw [hk, Nat.mul_add, Nat.mul_one, Nat.add_assoc]

theorem onSchedule_start (start : ℕ) : OnSchedule start (.start start) where
  health := by
    refine ⟨⟨0, ?_⟩, ?_, .nil ?_⟩
    all_goals simp only [Supervisor.start, Clock.add, linkHealthOffset, Clock.millisecond]; omega
  heartbeat := by
    refine ⟨⟨0, ?_⟩, ?_, .nil ?_⟩
    all_goals simp only [Supervisor.start, Clock.add, linkHeartbeatPeriod, Clock.second]; omega
  postponed := rfl
  sorted := .nil
  past := nofun

/-- The two grids are 250 ms apart, so that one tick never reaches both. -/
theorem OnSchedule.not_both_due (h : OnSchedule start s) (hgap : now ≤ s.now + 100000000)
    (hh : s.nextHealth ≤ now) : now < s.nextHB := by
  obtain ⟨k, hk⟩ := h.health.grid
  obtain ⟨m, hm⟩ := h.heartbeat.grid
  have hfuture := h.health.future
  have hfuture' := h.heartbeat.future
  omega

theorem OnSchedule.past_tick (h : OnSchedule start s) (hlt : s.now < now) :
    ∀ t ∈ s.ran.map Prod.snd, t < now := by
  intro t ht
  exact Nat.lt_of_le_of_lt (h.past t ht) hlt

theorem OnSchedule.tick (h : OnSchedule start s) (hlt : s.now < now)
    (hgap : now ≤ s.now + 100000000) : OnSchedule start (s.tick now) := by
  have hpast := h.past_tick hlt
  have hpast' (phase : LinkPhase) :
      ∀ t ∈ ((phase, now) :: s.ran).map Prod.snd, t ≤ now := by
    rw [List.map_cons]
    exact List.forall_mem_cons.mpr ⟨le_rfl, fun t ht ↦ (hpast t ht).le⟩
  have hsorted (phase : LinkPhase) : (((phase, now) :: s.ran).map Prod.snd).Pairwise (· > ·) :=
    List.pairwise_cons.mpr ⟨hpast, h.sorted⟩
  rcases Nat.lt_or_ge now s.nextHealth with hh | hh
  · rcases Nat.lt_or_ge now s.nextHB with hb | hb
    · rw [tick_idle hh hb]
      exact ⟨h.health.wait hh, h.heartbeat.wait hb, h.postponed, h.sorted,
        fun t ht ↦ (hpast t ht).le⟩
    · have hrun := h.heartbeat.run (by decide) hgap hb
      have hadd : Clock.add s.nextHB linkHeartbeatPeriod = s.nextHB + 1000000000 := by
        simp only [Clock.add, linkHeartbeatPeriod, Clock.second]; omega
      rw [tick_heartbeat hh hb (hadd ▸ hrun.future), hadd]
      exact ⟨h.health.wait hh, hrun, rfl, hsorted _, hpast' _⟩
  · have hb := h.not_both_due hgap hh
    have hrun := h.health.run (by decide) hgap hh
    have hadd : Clock.add s.nextHealth linkHealthPeriod = s.nextHealth + 500000000 := by
      simp only [Clock.add, linkHealthPeriod, Clock.millisecond]; omega
    rw [tick_health hh hb (hadd ▸ hrun.future), hadd]
    exact ⟨hrun, h.heartbeat.wait hb, h.postponed, hsorted _, hpast' _⟩

theorem onSchedule_of_run {ts : List ℕ} (hrun : supervisorMachine.run (.start start) ts = some s) :
    OnSchedule start s := by
  refine Machine.invariant (fun s now s' h hstep ↦ ?_) (onSchedule_start start) hrun
  obtain ⟨⟨hlt, hgap⟩, htick⟩ := Option.ite_none_right_eq_some.mp hstep
  rw [← Option.some.inj htick]
  apply h.tick hlt
  rw [Clock.sub, Clock.millisecond] at hgap
  omega

end Supervisor

/-- **The supervisor's schedule.** With ticks at most 100 ms apart, heartbeats are more than 0.9 s
and less than 1.1 s apart, health checks more than 400 ms and less than 600 ms, never both at one
tick, and neither task stops. -/
theorem link_phases_on_time {start : ℕ} {ts : List ℕ} {s : Supervisor}
    (hrun : supervisorMachine.run (.start start) ts = some s) :
    (s.ran.map Prod.snd).Pairwise (· > ·) ∧
    (s.now < s.nextHealth ∧ s.now < s.nextHB) ∧
    s.postponed = 0 ∧
    (s.times .heartbeat).IsChain (fun t' t ↦
      900 * Clock.millisecond < Clock.sub t' t ∧ Clock.sub t' t < 1100 * Clock.millisecond) ∧
    (s.times .health).IsChain (fun t' t ↦
      400 * Clock.millisecond < Clock.sub t' t ∧ Clock.sub t' t < 600 * Clock.millisecond) ∧
    s.nextHB ≤ Clock.add ((s.times .heartbeat).head?.getD start) linkHeartbeatPeriod ∧
    s.nextHealth ≤ Clock.add ((s.times .health).head?.getD start) linkHealthPeriod := by
  have h := Supervisor.onSchedule_of_run hrun
  refine ⟨h.sorted, ⟨h.health.future, h.heartbeat.future⟩, h.postponed, ?_, ?_, ?_, ?_⟩
  · refine h.heartbeat.onTime.spaced.imp fun t' t htt ↦ ?_
    rw [Clock.sub, Clock.millisecond]
    omega
  · refine h.health.onTime.spaced.imp fun t' t htt ↦ ?_
    rw [Clock.sub, Clock.millisecond]
    omega
  · have hle := h.heartbeat.onTime.deadline_le
    rw [Clock.add, linkHeartbeatPeriod, Clock.second]
    omega
  · have hle := h.health.onTime.deadline_le
    rw [Clock.add, linkHealthPeriod, Clock.millisecond]
    omega

/-- Late ticks around the first deadlines: a check 40 ms late, the next 60 ms late, and the
heartbeat 90 ms late. -/
theorem link_phases_on_time_late :
    ∃ s, supervisorMachine.run (.start 0)
        ([50, 100, 150, 200, 290, 350, 450, 500, 600, 700, 740, 810, 900, 990, 1090].map
          (· * 1000000)) = some s ∧
      s.ran = [(.heartbeat, 1090000000), (.health, 810000000), (.health, 290000000)] ∧
      s.now < s.nextHealth ∧ s.now < s.nextHB := by
  have hrun : supervisorMachine.run (.start 0)
      ([50, 100, 150, 200, 290, 350, 450, 500, 600, 700, 740, 810, 900, 990, 1090].map
        (· * 1000000)) = some _ := rfl
  exact ⟨_, hrun, rfl, (link_phases_on_time hrun).2.1⟩

end DroneBridge
