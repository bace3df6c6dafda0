import DroneBridge.Uplink.PacketStats
import Mathlib.Data.List.Chain
import Mathlib.Data.UInt

/-!
# The packet statistics of a second

Each counter is kept twice: since the start, and since the last snapshot. Once a second
`takePktStatsSnapshot` copies both by hand, field by field, and sets the second one to zero. The
goroutines that count packets run at the same time; all of them hold `pktStatsMu`, so a run is a
sequence of whole calls.

The fields as the source has them refine the two functions of `PktCounters` (`counters_inc`,
`takePktStatsSnapshot_counters`), and the books of a counter are kept there. What the invariant says
is that the run splits at its snapshots into seconds and each snapshot counts its own second.
-/

namespace DroneBridge

/-! ## The fields -/

/-- The counters as they are handed out; `pktTotalsSnapshot` has the same fields. -/
structure PktStatsSnapshot where
  rawIn14540 : UInt64
  acceptedIn14540 : UInt64
  outServerForward : UInt64
  outServerGenerated : UInt64
  dropSysID255 : UInt64
  dropDuplicate : UInt64
  dropNoPixhawk : UInt64
  dropVPNNotReady : UInt64
  dropUnhealthy : UInt64
  dropSendError : UInt64
  deriving DecidableEq, Repr

def PktStatsSnapshot.get (s : PktStatsSnapshot) : PktCounter → UInt64
  | .rawIn14540 => s.rawIn14540
  | .acceptedIn14540 => s.acceptedIn14540
  | .outServerForward => s.outServerForward
  | .outServerGenerated => s.outServerGenerated
  | .dropSysID255 => s.dropSysID255
  | .dropDuplicate => s.dropDuplicate
  | .dropNoPixhawk => s.dropNoPixhawk
  | .dropVPNNotReady => s.dropVPNNotReady
  | .dropUnhealthy => s.dropUnhealthy
  | .dropSendError => s.dropSendError

/-- The counters as fields of the forwarder. -/
structure PktFields where
  rawIn14540Total : UInt64 := 0
  acceptedIn14540Total : UInt64 := 0
  outServerForwardTotal : UInt64 := 0
  outServerGeneratedTotal : UInt64 := 0
  dropSysID255Total : UInt64 := 0
  dropDuplicateTotal : UInt64 := 0
  dropNoPixhawkTotal : UInt64 := 0
  dropVPNNotReadyTotal : UInt64 := 0
  dropUnhealthyTotal : UInt64 := 0
  dropSendErrorTotal : UInt64 := 0
  rawIn14540Sec : UInt64 := 0
  acceptedIn14540Sec : UInt64 := 0
  outServerForwardSec : UInt64 := 0
  outServerGeneratedSec : UInt64 := 0
  dropSysID255Sec : UInt64 := 0
  dropDuplicateSec : UInt64 := 0
  dropNoPixhawkSec : UInt64 := 0
  dropVPNNotReadySec : UInt64 := 0
  dropUnhealthySec : UInt64 := 0
  dropSendErrorSec : UInt64 := 0
  deriving DecidableEq, Repr

namespace PktFields

variable (f : PktFields)

/-- One of the ten functions `incPkt…`, by the counter in its name. -/
def inc : PktCounter → PktFields
  | .rawIn14540 =>
    { f with rawIn14540Total := f.rawIn14540Total + 1, rawIn14540Sec := f.rawIn14540Sec + 1 }
  | .acceptedIn14540 =>
    { f with
      acceptedIn14540Total := f.acceptedIn14540Total + 1
      acceptedIn14540Sec := f.acceptedIn14540Sec + 1 }
  | .outServerForward =>
    { f with
      outServerForwardTotal := f.outServerForwardTotal + 1
      outServerForwardSec := f.outServerForwardSec + 1 }
  | .outServerGenerated =>
    { f with
      outServerGeneratedTotal := f.outServerGeneratedTotal + 1
      outServerGeneratedSec := f.outServerGeneratedSec + 1 }
  | .dropSysID255 =>
    { f with
      dropSysID255Total := f.dropSysID255Total + 1, dropSysID255Sec := f.dropSysID255Sec + 1 }
  | .dropDuplicate =>
    { f with
      dropDuplicateTotal := f.dropDuplicateTotal + 1, dropDuplicateSec := f.dropDuplicateSec + 1 }
  | .dropNoPixhawk =>
    { f with
      dropNoPixhawkTotal := f.dropNoPixhawkTotal + 1, dropNoPixhawkSec := f.dropNoPixhawkSec + 1 }
  | .dropVPNNotReady =>
    { f with
      dropVPNNotReadyTotal := f.dropVPNNotReadyTotal + 1
      dropVPNNotReadySec := f.dropVPNNotReadySec + 1 }
  | .dropUnhealthy =>
    { f with
      dropUnhealthyTotal := f.dropUnhealthyTotal + 1, dropUnhealthySec := f.dropUnhealthySec + 1 }
  | .dropSendError =>
    { f with
      dropSendErrorTotal := f.dropSendErrorTotal + 1, dropSendErrorSec := f.dropSendErrorSec + 1 }

def takePktStatsSnapshot : (PktStatsSnapshot × PktStatsSnapshot) × PktFields :=
  let sec : PktStatsSnapshot :=
    { rawIn14540 := f.rawIn14540Sec
      acceptedIn14540 := f.acceptedIn14540Sec
      outServerForward := f.outServerForwardSec
      outServerGenerated := f.outServerGeneratedSec
      dropSysID255 := f.dropSysID255Sec
      dropDuplicate := f.dropDuplicateSec
      dropNoPixhawk := f.dropNoPixhawkSec
      dropVPNNotReady := f.dropVPNNotReadySec
      dropUnhealthy := f.dropUnhealthySec
      dropSendError := f.dropSendErrorSec }
  let tot : PktStatsSnapshot :=
    { rawIn14540 := f.rawIn14540Total
      acceptedIn14540 := f.acceptedIn14540Total
      outServerForward := f.outServerForwardTotal
      outServerGenerated := f.outServerGeneratedTotal
      dropSysID255 := f.dropSysID255Total
      dropDuplicate := f.dropDuplicateTotal
      dropNoPixhawk := f.dropNoPixhawkTotal
      dropVPNNotReady := f.dropVPNNotReadyTotal
      dropUnhealthy := f.dropUnhealthyTotal
      dropSendError := f.dropSendErrorTotal }
  ((sec, tot),
    { f with
      rawIn14540Sec := 0
      acceptedIn14540Sec := 0
      outServerForwardSec := 0
      outServerGeneratedSec := 0
      dropSysID255Sec := 0
      dropDuplicateSec := 0
      dropNoPixhawkSec := 0
      dropVPNNotReadySec := 0
      dropUnhealthySec := 0
      dropSendErrorSec := 0 })

/-! ## The fields as functions of the counter -/

def counters : PktCounters where
  total
    | .rawIn14540 => f.rawIn14540Total
    | .acceptedIn14540 => f.acceptedIn14540Total
    | .outServerForward => f.outServerForwardTotal
    | .outServerGenerated => f.outServerGeneratedTotal
    | .dropSysID255 => f.dropSysID255Total
    | .dropDuplicate => f.dropDuplicateTotal
    | .dropNoPixhawk => f.dropNoPixhawkTotal
    | .dropVPNNotReady => f.dropVPNNotReadyTotal
    | .dropUnhealthy => f.dropUnhealthyTotal
    | .dropSendError => f.dropSendErrorTotal
  sec
    | .rawIn14540 => f.rawIn14540Sec
    | .acceptedIn14540 => f.acceptedIn14540Sec
    | .outServerForward => f.outServerForwardSec
    | .outServerGenerated => f.outServerGeneratedSec
    | .dropSysID255 => f.dropSysID255Sec
    | .dropDuplicate => f.dropDuplicateSec
    | .dropNoPixhawk => f.dropNoPixhawkSec
    | .dropVPNNotReady => f.dropVPNNotReadySec
    | .dropUnhealthy => f.dropUnhealthySec
    | .dropSendError => f.dropSendErrorSec

/-- Every one of the ten functions counts in its own two fields and in no other. -/
theorem counters_inc (c : PktCounter) : (f.inc c).counters = f.counters.inc c := by
  have htotal (d : PktCounter) : (f.inc c).counters.total d = (f.counters.inc c).total d := by
    cases c <;> cases d <;> rfl
  have hsec (d : PktCounter) : (f.inc c).counters.sec d = (f.counters.inc c).sec d := by
    cases c <;> cases d <;> rfl
  rw [PktCounters.mk.injEq]
  exact ⟨funext htotal, funext hsec⟩

/-- The snapshot reads every field under its own name and resets every field of the second. -/
theorem takePktStatsSnapshot_counters :
    ((f.takePktStatsSnapshot.1.1.get, f.takePktStatsSnapshot.1.2.get),
      f.takePktStatsSnapshot.2.counters) = f.counters.takePktStatsSnapshot := by
  have hsec : f.takePktStatsSnapshot.1.1.get = f.counters.sec := by
    funext c
    cases c <;> rfl
  have htotal : f.takePktStatsSnapshot.1.2.get = f.counters.total := by
    funext c
    cases c <;> rfl
  have hreset : f.takePktStatsSnapshot.2.counters.sec = fun _ ↦ 0 := by
    funext c
    cases c <;> rfl
  rw [hsec, htotal, PktCounters.takePktStatsSnapshot, ← hreset]
  rfl

end PktFields

/-! ## Runs -/

inductive StatsEvent
  | inc (c : PktCounter)
  | takePktStatsSnapshot
  deriving DecidableEq, Repr

/-- The fields, and the snapshots taken so far, the oldest first. -/
structure StatsRun where
  fields : PktFields
  taken : List (PktStatsSnapshot × PktStatsSnapshot)
  deriving DecidableEq, Repr

/-- Calls in the order in which they get `pktStatsMu`. -/
def statsMachine : Machine StatsRun StatsEvent where
  step r
    | .inc c => some { r with fields := r.fields.inc c }
    | .takePktStatsSnapshot =>
      some { fields := r.fields.takePktStatsSnapshot.2
             taken := r.taken ++ [r.fields.takePktStatsSnapshot.1] }

/-- The run splits at its snapshots; the last part is the second that is not over yet. -/
def secondsOf (es : List StatsEvent) : List (List StatsEvent) := es.splitOn .takePktStatsSnapshot

/-- How often the counter went up in a part of the run, as a 64-bit number. -/
def counted (c : PktCounter) (es : List StatsEvent) : UInt64 := .ofNat (es.count (.inc c))

/-- A label that is no separator goes to the end of the last part. -/
theorem splitOn_concat_of_ne {α : Type*} [DecidableEq α] {sep e : α} (he : e ≠ sep) (es : List α) :
    ∃ init last, es.splitOn sep = init ++ [last] ∧
      (es ++ [e]).splitOn sep = init ++ [last ++ [e]] := by
  induction es with
  | nil => exact ⟨[], [], rfl, List.splitOn_eq_singleton (by simpa using he.symm)⟩
  | cons x es ih =>
    obtain ⟨init, last, hes, hconcat⟩ := ih
    rw [List.cons_append, List.splitOn_cons_eq_if_modifyHead, List.splitOn_cons_eq_if_modifyHead,
      hes, hconcat]
    by_cases hx : (x == sep) = true
    · rw [if_pos hx, if_pos hx]
      exact ⟨[] :: init, last, rfl, rfl⟩
    · rw [if_neg hx, if_neg hx]
      cases init with
      | nil => exact ⟨[], x :: last, rfl, rfl⟩
      | cons i init => exact ⟨(x :: i) :: init, last, rfl, rfl⟩

/-- What the snapshots of one counter have to do with the run. -/
structure StatsRun.Books (es : List StatsEvent) (r : StatsRun) (c : PktCounter) : Prop where
  seconds : r.taken.map (·.1.get c) ++ [r.fields.counters.sec c] = (secondsOf es).map (counted c)
  total : (r.taken.map (·.1.get c)).sum + r.fields.counters.sec c = r.fields.counters.total c
  chain : r.taken.IsChain fun a b ↦ b.2.get c = a.2.get c + b.1.get c
  /-- The second that is not over continues the last snapshot. -/
  current : ∀ a ∈ r.taken.getLast?, r.fields.counters.total c =
    a.2.get c + r.fields.counters.sec c

namespace StatsRun

variable {es : List StatsEvent} {r : StatsRun} {c : PktCounter}

theorem counted_concat_inc (d : PktCounter) :
    counted c (es ++ [.inc d]) = if c = d then counted c es + 1 else counted c es := by
  rw [counted, List.count_append, List.count_singleton, UInt64.ofNat_add, ← counted]
  by_cases hc : c = d
  · simp [hc]
  · simp [hc, Ne.symm hc]

theorem Books.inc (h : r.Books es c) (d : PktCounter) :
    Books (es ++ [.inc d]) { r with fields := r.fields.inc d } c := by
  have hsec : (r.fields.inc d).counters.sec c =
      if c = d then r.fields.counters.sec c + 1 else r.fields.counters.sec c := by
    rw [PktFields.counters_inc]
    by_cases hc : c = d
    · rw [if_pos hc, hc]
      exact Function.update_self ..
    · rw [if_neg hc]
      exact Function.update_of_ne hc ..
  have htotal : (r.fields.inc d).counters.total c =
      if c = d then r.fields.counters.total c + 1 else r.fields.counters.total c := by
    rw [PktFields.counters_inc, PktCounters.total_inc]
    by_cases hc : c = d <;> simp [hc]
  have hne : StatsEvent.inc d ≠ .takePktStatsSnapshot := nofun
  obtain ⟨init, last, hes, hconcat⟩ := splitOn_concat_of_ne hne es
  obtain ⟨hinit, hlast⟩ : r.taken.map (·.1.get c) = init.map (counted c) ∧
      r.fields.counters.sec c = counted c last := by
    have hseconds := h.seconds
    rw [secondsOf, hes, List.map_append] at hseconds
    obtain ⟨hinit, hlast⟩ := List.append_inj' hseconds rfl
    exact ⟨hinit, (List.cons.inj hlast).1⟩
  refine ⟨?_, ?_, h.chain, fun a ha ↦ ?_⟩
  · rw [secondsOf, hconcat, List.map_append, hinit, hsec, hlast, List.map_singleton,
      counted_concat_inc]
  · have hsum := h.total
    rw [hsec, htotal]
    by_cases hc : c = d
    · rw [if_pos hc, if_pos hc, ← hsum, UInt64.add_assoc]
    · rwa [if_neg hc, if_neg hc]
  · have hcurrent := h.current a ha
    rw [hsec, htotal]
    by_cases hc : c = d
    · rw [if_pos hc, if_pos hc, hcurrent, UInt64.add_assoc]
    · rwa [if_neg hc, if_neg hc]

theorem Books.takePktStatsSnapshot (h : r.Books es c) :
    Books (es ++ [.takePktStatsSnapshot])
      { fields := r.fields.takePktStatsSnapshot.2
        taken := r.taken ++ [r.fields.takePktStatsSnapshot.1] } c := by
  obtain ⟨hread, hreset⟩ := Prod.mk.inj r.fields.takePktStatsSnapshot_counters
  obtain ⟨hsec, htotal⟩ := Prod.mk.inj hread
  have hsec' : r.fields.takePktStatsSnapshot.2.counters.sec c = 0 := by rw [hreset]
  have htotal' : r.fields.takePktStatsSnapshot.2.counters.total c = r.fields.counters.total c := by
    rw [hreset]
  refine ⟨?_, ?_, ?_, fun a ha ↦ ?_⟩
  · rw [secondsOf, List.splitOn_append_cons_self, ← secondsOf, List.map_append, List.map_append,
      ← h.seconds, hsec', List.map_singleton, hsec]
    rfl
  · rw [List.map_append, List.sum_append, hsec', htotal', ← h.total, List.map_singleton, hsec]
    simp
  · refine h.chain.append (List.isChain_singleton _) fun a ha b hb ↦ ?_
    obtain rfl := Option.some.inj hb
    rw [hsec, htotal]
    exact h.current a ha
  · rw [List.getLast?_concat] at ha
    obtain rfl := Option.some.inj ha
    rw [hsec', htotal', htotal, UInt64.add_zero]

end StatsRun

/-- **Every packet in one second.** The values of all snapshots and the current one add up to the
total, and each value is the number of packets counted between the snapshot before and its own. -/
theorem packets_in_one_second {es : List StatsEvent} {r : StatsRun}
    (hrun : statsMachine.run ⟨{}, []⟩ es = some r) (c : PktCounter) :
    (r.taken.map (·.1.get c)).sum + r.fields.counters.sec c = r.fields.counters.total c ∧
    (r.taken.IsChain fun a b ↦ b.2.get c - a.2.get c = b.1.get c) ∧
    r.taken.map (·.1.get c) ++ [r.fields.counters.sec c] = (secondsOf es).map (counted c) := by
  have hbooks : r.Books es c := by
    refine Machine.history_induction (I := fun es r ↦ StatsRun.Books es r c) ?_ ?_ hrun
    · refine ⟨?_, ?_, .nil, nofun⟩ <;> cases c <;> rfl
    · intro es r e r' _ h hstep
      cases e with
      | inc d => exact Option.some.inj hstep ▸ h.inc d
      | takePktStatsSnapshot => exact Option.some.inj hstep ▸ h.takePktStatsSnapshot
  refine ⟨hbooks.total, hbooks.chain.imp fun a b hab ↦ ?_, hbooks.seconds⟩
  rw [hab, UInt64.add_comm, UInt64.add_sub_cancel]

/-- Two packets in the first second, one in the second and one in the current one. -/
theorem packets_in_one_second_drops :
    ∃ r, statsMachine.run ⟨{}, []⟩
        [.inc .rawIn14540, .inc .rawIn14540, .takePktStatsSnapshot, .inc .dropDuplicate,
          .inc .rawIn14540, .takePktStatsSnapshot, .inc .rawIn14540] = some r ∧
      r.taken.map (·.1.get .rawIn14540) = [2, 1] ∧
      (r.taken.map (·.1.get .rawIn14540)).sum + r.fields.counters.sec .rawIn14540 =
        r.fields.counters.total .rawIn14540 := by
  have hrun : statsMachine.run ⟨{}, []⟩
      [.inc .rawIn14540, .inc .rawIn14540, .takePktStatsSnapshot, .inc .dropDuplicate,
        .inc .rawIn14540, .takePktStatsSnapshot, .inc .rawIn14540] = some _ := rfl
  exact ⟨_, hrun, rfl, (packets_in_one_second hrun .rawIn14540).1⟩

end DroneBridge
