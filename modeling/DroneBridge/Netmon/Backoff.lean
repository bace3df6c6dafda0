import DroneBridge.Netmon.Policy

/-!
# Restarts of the modem during an outage

While 4G fails the monitor restarts the modem, and the time to the next restart doubles with each of
them up to one hour. The level of this backoff is `reinitCount`. After a restart the monitor waits
for 4G to get an address, and an address counts as a recovery: the level goes back to zero, although
the next probe may fail again. So within one outage the times between restarts grow from one such
recovery to the next, and only an outage without any has them grow all the way.
-/

namespace DroneBridge

/-! ## What a cycle does to the restarts -/

namespace Monitor

variable (m : Monitor) (conf : ReinitConf) (c : Cycle)

/-- A restart is awaited, and the cycle finds that 4G has an address. -/
def sawAddress : Bool := !c.initBusy && m.reinitPending && c.wwanIPAfter

/-- A cycle of an outage: it probes 4G without success and stays on 4G. -/
def inOutage : Bool :=
  !c.wifiOnly && !c.wwanOk && (m.applyRoutingPolicy conf c).2.target = .wwan0

/-- What can become of the restarts, with `wait` minutes between two of them. -/
inductive ReinitEffect (wait : ℤ) (m' : Monitor) : Prop
  /-- No restart, and none has ended well. -/
  | keep (hsaw : m.sawAddress c = false) (hlast : m'.lastReinit = m.lastReinit)
      (hcount : m'.reinitCount = m.reinitCount)
      (hpending : m'.reinitPending = true → m.reinitPending = true)
  /-- An awaited restart has brought an address. -/
  | address (hsaw : m.sawAddress c = true) (hlast : m'.lastReinit = m.lastReinit)
      (hcount : m'.reinitCount = 0) (hpending : m'.reinitPending = false)
  | restart (hidle : m.reinitPending = false)
      (hwait : 0 < m.lastReinit →
        wait * 60 * Clock.second ≤ Clock.sub c.reinitNow m.lastReinit)
      (hlast : m'.lastReinit = c.reinitNow) (hcount : m'.reinitCount = m.reinitCount + 1)
      (hpending : m'.reinitPending = true)

variable {m conf c}

theorem trigger4gReinit_effect (m : Monitor) (conf : ReinitConf) (c : Cycle) (wlanOk : Bool) :
    m.ReinitEffect c (m.baseWaitMin conf wlanOk) (m.trigger4gReinit conf c wlanOk).1 := by
  rw [trigger4gReinit]
  split_ifs with hbusy hpending haddress htimeout hwait
  · exact .keep (by simp [sawAddress, hbusy]) rfl rfl id
  · exact .address (by simp [sawAddress, hbusy, hpending, haddress]) rfl rfl rfl
  · exact .keep (by simp [sawAddress, haddress]) rfl rfl fun h ↦ absurd h Bool.false_ne_true
  · exact .keep (by simp [sawAddress, haddress]) rfl rfl id
  · exact .keep (by simp [sawAddress, hpending]) rfl rfl id
  · refine .restart (Bool.eq_false_iff.mpr hpending) (fun hlast ↦ ?_) rfl rfl rfl
    exact Int.not_lt.mp fun hlt ↦ hwait ⟨hlast, hlt⟩

/-- The fields that say when the modem was restarted and how often. -/
def reinits (m : Monitor) : ℕ × ℕ × Bool := (m.lastReinit, m.reinitCount, m.reinitPending)

theorem ReinitEffect.congr {wait : ℤ} {m₁ m₁' m₂ m₂' : Monitor}
    (h : m₁.ReinitEffect c wait m₁') (hm : m₁.reinits = m₂.reinits)
    (hm' : m₁'.reinits = m₂'.reinits) : m₂.ReinitEffect c wait m₂' := by
  obtain ⟨hlast, hm⟩ := Prod.mk.inj hm
  obtain ⟨hcount, hpending⟩ := Prod.mk.inj hm
  obtain ⟨hlast', hm'⟩ := Prod.mk.inj hm'
  obtain ⟨hcount', hpending'⟩ := Prod.mk.inj hm'
  have hsaw : m₁.sawAddress c = m₂.sawAddress c := by rw [sawAddress, sawAddress, hpending]
  rcases h with ⟨h₁, h₂, h₃, h₄⟩ | ⟨h₁, h₂, h₃, h₄⟩ | ⟨h₁, h₂, h₃, h₄, h₅⟩
  case keep =>
    exact .keep (hsaw ▸ h₁) (hlast' ▸ hlast ▸ h₂) (hcount' ▸ hcount ▸ h₃)
      (hpending' ▸ hpending ▸ h₄)
  case address =>
    exact .address (hsaw ▸ h₁) (hlast' ▸ hlast ▸ h₂) (hcount' ▸ h₃) (hpending' ▸ h₄)
  case restart =>
    exact .restart (hpending ▸ h₁) (hlast ▸ h₂) (hlast' ▸ h₃) (hcount' ▸ hcount ▸ h₄)
      (hpending' ▸ h₅)

/-- A cycle of an outage counts a failure, and so it looks after the restarts. -/
theorem applyRoutingPolicy_effect (h : m.inOutage conf c = true) :
    m.ReinitEffect c (min (reinitRetryMin * 2 ^ m.reinitCount) 60)
      (m.applyRoutingPolicy conf c).1 := by
  rw [inOutage, Bool.and_eq_true, Bool.and_eq_true, Bool.not_eq_true', Bool.not_eq_true',
    decide_eq_true_eq] at h
  obtain ⟨⟨hwifi, hfail⟩, htarget⟩ := h
  rw [applyRoutingPolicy, if_neg (by simp [hwifi])] at htarget ⊢
  generalize hp : { m with probeMode := probeModeOf c }.resolvePbrTarget c c.wwanOk c.wlanOk = p
    at htarget ⊢
  have hreinits : p.1.reinits = m.reinits := by
    rw [← hp, resolvePbrTarget]
    split_ifs <;> rfl
  obtain ⟨next, v⟩ := p
  dsimp only at htarget hreinits ⊢
  have hsame : next.noteWwanOk v c.wwanOk = next := by simp [noteWwanOk, hfail]
  have hnot : (c.wlanOk && decide (v.target = .wlan0)) = false := by simp [htarget]
  rw [if_neg (by simp [hfail]), hsame, noteFailure]
  dsimp only
  rw [if_pos (show failThreshold ≤ next.failures + 1 from Nat.le_add_left 1 _), hnot]
  have heffect := trigger4gReinit_effect { next with failures := next.failures + 1 } conf c false
  have hcount : next.reinitCount = m.reinitCount := (Prod.mk.inj (Prod.mk.inj hreinits).2).1
  have hwait : Monitor.baseWaitMin { next with failures := next.failures + 1 } conf false =
      min (reinitRetryMin * 2 ^ m.reinitCount) 60 := by
    rw [baseWaitMin, if_neg Bool.false_ne_true, hcount]
  rw [hwait] at heffect
  refine heffect.congr hreinits ?_
  split <;> rfl

end Monitor

/-! ## Runs -/

structure OutageRun where
  monitor : Monitor
  /-- Ghost: when the modem was restarted, the last time first. -/
  restarts : List ℕ
  /-- Ghost: the restarts since one of them has brought an address. -/
  level : ℕ
  deriving DecidableEq, Repr

namespace OutageRun

/-- The outage begins in any state of the monitor. -/
def start (m : Monitor) : OutageRun := ⟨m, [], 0⟩

variable (r : OutageRun) (conf : ReinitConf) (c : Cycle)

/-- The cycle restarts the modem: nothing else makes the monitor wait for a restart. -/
def restarted : Bool :=
  !r.monitor.reinitPending && (r.monitor.applyRoutingPolicy conf c).1.reinitPending

def next : OutageRun where
  monitor := (r.monitor.applyRoutingPolicy conf c).1
  restarts := if r.restarted conf c then c.reinitNow :: r.restarts else r.restarts
  level :=
    if r.restarted conf c then r.level + 1
    else if r.monitor.sawAddress c then 0
    else r.level

end OutageRun

/-- The cycles of one outage, by a positive clock. -/
def outageMachine (conf : ReinitConf) : Machine OutageRun Cycle where
  step r c :=
    if r.monitor.inOutage conf c ∧ 0 < c.reinitNow then some (r.next conf c) else none

/-- The monitor knows the last restart, and its level is no lower than that of the outage. -/
structure OutageRun.Inv (r : OutageRun) : Prop where
  last : ∀ t ∈ r.restarts.head?, r.monitor.lastReinit = t ∧ 0 < t
  level : r.level ≤ r.monitor.reinitCount

namespace OutageRun.Inv

variable {conf : ReinitConf} {r r' : OutageRun} {c : Cycle}

theorem start (m : Monitor) : (OutageRun.start m).Inv :=
  ⟨fun _ ht ↦ (nomatch ht), Nat.zero_le _⟩

theorem next (hr : r.Inv) (hout : r.monitor.inOutage conf c = true) (hpos : 0 < c.reinitNow) :
    (r.next conf c).Inv := by
  have heffect := Monitor.applyRoutingPolicy_effect hout
  rw [OutageRun.next]
  rcases heffect with ⟨hsaw, hlast, hcount, hpending⟩ | ⟨hsaw, hlast, hcount, hpending⟩ |
    ⟨hidle, -, hlast, hcount, hpending⟩
  case keep =>
    have hno : r.restarted conf c = false := by
      rw [restarted, Bool.and_eq_false_iff, Bool.not_eq_false']
      by_cases h : (r.monitor.applyRoutingPolicy conf c).1.reinitPending = true
      · exact .inl (hpending h)
      · exact .inr (Bool.eq_false_iff.mpr h)
    simp only [hno, hsaw, Bool.false_eq_true, if_false]
    exact ⟨fun t ht ↦ hlast ▸ hr.last t ht, hcount ▸ hr.level⟩
  case address =>
    have hno : r.restarted conf c = false := by rw [restarted, hpending, Bool.and_false]
    simp only [hno, hsaw, Bool.false_eq_true, if_false, if_true]
    exact ⟨fun t ht ↦ hlast ▸ hr.last t ht, Nat.zero_le _⟩
  case restart =>
    have hyes : r.restarted conf c = true := by rw [restarted, hidle, hpending]; rfl
    simp only [hyes, if_true]
    refine ⟨fun t ht ↦ ?_, ?_⟩
    · rw [List.head?_cons, Option.mem_some_iff] at ht
      exact ⟨hlast.trans ht, ht ▸ hpos⟩
    · exact hcount ▸ Nat.succ_le_succ hr.level

theorem step (hr : r.Inv) (h : (outageMachine conf).step r c = some r') : r'.Inv := by
  obtain ⟨⟨hout, hpos⟩, h⟩ := Option.ite_none_right_eq_some.mp h
  exact Option.some.inj h ▸ hr.next hout hpos

theorem of_run {m : Monitor} {cs : List Cycle}
    (hrun : (outageMachine conf).run (.start m) cs = some r) : r.Inv :=
  Machine.invariant (fun _ _ _ hr h ↦ hr.step h) (.start m) hrun

end OutageRun.Inv

section

variable {conf : ReinitConf} {r r' : OutageRun} {c : Cycle}

theorem level_eq_length_of_no_address {m : Monitor} {cs : List Cycle}
    (hrun : (outageMachine conf).run (.start m) cs = some r)
    (hnone : (outageMachine conf).Along (fun r c ↦ r.monitor.sawAddress c = false) (.start m) cs) :
    r.level = r.restarts.length := by
  refine Machine.invariant_along (I := fun r ↦ r.level = r.restarts.length)
    (fun r c r' hr hsaw h ↦ ?_) rfl hnone hrun
  obtain ⟨-, h⟩ := Option.ite_none_right_eq_some.mp h
  rw [← Option.some.inj h, OutageRun.next]
  dsimp only
  rw [hsaw]
  split
  · rw [List.length_cons, hr]
  · exact hr

theorem wait_le_of_restart (hr : r.Inv) (hout : r.monitor.inOutage conf c = true)
    (hrestart : r.restarted conf c = true) {t : ℕ} (ht : t ∈ r.restarts.head?) :
    min (reinitRetryMin * 2 ^ r.level) 60 * 60 * Clock.second ≤ Clock.sub c.reinitNow t := by
  obtain ⟨hidle, hpending'⟩ := Bool.and_eq_true_iff.mp hrestart
  rw [Bool.not_eq_true'] at hidle
  rcases Monitor.applyRoutingPolicy_effect hout with ⟨-, -, -, hpending⟩ | ⟨-, -, -, hpending⟩ |
    ⟨-, hwait, -, -, -⟩
  case keep => exact absurd (hpending hpending') (by simp [hidle])
  case address => exact absurd hpending' (by simp [hpending])
  case restart =>
    obtain ⟨hlast, hpos⟩ := hr.last t ht
    have hpow : (2 : ℤ) ^ r.level ≤ 2 ^ r.monitor.reinitCount :=
      pow_le_pow_right₀ (by decide) hr.level
    have hle := hwait (hlast ▸ hpos)
    rw [hlast] at hle
    refine Int.le_trans ?_ hle
    rw [reinitRetryMin, Clock.second]
    omega

end

/-- **Backoff.** In an outage the next restart of the modem comes no sooner than five minutes after
the last one, doubled for each restart since an awaited one has brought an address, up to one hour.
-/
theorem modem_restart_backoff {conf : ReinitConf} {m : Monitor} {cs : List Cycle}
    {r r' : OutageRun} {c : Cycle} {t t' : ℕ} {ts : List ℕ}
    (hrun : (outageMachine conf).run (.start m) cs = some r)
    (hstep : (outageMachine conf).step r c = some r') (hlast : r.restarts = t :: ts)
    (hrestart : r'.restarts = t' :: r.restarts) :
    min 60 (5 * 2 ^ r.level) * 60 * Clock.second ≤ Clock.sub t' t ∧
      ((outageMachine conf).Along (fun r c ↦ r.monitor.sawAddress c = false) (.start m) cs →
        r.level = r.restarts.length) := by
  refine ⟨?_, level_eq_length_of_no_address hrun⟩
  obtain ⟨⟨hout, -⟩, h⟩ := Option.ite_none_right_eq_some.mp hstep
  rw [← Option.some.inj h, OutageRun.next] at hrestart
  dsimp only at hrestart
  split at hrestart
  case isTrue hyes =>
    obtain ⟨rfl, -⟩ := List.cons.inj hrestart
    rw [min_comm]
    exact wait_le_of_restart (OutageRun.Inv.of_run hrun) hout hyes (by rw [hlast]; rfl)
  case isFalse => exact absurd hrestart.symm (List.cons_ne_self t' _)

/-- A cycle of an outage at a whole second; `address` is whether 4G has an address. -/
def outageCycleAt (second : ℕ) (address : Bool) : Cycle :=
  { cycleAt second "4g_only" false with
    wwanIP := address, initBusy := false, wwanIPAfter := address }

/-- The modem is restarted at 1000 s and at 1601 s, and no address is seen in between. -/
theorem modem_restart_backoff_doubled :
    ∃ r r', (outageMachine {}).run (.start .new)
        [outageCycleAt 1000 false, outageCycleAt 1130 false] = some r ∧
      (outageMachine {}).step r (outageCycleAt 1601 false) = some r' ∧
      r.restarts = [1000000000000] ∧ r'.restarts = [1601000000000, 1000000000000] ∧
      min 60 (5 * 2 ^ r.level) * 60 * Clock.second ≤
        Clock.sub 1601000000000 1000000000000 ∧
      r.level = r.restarts.length := by
  have hrun : (outageMachine {}).run (.start .new)
      [outageCycleAt 1000 false, outageCycleAt 1130 false] =
      some ⟨⟨0, 2, 1000000000000, 1, false, 1000000000000, .fail⟩, [1000000000000], 1⟩ := by
    decide +kernel
  have hstep : (outageMachine {}).step
      ⟨⟨0, 2, 1000000000000, 1, false, 1000000000000, .fail⟩, [1000000000000], 1⟩
      (outageCycleAt 1601 false) = some ⟨⟨0, 3, 1601000000000, 2, true, 1601000000000, .fail⟩,
        [1601000000000, 1000000000000], 2⟩ := by
    decide +kernel
  obtain ⟨hwait, hlevel⟩ := modem_restart_backoff hrun hstep rfl rfl
  exact ⟨_, _, hrun, hstep, rfl, rfl, hwait, hlevel (by decide +kernel)⟩

/-- After the first restart 4G gets an address, and its probes go on failing. The second restart
comes five minutes after the first one, not ten. -/
theorem modem_restart_after_address :
    ∃ r r', (outageMachine {}).run (.start .new)
        [outageCycleAt 1000 false, outageCycleAt 1030 true] = some r ∧
      (outageMachine {}).step r (outageCycleAt 1301 true) = some r' ∧
      r.restarts = [1000000000000] ∧ r'.restarts = [1301000000000, 1000000000000] ∧
      Clock.sub 1301000000000 1000000000000 <
        min 60 (5 * 2 ^ r.restarts.length) * 60 * Clock.second := by
  have hrun : (outageMachine {}).run (.start .new)
      [outageCycleAt 1000 false, outageCycleAt 1030 true] =
      some ⟨⟨0, 0, 1000000000000, 0, false, 1000000000000, .fail⟩, [1000000000000], 0⟩ := by
    decide +kernel
  have hstep : (outageMachine {}).step
      ⟨⟨0, 0, 1000000000000, 0, false, 1000000000000, .fail⟩, [1000000000000], 0⟩
      (outageCycleAt 1301 true) = some ⟨⟨0, 1, 1301000000000, 1, true, 1301000000000, .fail⟩,
        [1301000000000, 1000000000000], 1⟩ := by
    decide +kernel
  exact ⟨_, _, hrun, hstep, rfl, rfl, by decide⟩

end DroneBridge
