import DroneBridge.Auth.Coherence
import DroneBridge.Lib.Timed

/-!
# The backoff of the keepalive loop

When `handleRefreshFailure` has tried to recover the session without success, it sets the earliest
time of the next attempt, `nextReconnectAt`, and the next failed refresh tests it before anything
else. Only a mark of a connected client clears it. So a loop that runs on its own does not
authenticate again before that time, unless a refresh has succeeded in between.

`status_step` ties the goroutines to `statusMachine`: a step of a goroutine is one critical section
of the session or none, and its position says which.
-/

namespace DroneBridge

/-! ## The critical section of a step -/

/-- The critical section of the session that a goroutine executes in a step. -/
def Pc.statusEvent (cfg : AuthConf) (i : ℕ) : Pc → Answer → Option StatusEvent
  | .refreshStore _ _ expiresAt, .ok => some (.storeExpiry expiresAt)
  | .authStore _ ack, .ok => some (.storeSession ack.sessionToken ack.expiresAt ack.interval)
  | .requestStore ack, .ok => some (.storeSession ack.token ack.expiresAt ack.interval)
  | .refreshMark _, .now time | .authMark _, .now time | .requestMark, .now time =>
    some (.callMarkConnected i time)
  | .refreshMarked _, .ok | .authMarked _, .ok | .requestMarked, .ok => some (.markConnected i)
  | .handle _ err, .ok => if err = .skipped then none else some (.markDisconnected err.cause)
  | .handleMark _, .ok => some (.markDisconnected .authFailed)
  | .backoffStore _, .now time => some (.scheduleReconnect time cfg.reconnectInterval)
  | _, _ => none

namespace AuthRun

variable {s x s' : AuthRun} {cfg : AuthConf} {i : ℕ} {pc : Pc} {answer : Answer}

/-- The state of the session goes from `status` to `status'` by one critical section or none. -/
def StatusStep (status status' : StatusRun) : Option StatusEvent → Prop
  | none => status' = status
  | some e => statusMachine.step status e = some status'

@[simp] theorem status_closeConn (s : AuthRun) : s.closeConn.status = s.status := by
  rw [closeConn]
  split <;> rfl

theorem statusStep_withStatus {e : StatusEvent} {f : AuthRun → AuthRun}
    (h : (s.withStatus e).map f = some s') (hf : ∀ x, (f x).status = x.status) :
    StatusStep s.status s'.status (some e) := by
  obtain ⟨x, hx, rfl⟩ := Option.map_eq_some_iff.mp h
  obtain ⟨status, hstep, rfl⟩ := withStatus_eq_some.mp hx
  rw [hf]
  exact hstep

theorem statusStep_none (h : some x = some s') (hx : x.status = s.status) :
    StatusStep s.status s'.status none :=
  Option.some.inj h ▸ hx

/-- A step that is taken unless something stands against it. -/
theorem statusStep_unless {p : Prop} [Decidable p] (h : (if p then none else some x) = some s')
    (hx : x.status = s.status) : StatusStep s.status s'.status none :=
  statusStep_none (Option.ite_none_left_eq_some.mp h).2 hx

theorem refreshStep_status (h : s.refreshStep i pc answer = some s') :
    StatusStep s.status s'.status (pc.statusEvent cfg i answer) := by
  unfold refreshStep at h
  split at h
  next => exact statusStep_none (Option.ite_none_right_eq_some.mp h).2 rfl
  next =>
    split at h
    · exact statusStep_none h rfl
    split at h
    · exact statusStep_none h rfl
    split at h <;> exact statusStep_none h rfl
  next => exact statusStep_none h (status_closeConn s)
  next => exact statusStep_none h rfl
  next => exact statusStep_none h rfl
  next =>
    split at h
    · exact statusStep_none h rfl
    · exact nomatch h
  next => exact statusStep_unless h rfl
  next => exact statusStep_none h rfl
  next =>
    obtain ⟨-, h⟩ := Option.ite_none_left_eq_some.mp h
    split at h <;> exact statusStep_none h rfl
  next => exact statusStep_none h rfl
  next => exact statusStep_withStatus h fun _ ↦ rfl
  next => exact statusStep_withStatus h fun _ ↦ rfl
  next => exact statusStep_withStatus h fun _ ↦ rfl
  next => exact nomatch h

theorem authStep_status (h : s.authStep cfg i pc answer = some s') :
    StatusStep s.status s'.status (pc.statusEvent cfg i answer) := by
  unfold authStep at h
  split at h
  next => exact statusStep_none h rfl
  next => split at h <;> exact statusStep_none h rfl
  next => exact statusStep_none h (status_closeConn s)
  next => exact statusStep_none h rfl
  next => exact statusStep_none h rfl
  next => exact statusStep_unless h rfl
  next => exact statusStep_none h rfl
  next => exact statusStep_unless h rfl
  next => exact statusStep_none h rfl
  next =>
    obtain ⟨-, h⟩ := Option.ite_none_left_eq_some.mp h
    split at h
    · exact statusStep_none h rfl
    split at h <;> exact statusStep_none h rfl
  next => exact statusStep_none h rfl
  next => exact statusStep_none h (status_closeConn s)
  next => exact statusStep_withStatus h fun _ ↦ rfl
  next => exact statusStep_withStatus h fun _ ↦ rfl
  next => exact statusStep_withStatus h fun _ ↦ rfl
  next => exact statusStep_unless h rfl
  next => exact nomatch h

theorem requestStep_status (h : s.requestStep i pc answer = some s') :
    StatusStep s.status s'.status (pc.statusEvent cfg i answer) := by
  unfold requestStep at h
  split at h
  next => exact statusStep_none h rfl
  next => exact statusStep_unless h rfl
  next => exact statusStep_none h rfl
  next =>
    obtain ⟨-, h⟩ := Option.ite_none_left_eq_some.mp h
    split at h <;> exact statusStep_none h rfl
  next => exact statusStep_none h rfl
  next => exact statusStep_withStatus h fun _ ↦ rfl
  next => exact statusStep_withStatus h fun _ ↦ rfl
  next => exact statusStep_withStatus h fun _ ↦ rfl
  next => exact statusStep_unless h rfl
  next => exact nomatch h

theorem handleStep_status (h : s.handleStep cfg i pc answer = some s') :
    StatusStep s.status s'.status (pc.statusEvent cfg i answer) := by
  unfold handleStep at h
  split at h
  next home err =>
    rw [Pc.statusEvent]
    split at h
    next hskip => exact if_pos hskip ▸ statusStep_none h rfl
    next hskip => exact if_neg hskip ▸ statusStep_withStatus h fun _ ↦ rfl
  next => exact statusStep_none h rfl
  next => exact statusStep_none h (status_closeConn s)
  next => exact statusStep_none h rfl
  next => exact statusStep_none h (status_closeConn s)
  next => exact statusStep_none h rfl
  next => exact statusStep_none h rfl
  next => exact statusStep_withStatus h fun _ ↦ rfl
  next => exact statusStep_none h rfl
  next => exact statusStep_withStatus h fun _ ↦ rfl
  next => exact nomatch h

theorem loopStep_status (h : s.loopStep i pc answer = some s') :
    StatusStep s.status s'.status (pc.statusEvent cfg i answer) := by
  unfold loopStep at h
  split at h
  next => split at h <;> exact statusStep_none h rfl
  next => exact statusStep_none (Option.ite_none_right_eq_some.mp h).2 rfl
  next => exact statusStep_none h rfl
  next => exact statusStep_none h rfl
  next => exact statusStep_none h (status_closeConn s)
  next => exact statusStep_none h rfl
  next => exact statusStep_none h rfl
  next => exact statusStep_none h rfl
  next => exact statusStep_none (Option.ite_none_right_eq_some.mp h).2 (status_closeConn s)
  next => exact nomatch h

/-- A step of a goroutine is the critical section its position names, or none. -/
theorem goroutineStep_status (h : s.goroutineStep cfg i pc answer = some s') :
    StatusStep s.status s'.status (pc.statusEvent cfg i answer) := by
  simp only [goroutineStep, Option.or_eq_some_iff] at h
  rcases h with h | ⟨-, h | ⟨-, h | ⟨-, h | ⟨-, h⟩⟩⟩⟩
  · exact refreshStep_status h
  · exact authStep_status h
  · exact requestStep_status h
  · exact handleStep_status h
  · exact loopStep_status h

end AuthRun

theorem StatusRun.everConnected_step {r r' : StatusRun} {e : StatusEvent}
    (h : statusMachine.step r e = some r') (hr : r.state.everConnected = true) :
    r'.state.everConnected = true := by
  obtain ⟨time, hstate⟩ := StatusRun.state_of_step h
  rw [hstate]
  cases e with
  | markConnected i => rfl
  | _ => exact hr

def StatusEvent.KeepsBackoff : StatusEvent → Prop
  | .markConnected _ | .scheduleReconnect _ _ => False
  | _ => True

theorem StatusRun.nextReconnectAt_step {r r' : StatusRun} {e : StatusEvent}
    (h : statusMachine.step r e = some r') (he : e.KeepsBackoff) :
    r'.state.nextReconnectAt = r.state.nextReconnectAt := by
  obtain ⟨time, hstate⟩ := StatusRun.state_of_step h
  rw [hstate]
  cases e with
  | markConnected i => exact he.elim
  | scheduleReconnect now interval => exact he.elim
  | _ => rfl

/-! ## The loop up to the test of the backoff -/

def RefreshSite.isLoop : RefreshSite → Bool
  | .keepaliveLoop => true
  | .verify _ | .recovery _ => false

/-- A position of the keepalive loop before it has tested the backoff. -/
def Pc.beforeBackoff : Pc → Bool
  | .tick | .ended => true
  | .refreshLock site | .refreshRead site | .refreshClose site _ | .refreshDial site _
  | .refreshReread site _ | .refreshSend site _ _ | .refreshWait site _ _ | .refreshStore site _ _
  | .refreshMark site | .refreshMarked site => site.isLoop
  | .handle home _ | .handleBackoff home _ => home = .keepalive
  | _ => false

theorem RefreshSite.next_beforeBackoff {site : RefreshSite} (hsite : site.isLoop = true)
    (err : Option RefreshError) : (site.next err).beforeBackoff = true := by
  cases site with
  | keepaliveLoop => cases err <;> rfl
  | verify home => exact absurd hsite Bool.false_ne_true
  | recovery conn => exact absurd hsite Bool.false_ne_true

namespace AuthRun

variable {s x s' : AuthRun} {cfg : AuthConf} {i : ℕ} {pc pc' : Pc} {answer : Answer}

/-- Where the goroutine is. -/
def At (s : AuthRun) (i : ℕ) (pc : Pc) : Prop := s.goroutines[i]? = some pc

theorem At.setPc (h : s.At i pc) (pc' : Pc) (hx : x.goroutines = s.goroutines) :
    (x.setPc i pc').At i pc' := by
  have hi : i < x.goroutines.length := hx ▸ (List.getElem?_eq_some_iff.mp h).1
  rw [At, AuthRun.setPc, List.getElem?_set_self hi]

@[simp] theorem goroutines_closeConn (s : AuthRun) : s.closeConn.goroutines = s.goroutines := by
  rw [closeConn]
  split <;> rfl

/-- The goroutine has not tested the backoff. -/
def BeforeBackoff (s : AuthRun) (i : ℕ) : Prop := ∃ pc, s.At i pc ∧ pc.beforeBackoff = true

theorem BeforeBackoff.of_setPc (hpc : s.At i pc) (h : some (x.setPc i pc') = some s')
    (hx : x.goroutines = s.goroutines) (hpc' : pc'.beforeBackoff = true) : s'.BeforeBackoff i :=
  ⟨pc', Option.some.inj h ▸ hpc.setPc pc' hx, hpc'⟩

theorem BeforeBackoff.of_withStatus {e : StatusEvent} (hpc : s.At i pc)
    (h : (s.withStatus e).map (·.setPc i pc') = some s') (hpc' : pc'.beforeBackoff = true) :
    s'.BeforeBackoff i := by
  obtain ⟨x, hx, h⟩ := Option.map_eq_some_iff.mp h
  obtain ⟨status, -, rfl⟩ := withStatus_eq_some.mp hx
  exact .of_setPc hpc (congrArg some h) rfl hpc'

theorem refreshStep_beforeBackoff (hpc : s.At i pc) (hbefore : pc.beforeBackoff = true)
    (h : s.refreshStep i pc answer = some s') : s'.BeforeBackoff i := by
  unfold refreshStep at h
  split at h
  next site => exact .of_setPc hpc (Option.ite_none_right_eq_some.mp h).2 rfl hbefore
  next site time =>
    have hreturn (err) : (site.next err).beforeBackoff = true := site.next_beforeBackoff hbefore err
    split at h
    · exact .of_setPc hpc h rfl (hreturn _)
    split at h
    · exact .of_setPc hpc h rfl (hreturn _)
    split at h <;> exact .of_setPc hpc h rfl hbefore
  next => exact .of_setPc hpc h (goroutines_closeConn s) hbefore
  next => exact .of_setPc hpc h rfl hbefore
  next site _ => exact .of_setPc hpc h rfl (site.next_beforeBackoff hbefore _)
  next =>
    split at h
    · exact .of_setPc hpc h rfl hbefore
    · exact nomatch h
  next => exact .of_setPc hpc (Option.ite_none_left_eq_some.mp h).2 rfl hbefore
  next site _ _ => exact .of_setPc hpc h rfl (site.next_beforeBackoff hbefore _)
  next site _ _ _ _ =>
    obtain ⟨-, h⟩ := Option.ite_none_left_eq_some.mp h
    split at h
    · exact .of_setPc hpc h rfl (site.next_beforeBackoff hbefore _)
    · exact .of_setPc hpc h rfl hbefore
  next site _ _ => exact .of_setPc hpc h rfl (site.next_beforeBackoff hbefore _)
  next => exact .of_withStatus hpc h hbefore
  next => exact .of_withStatus hpc h hbefore
  next site =>
    obtain ⟨x, hx, h⟩ := Option.map_eq_some_iff.mp h
    obtain ⟨status, -, rfl⟩ := withStatus_eq_some.mp hx
    exact .of_setPc hpc (congrArg some h) rfl (site.next_beforeBackoff hbefore _)
  next => exact nomatch h

theorem handleStep_beforeBackoff (hpc : s.At i pc) (hbefore : pc.beforeBackoff = true)
    (h : s.handleStep cfg i pc answer = some s') :
    s'.BeforeBackoff i ∨
      ∃ time, answer = .now time ∧ s.status.state.reconnectBackoffActive time = false := by
  unfold handleStep at h
  split at h
  next home err =>
    obtain rfl : home = .keepalive := decide_eq_true_iff.mp hbefore
    refine .inl ?_
    split at h
    · exact .of_setPc hpc h rfl rfl
    · refine .of_withStatus hpc h ?_
      split <;> rfl
  next home needReauth time =>
    obtain rfl : home = .keepalive := decide_eq_true_iff.mp hbefore
    cases hactive : s.status.state.reconnectBackoffActive time with
    | false => exact .inr ⟨time, rfl, hactive⟩
    | true =>
      rw [hactive, if_pos rfl] at h
      exact .inl (.of_setPc hpc h rfl rfl)
  all_goals first | exact absurd hbefore Bool.false_ne_true | cases h

theorem loopStep_beforeBackoff (hpc : s.At i pc) (hbefore : pc.beforeBackoff = true)
    (h : s.loopStep i pc answer = some s') : s'.BeforeBackoff i := by
  unfold loopStep at h
  split at h
  next =>
    split at h
    · exact .of_setPc hpc h rfl rfl
    · exact Option.some.inj h ▸ ⟨_, hpc, hbefore⟩
  next => exact .of_setPc hpc (Option.ite_none_right_eq_some.mp h).2 rfl rfl
  all_goals first | exact absurd hbefore Bool.false_ne_true | cases h

/-- The only way on is the test of the backoff, when it is not active. -/
theorem goroutineStep_beforeBackoff (hpc : s.At i pc) (hbefore : pc.beforeBackoff = true)
    (h : s.goroutineStep cfg i pc answer = some s') :
    s'.BeforeBackoff i ∨
      ∃ time, answer = .now time ∧ s.status.state.reconnectBackoffActive time = false := by
  simp only [goroutineStep, Option.or_eq_some_iff] at h
  rcases h with h | ⟨-, h | ⟨-, h | ⟨-, h | ⟨-, h⟩⟩⟩⟩
  · exact .inl (refreshStep_beforeBackoff hpc hbefore h)
  · unfold authStep at h
    split at h
    all_goals first | exact absurd hbefore Bool.false_ne_true | cases h
  · unfold requestStep at h
    split at h
    all_goals first | exact absurd hbefore Bool.false_ne_true | cases h
  · exact handleStep_beforeBackoff hpc hbefore h
  · exact .inl (loopStep_beforeBackoff hpc hbefore h)

/-! ## The loop on its own -/

end AuthRun

/-- The answer is one given at this time. -/
def Answer.Fits (t : ℕ) : Answer → Prop
  | .now time | .dialled _ time => time = t
  | _ => True

instance (t : ℕ) (answer : Answer) : Decidable (answer.Fits t) := by
  cases answer <;> unfold Answer.Fits <;> infer_instance

/-- One goroutine of the client, while the others do nothing. -/
def loopMachine (cfg : AuthConf) (i : ℕ) : Machine AuthRun Answer where
  step s answer := (authMachine cfg).step s (.goroutine i answer)

/-- The same, by the clock. -/
def timedLoop (cfg : AuthConf) (i : ℕ) : Machine (Timed AuthRun) (ℕ × Answer) :=
  (loopMachine cfg i).timed Answer.Fits

namespace AuthRun

variable {s s' : AuthRun} {cfg : AuthConf} {i : ℕ} {pc pc' : Pc} {answer : Answer}

theorem loopMachine_step_eq_some :
    (loopMachine cfg i).step s answer = some s' ↔
      ∃ pc, s.At i pc ∧ s.goroutineStep cfg i pc answer = some s' :=
  Option.bind_eq_some_iff

theorem everConnected_of_mark (h : StatusStep s.status s'.status (some (.markConnected i))) :
    s'.status.state.everConnected = true := by
  obtain ⟨time, hstate⟩ := StatusRun.state_of_step h
  rw [hstate]
  rfl

theorem everConnected_loop (hs : s.status.state.everConnected = true)
    (h : (loopMachine cfg i).step s answer = some s') :
    s'.status.state.everConnected = true := by
  obtain ⟨pc, -, h⟩ := loopMachine_step_eq_some.mp h
  have hstatus := goroutineStep_status h
  cases he : pc.statusEvent cfg i answer with
  | none =>
    rw [he] at hstatus
    exact hstatus ▸ hs
  | some e =>
    rw [he] at hstatus
    exact StatusRun.everConnected_step hstatus hs

end AuthRun

/-! ## Waiting for the backoff -/

/-- The next step of the position makes a refresh a success. -/
def Pc.refreshSucceeds : Pc → Bool
  | .refreshMarked _ => true
  | _ => false

theorem Pc.statusEvent_keepsBackoff {cfg : AuthConf} {i : ℕ} {pc : Pc} {answer : Answer}
    {e : StatusEvent} (hbefore : pc.beforeBackoff = true) (hrefresh : pc.refreshSucceeds = false)
    (he : pc.statusEvent cfg i answer = some e) : e.KeepsBackoff := by
  unfold statusEvent at he
  split at he
  next => exact Option.some.inj he ▸ trivial
  next => exact absurd hbefore Bool.false_ne_true
  next => exact absurd hbefore Bool.false_ne_true
  next => exact Option.some.inj he ▸ trivial
  next => exact absurd hbefore Bool.false_ne_true
  next => exact absurd hbefore Bool.false_ne_true
  next => exact absurd hrefresh.symm Bool.false_ne_true
  next => exact absurd hbefore Bool.false_ne_true
  next => exact absurd hbefore Bool.false_ne_true
  next =>
    split at he
    · exact nomatch he
    · exact Option.some.inj he ▸ trivial
  next => exact absurd hbefore Bool.false_ne_true
  next => exact absurd hbefore Bool.false_ne_true
  next => exact nomatch he

namespace AuthRun

variable {s s' : AuthRun} {cfg : AuthConf} {i : ℕ} {pc pc' : Pc} {answer : Answer} {d : ℤ}

/-- The goroutine has yet to test the backoff, which lasts until `d` at least. -/
structure Waiting (i : ℕ) (d : ℤ) (s : AuthRun) : Prop where
  everConnected : s.status.state.everConnected = true
  beforeBackoff : s.BeforeBackoff i
  le_next : d ≤ s.status.state.nextReconnectAt

theorem le_of_not_active {time : ℕ} (hs : s.Waiting i d)
    (h : s.status.state.reconnectBackoffActive time = false) : d ≤ time := by
  have hle := hs.le_next
  rw [SessionState.reconnectBackoffActive, hs.everConnected, Bool.true_and, Bool.and_eq_false_iff,
    Bool.not_eq_false', decide_eq_false_iff_not] at h
  rcases h with hzero | hlt
  · rw [Clock.isZero, beq_iff_eq] at hzero
    omega
  · omega

/-- A waiting goroutine goes on before the test, or the backoff is over. -/
theorem Waiting.beforeBackoff_or (hs : s.Waiting i d) {t : ℕ} (hfits : answer.Fits t)
    (h : (loopMachine cfg i).step s answer = some s') : s'.BeforeBackoff i ∨ d ≤ t := by
  obtain ⟨pc, hpc, hbefore⟩ := hs.beforeBackoff
  obtain ⟨pc', hpc', h⟩ := loopMachine_step_eq_some.mp h
  obtain rfl := Option.some.inj (hpc.symm.trans hpc')
  refine (goroutineStep_beforeBackoff hpc hbefore h).imp_right ?_
  rintro ⟨time, rfl, hactive⟩
  obtain rfl : time = t := hfits
  exact le_of_not_active hs hactive

/-- Whatever it does short of a refresh that succeeds, it goes on waiting until the backoff is
over. -/
theorem Waiting.step (hs : s.Waiting i d) {t : ℕ} (hfits : answer.Fits t)
    (hrefresh : ∀ pc ∈ s.goroutines[i]?, pc.refreshSucceeds = false)
    (h : (loopMachine cfg i).step s answer = some s') : s'.Waiting i d ∨ d ≤ t := by
  refine (hs.beforeBackoff_or hfits h).imp_left fun hbefore' ↦
    ⟨everConnected_loop hs.everConnected h, hbefore', ?_⟩
  obtain ⟨pc, hpc, hbefore⟩ := hs.beforeBackoff
  obtain ⟨pc', hpc', h⟩ := loopMachine_step_eq_some.mp h
  obtain rfl := Option.some.inj (hpc.symm.trans hpc')
  have hstatus := goroutineStep_status h
  cases he : pc.statusEvent cfg i answer with
  | none =>
    rw [he] at hstatus
    exact hstatus ▸ hs.le_next
  | some e =>
    rw [he] at hstatus
    rw [StatusRun.nextReconnectAt_step hstatus
      (Pc.statusEvent_keepsBackoff hbefore (hrefresh pc hpc) he)]
    exact hs.le_next

/-- The goroutine is at the end of `handleRefreshFailure`, and has not recovered the session. -/
def Unrecovered (s : AuthRun) (i : ℕ) : Prop :=
  s.At i (.backoff .keepalive) ∨ s.At i (.backoffStore .keepalive)

theorem waiting_of_unrecovered (hs : s.status.state.everConnected = true) (hun : s.Unrecovered i)
    {t : ℕ} (hfits : answer.Fits t) (h : (loopMachine cfg i).step s answer = some s')
    (hend : s'.At i .tick) : s'.Waiting i (t + cfg.reconnectInterval) := by
  refine ⟨everConnected_loop hs h, ⟨.tick, hend, rfl⟩, ?_⟩
  obtain ⟨pc, hpc, h⟩ := loopMachine_step_eq_some.mp h
  rcases hun with hun | hun
  all_goals obtain rfl := Option.some.inj (hpc.symm.trans hun)
  · -- A client that was connected once does not return here.
    cases answer with
    | ok =>
      have h : some (s.setPc i (if s.status.state.everConnected then .backoffStore .keepalive
        else .tick)) = some s' := h
      rw [hs, if_pos rfl] at h
      have hpc' : s'.At i (.backoffStore .keepalive) := Option.some.inj h ▸ hpc.setPc _ rfl
      exact absurd (hpc'.symm.trans hend) nofun
    | _ => exact nomatch h
  · cases answer with
    | now time =>
      obtain rfl : time = t := hfits
      have hstatus := goroutineStep_status h
      rw [Pc.statusEvent, StatusStep] at hstatus
      rw [← Option.some.inj hstatus]
      show _ ≤ ((Clock.add time cfg.reconnectInterval : ℕ) : ℤ)
      exact Int.self_le_toNat _
    | _ => exact nomatch h

theorem everConnected_timedLoop {r r' : Timed AuthRun} {es : List (ℕ × Answer)}
    (hr : r.state.status.state.everConnected = true)
    (hrun : (timedLoop cfg i).run r es = some r') :
    r'.state.status.state.everConnected = true :=
  Machine.invariant (I := fun r ↦ r.state.status.state.everConnected = true)
    (fun _ _ _ hr h ↦ everConnected_loop hr (Machine.timed_step_eq_some.mp h).2.1) hr hrun

end AuthRun

/-- **Spacing of reconnects.** From the end of a recovery without success to a later call of
`authenticate`, either the reconnect interval passes or a refresh succeeds in between. -/
theorem reconnect_spacing {cfg : AuthConf} {i t₀ : ℕ} {s₀ s₁ : AuthRun}
    {r r₁ r₂ r₃ : Timed AuthRun} {es fs : List (ℕ × Answer)} {e f : ℕ × Answer}
    (hstart : s₀.At i (.authMarked .start)) (hmark : (loopMachine cfg i).step s₀ .ok = some s₁)
    (hrun : (timedLoop cfg i).run ⟨s₁, t₀⟩ es = some r)
    (hun : r.state.Unrecovered i) (he : (timedLoop cfg i).step r e = some r₁)
    (hend : r₁.state.At i .tick)
    (hrun' : (timedLoop cfg i).run r₁ fs = some r₂) (hf : (timedLoop cfg i).step r₂ f = some r₃)
    (hcall : r₃.state.At i (.auth (.handle .keepalive))) :
    e.1 + cfg.reconnectInterval ≤ f.1 ∨
      ∃ gs g gs' m site, fs = gs ++ g :: gs' ∧ (timedLoop cfg i).run r₁ gs = some m ∧
        m.state.At i (.refreshMarked site) := by
  have hever₁ : s₁.status.state.everConnected = true := by
    obtain ⟨pc, hpc, h⟩ := AuthRun.loopMachine_step_eq_some.mp hmark
    obtain rfl := Option.some.inj (hpc.symm.trans hstart)
    exact AuthRun.everConnected_of_mark (AuthRun.goroutineStep_status h)
  have hever : r.state.status.state.everConnected = true :=
    AuthRun.everConnected_timedLoop (r := ⟨s₁, t₀⟩) hever₁ hrun
  obtain ⟨⟨-, hfits⟩, hstep, -⟩ := Machine.timed_step_eq_some.mp he
  have hwait := AuthRun.waiting_of_unrecovered hever hun hfits hstep hend
  by_cases hquiet : (timedLoop cfg i).Along
    (fun m _ ↦ ∀ pc ∈ m.state.goroutines[i]?, pc.refreshSucceeds = false) r₁ fs
  · refine .inl ?_
    obtain ⟨⟨hclock, hfits'⟩, hstep', -⟩ := Machine.timed_step_eq_some.mp hf
    rcases Machine.until_deadline (fun m g s' hm hq hfits h ↦ hm.step hfits hq h) (.inl hwait)
      hquiet hrun' with hwait' | hpassed
    · refine (hwait'.beforeBackoff_or hfits' hstep').resolve_left ?_
      rintro ⟨pc, hpc, hbefore⟩
      obtain rfl := Option.some.inj (hpc.symm.trans hcall)
      exact Bool.false_ne_true hbefore
    · exact Int.le_trans hpassed (Int.ofNat_le.mpr hclock)
  · obtain ⟨gs, g, gs', m, hsplit, hm, hnot⟩ := Machine.exists_of_not_along hquiet
    refine .inr ⟨gs, g, gs', m, ?_⟩
    by_contra hno
    refine hnot fun pc hpc ↦ ?_
    cases pc with
    | refreshMarked site => exact absurd ⟨site, hsplit, hm, hpc⟩ hno
    | _ => rfl

/-- `Start` up to the mark of its authentication, by goroutine 0 at 20 seconds. -/
def firstAuth (interval : UInt16) : List AuthEvent :=
  .start :: ([.ok, .now 20000000000, .ok, .dialled [10] 20000000000, .ok, .challenge,
    .authAck ⟨resultSuccess, 0, 0, [], List.replicate 20 1, 1000, interval⟩, .ok,
    .now 20000000000].map (.goroutine 0))

/-- The first refresh fails, and so do the reconnect and the authentication. -/
def failedRecovery : List (ℕ × Answer) :=
  [.ok, .ok, .ok, .ok, .now 20000000000, .fail, .ok, .now 20000000000, .ok, .now 20000000000,
    .ok, .fail, .ok, .fail, .ok, .ok].map (20000000000, ·)

/-- The refresh at 320 seconds cannot reconnect, nor can `handleRefreshFailure`. -/
def nextRecovery : List (ℕ × Answer) :=
  [.ok, .ok, .now 320000000000, .ok, .fail, .ok, .now 320000000000, .ok, .now 320000000000,
    .ok].map (320000000000, ·)

def fiveMinutes : AuthConf := ⟨true, 300 * Clock.second⟩

theorem run_nextRecovery :
    ∃ s₀ s₁ r r₁ r₂ r₃, (authMachine fiveMinutes).run (.new 1) (firstAuth 30) = some s₀ ∧
      s₀.At 0 (.authMarked .start) ∧ (loopMachine fiveMinutes 0).step s₀ .ok = some s₁ ∧
      (timedLoop fiveMinutes 0).run ⟨s₁, 20000000000⟩ failedRecovery = some r ∧
      r.state.At 0 (.backoffStore .keepalive) ∧
      (timedLoop fiveMinutes 0).step r (20000000000, .now 20000000000) = some r₁ ∧
      r₁.state.At 0 .tick ∧ (timedLoop fiveMinutes 0).run r₁ nextRecovery = some r₂ ∧
      (timedLoop fiveMinutes 0).step r₂ (320000000000, .fail) = some r₃ ∧
      r₃.state.At 0 (.auth (.handle .keepalive)) :=
  ⟨_, _, _, _, _, _, rfl, rfl, rfl, rfl, rfl, rfl, rfl, rfl, rfl, rfl⟩

/-- With an interval of 300 seconds, the loop authenticates again when they are over. -/
theorem reconnect_spacing_failed :
    ∃ r₁ r₂, (timedLoop fiveMinutes 0).run r₁ nextRecovery = some r₂ ∧
      ((20000000000 : ℕ) + fiveMinutes.reconnectInterval ≤ (320000000000 : ℕ) ∨
        ∃ gs g gs' m site, nextRecovery = gs ++ g :: gs' ∧
          (timedLoop fiveMinutes 0).run r₁ gs = some m ∧ m.state.At 0 (.refreshMarked site)) := by
  obtain ⟨s₀, s₁, r, r₁, r₂, r₃, -, hstart, hmark, hrun, hun, he, hend, hrun', hf, hcall⟩ :=
    run_nextRecovery
  exact ⟨r₁, r₂, hrun', reconnect_spacing hstart hmark hrun (.inr hun) he hend hrun' hf hcall⟩

end DroneBridge
