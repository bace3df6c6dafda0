import DroneBridge.Auth.Skip
import DroneBridge.Lib.Redial

/-!
# The client with its API key operations

`RequestAPIKey`, `RevokeAPIKey`, `GetAPIKeyStatus` and `DeleteAPIKey` run in goroutines of their
callers. They differ in the packet they send and in the reply they parse, and treat the connection
alike: take `tcpMu`, read the connection, reconnect when there is none and read it again, send, read
one reply, release the mutex. `keyMachine` runs them beside the goroutines of the client.

`reconnectTCP` closes, dials and stores in three steps, with `tcpMu` held by a refresh or an API key
operation, and without it in `handleRefreshFailure`. `authenticate` never takes the mutex.
`step_move` says what every step of the client is in terms of a connection that several parties
replace.
-/

namespace DroneBridge

open Redial

/-! ## The operations -/

/-- The position of an API key operation, named by what it does next. -/
inductive KeyPc
  | lock
  | read
  | close
  | dial
  | reread
  | send (conn : ℕ)
  | wait (conn : ℕ)
  | returned
  deriving DecidableEq, Repr

structure KeyRun where
  auth : AuthRun
  calls : List KeyPc

inductive KeyEvent
  | auth (e : AuthEvent)
  | call
  | key (j : ℕ) (answer : Answer)
  deriving DecidableEq, Repr

namespace KeyRun

def new (now : ℕ) : KeyRun := ⟨.new now, []⟩

variable (s : KeyRun) (j : ℕ)

def setCall (pc : KeyPc) : KeyRun := { s with calls := s.calls.set j pc }

def keyReturn : KeyRun := { s with auth := { s.auth with tcpMu := none } }.setCall j .returned

def keyStep : KeyPc → Answer → Option KeyRun
  -- Who holds the mutex is never asked, only whether it is held.
  | .lock, .ok =>
    if s.auth.tcpMu = none then
      some ({ s with auth := { s.auth with tcpMu := some j } }.setCall j .read)
    else none
  | .read, .ok =>
    if !s.auth.running then some (s.keyReturn j)
    else if s.auth.token = [] then some (s.keyReturn j)
    else
      match s.auth.conn with
      | none => some (s.setCall j .close)
      | some c => some (s.setCall j (.send c))
  | .close, .ok => some ({ s with auth := s.auth.closeConn }.setCall j .dial)
  | .dial, .dialled localIP time =>
    some ({ s with auth := s.auth.redial localIP time }.setCall j .reread)
  | .dial, .fail => some (s.keyReturn j)
  | .reread, .ok =>
    match s.auth.conn with
    | some c => some (s.setCall j (.send c))
    -- The source would use a nil connection here, and the process would end.
    | none => none
  | .send c, .ok => if s.auth.closed c then none else some (s.setCall j (.wait c))
  | .send _, .fail => some (s.keyReturn j)
  -- Some reply is read; what it says does not matter for the connection.
  | .wait c, .ok => if s.auth.closed c then none else some (s.keyReturn j)
  | .wait _, .fail => some (s.keyReturn j)
  | _, _ => none

end KeyRun

/-- The client with its goroutines and the API key operations. -/
def keyMachine (cfg : AuthConf) : Machine KeyRun KeyEvent where
  step s
    | .auth e => ((authMachine cfg).step s.auth e).map fun auth ↦ { s with auth }
    | .call => some { s with calls := s.calls ++ [.lock] }
    | .key j answer => (s.calls[j]?).bind (s.keyStep j · answer)

/-! ## The parties -/

inductive Party
  | goroutine (i : ℕ)
  | call (j : ℕ)
  deriving DecidableEq, Repr

def Pc.phase : Pc → Phase
  | .refreshRead _ | .refreshClose .. | .refreshSend .. | .refreshWait .. | .refreshStore ..
  | .refreshMark _ | .refreshMarked _ => ⟨true, .out⟩
  | .refreshDial .. => ⟨true, .dialling⟩
  | .refreshReread .. => ⟨true, .rereading⟩
  | .handleDial _ | .authDial _ => ⟨false, .dialling⟩
  | _ => .out

def KeyPc.phase : KeyPc → Phase
  | .read | .close | .send _ | .wait _ => ⟨true, .out⟩
  | .dial => ⟨true, .dialling⟩
  | .reread => ⟨true, .rereading⟩
  | .lock | .returned => .out

/-- The step begins to replace the connection. -/
def Pc.begins (conn : Option ℕ) : Pc → Answer → Bool
  | .refreshClose .., .ok | .handleReconnect _, .ok | .authReset _, .ok => true
  | .auth _, .ok => conn = none
  | _, _ => false

/-- `resetConn` of `authenticate`, and the network error of `handleRefreshFailure`. -/
def Pc.clears : Pc → Answer → Bool
  | .authReset _, .ok | .authFailed _, .ok | .handleClose _, .ok => true
  | _, _ => false

def KeyPc.begins : KeyPc → Answer → Bool
  | .close, .ok => true
  | _, _ => false

def AuthRun.shared (s : AuthRun) : Shared := ⟨s.tcpMu.isSome, s.conn, s.conns⟩

namespace KeyRun

variable (s : KeyRun)

def phase : Party → Phase
  | .goroutine i => (s.auth.goroutines[i]?).elim .out Pc.phase
  | .call j => (s.calls[j]?).elim .out KeyPc.phase

def cell : Cell Party := ⟨s.auth.shared, s.phase⟩

theorem cell_phase (a : Party) : s.cell.phase a = s.phase a := rfl

def begins : KeyEvent → Bool
  | .auth (.goroutine i answer) =>
    (s.auth.goroutines[i]?).elim false (·.begins s.auth.conn answer)
  | .key j answer => (s.calls[j]?).elim false (·.begins answer)
  | _ => false

def clears : KeyEvent → Bool
  | .auth (.goroutine i answer) => (s.auth.goroutines[i]?).elim false (·.clears answer)
  | _ => false

/-- The party that takes the step; a new one where a goroutine is started. -/
def mover : KeyEvent → Party
  | .auth (.goroutine i _) => .goroutine i
  | .auth _ => .goroutine s.auth.goroutines.length
  | .call => .call s.calls.length
  | .key j _ => .call j

end KeyRun

/-! ## What the steps do to the connection -/

theorem Home.done_phase (home : Home) : home.done.phase = .out := by
  cases home <;> rfl

theorem RefreshSite.next_phase (site : RefreshSite) (err : Option RefreshError) :
    (site.next err).phase = .out := by
  rcases site with _ | home | c | _ <;> cases err
  case verify.none => exact home.done_phase
  case verify.some =>
    rw [RefreshSite.next]
    split <;> rfl
  all_goals rfl

theorem AuthSite.next_phase (site : AuthSite) (ok : Bool) : (site.next ok).phase = .out := by
  rcases site with _ | home | _ <;> cases ok
  case handle.true => exact home.done_phase
  all_goals rfl

theorem requestNext_phase (ok : Bool) : (requestNext ok).phase = .out := by
  cases ok <;> rfl

namespace AuthRun

variable {s x s' : AuthRun} {cfg : AuthConf} {i : ℕ} {pc pc' : Pc} {answer : Answer}

theorem shared_closeConn (s : AuthRun) : s.closeConn.shared = s.shared.close := by
  cases hconn : s.conn <;> simp [closeConn, Shared.close, shared, hconn]

theorem shared_resetConn (s : AuthRun) : s.resetConn.shared = s.shared.reset := by
  rw [Shared.reset, ← shared_closeConn]
  rfl

/-- What a step of goroutine `i` at `pc` does to the connection, and where it ends. -/
def Acts (s : AuthRun) (i : ℕ) (pc : Pc) (answer : Answer) (s' : AuthRun) : Prop :=
  ∃ pc', s'.goroutines = s.goroutines.set i pc' ∧
    Act s.shared pc.phase (pc.begins s.conn answer) (pc.clears answer) s'.shared pc'.phase

theorem Acts.of_setPc (h : some (x.setPc i pc') = some s') (hx : x.goroutines = s.goroutines)
    (hact : Act s.shared pc.phase (pc.begins s.conn answer) (pc.clears answer) x.shared pc'.phase) :
    s.Acts i pc answer s' := by
  obtain rfl := Option.some.inj h
  exact ⟨pc', by rw [setPc, hx], hact⟩

theorem Acts.skip (h : some (x.setPc i pc') = some s') (hx : x.goroutines = s.goroutines)
    (hshared : x.shared = s.shared) (hphase : pc'.phase = pc.phase)
    (hbegins : pc.begins s.conn answer = false) (hclears : pc.clears answer = false) :
    s.Acts i pc answer s' := by
  refine .of_setPc h hx ?_
  rw [hbegins, hclears, hshared, hphase]
  exact .skip

theorem Acts.of_withStatus {e : StatusEvent} (h : (s.withStatus e).map (·.setPc i pc') = some s')
    (hphase : pc'.phase = pc.phase) (hbegins : pc.begins s.conn answer = false)
    (hclears : pc.clears answer = false) : s.Acts i pc answer s' := by
  obtain ⟨x, hx, h⟩ := Option.map_eq_some_iff.mp h
  obtain ⟨status, -, rfl⟩ := withStatus_eq_some.mp hx
  exact .skip (congrArg some h) rfl rfl hphase hbegins hclears

theorem Acts.of_refreshReturn {site : RefreshSite} {err : Option RefreshError}
    (h : some (x.refreshReturn i site err) = some s') (hx : x.goroutines = s.goroutines)
    (hshared : x.shared = s.shared) (hpc : pc.phase.holds = true)
    (hbegins : pc.begins s.conn answer = false) (hclears : pc.clears answer = false) :
    s.Acts i pc answer s' := by
  refine .of_setPc (x := { x with tcpMu := none }) h hx ?_
  rw [hbegins, hclears, site.next_phase]
  have hfree : shared { x with tcpMu := none } = { s.shared with locked := false } := by
    rw [← hshared]
    rfl
  rw [hfree]
  exact .unlock hpc

theorem refreshStep_acts (h : s.refreshStep i pc answer = some s') : s.Acts i pc answer s' := by
  unfold refreshStep at h
  split at h
  next site =>
    obtain ⟨hfree, h⟩ := Option.ite_none_right_eq_some.mp h
    exact .of_setPc h rfl (.lock rfl (by rw [shared, hfree]; rfl))
  next site time =>
    split at h
    · exact .of_refreshReturn h rfl rfl rfl rfl rfl
    split at h
    · exact .of_refreshReturn h rfl rfl rfl rfl rfl
    split at h <;> exact .skip h rfl rfl rfl rfl rfl
  next site token =>
    refine .of_setPc h (goroutines_closeConn s) ?_
    rw [shared_closeConn]
    exact .redial rfl
  next site token localIP time => exact .of_setPc h rfl (.store rfl)
  next => exact .of_refreshReturn h rfl rfl rfl rfl rfl
  next site token =>
    split at h
    · exact .of_setPc h rfl (.reread rfl)
    · exact nomatch h
  next => exact .skip (Option.ite_none_left_eq_some.mp h).2 rfl rfl rfl rfl rfl
  next => exact .of_refreshReturn h rfl rfl rfl rfl rfl
  next =>
    obtain ⟨-, h⟩ := Option.ite_none_left_eq_some.mp h
    split at h
    · exact .of_refreshReturn h rfl rfl rfl rfl rfl
    · exact .skip h rfl rfl rfl rfl rfl
  next => exact .of_refreshReturn h rfl rfl rfl rfl rfl
  next => exact .of_withStatus h rfl rfl rfl
  next => exact .of_withStatus h rfl rfl rfl
  next =>
    obtain ⟨x, hx, h⟩ := Option.map_eq_some_iff.mp h
    obtain ⟨status, -, rfl⟩ := withStatus_eq_some.mp hx
    exact .of_refreshReturn (congrArg some h) rfl rfl rfl rfl rfl
  next => exact nomatch h

theorem authStep_acts (h : s.authStep cfg i pc answer = some s') : s.Acts i pc answer s' := by
  unfold authStep at h
  split at h
  next site => exact .skip h rfl rfl (site.next_phase false) rfl rfl
  next site =>
    split at h
    next hnone =>
      refine .of_setPc h rfl ?_
      have hbegins : (Pc.auth site).begins s.conn .ok = true := by rw [hnone]; rfl
      rw [hbegins]
      exact .dial rfl hnone
    next c hsome =>
      refine .skip h rfl rfl ?_ (by rw [hsome]; rfl) rfl
      split <;> rfl
  next site =>
    refine .of_setPc h (goroutines_closeConn s) ?_
    rw [shared_resetConn]
    exact .resetDial rfl
  next => exact .of_setPc h rfl (.store rfl)
  next site =>
    refine .of_setPc h rfl ?_
    rw [site.next_phase]
    exact .giveUp rfl
  next => exact .skip (Option.ite_none_left_eq_some.mp h).2 rfl rfl rfl rfl rfl
  next => exact .skip h rfl rfl rfl rfl rfl
  next => exact .skip (Option.ite_none_left_eq_some.mp h).2 rfl rfl rfl rfl rfl
  next => exact .skip h rfl rfl rfl rfl rfl
  next site c ack =>
    obtain ⟨-, h⟩ := Option.ite_none_left_eq_some.mp h
    split at h
    · exact .skip h rfl rfl rfl rfl rfl
    split at h
    · exact .skip h rfl rfl (site.next_phase false) rfl rfl
    · exact .skip h rfl rfl rfl rfl rfl
  next => exact .skip h rfl rfl rfl rfl rfl
  next site =>
    refine .of_setPc h (goroutines_closeConn s) ?_
    rw [shared_resetConn, site.next_phase]
    exact .reset rfl
  next => exact .of_withStatus h rfl rfl rfl
  next => exact .of_withStatus h rfl rfl rfl
  next => exact .of_withStatus h rfl rfl rfl
  next site =>
    exact .skip (Option.ite_none_left_eq_some.mp h).2 rfl rfl (site.next_phase true) rfl rfl
  next => exact nomatch h

theorem requestStep_acts (h : s.requestStep i pc answer = some s') : s.Acts i pc answer s' := by
  unfold requestStep at h
  split at h
  next => exact .skip h rfl rfl rfl rfl rfl
  next => exact .skip (Option.ite_none_left_eq_some.mp h).2 rfl rfl rfl rfl rfl
  next => exact .skip h rfl rfl (requestNext_phase false) rfl rfl
  next =>
    obtain ⟨-, h⟩ := Option.ite_none_left_eq_some.mp h
    split at h
    · exact .skip h rfl rfl (requestNext_phase false) rfl rfl
    · exact .skip h rfl rfl rfl rfl rfl
  next => exact .skip h rfl rfl (requestNext_phase false) rfl rfl
  next => exact .of_withStatus h rfl rfl rfl
  next => exact .of_withStatus h rfl rfl rfl
  next => exact .of_withStatus h rfl rfl rfl
  next =>
    exact .skip (Option.ite_none_left_eq_some.mp h).2 rfl rfl (requestNext_phase true) rfl rfl
  next => exact nomatch h

theorem handleStep_acts (h : s.handleStep cfg i pc answer = some s') : s.Acts i pc answer s' := by
  unfold handleStep at h
  split at h
  next home err =>
    split at h
    · exact .skip h rfl rfl home.done_phase rfl rfl
    · refine .of_withStatus h ?_ rfl rfl
      split
      · exact home.done_phase
      · rfl
  next home needReauth time =>
    refine .skip h rfl rfl ?_ rfl rfl
    split
    · exact home.done_phase
    · split <;> rfl
  next =>
    refine .of_setPc h (goroutines_closeConn s) ?_
    rw [shared_resetConn]
    exact .reset rfl
  next =>
    refine .skip h rfl rfl ?_ rfl rfl
    split <;> rfl
  next =>
    refine .of_setPc h (goroutines_closeConn s) ?_
    rw [shared_closeConn]
    exact .redial rfl
  next => exact .of_setPc h rfl (.store rfl)
  next => exact .of_setPc h rfl (.giveUp rfl)
  next => exact .of_withStatus h rfl rfl rfl
  next home =>
    refine .skip h rfl rfl ?_ rfl rfl
    split
    · rfl
    · exact home.done_phase
  next home time => exact .of_withStatus h home.done_phase rfl rfl
  next => exact nomatch h

theorem loopStep_acts (hpc : s.At i pc) (h : s.loopStep i pc answer = some s') :
    s.Acts i pc answer s' := by
  unfold loopStep at h
  split at h
  next =>
    split at h
    · exact .skip h rfl rfl rfl rfl rfl
    · exact .skip (h.symm ▸ congrArg some (setPc_self hpc)) rfl rfl rfl rfl rfl
  next => exact .skip (Option.ite_none_right_eq_some.mp h).2 rfl rfl rfl rfl rfl
  next =>
    refine .skip h rfl rfl ?_ rfl rfl
    split <;> rfl
  next =>
    refine .skip h rfl rfl ?_ rfl rfl
    split <;> rfl
  next =>
    refine .of_setPc h (goroutines_closeConn s) ?_
    rw [shared_closeConn]
    exact .close rfl
  next => exact .skip (x := { s with running := true }) h rfl rfl rfl rfl rfl
  next =>
    refine .skip h rfl rfl ?_ rfl rfl
    split <;> rfl
  next =>
    refine .skip h rfl rfl ?_ rfl rfl
    split
    · rfl
    split
    · rfl
    · split <;> rfl
  next =>
    obtain ⟨hfree, h⟩ := Option.ite_none_right_eq_some.mp h
    refine .of_setPc h (goroutines_closeConn s) ?_
    rw [shared_resetConn]
    exact .resetLocked rfl (by rw [shared, hfree]; rfl)
  next => exact nomatch h

/-- Everything a step of a goroutine can do to the connection. -/
theorem goroutineStep_acts (hpc : s.At i pc) (h : s.goroutineStep cfg i pc answer = some s') :
    s.Acts i pc answer s' := by
  simp only [goroutineStep, Option.or_eq_some_iff] at h
  rcases h with h | ⟨-, h | ⟨-, h | ⟨-, h | ⟨-, h⟩⟩⟩⟩
  · exact refreshStep_acts h
  · exact authStep_acts h
  · exact requestStep_acts h
  · exact handleStep_acts h
  · exact loopStep_acts hpc h

end AuthRun

namespace KeyRun

variable {s x s' : KeyRun} {cfg : AuthConf} {j : ℕ} {pc pc' : KeyPc} {answer : Answer}

/-- What a step of operation `j` at `pc` does to the connection, and where it ends. -/
def Acts (s : KeyRun) (j : ℕ) (pc : KeyPc) (answer : Answer) (s' : KeyRun) : Prop :=
  ∃ pc', s'.auth.goroutines = s.auth.goroutines ∧ s'.calls = s.calls.set j pc' ∧
    Act s.auth.shared pc.phase (pc.begins answer) false s'.auth.shared pc'.phase

theorem Acts.of_setCall (h : some (x.setCall j pc') = some s')
    (hgo : x.auth.goroutines = s.auth.goroutines) (hcalls : x.calls = s.calls)
    (hact : Act s.auth.shared pc.phase (pc.begins answer) false x.auth.shared pc'.phase) :
    s.Acts j pc answer s' := by
  obtain rfl := Option.some.inj h
  exact ⟨pc', hgo, by rw [setCall, hcalls], hact⟩

theorem Acts.of_keyReturn (h : some (s.keyReturn j) = some s') (hpc : pc.phase.holds = true)
    (hbegins : pc.begins answer = false) : s.Acts j pc answer s' := by
  refine .of_setCall (x := { s with auth := { s.auth with tcpMu := none } }) h rfl rfl ?_
  rw [hbegins]
  exact .unlock hpc

theorem keyStep_acts (h : s.keyStep j pc answer = some s') : s.Acts j pc answer s' := by
  unfold keyStep at h
  split at h
  next =>
    obtain ⟨hfree, h⟩ := Option.ite_none_right_eq_some.mp h
    exact .of_setCall h rfl rfl (.lock rfl (by rw [AuthRun.shared, hfree]; rfl))
  next =>
    split at h
    · exact .of_keyReturn h rfl rfl
    split at h
    · exact .of_keyReturn h rfl rfl
    split at h <;> exact .of_setCall h rfl rfl .skip
  next =>
    refine .of_setCall h (AuthRun.goroutines_closeConn s.auth) rfl ?_
    dsimp only
    rw [AuthRun.shared_closeConn]
    exact .redial rfl
  next => exact .of_setCall h rfl rfl (.store rfl)
  next => exact .of_keyReturn h rfl rfl
  next =>
    split at h
    · exact .of_setCall h rfl rfl (.reread rfl)
    · exact nomatch h
  next => exact .of_setCall (Option.ite_none_left_eq_some.mp h).2 rfl rfl .skip
  next => exact .of_keyReturn h rfl rfl
  next => exact .of_keyReturn (Option.ite_none_left_eq_some.mp h).2 rfl rfl
  next => exact .of_keyReturn h rfl rfl
  next => exact nomatch h

/-! ## Every step is a move -/

theorem elim_getElem?_set {α : Type*} {l : List α} {i k : ℕ} {a : α} {f : α → Phase}
    (hne : k ≠ i) : ((l.set i a)[k]?).elim .out f = (l[k]?).elim .out f := by
  rw [List.getElem?_set_ne (Ne.symm hne)]

theorem elim_getElem?_concat {α : Type*} {l : List α} {k : ℕ} {a : α} {f : α → Phase}
    (hne : k ≠ l.length) : ((l ++ [a])[k]?).elim .out f = (l[k]?).elim .out f := by
  rcases Nat.lt_or_gt_of_ne hne with hlt | hgt
  · rw [List.getElem?_append_left hlt]
  · rw [List.getElem?_eq_none (by simp; omega), List.getElem?_eq_none (by omega)]

theorem phase_goroutine {i : ℕ} {q : Pc} (h : s.auth.goroutines[i]? = some q) :
    s.phase (.goroutine i) = q.phase := by
  rw [phase, h]
  rfl

theorem phase_call {q : KeyPc} (h : s.calls[j]? = some q) : s.phase (.call j) = q.phase := by
  rw [phase, h]
  rfl

theorem move_goroutine {i : ℕ} {q q' : Pc} {begins clears : Bool}
    (hq : s.auth.goroutines[i]? = some q)
    (hgo : s'.auth.goroutines = s.auth.goroutines.set i q') (hcalls : s'.calls = s.calls)
    (hact : Act s.auth.shared q.phase begins clears s'.auth.shared q'.phase) :
    Move s.cell (.goroutine i) begins clears s'.cell := by
  have hq' : s'.auth.goroutines[i]? = some q' := by
    rw [hgo, List.getElem?_set_self (List.getElem?_eq_some_iff.mp hq).1]
  refine ⟨?_, fun b hb ↦ ?_⟩
  · dsimp only [cell]
    rwa [phase_goroutine hq, phase_goroutine hq']
  · dsimp only [cell]
    cases b with
    | goroutine k =>
      rw [phase, phase, hgo]
      exact elim_getElem?_set fun hk ↦ hb (hk ▸ rfl)
    | call k => rw [phase, phase, hcalls]

theorem move_call {q q' : KeyPc} {begins clears : Bool} (hq : s.calls[j]? = some q)
    (hgo : s'.auth.goroutines = s.auth.goroutines) (hcalls : s'.calls = s.calls.set j q')
    (hact : Act s.auth.shared q.phase begins clears s'.auth.shared q'.phase) :
    Move s.cell (.call j) begins clears s'.cell := by
  have hq' : s'.calls[j]? = some q' := by
    rw [hcalls, List.getElem?_set_self (List.getElem?_eq_some_iff.mp hq).1]
  refine ⟨?_, fun b hb ↦ ?_⟩
  · dsimp only [cell]
    rwa [phase_call hq, phase_call hq']
  · dsimp only [cell]
    cases b with
    | goroutine k => rw [phase, phase, hgo]
    | call k =>
      rw [phase, phase, hcalls]
      exact elim_getElem?_set fun hk ↦ hb (hk ▸ rfl)

theorem move_spawn {x : AuthRun} {q : Pc} (hq : q.phase = .out)
    (hgo : x.goroutines = s.auth.goroutines) (hs' : s' = { s with auth := x.spawn q })
    (hact : Act s.auth.shared .out false false x.shared .out) :
    Move s.cell (.goroutine s.auth.goroutines.length) false false s'.cell := by
  subst hs'
  have hnew : (x.spawn q).goroutines[s.auth.goroutines.length]? = some q := by
    rw [AuthRun.spawn, hgo, List.getElem?_concat_length]
  refine ⟨?_, fun b hb ↦ ?_⟩
  · dsimp only [cell]
    rw [phase_goroutine (s := { s with auth := x.spawn q }) hnew, hq, phase,
      List.getElem?_eq_none (Nat.le_refl _)]
    exact hact
  · dsimp only [cell]
    cases b with
    | goroutine k =>
      rw [phase, phase, AuthRun.spawn, hgo]
      exact elim_getElem?_concat fun hk ↦ hb (hk ▸ rfl)
    | call k => rfl

theorem move_self (a : Party) : Move s.cell a false false s.cell := ⟨.skip, fun _ _ ↦ rfl⟩

theorem step_move {e : KeyEvent} (h : (keyMachine cfg).step s e = some s') :
    Move s.cell (s.mover e) (s.begins e) (s.clears e) s'.cell := by
  cases e with
  | auth e =>
    obtain ⟨auth, hauth, rfl⟩ := Option.map_eq_some_iff.mp h
    cases e with
    | start =>
      obtain rfl := Option.some.inj hauth
      exact move_spawn (q := .startRunning) rfl rfl rfl .skip
    | forceReconnect =>
      obtain ⟨hfree, hauth⟩ := Option.ite_none_right_eq_some.mp hauth
      split at hauth
      · obtain rfl := Option.some.inj hauth
        exact move_self _
      · obtain rfl := Option.some.inj hauth
        refine move_spawn (x := s.auth.resetConn) (q := .recoverRunning) rfl
          (AuthRun.goroutines_closeConn s.auth) rfl ?_
        rw [AuthRun.shared_resetConn]
        exact .resetLocked rfl (by rw [AuthRun.shared, hfree]; rfl)
    | stop =>
      obtain ⟨-, hauth⟩ := Option.ite_none_left_eq_some.mp hauth
      obtain rfl := Option.some.inj hauth
      exact move_spawn (x := { s.auth with running := false, stopped := true }) (q := .stopClose)
        rfl rfl rfl .skip
    | goroutine i answer =>
      obtain ⟨q, hq, hauth⟩ := Option.bind_eq_some_iff.mp hauth
      obtain ⟨q', hgo, hact⟩ := AuthRun.goroutineStep_acts hq hauth
      rw [begins, clears, hq]
      exact move_goroutine hq hgo rfl hact
  | call =>
    obtain rfl := Option.some.inj h
    refine ⟨?_, fun b hb ↦ ?_⟩
    · dsimp only [cell, mover, phase]
      rw [List.getElem?_concat_length, List.getElem?_eq_none (Nat.le_refl _)]
      exact .skip
    · dsimp only [cell]
      cases b with
      | goroutine k => rfl
      | call k => exact elim_getElem?_concat fun hk ↦ hb (hk ▸ rfl)
  | key j answer =>
    obtain ⟨q, hq, h⟩ := Option.bind_eq_some_iff.mp h
    obtain ⟨q', hgo, hcalls, hact⟩ := keyStep_acts h
    rw [begins, hq]
    exact move_call hq hgo hcalls hact

end KeyRun

end DroneBridge
