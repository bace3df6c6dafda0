import DroneBridge.Auth.Goroutines

/-!
# Token and expiry of one session

A refresh reads the token, talks to the server and then stores the expiry alone. It holds `tcpMu`
all the while, but `authenticate` and `requestSession` store a session without it. A session stored
in between gets the expiry that was granted for the token before it.

`Effect` says once what a step can do to the session and to what the goroutines hold of it. From it
follow both halves of the result: the stored pair belongs to one session as long as every refresh
that stores an expiry finds the token it has sent still stored, and a refresh that waits while
another token is stored needs only its own reply to break the pair.
-/

namespace DroneBridge

/-! ## What a goroutine holds -/

/-- The token that a refresh has sent whose expiry is stored next. -/
def Pc.refreshed : Pc → Option (List UInt8)
  | .refreshStore _ token _ => some token
  | _ => none

/-- The token and expiry a goroutine is about to store, or to complete. -/
def Pc.grant : Pc → Option (List UInt8 × UInt64)
  | .refreshStore _ token expiresAt => some (token, expiresAt)
  | .authStore _ ack => some (ack.sessionToken, ack.expiresAt)
  | .requestStore ack => some (ack.token, ack.expiresAt)
  | _ => none

/-- The refresh request whose reply a goroutine waits for. -/
def Pc.waiting : Pc → Option (ℕ × List UInt8)
  | .refreshWait _ token c => some (c, token)
  | _ => none

/-- The token whose refresh a reply answers. -/
def Answer.answered : Answer → Option (List UInt8)
  | .refreshAck _ answered => some answered
  | _ => none

/-- A position that holds nothing of a session. -/
structure Pc.Idle (pc : Pc) : Prop where
  grant : pc.grant = none
  waiting : pc.waiting = none

theorem Home.done_idle (home : Home) : home.done.Idle := by
  cases home <;> exact ⟨rfl, rfl⟩

theorem RefreshSite.next_idle (site : RefreshSite) (err : Option RefreshError) :
    (site.next err).Idle := by
  rcases site with _ | home | _ | c <;> rcases err with _ | err
  case verify.none => exact home.done_idle
  case verify.some =>
    rw [RefreshSite.next]
    split <;> exact ⟨rfl, rfl⟩
  all_goals exact ⟨rfl, rfl⟩

theorem AuthSite.next_idle (site : AuthSite) (ok : Bool) : (site.next ok).Idle := by
  rcases site with _ | home | _ <;> cases ok
  case handle.true => exact home.done_idle
  all_goals exact ⟨rfl, rfl⟩

theorem requestNext_idle (ok : Bool) : (requestNext ok).Idle := by
  cases ok <;> exact ⟨rfl, rfl⟩

/-! ## Steps that leave the session alone -/

namespace AuthRun

/-- Session, ghosts and goroutines are the same. -/
structure SameSession (s x : AuthRun) : Prop where
  token : x.token = s.token
  expiresAt : x.expiresAt = s.expiresAt
  granted : x.granted = s.granted
  asked : x.asked = s.asked
  goroutines : x.goroutines = s.goroutines

variable {s x s' : AuthRun} {i : ℕ} {pc : Pc} {answer : Answer}

theorem SameSession.refl (s : AuthRun) : SameSession s s := ⟨rfl, rfl, rfl, rfl, rfl⟩

theorem sameSession_closeConn (s : AuthRun) : SameSession s s.closeConn := by
  rw [closeConn]
  split <;> exact ⟨rfl, rfl, rfl, rfl, rfl⟩

theorem sameSession_resetConn (s : AuthRun) : SameSession s s.resetConn := by
  obtain ⟨htoken, hexpiry, hgranted, hasked, hgo⟩ := sameSession_closeConn s
  exact ⟨htoken, hexpiry, hgranted, hasked, hgo⟩

/-- The critical sections that write neither token nor expiry. -/
def KeepsSession : StatusEvent → Prop
  | .storeSession .. | .storeExpiry _ | .clearSession => False
  | _ => True

theorem withStatus_eq_some {e : StatusEvent} :
    s.withStatus e = some x ↔
      ∃ status, statusMachine.step s.status e = some status ∧ { s with status := status } = x :=
  Option.map_eq_some_iff

theorem sameSession_withStatus {e : StatusEvent} (h : s.withStatus e = some x)
    (he : KeepsSession e) : SameSession s x := by
  obtain ⟨status, hstep, rfl⟩ := withStatus_eq_some.mp h
  suffices hstate : status.state.sessionToken = s.status.state.sessionToken ∧
      status.state.expiresAt = s.status.state.expiresAt from
    ⟨hstate.1, hstate.2, rfl, rfl, rfl⟩
  obtain ⟨time, hstate⟩ := StatusRun.state_of_step hstep
  rw [hstate]
  cases e with
  | storeSession token expiresAt interval => exact he.elim
  | storeExpiry expiresAt => exact he.elim
  | clearSession => exact he.elim
  | _ => exact ⟨rfl, rfl⟩

/-! ## What a step can do -/

/-- What a step of goroutine `i` at `pc` can do to the session and to what goroutines hold. -/
inductive Effect (s : AuthRun) (i : ℕ) (pc : Pc) (answer : Answer) (s' : AuthRun) : Prop
  | idle (x : AuthRun) (pc' : Pc) (hx : SameSession s x) (hpc' : pc'.Idle)
      (hs' : s' = x.setPc i pc')
  | ask (site : RefreshSite) (token : List UInt8) (c : ℕ) (hpc : pc = .refreshSend site token c)
      (hs' : s' = { s with asked := (c, token) :: s.asked }.setPc i (.refreshWait site token c))
  | refreshGranted (site : RefreshSite) (token : List UInt8) (c : ℕ) (ack : SessionRefreshAck)
      (answered : List UInt8) (hpc : pc = .refreshWait site token c)
      (hanswer : answer = .refreshAck ack answered)
      (hs' : s' = { s with granted := (answered, ack.expiresAt) :: s.granted }.setPc i
        (.refreshStore site token ack.expiresAt))
  | sessionGranted (pc' : Pc) (g : List UInt8 × UInt64) (hgrant : pc'.grant = some g)
      (hwait : pc'.waiting = none)
      (hs' : s' = { s with granted := g :: s.granted }.setPc i pc')
  | storeExpiry (site : RefreshSite) (token : List UInt8) (expiresAt : UInt64)
      (hpc : pc = .refreshStore site token expiresAt)
      (hs' : s' = { s with
        status := s.status.setState (s.status.state.storeExpiry expiresAt) }.setPc i
          (.refreshMark site))
  | storeSession (pc' : Pc) (token : List UInt8) (expiresAt : UInt64) (interval : UInt16)
      (hgrant : pc.grant = some (token, expiresAt)) (hpc' : pc'.Idle)
      (hs' : s' = { s with
        status := s.status.setState (s.status.state.storeSession token expiresAt interval) }.setPc i
          pc')

theorem setPc_self (hpc : s.goroutines[i]? = some pc) : s.setPc i pc = s := by
  obtain ⟨hi, rfl⟩ := List.getElem?_eq_some_iff.mp hpc
  rw [setPc, List.set_getElem_self]

theorem Effect.of_setPc {pc' : Pc} (hpc' : pc'.Idle) (h : some (s.setPc i pc') = some s') :
    Effect s i pc answer s' :=
  .idle s pc' (.refl s) hpc' (Option.some.inj h).symm

/-- A critical section that keeps the session, and then an idle position. -/
theorem Effect.of_withStatus {e : StatusEvent} {pc' : Pc}
    (h : (s.withStatus e).map (·.setPc i pc') = some s') (he : KeepsSession e) (hpc' : pc'.Idle) :
    Effect s i pc answer s' := by
  obtain ⟨x, hx, rfl⟩ := Option.map_eq_some_iff.mp h
  exact .idle x pc' (sameSession_withStatus hx he) hpc' rfl

theorem Effect.of_refreshReturn {site : RefreshSite} {err : Option RefreshError}
    (hx : SameSession s x) (hs' : s' = x.refreshReturn i site err) : Effect s i pc answer s' := by
  obtain ⟨htoken, hexpiry, hgranted, hasked, hgo⟩ := hx
  exact .idle { x with tcpMu := none } _ ⟨htoken, hexpiry, hgranted, hasked, hgo⟩
    (site.next_idle err) hs'

variable {cfg : AuthConf}

theorem refreshStep_effect (h : s.refreshStep i pc answer = some s') :
    Effect s i pc answer s' := by
  unfold refreshStep at h
  split at h
  next site =>
    obtain ⟨-, h⟩ := Option.ite_none_right_eq_some.mp h
    exact .idle { s with tcpMu := some i } _ ⟨rfl, rfl, rfl, rfl, rfl⟩ ⟨rfl, rfl⟩
      (Option.some.inj h).symm
  next site time =>
    split at h
    · exact .of_refreshReturn (.refl s) (Option.some.inj h).symm
    split at h
    · exact .of_refreshReturn (.refl s) (Option.some.inj h).symm
    split at h
    · exact .of_setPc ⟨rfl, rfl⟩ h
    · exact .of_setPc ⟨rfl, rfl⟩ h
  next site token =>
    exact .idle _ (.refreshDial site token) (sameSession_closeConn s) ⟨rfl, rfl⟩
      (Option.some.inj h).symm
  next site token localIP time =>
    exact .idle (s.redial localIP time) (.refreshReread site token)
      ⟨rfl, rfl, rfl, rfl, rfl⟩ ⟨rfl, rfl⟩ (Option.some.inj h).symm
  next => exact .of_refreshReturn (.refl s) (Option.some.inj h).symm
  next site token =>
    split at h
    next => exact .of_setPc ⟨rfl, rfl⟩ h
    next => exact nomatch h
  next site token c =>
    obtain ⟨-, h⟩ := Option.ite_none_left_eq_some.mp h
    exact .ask site token c rfl (Option.some.inj h).symm
  next => exact .of_refreshReturn (.refl s) (Option.some.inj h).symm
  next site token c ack answered =>
    obtain ⟨-, h⟩ := Option.ite_none_left_eq_some.mp h
    split at h
    · exact .of_refreshReturn (.refl s) (Option.some.inj h).symm
    · exact .refreshGranted site token c ack answered rfl rfl (Option.some.inj h).symm
  next => exact .of_refreshReturn (.refl s) (Option.some.inj h).symm
  next site token expiresAt =>
    exact .storeExpiry site token expiresAt rfl (Option.some.inj h).symm
  next => exact .of_withStatus h trivial ⟨rfl, rfl⟩
  next site =>
    obtain ⟨x, hx, rfl⟩ := Option.map_eq_some_iff.mp h
    exact .of_refreshReturn (sameSession_withStatus hx trivial) rfl
  next => exact nomatch h

theorem authStep_effect (h : s.authStep cfg i pc answer = some s') : Effect s i pc answer s' := by
  unfold authStep at h
  split at h
  next site => exact .of_setPc (site.next_idle false) h
  next site =>
    split at h
    · exact .of_setPc ⟨rfl, rfl⟩ h
    · refine .of_setPc ?_ h
      split <;> exact ⟨rfl, rfl⟩
  next => exact .idle _ _ (sameSession_resetConn s) ⟨rfl, rfl⟩ (Option.some.inj h).symm
  next site localIP time =>
    exact .idle (s.dial localIP) _ ⟨rfl, rfl, rfl, rfl, rfl⟩ ⟨rfl, rfl⟩
      (Option.some.inj h).symm
  next site => exact .of_setPc (site.next_idle false) h
  next => exact .of_setPc ⟨rfl, rfl⟩ (Option.ite_none_left_eq_some.mp h).2
  next => exact .of_setPc ⟨rfl, rfl⟩ h
  next => exact .of_setPc ⟨rfl, rfl⟩ (Option.ite_none_left_eq_some.mp h).2
  next => exact .of_setPc ⟨rfl, rfl⟩ h
  next site c ack =>
    obtain ⟨-, h⟩ := Option.ite_none_left_eq_some.mp h
    split at h
    · exact .of_setPc ⟨rfl, rfl⟩ h
    split at h
    · exact .of_setPc (site.next_idle false) h
    · exact .sessionGranted _ _ rfl rfl (Option.some.inj h).symm
  next => exact .of_setPc ⟨rfl, rfl⟩ h
  next site =>
    exact .idle _ _ (sameSession_resetConn s) (site.next_idle false) (Option.some.inj h).symm
  next site ack =>
    exact .storeSession _ ack.sessionToken ack.expiresAt ack.interval rfl ⟨rfl, rfl⟩
      (Option.some.inj h).symm
  next => exact .of_withStatus h trivial ⟨rfl, rfl⟩
  next => exact .of_withStatus h trivial ⟨rfl, rfl⟩
  next site => exact .of_setPc (site.next_idle true) (Option.ite_none_left_eq_some.mp h).2
  next => exact nomatch h

theorem requestStep_effect (h : s.requestStep i pc answer = some s') :
    Effect s i pc answer s' := by
  unfold requestStep at h
  split at h
  next => exact .of_setPc ⟨rfl, rfl⟩ h
  next => exact .of_setPc ⟨rfl, rfl⟩ (Option.ite_none_left_eq_some.mp h).2
  next => exact .of_setPc (requestNext_idle false) h
  next c ack =>
    obtain ⟨-, h⟩ := Option.ite_none_left_eq_some.mp h
    split at h
    · exact .of_setPc (requestNext_idle false) h
    · exact .sessionGranted _ _ rfl rfl (Option.some.inj h).symm
  next => exact .of_setPc (requestNext_idle false) h
  next ack =>
    exact .storeSession _ ack.token ack.expiresAt ack.interval rfl ⟨rfl, rfl⟩
      (Option.some.inj h).symm
  next => exact .of_withStatus h trivial ⟨rfl, rfl⟩
  next => exact .of_withStatus h trivial ⟨rfl, rfl⟩
  next => exact .of_setPc (requestNext_idle true) (Option.ite_none_left_eq_some.mp h).2
  next => exact nomatch h

theorem handleStep_effect (h : s.handleStep cfg i pc answer = some s') :
    Effect s i pc answer s' := by
  unfold handleStep at h
  split at h
  next home err =>
    split at h
    · exact .of_setPc home.done_idle h
    · refine .of_withStatus h trivial ?_
      split
      · exact home.done_idle
      · exact ⟨rfl, rfl⟩
  next home needReauth time =>
    refine .of_setPc ?_ h
    split
    · exact home.done_idle
    · split <;> exact ⟨rfl, rfl⟩
  next => exact .idle _ _ (sameSession_resetConn s) ⟨rfl, rfl⟩ (Option.some.inj h).symm
  next =>
    refine .of_setPc ?_ h
    split <;> exact ⟨rfl, rfl⟩
  next => exact .idle _ _ (sameSession_closeConn s) ⟨rfl, rfl⟩ (Option.some.inj h).symm
  next home localIP time =>
    exact .idle (s.redial localIP time) _ ⟨rfl, rfl, rfl, rfl, rfl⟩ ⟨rfl, rfl⟩
      (Option.some.inj h).symm
  next => exact .of_setPc ⟨rfl, rfl⟩ h
  next => exact .of_withStatus h trivial ⟨rfl, rfl⟩
  next home =>
    refine .of_setPc ?_ h
    split
    · exact ⟨rfl, rfl⟩
    · exact home.done_idle
  next home time => exact .of_withStatus h trivial home.done_idle
  next => exact nomatch h

theorem loopStep_effect (hpc : s.goroutines[i]? = some pc) (h : s.loopStep i pc answer = some s') :
    Effect s i pc answer s' := by
  unfold loopStep at h
  split at h
  next =>
    split at h
    · exact .of_setPc ⟨rfl, rfl⟩ h
    · exact .idle s .tick (.refl s) ⟨rfl, rfl⟩
        ((Option.some.inj h).symm.trans (setPc_self hpc).symm)
  next => exact .of_setPc ⟨rfl, rfl⟩ (Option.ite_none_right_eq_some.mp h).2
  next =>
    refine .of_setPc ?_ h
    split <;> exact ⟨rfl, rfl⟩
  next =>
    refine .of_setPc ?_ h
    split <;> exact ⟨rfl, rfl⟩
  next => exact .idle _ _ (sameSession_closeConn s) ⟨rfl, rfl⟩ (Option.some.inj h).symm
  next =>
    exact .idle { s with running := true } _ ⟨rfl, rfl, rfl, rfl, rfl⟩ ⟨rfl, rfl⟩
      (Option.some.inj h).symm
  next =>
    refine .of_setPc ?_ h
    split <;> exact ⟨rfl, rfl⟩
  next =>
    refine .of_setPc ?_ h
    split
    · exact ⟨rfl, rfl⟩
    split
    · exact ⟨rfl, rfl⟩
    · split <;> exact ⟨rfl, rfl⟩
  next =>
    obtain ⟨-, h⟩ := Option.ite_none_right_eq_some.mp h
    exact .idle _ _ (sameSession_resetConn s) ⟨rfl, rfl⟩ (Option.some.inj h).symm
  next => exact nomatch h

theorem goroutineStep_effect (hpc : s.goroutines[i]? = some pc)
    (h : s.goroutineStep cfg i pc answer = some s') : Effect s i pc answer s' := by
  simp only [goroutineStep, Option.or_eq_some_iff] at h
  rcases h with h | ⟨-, h | ⟨-, h | ⟨-, h | ⟨-, h⟩⟩⟩⟩
  · exact refreshStep_effect h
  · exact authStep_effect h
  · exact requestStep_effect h
  · exact handleStep_effect h
  · exact loopStep_effect hpc h

theorem mem_setPc {q pc' : Pc} (hq : q ∈ (s.setPc i pc').goroutines) :
    q ∈ s.goroutines ∨ q = pc' :=
  List.mem_or_eq_of_mem_set hq

theorem mem_spawn {q pc' : Pc} (hq : q ∈ (s.spawn pc').goroutines) :
    q ∈ s.goroutines ∨ q = pc' := by
  rwa [spawn, List.mem_append, List.mem_singleton] at hq

/-- A step starts a goroutine, does nothing, or is one of a goroutine. -/
theorem step_cases {e : AuthEvent} (h : (authMachine cfg).step s e = some s') :
    (∃ x pc', SameSession s x ∧ pc'.Idle ∧ s' = x.spawn pc') ∨ s' = s ∨
      ∃ i answer pc, e = .goroutine i answer ∧ s.goroutines[i]? = some pc ∧
        Effect s i pc answer s' := by
  cases e with
  | start => exact .inl ⟨s, _, .refl s, ⟨rfl, rfl⟩, (Option.some.inj h).symm⟩
  | forceReconnect =>
    obtain ⟨-, h⟩ := Option.ite_none_right_eq_some.mp h
    split at h
    · exact .inr (.inl (Option.some.inj h).symm)
    · exact .inl ⟨_, _, sameSession_resetConn s, ⟨rfl, rfl⟩, (Option.some.inj h).symm⟩
  | stop =>
    obtain ⟨-, h⟩ := Option.ite_none_left_eq_some.mp h
    exact .inl ⟨{ s with running := false, stopped := true }, _, ⟨rfl, rfl, rfl, rfl, rfl⟩,
      ⟨rfl, rfl⟩, (Option.some.inj h).symm⟩
  | goroutine i answer =>
    obtain ⟨pc, hpc, h⟩ := Option.bind_eq_some_iff.mp h
    exact .inr (.inr ⟨i, answer, pc, rfl, hpc, goroutineStep_effect hpc h⟩)

/-! ## A refresh that waits has asked -/

/-- Every refresh that waits for a reply has sent its request. -/
def Asked (s : AuthRun) : Prop :=
  ∀ pc ∈ s.goroutines, ∀ q, pc.waiting = some q → q ∈ s.asked

theorem Asked.of_mem {pc' : Pc} (hs : s.Asked) (hasked : s'.asked = s.asked)
    (hmem : ∀ q ∈ s'.goroutines, q ∈ s.goroutines ∨ q = pc') (hwait : pc'.waiting = none) :
    s'.Asked := by
  intro q hq r hr
  rw [hasked]
  obtain hq | rfl := hmem q hq
  · exact hs q hq r hr
  · rw [hwait] at hr
    exact nomatch hr

theorem Asked.of_sameSession {pc' : Pc} (hs : s.Asked) (hx : SameSession s x)
    (hwait : pc'.waiting = none)
    (hmem : ∀ q ∈ s'.goroutines, q ∈ x.goroutines ∨ q = pc') (hasked : s'.asked = x.asked) :
    s'.Asked :=
  hs.of_mem (hasked.trans hx.asked) (fun q hq ↦ hx.goroutines ▸ hmem q hq) hwait

theorem Asked.step {e : AuthEvent} (hs : s.Asked) (h : (authMachine cfg).step s e = some s') :
    s'.Asked := by
  obtain ⟨x, pc', hx, hpc', rfl⟩ | rfl | ⟨i, answer, pc, rfl, hpc, heff⟩ := step_cases h
  · exact hs.of_sameSession hx hpc'.waiting (fun q hq ↦ mem_spawn hq) rfl
  · exact hs
  cases heff with
  | idle x pc' hx hpc' hs' =>
    subst hs'
    exact hs.of_sameSession hx hpc'.waiting (fun q hq ↦ mem_setPc hq) rfl
  | ask site token c _ hs' =>
    subst hs'
    intro q hq r hr
    obtain hq | rfl := mem_setPc hq
    · exact List.mem_cons_of_mem _ (hs q hq r hr)
    · obtain rfl := Option.some.inj hr
      exact List.mem_cons_self
  | refreshGranted site token c ack answered _ _ hs' =>
    subst hs'
    exact hs.of_mem rfl (fun q hq ↦ mem_setPc hq) rfl
  | sessionGranted pc' g _ hwait hs' =>
    subst hs'
    exact hs.of_mem rfl (fun q hq ↦ mem_setPc hq) hwait
  | storeExpiry site token expiresAt _ hs' =>
    subst hs'
    exact hs.of_mem rfl (fun q hq ↦ mem_setPc hq) rfl
  | storeSession pc' token expiresAt interval _ hpc' hs' =>
    subst hs'
    exact hs.of_mem rfl (fun q hq ↦ mem_setPc hq) hpc'.waiting

theorem Asked.of_run {start : ℕ} {es : List AuthEvent}
    (hrun : (authMachine cfg).run (.new start) es = some s) : s.Asked :=
  Machine.invariant (fun _ _ _ hs h ↦ hs.step h) (by intro pc hpc; exact nomatch hpc) hrun

/-! ## The pair along runs without stale refreshes -/

/-- The expiry stored was granted for the token stored, if there is a token. -/
def Coherent (s : AuthRun) : Prop :=
  s.token = [] ∨ ∃ expiresAt ∈ s.expiresAt, (s.token, expiresAt) ∈ s.granted

/-- A refresh reads the reply to its own token, and stores an expiry only for the token stored. -/
def KeepsPair (s : AuthRun) : AuthEvent → Prop
  | .goroutine i answer =>
    ∀ pc ∈ s.goroutines[i]?,
      (∀ answered ∈ answer.answered, ∀ q ∈ pc.waiting, answered = q.2) ∧
      ∀ token ∈ pc.refreshed, token = s.token
  | _ => True

instance (s : AuthRun) : DecidablePred s.KeepsPair
  | .goroutine i answer =>
    inferInstanceAs (Decidable (∀ pc ∈ s.goroutines[i]?,
      (∀ answered ∈ answer.answered, ∀ q ∈ pc.waiting, answered = q.2) ∧
      ∀ token ∈ pc.refreshed, token = s.token))
  | .start | .forceReconnect | .stop => .isTrue trivial

/-- The pair is coherent, and what is about to be stored was granted. -/
structure Inv (s : AuthRun) : Prop where
  coherent : s.Coherent
  grant : ∀ pc ∈ s.goroutines, ∀ g, pc.grant = some g → g ∈ s.granted

theorem Coherent.of_granted_subset (hs : s.Coherent) (htoken : s'.token = s.token)
    (hexpiry : s'.expiresAt = s.expiresAt) (hgranted : s.granted ⊆ s'.granted) : s'.Coherent := by
  rw [Coherent, htoken, hexpiry]
  obtain hnil | ⟨expiresAt, hmem, hg⟩ := hs
  · exact .inl hnil
  · exact .inr ⟨expiresAt, hmem, hgranted hg⟩

/-- A step that keeps the pair, where the new position holds grants made. -/
theorem Inv.of_mem {pc' : Pc} (hs : s.Inv) (htoken : s'.token = s.token)
    (hexpiry : s'.expiresAt = s.expiresAt) (hgranted : s.granted ⊆ s'.granted)
    (hmem : ∀ q ∈ s'.goroutines, q ∈ s.goroutines ∨ q = pc')
    (hgrant : ∀ g, pc'.grant = some g → g ∈ s'.granted) : s'.Inv where
  coherent := hs.coherent.of_granted_subset htoken hexpiry hgranted
  grant q hq g hg := by
    obtain hq | rfl := hmem q hq
    · exact hgranted (hs.grant q hq g hg)
    · exact hgrant g hg

theorem Inv.of_sameSession {pc' : Pc} (hs : s.Inv) (hx : SameSession s x)
    (htoken : s'.token = x.token) (hexpiry : s'.expiresAt = x.expiresAt)
    (hgranted : s'.granted = x.granted)
    (hmem : ∀ q ∈ s'.goroutines, q ∈ x.goroutines ∨ q = pc') (hpc' : pc'.Idle) : s'.Inv := by
  refine hs.of_mem (htoken.trans hx.token) (hexpiry.trans hx.expiresAt) ?_
    (fun q hq ↦ hx.goroutines ▸ hmem q hq) (fun g hg ↦ ?_)
  · rw [hgranted, hx.granted]
    exact fun _ h ↦ h
  · rw [hpc'.grant] at hg
    exact nomatch hg

/-- A step that stores a coherent pair and holds nothing after it. -/
theorem Inv.of_store {pc' : Pc} (hs : s.Inv) (hcoherent : s'.Coherent)
    (hgranted : s'.granted = s.granted)
    (hmem : ∀ q ∈ s'.goroutines, q ∈ s.goroutines ∨ q = pc') (hpc' : pc'.Idle) : s'.Inv where
  coherent := hcoherent
  grant q hq g hg := by
    obtain hq | rfl := hmem q hq
    · exact hgranted ▸ hs.grant q hq g hg
    · exact absurd (hpc'.grant.symm.trans hg) nofun

theorem Inv.step {e : AuthEvent} (hs : s.Inv) (hkeep : s.KeepsPair e)
    (h : (authMachine cfg).step s e = some s') : s'.Inv := by
  obtain ⟨x, pc', hx, hpc', rfl⟩ | rfl | ⟨i, answer, pc, rfl, hpc, heff⟩ := step_cases h
  · exact hs.of_sameSession hx rfl rfl rfl (fun q hq ↦ mem_spawn hq) hpc'
  · exact hs
  have hmem : pc ∈ s.goroutines := List.mem_of_getElem? hpc
  obtain ⟨hown, hstored⟩ := hkeep pc hpc
  cases heff with
  | idle x pc' hx hpc' hs' =>
    subst hs'
    exact hs.of_sameSession hx rfl rfl rfl (fun q hq ↦ mem_setPc hq) hpc'
  | ask site token c hpc' hs' =>
    subst hs'
    exact hs.of_mem rfl rfl (fun _ h ↦ h) (fun q hq ↦ mem_setPc hq) nofun
  | refreshGranted site token c ack answered hpc' hanswer hs' =>
    subst hs' hpc'
    subst hanswer
    obtain rfl : answered = token := hown answered rfl (c, token) rfl
    refine hs.of_mem rfl rfl (List.subset_cons_self _ _) (fun q hq ↦ mem_setPc hq) fun g hg ↦ ?_
    obtain rfl := Option.some.inj hg
    exact List.mem_cons_self
  | sessionGranted pc' g hgrant _ hs' =>
    subst hs'
    refine hs.of_mem rfl rfl (List.subset_cons_self _ _) (fun q hq ↦ mem_setPc hq) fun g' hg' ↦ ?_
    obtain rfl := Option.some.inj (hg'.symm.trans hgrant)
    exact List.mem_cons_self
  | storeExpiry site token expiresAt hpc' hs' =>
    subst hs' hpc'
    -- The token that was sent is the one stored, and the expiry was granted for it.
    have htoken : token = s.token := hstored token rfl
    exact hs.of_store (.inr ⟨expiresAt, rfl, htoken ▸ hs.grant _ hmem (token, expiresAt) rfl⟩) rfl
      (fun q hq ↦ mem_setPc hq) ⟨rfl, rfl⟩
  | storeSession pc' token expiresAt interval hgrant hpc' hs' =>
    subst hs'
    exact hs.of_store (.inr ⟨expiresAt, rfl, hs.grant pc hmem _ hgrant⟩) rfl
      (fun q hq ↦ mem_setPc hq) hpc'

theorem Inv.new (start : ℕ) : (AuthRun.new start).Inv where
  coherent := .inl rfl
  grant _ h := nomatch h

/-! ## A stale refresh -/

/-- The reply to a waiting refresh, and the store that follows. -/
theorem run_refreshAck {site : RefreshSite} {token : List UInt8} {c : ℕ} {ack : SessionRefreshAck}
    (hpc : s.goroutines[i]? = some (.refreshWait site token c)) (hopen : s.closed c = false)
    (hasked : (c, token) ∈ s.asked) (hack : ack.result = resultSuccess) :
    ∃ s', (authMachine cfg).run s [.goroutine i (.refreshAck ack token), .goroutine i .ok] =
        some s' ∧ s'.token = s.token ∧ s'.expiresAt = some ack.expiresAt ∧
      s'.granted = (token, ack.expiresAt) :: s.granted := by
  have hi : i < s.goroutines.length := (List.getElem?_eq_some_iff.mp hpc).1
  set m : AuthRun := { s with granted := (token, ack.expiresAt) :: s.granted }.setPc i
    (.refreshStore site token ack.expiresAt)
  have hreply : (authMachine cfg).step s (.goroutine i (.refreshAck ack token)) = some m := by
    simp [authMachine, hpc, goroutineStep, refreshStep, hopen, hasked, hack, m]
  have hpc' : m.goroutines[i]? = some (.refreshStore site token ack.expiresAt) := by
    simp [m, setPc, hi]
  have hstore : (authMachine cfg).step m (.goroutine i .ok) = some ({ m with
      status := m.status.setState (m.status.state.storeExpiry ack.expiresAt) }.setPc i
        (.refreshMark site)) := by
    simp only [authMachine, hpc', Option.bind_some]
    rfl
  exact ⟨_, Machine.run_cons_eq_some.mpr ⟨m, hreply, Machine.run_cons_eq_some.mpr
    ⟨_, hstore, rfl⟩⟩, rfl, rfl, rfl⟩

end AuthRun

/-- **One session.** The stored expiry is one granted for the stored token, as long as every refresh
reads its own reply and stores its expiry while the token that it has sent is the stored one. -/
theorem session_pair_coherent {cfg : AuthConf} {start : ℕ} {es : List AuthEvent} {s : AuthRun}
    (hrun : (authMachine cfg).run (.new start) es = some s) :
    ((authMachine cfg).Along AuthRun.KeepsPair (.new start) es → s.Coherent) ∧
      ∀ i site token c, s.goroutines[i]? = some (.refreshWait site token c) →
        s.closed c = false → s.token ≠ [] → s.token ≠ token →
        ∀ ack : SessionRefreshAck, ack.result = resultSuccess →
          (s.token, ack.expiresAt) ∉ s.granted →
          ∃ s', (authMachine cfg).run s
              [.goroutine i (.refreshAck ack token), .goroutine i .ok] = some s' ∧
            ¬ s'.Coherent := by
  constructor
  · intro hkeep
    exact (Machine.invariant_along (fun _ _ _ hs hP h ↦ AuthRun.Inv.step hs hP h)
      (AuthRun.Inv.new start) hkeep hrun).coherent
  · intro i site token c hpc hopen hne htoken ack hack hgranted
    have hasked : (c, token) ∈ s.asked :=
      AuthRun.Asked.of_run hrun _ (List.mem_of_getElem? hpc) (c, token) rfl
    obtain ⟨s', hrun', htoken', hexpiry', hgranted'⟩ :=
      AuthRun.run_refreshAck hpc hopen hasked hack
    refine ⟨s', hrun', ?_⟩
    rw [AuthRun.Coherent, htoken', hexpiry', hgranted']
    rintro (hnil | ⟨expiresAt, hmem, hg⟩)
    · exact hne hnil
    · obtain rfl := Option.some.inj hmem
      obtain hg | hg := List.mem_cons.mp hg
      · exact htoken (Prod.ext_iff.mp hg).1
      · exact hgranted hg

/-! ## The race -/

/-- A first authentication, up to the keepalive loop of goroutine 0. -/
def firstSession (token : List UInt8) (expiresAt : UInt64) : List AuthEvent :=
  .start :: ([.ok, .now 20000000000, .ok, .dialled [10] 20000000000, .ok, .challenge,
    .authAck ⟨resultSuccess, 0, 0, [], token, expiresAt, 30⟩, .ok, .now 20000000000, .ok, .ok,
    .ok].map (.goroutine 0))

/-- The connection is closed by force, the recovery begins a full authentication, and the loop sends
a refresh of the first token. The new session is stored before the reply is there. -/
def staleRefresh (token : List UInt8) (expiresAt : UInt64) : List AuthEvent :=
  .forceReconnect ::
    ([.ok, .now 20000000000, .ok, .now 20000000000, .ok, .fail, .ok, .ok].map (.goroutine 1) ++
    [.ok, .ok, .now 20000000000, .ok, .dialled [10] 20000000000, .ok, .ok].map (.goroutine 0) ++
    [.dialled [10] 20000000000, .ok, .challenge,
      .authAck ⟨resultSuccess, 0, 0, [], token, expiresAt, 30⟩, .ok].map (.goroutine 1))

/-- The loop reads the reply to its refresh and stores the expiry: the second token is stored with
an expiry that was granted for the first. -/
theorem expiry_of_other_token :
    ∃ s, (authMachine ⟨true, 300⟩).run (.new 1)
        (firstSession (List.replicate 20 1) 1000 ++ staleRefresh (List.replicate 20 2) 2000 ++
          [.goroutine 0 (.refreshAck ⟨resultSuccess, 0, 3000, 30⟩ (List.replicate 20 1)),
            .goroutine 0 .ok]) = some s ∧
      s.token = List.replicate 20 2 ∧ s.expiresAt = some 3000 ∧
      s.granted = [(List.replicate 20 1, 3000), (List.replicate 20 2, 2000),
        (List.replicate 20 1, 1000)] ∧ ¬ s.Coherent := by
  have hrun : (authMachine ⟨true, 300⟩).run (.new 1)
      (firstSession (List.replicate 20 1) 1000 ++ staleRefresh (List.replicate 20 2) 2000 ++
        [.goroutine 0 (.refreshAck ⟨resultSuccess, 0, 3000, 30⟩ (List.replicate 20 1)),
          .goroutine 0 .ok]) = some _ := rfl
  refine ⟨_, hrun, rfl, rfl, rfl, ?_⟩
  rintro (hnil | ⟨expiresAt, hmem, hg⟩)
  · exact nomatch hnil
  · obtain rfl := Option.some.inj hmem
    exact absurd hg (by decide)

/-- The first session is coherent, and the race lies in wait after it. -/
theorem session_pair_coherent_race :
    (∃ s, (authMachine ⟨true, 300⟩).run (.new 1) (firstSession (List.replicate 20 1) 1000) =
        some s ∧ s.token ≠ [] ∧ s.Coherent) ∧
      ∃ s s', (authMachine ⟨true, 300⟩).run (.new 1)
          (firstSession (List.replicate 20 1) 1000 ++ staleRefresh (List.replicate 20 2) 2000) =
          some s ∧
        (authMachine ⟨true, 300⟩).run s
          [.goroutine 0 (.refreshAck ⟨resultSuccess, 0, 3000, 30⟩ (List.replicate 20 1)),
            .goroutine 0 .ok] = some s' ∧ ¬ s'.Coherent := by
  have hfirst : (authMachine ⟨true, 300⟩).run (.new 1)
      (firstSession (List.replicate 20 1) 1000) = some _ := rfl
  have hrun : (authMachine ⟨true, 300⟩).run (.new 1)
      (firstSession (List.replicate 20 1) 1000 ++ staleRefresh (List.replicate 20 2) 2000) =
      some _ := rfl
  obtain ⟨s', hs', hbroken⟩ := (session_pair_coherent hrun).2 0 .keepaliveLoop
    (List.replicate 20 1) 1 rfl rfl nofun (by decide) ⟨resultSuccess, 0, 3000, 30⟩ rfl (by decide)
  exact ⟨⟨_, hfirst, nofun, (session_pair_coherent hfirst).1 (by decide)⟩, _, s', hrun, hs',
    hbroken⟩

end DroneBridge
