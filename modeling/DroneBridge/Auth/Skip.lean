import DroneBridge.Auth.Reconnect

/-!
# Refreshes that are skipped

For ten seconds after a change of the local address `sendRefresh` sends nothing and returns
`ErrRefreshSkipped`. Its callers take this differently. The keepalive loop and the verification
after a reconnect leave the session alone. `TriggerSessionRecovery` takes it for any other error:
it asks for a new session, or authenticates anew.
-/

namespace DroneBridge

/-! ## The other goroutines -/

namespace AuthRun

variable {s s' : AuthRun} {cfg : AuthConf} {i j : ℕ} {pc : Pc} {answer : Answer} {e : AuthEvent}

theorem Effect.goroutines (h : Effect s i pc answer s') :
    ∃ pc', s'.goroutines = s.goroutines.set i pc' := by
  cases h with
  | idle x pc' hx _ hs' => exact ⟨pc', by rw [hs', setPc, hx.goroutines]⟩
  | ask _ _ _ _ hs' => exact ⟨_, congrArg _ hs'⟩
  | refreshGranted _ _ _ _ _ _ _ hs' => exact ⟨_, congrArg _ hs'⟩
  | sessionGranted pc' _ _ _ hs' => exact ⟨pc', congrArg _ hs'⟩
  | storeExpiry _ _ _ _ hs' => exact ⟨_, congrArg _ hs'⟩
  | storeSession pc' _ _ _ _ _ hs' => exact ⟨pc', congrArg _ hs'⟩

theorem At.of_step_ne (hpc : s.At i pc) (hne : ∀ answer, e ≠ .goroutine i answer)
    (h : (authMachine cfg).step s e = some s') : s'.At i pc := by
  obtain ⟨x, pc', hx, -, rfl⟩ | rfl | ⟨j, answer, q, rfl, -, heff⟩ := step_cases h
  · rw [At, spawn, hx.goroutines,
      List.getElem?_append_left (List.getElem?_eq_some_iff.mp hpc).1]
    exact hpc
  · exact hpc
  · obtain ⟨pc', hgo⟩ := heff.goroutines
    have hij : j ≠ i := fun hij ↦ hne answer (hij ▸ rfl)
    rw [At, hgo, List.getElem?_set_ne hij]
    exact hpc

end AuthRun

/-! ## What follows a skip -/

/-- A full authentication or the request for a new session begins. -/
def Pc.renews : Pc → Bool
  | .auth _ | .requestRead _ => true
  | _ => false

/-- The goroutine has returned from what it was called for. -/
def Pc.returned : Pc → Bool
  | .tick | .ended => true
  | _ => false

/-- A caller that leaves the session alone after a skip, or has returned. -/
def Pc.settling : Pc → Bool
  | .tick | .ended | .handle _ .skipped | .backoff _ | .backoffStore _ => true
  | _ => false

def RefreshSite.isRecovery : RefreshSite → Bool
  | .recovery _ => true
  | .keepaliveLoop | .verify _ => false

theorem Home.done_settling (home : Home) : home.done.settling = true := by
  cases home <;> rfl

theorem Pc.renews_eq_false_of_settling {pc : Pc} (h : pc.settling = true) : pc.renews = false := by
  cases pc with
  | auth site => exact absurd h Bool.false_ne_true
  | requestRead c => exact absurd h Bool.false_ne_true
  | _ => rfl

theorem RefreshSite.next_skipped_settling {site : RefreshSite} (h : site.isRecovery = false) :
    (site.next (some .skipped)).settling = true := by
  cases site with
  | keepaliveLoop => rfl
  | verify home => rfl
  | recovery conn => exact absurd h.symm Bool.false_ne_true

namespace AuthRun

variable {s s' : AuthRun} {cfg : AuthConf} {i : ℕ} {pc pc' : Pc} {answer : Answer} {e : AuthEvent}

def Settling (s : AuthRun) (i : ℕ) : Prop := ∃ pc, s.At i pc ∧ pc.settling = true

/-- The call in which the goroutine has been skipped goes on. -/
def NotReturned (s : AuthRun) (i : ℕ) : Prop := ∀ pc ∈ s.goroutines[i]?, pc.returned = false

theorem Settling.of_setPc (hpc : s.At i pc) (h : some (s.setPc i pc') = some s')
    (hpc' : pc'.settling = true) : s'.Settling i :=
  ⟨pc', Option.some.inj h ▸ hpc.setPc pc' rfl, hpc'⟩

theorem Settling.goroutineStep (hpc : s.At i pc) (hset : pc.settling = true)
    (hreturned : pc.returned = false) (h : s.goroutineStep cfg i pc answer = some s') :
    s'.Settling i := by
  unfold Pc.settling at hset
  split at hset
  next => exact absurd hreturned.symm Bool.false_ne_true
  next => exact absurd hreturned.symm Bool.false_ne_true
  next home =>
    cases answer with
    | ok => exact .of_setPc hpc h home.done_settling
    | _ => exact nomatch h
  next home =>
    cases answer with
    | ok =>
      refine .of_setPc hpc h ?_
      split
      · rfl
      · exact home.done_settling
    | _ => exact nomatch h
  next home =>
    cases answer with
    | now time =>
      have h : some _ = some s' := h
      exact ⟨home.done, Option.some.inj h ▸ hpc.setPc (x := { s with status := _ }) _ rfl,
        home.done_settling⟩
    | _ => exact nomatch h
  next => exact absurd hset Bool.false_ne_true

theorem Settling.step (hs : s.Settling i) (hcall : s.NotReturned i)
    (h : (authMachine cfg).step s e = some s') : s'.Settling i := by
  obtain ⟨pc, hpc, hset⟩ := hs
  by_cases he : ∃ answer, e = .goroutine i answer
  · obtain ⟨answer, rfl⟩ := he
    obtain ⟨pc', hpc', h⟩ := Option.bind_eq_some_iff.mp h
    obtain rfl := Option.some.inj (hpc.symm.trans hpc')
    exact .goroutineStep hpc hset (hcall pc hpc) h
  · exact ⟨pc, hpc.of_step_ne (fun answer hans ↦ he ⟨answer, hans⟩) h, hset⟩

theorem Settling.run {es : List AuthEvent} (hs : s.Settling i)
    (hcall : (authMachine cfg).Along (fun m _ ↦ m.NotReturned i) s es)
    (hrun : (authMachine cfg).run s es = some s') : s'.Settling i :=
  Machine.invariant_along (I := fun m ↦ m.Settling i) (fun _ _ _ hs hcall h ↦ hs.step hcall h)
    hs hcall hrun

/-- A refresh that is skipped returns at once, and has released the mutex. -/
theorem step_skipped {site : RefreshSite} {time : ℕ} (hpc : s.At i (.refreshRead site))
    (hskip : Clock.sub time s.lastIPChangeTime < ipChangeThreshold) :
    (authMachine cfg).step s (.goroutine i (.now time)) =
      some (s.refreshReturn i site (some .skipped)) := by
  have hget : s.goroutines[i]? = some (.refreshRead site) := hpc
  simp only [authMachine, hget, Option.bind_some]
  simp only [goroutineStep, refreshStep, if_pos hskip, Option.some_or]

theorem exists_renews_of_recovery {conn : Option ℕ}
    (hpc : s.At i ((RefreshSite.recovery conn).next (some .skipped))) (hmu : s.tcpMu = none) :
    ∃ es s' pc, (authMachine cfg).Along (fun m _ ↦ m.NotReturned i) s es ∧
      (authMachine cfg).run s es = some s' ∧ s'.At i pc ∧ pc.renews = true := by
  cases conn with
  | some c => exact ⟨[], s, _, trivial, rfl, hpc, rfl⟩
  | none =>
    have hget : s.goroutines[i]? = some .reauthClose := hpc
    refine ⟨[.goroutine i .ok], s.resetConn.setPc i (.auth .reauth), .auth .reauth,
      Machine.along_singleton.mpr fun pc hmem ↦ ?_, Machine.run_cons_eq_some.mpr ⟨_, ?_, rfl⟩,
      hpc.setPc _ (goroutines_closeConn s), rfl⟩
    · obtain rfl := Option.some.inj (hmem.symm.trans hget)
      rfl
    · simp only [authMachine, hget, Option.bind_some]
      exact if_pos hmu

end AuthRun

/-- **Skips.** Until its caller has returned, a skipped refresh neither authenticates nor asks for a
new session, exactly when it was not one of `TriggerSessionRecovery`. -/
theorem skip_keeps_session_iff {cfg : AuthConf} {i time : ℕ} {site : RefreshSite} {s s₁ : AuthRun}
    (hpc : s.At i (.refreshRead site))
    (hskip : Clock.sub time s.lastIPChangeTime < ipChangeThreshold)
    (hstep : (authMachine cfg).step s (.goroutine i (.now time)) = some s₁) :
    (∀ es s₂ pc, (authMachine cfg).Along (fun m _ ↦ m.NotReturned i) s₁ es →
      (authMachine cfg).run s₁ es = some s₂ → s₂.At i pc → pc.renews = false) ↔
    site.isRecovery = false := by
  obtain rfl := Option.some.inj ((AuthRun.step_skipped hpc hskip).symm.trans hstep)
  have hpc₁ : (s.refreshReturn i site (some .skipped)).At i (site.next (some .skipped)) :=
    hpc.setPc (x := { s with tcpMu := none }) _ rfl
  constructor
  · intro hall
    cases site with
    | keepaliveLoop => rfl
    | verify home => rfl
    | recovery conn =>
      obtain ⟨es, s₂, pc, hcall, hrun, hpc₂, hrenews⟩ :=
        AuthRun.exists_renews_of_recovery hpc₁ rfl
      exact absurd (hall es s₂ pc hcall hrun hpc₂ ▸ hrenews) Bool.false_ne_true
  · intro hsite es s₂ pc hcall hrun hpc₂
    obtain ⟨pc', hpc', hset⟩ := AuthRun.Settling.run
      ⟨_, hpc₁, RefreshSite.next_skipped_settling hsite⟩ hcall hrun
    obtain rfl := Option.some.inj (hpc₂.symm.trans hpc')
    exact Pc.renews_eq_false_of_settling hset

/-- A refresh fails at 40 seconds, and the loop reconnects from another address. -/
def addressChange : List AuthEvent :=
  firstAuth 30 ++ [.ok, .ok, .ok, .ok, .ok, .now 40000000000, .fail, .ok, .now 40000000000, .ok,
    .now 40000000000, .ok, .dialled [11] 40000000000, .ok].map (.goroutine 0)

/-- The loop takes the skip for what it is. -/
theorem skip_keeps_session_verify :
    ∃ s s₁, (authMachine fiveMinutes).run (.new 1) addressChange = some s ∧
      (authMachine fiveMinutes).step s (.goroutine 0 (.now 40000000000)) = some s₁ ∧
      ∀ es s₂ pc, (authMachine fiveMinutes).Along (fun m _ ↦ m.NotReturned 0) s₁ es →
        (authMachine fiveMinutes).run s₁ es = some s₂ → s₂.At 0 pc → pc.renews = false := by
  obtain ⟨s, hrun, hpc, hskip⟩ : ∃ s,
      (authMachine fiveMinutes).run (.new 1) addressChange = some s ∧
      s.At 0 (.refreshRead (.verify .keepalive)) ∧
      Clock.sub 40000000000 s.lastIPChangeTime < ipChangeThreshold := ⟨_, rfl, rfl, by decide⟩
  have hstep : (authMachine fiveMinutes).step s (.goroutine 0 (.now 40000000000)) = some _ :=
    AuthRun.step_skipped hpc hskip
  exact ⟨s, _, hrun, hstep, (skip_keeps_session_iff hpc hskip hstep).mpr rfl⟩

/-- The connection is closed by force, and the skipped recovery begins a full authentication, though
the session has not expired and the server has refused nothing. -/
theorem skip_reauthenticates :
    ∃ s, (authMachine fiveMinutes).run (.new 1)
        (addressChange ++ [.now 40000000000, .ok, .now 40000000000].map (.goroutine 0) ++
          .forceReconnect :: [.ok, .now 41000000000, .ok, .now 41000000000, .ok].map
            (.goroutine 1)) = some s ∧
      s.At 1 (.auth .reauth) ∧ s.tokenValid 41000000000 = true ∧
      s.granted = [(s.token, 1000)] :=
  ⟨_, rfl, rfl, by decide, rfl⟩

end DroneBridge
