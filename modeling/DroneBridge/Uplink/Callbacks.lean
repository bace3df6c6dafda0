import DroneBridge.Auth.Session
import DroneBridge.Lib.TaskPool

/-!
# The callbacks of the auth client

`SetAuthClient` hands three callbacks to the auth client, and the two marks start them, each in a
goroutine of its own. The forwarder's health is what the callback that runs last leaves, and
nothing makes the callbacks of the last mark run last.
-/

namespace DroneBridge

/-! ## Marks and callbacks -/

/-- What a callback goroutine has still to do. -/
inductive Callback
  | networkError
  | disconnectCause (cause : DisconnectCause)
  | sessionRestored
  | forceCheck
  deriving DecidableEq, Repr

/-- What the marks and the callbacks write. -/
structure ClientHealth where
  session : SessionState
  isHealthy : Bool
  /-- The channel `forceCheckCh`, of capacity one, is full. -/
  forceCheckCh : Bool
  deriving DecidableEq, Repr

/-- As `NewClient` and `New` leave them. -/
def ClientHealth.new : ClientHealth := ⟨.new, true, false⟩

/-- `markConnected` and `markDisconnected`: the critical section and the callbacks they start. -/
def Mark.call (s : ClientHealth) : Mark → ClientHealth × List Callback
  | .connected now => ({ s with session := s.session.markConnected now }, [.sessionRestored])
  | .disconnected cause =>
    ({ s with session := s.session.markDisconnected cause },
      .disconnectCause cause :: if cause = .network then [.networkError] else [])

/-- One critical section of a callback, or a send to the channel that does not block. -/
def Callback.exec (s : ClientHealth) : Callback → ClientHealth × Option Callback
  | .networkError =>
    (if s.isHealthy then { s with isHealthy := false, forceCheckCh := true } else s, none)
  | .disconnectCause cause =>
    (match cause with
      | .sessionInvalid | .authFailed => { s with isHealthy := false }
      | .none | .network | .serverTransient => s, none)
  | .sessionRestored =>
    ({ s with isHealthy := true }, if s.isHealthy then none else some .forceCheck)
  | .forceCheck => ({ s with forceCheckCh := true }, none)

def callbackSystem : TaskSystem ClientHealth Callback Mark where
  call k s := k.call s
  exec t s := t.exec s

/-! ## What the callbacks write -/

/-- The health a callback leaves, if it sets it. -/
def Callback.sets : Callback → Option Bool
  | .networkError => some false
  | .disconnectCause .sessionInvalid | .disconnectCause .authFailed => some false
  | .disconnectCause _ | .forceCheck => none
  | .sessionRestored => some true

theorem Callback.exec_isHealthy (t : Callback) (s : ClientHealth) :
    (t.exec s).1.isHealthy = t.sets.getD s.isHealthy := by
  cases t with
  | networkError => cases hs : s.isHealthy <;> simp [exec, sets, hs]
  | disconnectCause cause => cases cause <;> rfl
  | sessionRestored => rfl
  | forceCheck => rfl

theorem Callback.eq_of_exec_eq_some {t t' : Callback} {s : ClientHealth}
    (h : (t.exec s).2 = some t') : t = .sessionRestored ∧ t' = .forceCheck := by
  cases t with
  | sessionRestored =>
    cases hs : s.isHealthy with
    | true => simp [exec, hs] at h
    | false => exact ⟨rfl, by simpa [exec, hs] using h.symm⟩
  | networkError => exact absurd h (Option.some_ne_none _).symm
  | disconnectCause cause => exact absurd h (Option.some_ne_none _).symm
  | forceCheck => exact absurd h (Option.some_ne_none _).symm

def callbackRank : TaskSystem.Rank callbackSystem where
  rank t := if t = .sessionRestored then 1 else 0
  exec_lt _ _ _ h := by
    obtain ⟨rfl, rfl⟩ := Callback.eq_of_exec_eq_some h
    decide

def healthFlag : TaskSystem.Flag callbackSystem where
  get := ClientHealth.isHealthy
  writes := Callback.sets
  exec_get := Callback.exec_isHealthy
  exec_left _ _ _ h := by
    obtain ⟨-, rfl⟩ := Callback.eq_of_exec_eq_some h
    rfl

/-! ## The health after the last mark -/

def Mark.isConnected : Mark → Bool
  | .connected _ => true
  | .disconnected _ => false

/-- A disconnection of the mark is classified as one the forwarder reacts to. -/
def Mark.Classified : Mark → Prop
  | .connected _ => True
  | .disconnected cause => cause = .network ∨ cause = .sessionInvalid ∨ cause = .authFailed

instance : DecidablePred Mark.Classified := fun k ↦ by
  cases k <;> unfold Mark.Classified <;> infer_instance

variable {k : Mark}

theorem Mark.Classified.exists_sets (hk : k.Classified) (s : ClientHealth) :
    ∃ t ∈ (k.call s).2, t.sets = some k.isConnected := by
  cases k with
  | connected now => exact ⟨.sessionRestored, List.mem_cons_self, rfl⟩
  | disconnected cause =>
    rcases hk with rfl | rfl | rfl
    · exact ⟨.networkError, by simp [Mark.call], rfl⟩
    · exact ⟨_, List.mem_cons_self, rfl⟩
    · exact ⟨_, List.mem_cons_self, rfl⟩

theorem Callback.eq_sessionRestored {t : Callback} (h : t.sets = some true) :
    t = .sessionRestored := by
  cases t with
  | sessionRestored => rfl
  | networkError => exact absurd h (by decide)
  | disconnectCause cause => cases cause <;> exact absurd h (by decide)
  | forceCheck => exact absurd h (by decide)

theorem Mark.sets_ne (k : Mark) {s : ClientHealth} {t : Callback} (ht : t ∈ (k.call s).2) :
    t.sets ≠ some (!k.isConnected) := by
  cases k with
  | connected now =>
    obtain rfl := List.mem_singleton.mp ht
    exact fun h ↦ Bool.false_ne_true (Option.some.inj h).symm
  | disconnected cause =>
    intro h
    obtain rfl := Callback.eq_sessionRestored h
    cases cause <;> simp [call] at ht

/-- When all callbacks have run, in any order, the forwarder is healthy exactly if the last mark was
`markConnected`, provided that no earlier callback for the other health was still to run at that
mark. Otherwise some order leaves the other health. -/
theorem health_settles_iff (p q : TaskPool ClientHealth Callback) (hk : k.Classified)
    (hcall : callbackSystem.machine.step p (.call k) = some q) :
    (∀ es r, (∀ e ∈ es, e.isExec = true) → callbackSystem.machine.run q es = some r →
      r.pending = [] → r.state.isHealthy = k.isConnected) ↔
    ∀ t ∈ p.pending, t.sets ≠ some (!k.isConnected) := by
  obtain rfl := Option.some.inj hcall
  obtain ⟨t, ht, hsets⟩ := hk.exists_sets p.state
  refine (healthFlag.settles_iff callbackRank ⟨t, List.mem_append_right _ ht, hsets⟩).trans ?_
  rw [List.forall_mem_append]
  exact and_iff_left fun t ht ↦ k.sets_ne ht

/-- The session is restored, and every callback has run before. -/
theorem health_settles_restored :
    ∃ q, callbackSystem.machine.step ⟨⟨.new, false, true⟩, []⟩ (.call (.connected 5)) = some q ∧
      q.pending = [.sessionRestored] ∧
      ∀ es r, (∀ e ∈ es, e.isExec = true) → callbackSystem.machine.run q es = some r →
        r.pending = [] → r.state.isHealthy = true := by
  refine ⟨_, rfl, rfl, ?_⟩
  exact (health_settles_iff (k := .connected 5) ⟨⟨.new, false, true⟩, []⟩ _ trivial rfl).mpr
    (List.forall_mem_nil _)

/-- A network error and then a connection: `OnNetworkError` runs behind `OnSessionRestored`, and
the forwarder of a connected client stays unhealthy. -/
theorem health_late_networkError :
    ∃ r, callbackSystem.machine.run ⟨.new, []⟩
      [.call (.disconnected .network), .call (.connected 5), .exec 2, .exec 1, .exec 0] = some r ∧
      r.pending = [] ∧ r.state.session.serverReachable = true ∧ r.state.isHealthy = false :=
  ⟨⟨⟨(SessionState.new.markDisconnected .network).markConnected 5, false, true⟩, []⟩,
    by decide, rfl, rfl, rfl⟩

end DroneBridge
