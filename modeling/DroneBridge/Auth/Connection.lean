import DroneBridge.Auth.KeyCalls

/-!
# One connection at a time, and none that is nil

The keepalive loop, the recovery after `ForceReconnect` and the API key operations all replace
`conn`. A refresh and an API key operation do it under `tcpMu`; `handleRefreshFailure` and
`authenticate` do it without. So two replacements can overlap. Then both close what there is, both
dial, and the connection that is stored first is neither in use nor ever closed.

The same two functions clear `conn` without `tcpMu`. A refresh or an operation that has just stored
a connection reads `conn` again, and may find nil.

Both results are read off the connection that several parties replace, by `step_move`.
-/

namespace DroneBridge

open Redial

namespace KeyRun

variable {s s' : KeyRun} {cfg : AuthConf} {a : Party} {e : KeyEvent}

/-- Some goroutine or API key operation is in this stage. -/
def anyone (s : KeyRun) (stage : Stage) : Bool :=
  s.auth.goroutines.any (·.phase.stage = stage) || s.calls.any (·.phase.stage = stage)

theorem stage_ne_iff {α : Type*} {l : List α} {f : α → Phase} {stage : Stage}
    (hstage : stage ≠ .out) :
    (∀ i : ℕ, ((l[i]?).elim Phase.out f).stage ≠ stage) ↔ ∀ x ∈ l, (f x).stage ≠ stage := by
  constructor
  · intro hall x hx
    obtain ⟨i, hi⟩ := List.mem_iff_getElem?.mp hx
    have := hall i
    rwa [hi] at this
  · intro hall i
    cases hi : l[i]? with
    | none => exact Ne.symm hstage
    | some x => exact hall x (List.mem_of_getElem? hi)

theorem anyone_eq_false_iff {stage : Stage} (hstage : stage ≠ .out) :
    s.anyone stage = false ↔ ∀ a, (s.phase a).stage ≠ stage := by
  have hsplit : (∀ a, (s.phase a).stage ≠ stage) ↔
      (∀ i, (s.phase (.goroutine i)).stage ≠ stage) ∧ ∀ j, (s.phase (.call j)).stage ≠ stage := by
    constructor
    · exact fun hall ↦ ⟨fun i ↦ hall (.goroutine i), fun j ↦ hall (.call j)⟩
    · rintro ⟨hgo, hcalls⟩ (i | j)
      · exact hgo i
      · exact hcalls j
  have hgo : (∀ i, (s.phase (.goroutine i)).stage ≠ stage) ↔
      ∀ pc ∈ s.auth.goroutines, pc.phase.stage ≠ stage := stage_ne_iff hstage
  have hcalls : (∀ j, (s.phase (.call j)).stage ≠ stage) ↔
      ∀ pc ∈ s.calls, pc.phase.stage ≠ stage := stage_ne_iff hstage
  rw [hsplit, hgo, hcalls, anyone, Bool.or_eq_false_iff]
  simp only [List.any_eq_false, decide_eq_true_eq, ne_eq]

theorem no_dialling_iff : s.anyone .dialling = false ↔ ∀ a, ¬ s.cell.Dialling a :=
  anyone_eq_false_iff (by decide)

theorem no_rereading_iff : s.anyone .rereading = false ↔ ∀ a, ¬ s.cell.Rereading a :=
  anyone_eq_false_iff (by decide)

/-! ## Open connections -/

/-- At most one connection that was ever stored is open, and all but the one in use are closed. -/
structure OneConnection (s : KeyRun) : Prop where
  one : ∀ c d, s.auth.closed c = false → s.auth.closed d = false → c = d
  others_closed : ∀ c, s.auth.conn ≠ some c → s.auth.closed c = true

theorem closed_eq_false_iff {c : ℕ} : s.auth.closed c = false ↔ s.auth.shared.Open c := by
  rw [AuthRun.closed, List.getD_eq_getElem?_getD, Shared.Open, AuthRun.shared]
  cases s.auth.conns[c]? <;> simp

theorem oneConnection_iff : s.OneConnection ↔ s.auth.shared.Tidy := by
  constructor
  · intro h c hc
    by_contra hne
    rw [← closed_eq_false_iff, h.others_closed c hne] at hc
    exact Bool.false_ne_true hc.symm
  · intro h
    refine ⟨fun c d hc hd ↦ ?_, fun c hne ↦ ?_⟩
    · have hc' := h c (closed_eq_false_iff.mp hc)
      exact Option.some.inj (hc'.symm.trans (h d (closed_eq_false_iff.mp hd)))
    · by_contra hopen
      exact hne (h c (closed_eq_false_iff.mp (Bool.eq_false_iff.mpr hopen)))

/-- A replacement begins only while no other is between its begin and its store. -/
def BeginsAlone (s : KeyRun) (e : KeyEvent) : Prop :=
  s.begins e = true → s.anyone .dialling = false

instance (s : KeyRun) : DecidablePred s.BeginsAlone := fun e ↦
  inferInstanceAs (Decidable (s.begins e = true → s.anyone .dialling = false))

theorem phase_new (start : ℕ) (a : Party) : (new start).phase a = .out := by
  cases a <;> rfl

theorem inv_new (start : ℕ) : Inv (new start).cell where
  tidy n hn := nomatch hn
  shut a ha := by
    rw [Cell.Dialling, cell_phase, phase_new] at ha
    cases ha
  alone a b ha := by
    rw [Cell.Dialling, cell_phase, phase_new] at ha
    cases ha

theorem inv_step (hs : Inv s.cell) (halone : s.BeginsAlone e)
    (h : (keyMachine cfg).step s e = some s') : Inv s'.cell :=
  hs.move (step_move h) fun hbegins ↦ no_dialling_iff.mp (halone hbegins)

/-- The dial of the party succeeds, and it stores the connection. -/
def storeEvent : Party → KeyEvent
  | .goroutine i => .auth (.goroutine i (.dialled [] 0))
  | .call j => .key j (.dialled [] 0)

theorem exists_store (cfg : AuthConf) (ha : s.cell.Dialling a) :
    ∃ s', (keyMachine cfg).step s (storeEvent a) = some s' ∧
      s'.auth.shared = s.auth.shared.store := by
  cases a with
  | goroutine i =>
    cases hpc : s.auth.goroutines[i]? with
    | none =>
      rw [Cell.Dialling, cell_phase, phase, hpc] at ha
      cases ha
    | some pc =>
      rw [Cell.Dialling, cell_phase, phase_goroutine hpc] at ha
      simp only [keyMachine, storeEvent, authMachine, hpc, Option.bind_some]
      cases pc with
      | refreshDial site token => exact ⟨_, rfl, rfl⟩
      | authDial site => exact ⟨_, rfl, rfl⟩
      | handleDial home => exact ⟨_, rfl, rfl⟩
      | _ => cases ha
  | call j =>
    cases hpc : s.calls[j]? with
    | none =>
      rw [Cell.Dialling, cell_phase, phase, hpc] at ha
      cases ha
    | some pc =>
      rw [Cell.Dialling, cell_phase, phase_call hpc] at ha
      simp only [keyMachine, storeEvent, hpc, Option.bind_some]
      cases pc with
      | dial => exact ⟨_, rfl, rfl⟩
      | _ => cases ha

theorem exists_run_not_oneConnection {b : Party} (ha : s.cell.Dialling a) (hb : s.cell.Dialling b)
    (hab : a ≠ b) :
    ∃ fs s', (keyMachine cfg).run s fs = some s' ∧ ¬ s'.OneConnection := by
  obtain ⟨s₁, hs₁, hshared₁⟩ := exists_store cfg ha
  have hframe : s₁.phase b = s.phase b := by
    refine (step_move hs₁).frame b ?_
    cases a <;> exact Ne.symm hab
  have hb₁ : s₁.cell.Dialling b := by
    rw [Cell.Dialling, cell_phase, hframe]
    exact hb
  obtain ⟨s₂, hs₂, hshared₂⟩ := exists_store cfg hb₁
  refine ⟨[storeEvent a, storeEvent b], s₂, Machine.run_cons_eq_some.mpr ⟨s₁, hs₁,
    Machine.run_cons_eq_some.mpr ⟨s₂, hs₂, rfl⟩⟩, ?_⟩
  rw [oneConnection_iff, hshared₂, hshared₁]
  exact not_tidy_of_two_stores _

end KeyRun

/-- **One connection.** At most one stored connection is open and every replaced or cleared one is
closed, as long as no replacement begins while another is between its begin and its store. -/
theorem one_connection {cfg : AuthConf} {start : ℕ} {es : List KeyEvent} {s : KeyRun}
    (hrun : (keyMachine cfg).run (.new start) es = some s) :
    ((keyMachine cfg).Along KeyRun.BeginsAlone (.new start) es → s.OneConnection) ∧
      ∀ e s', (keyMachine cfg).step s e = some s' → ¬ s.BeginsAlone e →
        ∃ fs s'', (keyMachine cfg).run s' fs = some s'' ∧ ¬ s''.OneConnection := by
  constructor
  · intro halone
    have hinv := Machine.invariant_along (I := fun s ↦ Inv s.cell)
      (fun _ _ _ hs hP h ↦ KeyRun.inv_step hs hP h) (KeyRun.inv_new start) halone hrun
    exact KeyRun.oneConnection_iff.mpr hinv.tidy
  · intro e s' hstep hoverlap
    obtain ⟨hbegins, hsome⟩ := Classical.not_imp.mp hoverlap
    rw [KeyRun.no_dialling_iff] at hsome
    obtain ⟨b, hb⟩ := not_forall_not.mp hsome
    have hmove := KeyRun.step_move hstep
    rw [hbegins] at hmove
    obtain ⟨ha, ha'⟩ := hmove.begins_dialling
    have hne : b ≠ s.mover e := fun hba ↦ ha (hba ▸ hb)
    have hb' : s'.cell.Dialling b := by
      rw [Cell.Dialling, hmove.frame b hne]
      exact hb
    exact KeyRun.exists_run_not_oneConnection ha' hb' (Ne.symm hne)

/-- After the first session a refresh fails, and the loop is about to close the connection. -/
def lostConnection : List KeyEvent :=
  (firstAuth 30).map .auth ++ [.ok, .ok, .ok, .ok, .ok, .now 40000000000, .fail, .ok,
    .now 40000000000].map fun answer ↦ .auth (.goroutine 0 answer)

/-- The loop is about to reconnect, and an API key operation begins to dial. -/
def keyDial : List KeyEvent :=
  lostConnection ++ [.auth (.goroutine 0 .ok), .auth (.goroutine 0 (.now 40000000000)), .call,
    .key 0 .ok, .key 0 .ok, .key 0 .ok]

/-- The operation stores its connection, and no other replacement is on the way. The loop would
overlap with it. -/
theorem one_connection_keyDial :
    (∃ s, (keyMachine fiveMinutes).run (.new 1) (keyDial ++ [.key 0 (.dialled [10] 40000000000)]) =
        some s ∧ s.auth.conn = some 1 ∧ s.OneConnection) ∧
      ∃ s s' fs s'', (keyMachine fiveMinutes).run (.new 1) keyDial = some s ∧
        (keyMachine fiveMinutes).step s (.auth (.goroutine 0 .ok)) = some s' ∧
        (keyMachine fiveMinutes).run s' fs = some s'' ∧ ¬ s''.OneConnection := by
  have hstore : (keyMachine fiveMinutes).run (.new 1)
      (keyDial ++ [.key 0 (.dialled [10] 40000000000)]) = some _ := rfl
  obtain ⟨s, s', hrun, hstep, hoverlap⟩ : ∃ s s',
      (keyMachine fiveMinutes).run (.new 1) keyDial = some s ∧
      (keyMachine fiveMinutes).step s (.auth (.goroutine 0 .ok)) = some s' ∧
      ¬ s.BeginsAlone (.auth (.goroutine 0 .ok)) := ⟨_, _, rfl, rfl, by decide⟩
  obtain ⟨fs, s'', hfs, hnot⟩ := (one_connection hrun).2 _ s' hstep hoverlap
  exact ⟨⟨_, hstore, rfl, (one_connection hstore).1 (by decide)⟩, s, s', fs, s'', hrun, hstep, hfs,
    hnot⟩

/-- The loop begins to reconnect while the operation dials; both store. The connection of the
operation stays open, and nobody will close it. -/
theorem connection_left_open :
    ∃ s, (keyMachine fiveMinutes).run (.new 1)
        (keyDial ++ [.auth (.goroutine 0 .ok), .key 0 (.dialled [10] 40000000000),
          .auth (.goroutine 0 (.dialled [10] 40000000000))]) = some s ∧
      s.auth.conn = some 2 ∧ s.auth.closed 1 = false ∧ s.auth.closed 2 = false ∧
      ¬ s.OneConnection := by
  refine ⟨_, rfl, rfl, rfl, rfl, fun h ↦ ?_⟩
  exact absurd (h.one 1 2 rfl rfl) (by decide)

/-! ## The second read -/

namespace KeyRun

variable {s s' : KeyRun} {cfg : AuthConf} {e : KeyEvent}

/-- Whoever is to read `conn` again, after it has reconnected, finds a connection. -/
def RereadsConn (s : KeyRun) : Prop := s.anyone .rereading = true → s.auth.conn ≠ none

instance (s : KeyRun) : Decidable s.RereadsConn :=
  inferInstanceAs (Decidable (s.anyone .rereading = true → s.auth.conn ≠ none))

/-- `conn` is cleared without `tcpMu` only while nobody is about to read it again. -/
def ClearsUnread (s : KeyRun) (e : KeyEvent) : Prop :=
  s.clears e = true → s.anyone .rereading = false

instance (s : KeyRun) : DecidablePred s.ClearsUnread := fun e ↦
  inferInstanceAs (Decidable (s.clears e = true → s.anyone .rereading = false))

theorem rereadsConn_iff : s.RereadsConn ↔ Ready s.cell := by
  rw [RereadsConn, ← Bool.not_eq_false, no_rereading_iff, not_forall_not]
  exact forall_exists_index

theorem excl_new (start : ℕ) : Excl (new start).cell where
  locked a ha := by
    rw [cell_phase, phase_new] at ha
    cases ha
  alone a b ha := by
    rw [cell_phase, phase_new] at ha
    cases ha
  rereading a ha := by
    rw [Cell.Rereading, cell_phase, phase_new] at ha
    cases ha

theorem rereadsConn_step_iff (hs : Excl s.cell) (hready : s.RereadsConn)
    (h : (keyMachine cfg).step s e = some s') : s'.RereadsConn ↔ s.ClearsUnread e := by
  rw [rereadsConn_iff, hs.ready_move_iff (rereadsConn_iff.mp hready) (step_move h), ClearsUnread,
    no_rereading_iff]

end KeyRun

/-- **No nil connection.** A call that has reconnected finds a connection when it reads `conn`
again, exactly when no step clears `conn` without `tcpMu` between its reconnect and that read. -/
theorem reread_finds_connection_iff {cfg : AuthConf} {start : ℕ} {es : List KeyEvent}
    {s : KeyRun} (hrun : (keyMachine cfg).run (.new start) es = some s) :
    (∀ fs m, fs <+: es → (keyMachine cfg).run (.new start) fs = some m → m.RereadsConn) ↔
      (keyMachine cfg).Along KeyRun.ClearsUnread (.new start) es :=
  Machine.forall_run_iff_along (J := fun s ↦ Excl s.cell)
    (fun _ _ _ hs h ↦ hs.move (KeyRun.step_move h))
    (fun _ _ _ hs hready h ↦ KeyRun.rereadsConn_step_iff hs hready h)
    (KeyRun.excl_new start) nofun hrun

/-- The operation reconnects while the loop waits. -/
theorem reread_finds_connection_keyDial :
    ∃ s, (keyMachine fiveMinutes).run (.new 1)
        (keyDial ++ [.key 0 (.dialled [10] 40000000000), .key 0 .ok]) = some s ∧
      s.calls = [.send 1] ∧
      ∀ fs m, fs <+: keyDial ++ [.key 0 (.dialled [10] 40000000000), .key 0 .ok] →
        (keyMachine fiveMinutes).run (.new 1) fs = some m → m.RereadsConn := by
  have hrun : (keyMachine fiveMinutes).run (.new 1)
      (keyDial ++ [.key 0 (.dialled [10] 40000000000), .key 0 .ok]) = some _ := rfl
  exact ⟨_, hrun, rfl, (reread_finds_connection_iff hrun).mpr (by decide)⟩

/-- The loop closes and clears the connection that an API key operation has just stored, and the
operation reads nil. -/
theorem reread_finds_nil :
    ∃ s, (keyMachine fiveMinutes).run (.new 1)
        (lostConnection ++ [.auth .forceReconnect, .call, .key 0 .ok, .key 0 .ok, .key 0 .ok,
          .key 0 (.dialled [10] 40000000000), .auth (.goroutine 0 .ok)]) = some s ∧
      s.calls = [.reread] ∧ s.auth.conn = none ∧ ¬ s.RereadsConn :=
  ⟨_, rfl, rfl, rfl, by decide⟩

end DroneBridge
