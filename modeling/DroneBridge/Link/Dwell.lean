import DroneBridge.Link.Recovery

/-!
# How long a link is kept

A link that was entered at `t` is judged only from `t + loss` on. Two mechanisms make this so: a
UART is entered with `holdUntil = t + loss`, and Ethernet is kept while less than `loss` has passed
since `entered`. The hold of a UART gives way in two cases, to a recovered Ethernet and to a UART
whose channel is gone.

The second half draws the conclusion for flapping: while no active UART is unregistered, any three
consecutive link changes span at least `loss`, since only a recovery can cut a stay short and the
stay on Ethernet that follows a recovery is a full one.
-/

namespace DroneBridge

/-! ## The dwell of one decision -/

/-- A UART is held for the loss timeout from its entry. -/
def HoldInv (loss : ℤ) (s : LinkSnap) : Prop :=
  s.active ≠ .eth → (s.holdUntil : ℤ) = s.entered + loss

section Move

variable {s s' : LinkSnap} {now : ℕ} {fresh isOpen : LinkID → Bool} {loss recoverN : ℤ}
  {reason : LinkReason}

theorem LinkMove.holdInv (hm : LinkMove s now fresh isOpen loss recoverN s' reason)
    (hloss : 0 < loss) (h : HoldInv loss s) : HoldInv loss s' := by
  rcases hm with _ | _ | _ | ⟨_, hact⟩ | _ | _ | _ | _ | _ | _ | _
  case recovered => exact fun hne ↦ absurd rfl hne
  case ethStranded => exact fun hne ↦ absurd hact hne
  case held | ethKept | telem2Kept | telem2Stranded | telem3Kept => exact h
  all_goals exact fun _ ↦ Clock.coe_add (Int.le_of_lt hloss)

theorem LinkMove.dwell_eth (hm : LinkMove s now fresh isOpen loss recoverN s' reason)
    (heth : s.active = .eth) (hne : s'.active ≠ s.active) : (s.entered : ℤ) + loss ≤ now := by
  rcases hm with h | _ | _ | _ | ⟨_, _, _, hdwell⟩ | ⟨_, _, _, hdwell⟩ | ⟨_, _, hact⟩ |
    ⟨_, _, hact⟩ | ⟨_, _, hact⟩ | ⟨_, _, hact⟩ | ⟨_, _, hact⟩
  case recovered => exact absurd heth h.1
  case ethLost | ethLostTelem2Absent => exact hdwell
  case telem2Lost | telem2Restored => rw [heth] at hact; exact absurd hact (by decide)
  all_goals exact absurd rfl hne

/-- A UART is left before its window ends only for a recovered Ethernet or for want of a
channel. -/
theorem LinkMove.dwell_uart (hm : LinkMove s now fresh isOpen loss recoverN s' reason)
    (hloss : 0 < loss) (hhold : HoldInv loss s) (heth : s.active ≠ .eth)
    (hne : s'.active ≠ s.active) :
    (s.entered : ℤ) + loss ≤ now ∨ reason = .ethRecovered ∨ isOpen s.active = false := by
  have hpast : ¬s.Held now isOpen → (s.entered : ℤ) + loss ≤ now ∨ isOpen s.active = false := by
    intro hheld
    have huntil := hhold heth
    rw [LinkSnap.Held, not_and_or, not_and_or, Bool.not_eq_true] at hheld
    rcases hheld with hzero | hlate | hclosed
    · exact .inl (by omega)
    · exact .inl (by omega)
    · exact .inr hclosed
  rcases hm with _ | _ | _ | _ | ⟨_, hact⟩ | ⟨_, hact⟩ | _ | ⟨_, hheld⟩ | _ | ⟨_, hheld⟩ | _
  case recovered => exact .inr (.inl rfl)
  case ethLost | ethLostTelem2Absent => exact absurd hact heth
  case telem2Lost | telem2Restored => exact (hpast hheld).imp_right .inr
  all_goals exact absurd rfl hne

theorem LinkMove.isOpen_of_enter (hm : LinkMove s now fresh isOpen loss recoverN s' reason)
    (hne : s'.active ≠ s.active) : isOpen s'.active = true := by
  rcases hm with ⟨_, _, _, _, hopen⟩ | _ | _ | _ | ⟨_, _, _, _, hopen⟩ |
    ⟨_, _, _, _, _, hopen⟩ | _ | ⟨_, _, _, _, hopen⟩ | _ | ⟨_, _, _, _, hopen⟩ | _
  all_goals first | exact hopen | exact absurd rfl hne

end Move

theorem lossOrDefault_of_pos {loss : ℤ} (h : 0 < loss) : lossOrDefault loss = loss :=
  if_neg (by omega)

/-! ## Runs with fixed parameters -/

def LinkEvent.isConfigure : LinkEvent → Bool
  | .configure .. => true
  | _ => false

/-- The invariant of a run whose loss timeout stays `loss`. -/
structure DwellInv (loss : ℤ) (r : LinkRun) : Prop where
  inv : r.Inv
  loss_eq : r.arb.loss = loss
  hold : HoldInv loss r.arb.snap

theorem DwellInv.step {loss : ℤ} (hpos : 0 < loss) {r r' : LinkRun} {e : LinkEvent}
    (h : DwellInv loss r) (he : e.isConfigure = false) (hstep : linkMachine.step r e = some r') :
    DwellInv loss r' := by
  refine ⟨h.inv.step_inv hstep, ?_, ?_⟩
  all_goals
    rcases e with c | c | ⟨id, now⟩ | now | _
  · cases hstep; rw [Px4Arbiter.register]; split <;> exact h.loss_eq
  · cases hstep; cases c <;> exact h.loss_eq
  · cases hstep; rw [Px4Arbiter.noteHeartbeat]; split <;> exact h.loss_eq
  · obtain ⟨-, rfl⟩ := linkMachine_evaluate_eq_some.mp hstep; exact h.loss_eq
  · exact absurd he (by simp [LinkEvent.isConfigure])
  · cases hstep; simpa using h.hold
  · cases hstep; simpa using h.hold
  · cases hstep
    obtain ⟨n, hn⟩ := r.arb.noteHeartbeat_snap id now
    dsimp only
    rw [hn]
    exact h.hold
  · obtain ⟨-, rfl⟩ := linkMachine_evaluate_eq_some.mp hstep
    have hmove := Px4Arbiter.evaluate_move h.inv.snap.active_ne_none now
    rw [h.loss_eq, lossOrDefault_of_pos hpos] at hmove
    exact hmove.holdInv hpos h.hold
  · exact absurd he (by simp [LinkEvent.isConfigure])

theorem DwellInv.of_run {loss : ℤ} (hpos : 0 < loss) {r r' : LinkRun} {es : List LinkEvent}
    (h : DwellInv loss r) (hes : ∀ e ∈ es, e.isConfigure = false)
    (hrun : linkMachine.run r es = some r') : DwellInv loss r' :=
  Machine.invariant_along (fun _ _ _ h he hstep ↦ h.step hpos he hstep) h
    (Machine.along_of_forall hes r) hrun

theorem LinkRun.Init.dwellInv {r : LinkRun} (h : r.Init) : DwellInv r.arb.loss r :=
  ⟨h.inv, rfl, fun hne ↦ absurd h.active hne⟩

/-- The exit of a health check in a run with a fixed positive timeout. -/
theorem DwellInv.evaluate_move {loss : ℤ} (hpos : 0 < loss) {r : LinkRun} (h : DwellInv loss r)
    (now : ℕ) :
    LinkMove r.arb.snap now (r.arb.fresh now) r.arb.isOpen loss
      (recoverNOrDefault r.arb.recoverN) (r.arb.evaluate now).1.snap (r.arb.evaluate now).2 := by
  have hmove := Px4Arbiter.evaluate_move h.inv.snap.active_ne_none now
  rwa [h.loss_eq, lossOrDefault_of_pos hpos] at hmove

/-! ## When a link was entered -/

def LinkChange (r : LinkRun) (t : ℕ) (r' : LinkRun) : Prop :=
  linkMachine.step r (.evaluate t) = some r' ∧ r'.arb.snap.active ≠ r.arb.snap.active

/-- The run `es` leads from `r` to `r'` and no step of it changes the link. -/
def Quiet (r : LinkRun) (es : List LinkEvent) (r' : LinkRun) : Prop :=
  linkMachine.run r es = some r' ∧
    linkMachine.Along
      (fun r e ↦ ∀ r', linkMachine.step r e = some r' → r'.arb.snap.active = r.arb.snap.active) r es

/-- The active link was entered at `t`: by the last change of the run or, when there is none, before
it. -/
def EnteredAt (r₀ : LinkRun) (es : List LinkEvent) (r : LinkRun) (t : ℕ) : Prop :=
  (∃ pre post r₁ r₂, es = pre ++ .evaluate t :: post ∧ linkMachine.run r₀ pre = some r₁ ∧
    LinkChange r₁ t r₂ ∧ Quiet r₂ post r) ∨
  (Quiet r₀ es r ∧ t = r₀.arb.snap.entered)

theorem entered_of_step {r r' : LinkRun} {e : LinkEvent} (h : r.Inv)
    (he : e.isConfigure = false) (hstep : linkMachine.step r e = some r')
    (hact : r'.arb.snap.active = r.arb.snap.active) :
    r'.arb.snap.entered = r.arb.snap.entered := by
  rcases e with c | c | ⟨id, now⟩ | now | _
  · cases hstep; simp
  · cases hstep; simp
  · cases hstep
    obtain ⟨n, hn⟩ := r.arb.noteHeartbeat_snap id now
    dsimp only
    rw [hn]
  · obtain ⟨-, rfl⟩ := linkMachine_evaluate_eq_some.mp hstep
    have hentered := (Px4Arbiter.evaluate_move h.snap.active_ne_none now).entered
    rw [hentered, if_pos hact]
  · exact absurd he (by simp [LinkEvent.isConfigure])

theorem Quiet.entered {r r' : LinkRun} {es : List LinkEvent} (h : r.Inv) (hq : Quiet r es r')
    (hes : ∀ e ∈ es, e.isConfigure = false) :
    r'.arb.snap.active = r.arb.snap.active ∧ r'.arb.snap.entered = r.arb.snap.entered := by
  have hI := Machine.invariant_along
    (I := fun q ↦ q.Inv ∧ q.arb.snap.active = r.arb.snap.active ∧
      q.arb.snap.entered = r.arb.snap.entered) ?_ ⟨h, rfl, rfl⟩
    (hq.2.and (Machine.along_of_forall hes r)) hq.1
  · exact hI.2
  · rintro q e q' ⟨hinv, hact, hent⟩ ⟨hquiet, he⟩ hstep
    have hact' := hquiet q' hstep
    exact ⟨hinv.step_inv hstep, hact'.trans hact,
      (entered_of_step hinv he hstep hact').trans hent⟩

theorem LinkChange.entered {r r' : LinkRun} {t : ℕ} (h : r.Inv) (hc : LinkChange r t r') :
    r'.arb.snap.entered = t := by
  obtain ⟨hstep, hne⟩ := hc
  obtain ⟨-, rfl⟩ := linkMachine_evaluate_eq_some.mp hstep
  have hentered := (Px4Arbiter.evaluate_move h.snap.active_ne_none t).entered
  rw [hentered, if_neg hne]

theorem EnteredAt.entered {r₀ r : LinkRun} {es : List LinkEvent} {t : ℕ} (h₀ : r₀.Inv)
    (hes : ∀ e ∈ es, e.isConfigure = false) (hent : EnteredAt r₀ es r t) :
    r.arb.snap.entered = t := by
  rcases hent with ⟨pre, post, r₁, r₂, rfl, hpre, hchange, hquiet⟩ | ⟨hquiet, rfl⟩
  · have h₁ : r₁.Inv := Machine.invariant (fun _ _ _ h hstep ↦ h.step_inv hstep) h₀ hpre
    have hpost : ∀ e ∈ post, e.isConfigure = false := fun e he ↦ hes e (by simp [he])
    exact (hquiet.entered (h₁.step_inv hchange.1) hpost).2.trans (hchange.entered h₁)
  · exact (hquiet.entered h₀ hes).2

/-- The dwell of a link change, read off the state before it. -/
theorem DwellInv.dwell {loss : ℤ} (hpos : 0 < loss) {r r' : LinkRun} {t : ℕ}
    (h : DwellInv loss r) (hc : LinkChange r t r') :
    (r.arb.snap.entered : ℤ) + loss ≤ t ∨
    ((r.arb.evaluate t).2 = .ethRecovered ∧ r.arb.snap.active.isUart = true) ∨
    (r.arb.snap.active.isUart = true ∧ r.arb.ch r.arb.snap.active = none) := by
  obtain ⟨hstep, hne⟩ := hc
  obtain ⟨-, rfl⟩ := linkMachine_evaluate_eq_some.mp hstep
  have hmove := h.evaluate_move hpos t
  have hnone := h.inv.snap.active_ne_none
  by_cases heth : r.arb.snap.active = .eth
  · exact .inl (hmove.dwell_eth heth hne)
  · have huart : r.arb.snap.active.isUart = true := by
      rw [LinkID.isUart_iff]
      cases hact : r.arb.snap.active <;> simp_all
    rcases hmove.dwell_uart hpos h.hold heth hne with hdwell | hrec | hclosed
    · exact .inl hdwell
    · exact .inr (.inl ⟨hrec, huart⟩)
    · refine .inr (.inr ⟨huart, ?_⟩)
      rw [← Bool.not_eq_true, Px4Arbiter.isOpen_eq_true_iff, not_and, Bool.not_eq_true,
        Option.isSome_eq_false_iff, Option.isNone_iff_eq_none] at hclosed
      exact hclosed hnone

/-! ## No flapping -/

/-- The step does not unregister the channel of an active UART. -/
def KeepsActiveUart (r : LinkRun) (e : LinkEvent) : Prop :=
  ∀ c, e = .unregister (some c) → r.arb.snap.active.isUart = true →
    r.arb.ch r.arb.snap.active ≠ some c

/-- A registered channel of the active UART survives a step that keeps it. -/
theorem isSome_ch_of_step {r r' : LinkRun} {e : LinkEvent} (hkeep : KeepsActiveUart r e)
    (hstep : linkMachine.step r e = some r') (huart : r.arb.snap.active.isUart = true)
    (hopen : (r.arb.ch r.arb.snap.active).isSome = true) :
    (r'.arb.ch r.arb.snap.active).isSome = true := by
  rcases e with c | c | ⟨id, now⟩ | now | _
  · cases hstep
    rw [Px4Arbiter.register]
    split
    case isTrue => exact hopen
    case isFalse hid =>
      dsimp only
      split
      case isTrue =>
        -- Only a real channel is identified with a link.
        cases c with
        | none => exact absurd rfl hid
        | some c => rfl
      case isFalse => exact hopen
  · cases hstep
    cases c with
    | none => exact hopen
    | some c =>
      have hne := hkeep c rfl huart
      simpa [Px4Arbiter.unregister, hne] using hopen
  · cases hstep; rw [Px4Arbiter.noteHeartbeat]; split <;> exact hopen
  · obtain ⟨-, rfl⟩ := linkMachine_evaluate_eq_some.mp hstep; exact hopen
  · cases hstep; exact hopen

/-- A UART that is entered with an open channel and kept is open until it is left. -/
theorem Quiet.isSome_ch {r r' : LinkRun} {es : List LinkEvent} (hq : Quiet r es r')
    (hkeep : linkMachine.Along KeepsActiveUart r es) (huart : r.arb.snap.active.isUart = true)
    (hopen : (r.arb.ch r.arb.snap.active).isSome = true) :
    (r'.arb.ch r'.arb.snap.active).isSome = true := by
  have hI := Machine.invariant_along
    (I := fun q ↦ q.arb.snap.active = r.arb.snap.active ∧
      (q.arb.ch q.arb.snap.active).isSome = true) ?_ ⟨rfl, hopen⟩ (hq.2.and hkeep) hq.1
  · exact hI.2
  · rintro q e q' ⟨hact, hq⟩ ⟨hquiet, hkeep⟩ hstep
    have hact' := hquiet q' hstep
    refine ⟨hact'.trans hact, ?_⟩
    rw [hact']
    exact isSome_ch_of_step hkeep hstep (hact ▸ huart) hq

theorem clock_le_of_step {r r' : LinkRun} {e : LinkEvent}
    (hstep : linkMachine.step r e = some r') : r.clock ≤ r'.clock := by
  rcases e with c | c | ⟨id, now⟩ | now | _
  case evaluate =>
    obtain ⟨hle, rfl⟩ := linkMachine_evaluate_eq_some.mp hstep
    exact hle
  all_goals cases hstep; exact Nat.le_refl _

theorem clock_le_of_run {r r' : LinkRun} {es : List LinkEvent}
    (hrun : linkMachine.run r es = some r') : r.clock ≤ r'.clock :=
  Machine.invariant (I := fun q ↦ r.clock ≤ q.clock)
    (fun _ _ _ h hstep ↦ Nat.le_trans h (clock_le_of_step hstep)) (Nat.le_refl _) hrun

theorem LinkChange.le_of_quiet {r r₁ r₂ r₃ : LinkRun} {t u : ℕ} {es : List LinkEvent}
    (hc : LinkChange r t r₁) (hq : Quiet r₁ es r₂) (hc' : LinkChange r₂ u r₃) : t ≤ u := by
  obtain ⟨-, rfl⟩ := linkMachine_evaluate_eq_some.mp hc.1
  obtain ⟨hle, -⟩ := linkMachine_evaluate_eq_some.mp hc'.1
  exact Nat.le_trans (clock_le_of_run hq.1) hle

/-- A link entered by a change and kept open is left after a full dwell or by a recovery. -/
theorem DwellInv.dwell_of_change {loss : ℤ} (hpos : 0 < loss) {r r₁ r₂ r₃ : LinkRun} {t u : ℕ}
    {es : List LinkEvent} (h : DwellInv loss r) (hc : LinkChange r t r₁) (hq : Quiet r₁ es r₂)
    (hes : ∀ e ∈ es, e.isConfigure = false) (hkeep : linkMachine.Along KeepsActiveUart r₁ es)
    (hc' : LinkChange r₂ u r₃) :
    (t : ℤ) + loss ≤ u ∨
      ((r₂.arb.evaluate u).2 = .ethRecovered ∧ r₁.arb.snap.active.isUart = true) := by
  have h₁ : DwellInv loss r₁ := h.step hpos rfl hc.1
  have h₂ : DwellInv loss r₂ := h₁.of_run hpos hes hq.1
  obtain ⟨hact, hent⟩ := hq.entered h₁.inv hes
  have hdwell := h₂.dwell hpos hc'
  rw [hent, hc.entered h.inv, hact] at hdwell
  rcases hdwell with hdwell | hrec | ⟨huart, hnone⟩
  · exact .inl hdwell
  · exact .inr hrec
  · -- The channel was open when the UART was entered and has been kept since.
    have hopen : (r₁.arb.ch r₁.arb.snap.active).isSome = true := by
      obtain ⟨hstep, hne⟩ := hc
      obtain ⟨-, rfl⟩ := linkMachine_evaluate_eq_some.mp hstep
      exact (Px4Arbiter.isOpen_eq_true_iff.mp
        ((h.evaluate_move hpos t).isOpen_of_enter hne)).2
    have hsome := hq.isSome_ch hkeep huart hopen
    rw [hact, hnone] at hsome
    exact absurd hsome (by simp)

/-- **Dwell and no flapping.** A link entered at `t` is left no earlier than `t + loss`, unless a
UART is left for a recovered Ethernet or has no channel. Otherwise three link changes span at least
`loss`. -/
theorem link_dwell {r₀ : LinkRun} (h₀ : r₀.Init) (hpos : 0 < r₀.arb.loss) {es : List LinkEvent}
    (hes : ∀ e ∈ es, e.isConfigure = false) {r : LinkRun}
    (hrun : linkMachine.run r₀ es = some r) :
    (∀ t now r', EnteredAt r₀ es r t → LinkChange r now r' →
      (t : ℤ) + r₀.arb.loss ≤ now ∨
      ((r.arb.evaluate now).2 = .ethRecovered ∧ r.arb.snap.active.isUart = true) ∨
      r.arb.ch r.arb.snap.active = none) ∧
    (∀ t₁ t₂ t₃ m₁ m₂ r₁ r₂ r₃ r₄ r₅, LinkChange r t₁ r₁ → Quiet r₁ m₁ r₂ →
      LinkChange r₂ t₂ r₃ → Quiet r₃ m₂ r₄ → LinkChange r₄ t₃ r₅ →
      (∀ e ∈ m₁ ++ m₂, e.isConfigure = false) →
      linkMachine.Along KeepsActiveUart r₁ m₁ → linkMachine.Along KeepsActiveUart r₃ m₂ →
      (t₁ : ℤ) + r₀.arb.loss ≤ t₃) := by
  have hdw : DwellInv r₀.arb.loss r := h₀.dwellInv.of_run hpos hes hrun
  constructor
  · intro t now r' hent hchange
    have hdwell := hdw.dwell hpos hchange
    rw [hent.entered h₀.inv hes] at hdwell
    exact hdwell.imp_right (Or.imp_right And.right)
  · intro t₁ t₂ t₃ m₁ m₂ r₁ r₂ r₃ r₄ r₅ hc₁ hq₁ hc₂ hq₂ hc₃ hm hk₁ hk₂
    have hm₁ : ∀ e ∈ m₁, e.isConfigure = false := fun e he ↦ hm e (by simp [he])
    have hm₂ : ∀ e ∈ m₂, e.isConfigure = false := fun e he ↦ hm e (by simp [he])
    have h₁₂ := hc₁.le_of_quiet hq₁ hc₂
    have h₂₃ := hc₂.le_of_quiet hq₂ hc₃
    rcases hdw.dwell_of_change hpos hc₁ hq₁ hm₁ hk₁ hc₂ with hdwell | ⟨hrec, -⟩
    · omega
    · -- The second change is a recovery, so the third leaves an Ethernet entered at `t₂`.
      have hdw₂ : DwellInv r₀.arb.loss r₂ := (hdw.step hpos rfl hc₁.1).of_run hpos hm₁ hq₁.1
      rcases hdw₂.dwell_of_change hpos hc₂ hq₂ hm₂ hk₂ hc₃ with hdwell | ⟨-, huart⟩
      · omega
      · have heth : r₃.arb.snap.active = .eth := by
          obtain ⟨-, rfl⟩ := linkMachine_evaluate_eq_some.mp hc₂.1
          have hmove := hdw₂.evaluate_move hpos t₂
          rw [hrec] at hmove
          exact hmove.recovers.2
        rw [heth] at huart
        exact absurd huart (by decide)

/-- Ethernet was entered at start; the failover to TELEM2 three seconds later comes after a full
dwell. -/
theorem link_dwell_failover :
    ∃ r r', linkMachine.run (.start 1) [.register (some ⟨1, some (.serial "/dev/ttyAMA2")⟩)] =
        some r ∧ LinkChange r 3000000000 r' ∧
      ((1 : ℤ) + 2 * Clock.second ≤ 3000000000 ∨
        ((r.arb.evaluate 3000000000).2 = .ethRecovered ∧ r.arb.snap.active.isUart = true) ∨
        r.arb.ch r.arb.snap.active = none) := by
  have h₀ : (LinkRun.start 1).Init := LinkRun.init_start Nat.one_pos
  have hrun : linkMachine.run (.start 1)
      [.register (some ⟨1, some (.serial "/dev/ttyAMA2")⟩)] = some _ := rfl
  have hquiet : Quiet (.start 1) [.register (some ⟨1, some (.serial "/dev/ttyAMA2")⟩)] _ :=
    ⟨hrun, fun r' hr' ↦ by cases hr'; decide, fun _ _ ↦ trivial⟩
  have hdwell := link_dwell h₀ (by decide) (by decide) hrun
  refine ⟨_, _, hrun, ⟨rfl, by decide⟩, ?_⟩
  exact hdwell.1 1 3000000000 _ (.inr ⟨hquiet, rfl⟩) ⟨rfl, by decide⟩

end DroneBridge
