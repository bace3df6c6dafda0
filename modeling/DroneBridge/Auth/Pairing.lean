import DroneBridge.Auth.Client

/-!
# Which reply an operation takes

Requests and replies are paired by their order on the connection alone. An operation that finds
the connection with a request unanswered or a reply unread takes the wrong reply, if its type fits:
after a time-out the connection stays open, and the late reply is the next to be read. The mutex
does not prevent it, since it is released on the time-out, and the session request and the
authentication do not take it at all.

The condition under which each operation takes its own reply speaks about the moment of sending:
nothing is outstanding on the connection. Then, at any time, all that is outstanding on a connection
is owed to one operation, the one that waits there.
-/

namespace DroneBridge

namespace Client

/-- A request is sent on a connection with nothing outstanding. -/
def sendsClean (s : Client) : ClientEvent → Bool
  | .send i =>
    match s.operations[i]? with
    | some ⟨_, .ready c _⟩ =>
      match s.conns[c]? with
      | some conn => conn.channel.isClean
      | none => true
    | _ => true
  | _ => true

/-! ## Waiting operations -/

/-- The operation `i` waits on the connection `c` for the reply to the request `r`. -/
def Waits (s : Client) (i c r : ℕ) : Prop :=
  ∃ kind expected todo, s.operations[i]? = some ⟨kind, .waiting c r expected todo⟩

def channel? (s : Client) (c : ℕ) : Option (ReplyChannel UInt8) := s.conns[c]?.map TCPConn.channel

/-- What a connection owes is owed to the one operation that waits there, and every reply taken was
the operation's own. -/
structure PairInv (s : Client) : Prop where
  owes : ∀ i c r, s.Waits i c r → ∃ ch, s.channel? c = some ch ∧ ch.Owes r
  lt_sent : ∀ i c r, s.Waits i c r → r < s.sent
  unique : ∀ i j c c' r, s.Waits i c r → s.Waits j c' r → i = j
  own : ∀ a ∈ s.accepted, a.chunk ≠ [] ∧ ∀ b ∈ a.chunk, b.1 = a.request

theorem PairInv.new : PairInv new := by
  refine ⟨?_, ?_, ?_, fun a ha ↦ absurd ha List.not_mem_nil⟩
  · rintro i c r ⟨kind, expected, todo, hop⟩
    exact absurd hop (by simp [Client.new])
  · rintro i c r ⟨kind, expected, todo, hop⟩
    exact absurd hop (by simp [Client.new])
  · rintro i j c c' r ⟨kind, expected, todo, hop⟩ -
    exact absurd hop (by simp [Client.new])

/-! ## Steps that neither send nor read -/

variable {forceFresh : Bool} {s s₁ s' s'' : Client} {i c r n : ℕ} {kind : OpKind}
  {bytes : List UInt8}

/-- Nothing is sent, nothing is taken, no channel changes but for new ones, and nobody starts to
wait. -/
structure Quiet (s s' : Client) : Prop where
  sent : s'.sent = s.sent
  accepted : s'.accepted = s.accepted
  channel : ∀ c ch, s.channel? c = some ch → s'.channel? c = some ch
  fresh : ∀ c ch, s'.channel? c = some ch → s.channel? c = some ch ∨ ch = .new
  waits : ∀ i c r, s'.Waits i c r → s.Waits i c r

theorem PairInv.quiet (h : PairInv s) (hq : Quiet s s') : PairInv s' := by
  refine ⟨fun i c r hw ↦ ?_, fun i c r hw ↦ ?_, fun i j c c' r hi hj ↦ ?_, ?_⟩
  · obtain ⟨ch, hch, howes⟩ := h.owes i c r (hq.waits i c r hw)
    exact ⟨ch, hq.channel c ch hch, howes⟩
  · rw [hq.sent]
    exact h.lt_sent i c r (hq.waits i c r hw)
  · exact h.unique i j c c' r (hq.waits i c r hi) (hq.waits j c' r hj)
  · rw [hq.accepted]
    exact h.own

theorem Quiet.trans (h : Quiet s s') (h' : Quiet s' s'') : Quiet s s'' :=
  ⟨h'.sent.trans h.sent, h'.accepted.trans h.accepted,
    fun c ch hch ↦ h'.channel c ch (h.channel c ch hch),
    fun c ch hch ↦ (h'.fresh c ch hch).elim (h.fresh c ch) Or.inr,
    fun i c r hw ↦ h.waits i c r (h'.waits i c r hw)⟩

theorem quiet_of_eq (hsent : s'.sent = s.sent) (hacc : s'.accepted = s.accepted)
    (hconns : s'.conns = s.conns) (hops : s'.operations = s.operations) : Quiet s s' := by
  refine ⟨hsent, hacc, fun c ch hch ↦ ?_, fun c ch hch ↦ Or.inl ?_, fun i c r hw ↦ ?_⟩
  · rwa [channel?, hconns]
  · rwa [channel?, hconns] at hch
  · rwa [Waits, hops] at hw

/-- `Quiet`, and the operation `i` does not wait afterwards. -/
structure Leaves (i : ℕ) (s s' : Client) : Prop where
  quiet : Quiet s s'
  not_waits : ∀ c r, ¬s'.Waits i c r

theorem Quiet.leaves (h : Quiet s s') (h' : Leaves i s' s'') :
    Leaves i s s'' := ⟨h.trans h'.quiet, h'.not_waits⟩

theorem leaves_setPc (s : Client) (i : ℕ) {pc : OpPc}
    (hpc : ∀ c r expected todo, pc ≠ .waiting c r expected todo) :
    Leaves i s (s.setPc i pc) := by
  refine ⟨⟨rfl, rfl, fun _ _ hch ↦ hch, fun _ _ hch ↦ Or.inl hch, ?_⟩, ?_⟩
  · rintro j c r ⟨kind, expected, todo, hop⟩
    rw [setPc, List.getElem?_modify] at hop
    obtain ⟨op, hop', heq⟩ := Option.map_eq_some_iff.mp hop
    by_cases hij : i = j
    · rw [if_pos hij] at heq
      exact absurd (congrArg Operation.pc heq) (hpc c r expected todo)
    · rw [if_neg hij] at heq
      exact ⟨kind, expected, todo, heq ▸ hop'⟩
  · rintro c r ⟨kind, expected, todo, hop⟩
    rw [setPc, List.getElem?_modify] at hop
    obtain ⟨op, -, heq⟩ := Option.map_eq_some_iff.mp hop
    rw [if_pos rfl] at heq
    exact hpc c r expected todo (congrArg Operation.pc heq)

theorem quiet_lock (h : s.lock i = some s') : Quiet s s' := by
  rw [lock] at h
  by_cases hmu : s.tcpMu = none
  · rw [if_pos hmu, Option.some.injEq] at h
    subst h
    exact quiet_of_eq rfl rfl rfl rfl
  · rw [if_neg hmu] at h
    exact absurd h (by simp)

theorem quiet_unlock (s : Client) (i : ℕ) : Quiet s (s.unlock i) := by
  rw [unlock]
  split
  · exact quiet_of_eq rfl rfl rfl rfl
  · exact quiet_of_eq rfl rfl rfl rfl

theorem quiet_closeConn (s : Client) : Quiet s s.closeConn := by
  rw [closeConn]
  split
  · exact quiet_of_eq rfl rfl rfl rfl
  case h_2 c _ =>
    -- Closing leaves the channel, and what is in it, as it was.
    have hsame : ∀ c', (s.conns.modify c fun conn ↦ { conn with closed := true })[c']?.map
        TCPConn.channel = s.channel? c' := by
      intro c'
      rw [channel?, List.getElem?_modify]
      rcases s.conns[c']? with _ | conn
      · rfl
      · by_cases hc : c = c'
        · simp [hc]
        · simp [hc]
    exact ⟨rfl, rfl, fun c' ch hch ↦ (hsame c').trans hch,
      fun c' ch hch ↦ Or.inl ((hsame c').symm.trans hch), fun _ _ _ hw ↦ hw⟩

theorem quiet_closeTCP (s : Client) : Quiet s s.closeTCP :=
  (quiet_closeConn s).trans (quiet_of_eq rfl rfl rfl rfl)

theorem quiet_dial (s : Client) : Quiet s s.dial := by
  refine ⟨rfl, rfl, fun c ch hch ↦ ?_, fun c ch hch ↦ ?_, fun _ _ _ hw ↦ hw⟩
  · obtain ⟨conn, hconn, rfl⟩ := Option.map_eq_some_iff.mp hch
    have hlt : c < s.conns.length := (List.getElem?_eq_some_iff.mp hconn).1
    rw [channel?, dial, List.getElem?_append_left hlt, hconn]
    rfl
  · rw [channel?, dial] at hch
    rcases Nat.lt_or_ge c s.conns.length with hlt | hge
    · rw [List.getElem?_append_left hlt] at hch
      exact Or.inl hch
    · rw [List.getElem?_append_right hge] at hch
      obtain ⟨conn, hconn, rfl⟩ := Option.map_eq_some_iff.mp hch
      rw [List.mem_singleton.mp (List.mem_of_getElem? hconn)]
      exact Or.inr rfl

theorem quiet_reconnectTCP (s : Client) : Quiet s s.reconnectTCP :=
  (quiet_closeConn s).trans (quiet_dial _)

theorem leaves_finish (s : Client) (i : ℕ) : Leaves i s (s.finish i) :=
  (quiet_unlock s i).leaves (leaves_setPc _ i fun _ _ _ _ ↦ by simp)

theorem leaves_abort (s : Client) (i : ℕ) (kind : OpKind) : Leaves i s (s.abort i kind) := by
  rw [abort]
  split
  · exact (quiet_closeTCP s).leaves (leaves_finish _ i)
  · exact leaves_finish s i

theorem quiet_call (s : Client) (kind : OpKind) :
    Quiet s { s with operations := s.operations ++ [⟨kind, .called⟩] } := by
  refine ⟨rfl, rfl, fun _ _ hch ↦ hch, fun _ _ hch ↦ Or.inl hch, ?_⟩
  rintro i c r ⟨kind', expected, todo, hop⟩
  refine ⟨kind', expected, todo, ?_⟩
  rcases Nat.lt_or_ge i s.operations.length with hi | hi
  · rwa [List.getElem?_append_left hi] at hop
  · rw [List.getElem?_append_right hi] at hop
    obtain ⟨hlt, heq⟩ := List.getElem?_eq_some_iff.mp hop
    simp at heq

theorem quiet_lock_setPc {pc : OpPc} (hpc : ∀ c r expected todo, pc ≠ .waiting c r expected todo)
    (h : (s.lock i).map (·.setPc i pc) = some s') : Quiet s s' := by
  obtain ⟨m, hm, rfl⟩ := Option.map_eq_some_iff.mp h
  exact (quiet_lock hm).trans (leaves_setPc m i hpc).quiet

theorem quiet_ready (s : Client) (i c : ℕ) (todo : List ReplyKind) :
    Quiet s (s.setPc i (.ready c todo)) :=
  (leaves_setPc s i fun _ _ _ _ ↦ by simp).quiet

theorem quiet_enter (h : s.enter forceFresh i kind = some s') : Quiet s s' := by
  rcases kind
  case requestVPNProvisioning | requestSession =>
    rw [enter] at h
    split at h
    · obtain rfl := Option.some.inj h
      exact (leaves_finish s i).quiet
    · obtain rfl := Option.some.inj h
      exact (leaves_setPc s i fun _ _ _ _ ↦ by simp).quiet
  case authenticate =>
    rw [enter] at h
    split at h
    · obtain rfl := Option.some.inj h
      exact (leaves_setPc s i fun _ _ _ _ ↦ by simp).quiet
    · split at h
      · obtain rfl := Option.some.inj h
        exact (quiet_closeTCP s).trans (leaves_setPc _ i fun _ _ _ _ ↦ by simp).quiet
      · obtain rfl := Option.some.inj h
        exact quiet_ready s i _ _
  all_goals exact quiet_lock_setPc (fun _ _ _ _ ↦ by simp) h

theorem quiet_advance (h : s.advance forceFresh i = some s') : Quiet s s' := by
  obtain ⟨⟨kind, pc⟩, -, hpc⟩ := Option.bind_eq_some_iff.mp h
  rcases pc
  case called => exact quiet_enter hpc
  case captured c =>
    dsimp only at hpc
    split at hpc
    · exact quiet_lock_setPc (fun _ _ _ _ ↦ by simp) hpc
    · obtain rfl := Option.some.inj hpc
      exact quiet_ready s i _ _
  case holding =>
    dsimp only at hpc
    split at hpc
    · obtain rfl := Option.some.inj hpc
      exact quiet_ready s i _ _
    · obtain rfl := Option.some.inj hpc
      exact (quiet_reconnectTCP s).trans (leaves_setPc _ i fun _ _ _ _ ↦ by simp).quiet
  case redialed =>
    dsimp only at hpc
    split at hpc
    · obtain rfl := Option.some.inj hpc
      exact quiet_ready s i _ _
    · exact absurd hpc (by simp)
  case dialing =>
    obtain rfl := Option.some.inj hpc
    exact (quiet_dial s).trans (quiet_ready _ i _ _)
  case ready | waiting | returned => exact absurd hpc (by simp)

theorem quiet_fail (h : s.fail i = some s') : Quiet s s' := by
  obtain ⟨⟨kind, pc⟩, -, hpc⟩ := Option.bind_eq_some_iff.mp h
  rcases pc
  case called | returned => exact absurd hpc (by simp)
  case captured | holding | redialed | dialing =>
    obtain rfl := Option.some.inj hpc
    exact (leaves_finish s i).quiet
  case ready | waiting =>
    obtain rfl := Option.some.inj hpc
    exact (leaves_abort s i kind).quiet

/-! ## Sending, answering and reading -/

theorem channel?_set_self {conn : TCPConn} (h : s.conns[c]? = some conn) (conn' : TCPConn) :
    channel? { s with conns := s.conns.set c conn' } c = some conn'.channel := by
  have hlt : c < s.conns.length := (List.getElem?_eq_some_iff.mp h).1
  rw [channel?, List.getElem?_set_self hlt]
  rfl

theorem channel?_set_ne (s : Client) {c c' : ℕ} (h : c' ≠ c) (conn' : TCPConn) :
    channel? { s with conns := s.conns.set c conn' } c' = s.channel? c' := by
  rw [channel?, channel?, List.getElem?_set_ne h.symm]

/-- The answer to a request goes to whom the request was owed. -/
theorem PairInv.answer (h : PairInv s) (hans : s.answer c bytes = some s') : PairInv s' := by
  obtain ⟨conn, hconn, hrest⟩ := Option.bind_eq_some_iff.mp hans
  obtain ⟨channel, hchannel, hs'⟩ := Option.bind_eq_some_iff.mp hrest
  obtain rfl := Option.some.inj hs'
  refine ⟨fun i c' r hw ↦ ?_, h.lt_sent, h.unique, h.own⟩
  obtain ⟨ch, hch, howes⟩ := h.owes i c' r hw
  by_cases hc : c' = c
  · subst hc
    rw [channel?, hconn, Option.map_some, Option.some.injEq] at hch
    subst hch
    exact ⟨channel, channel?_set_self hconn _, howes.answer hchannel⟩
  · exact ⟨ch, by rw [channel?_set_ne s hc, hch], howes⟩

/-- The client after the operation `i` has sent a request on the connection `c`. -/
def sentOn (s : Client) (i c : ℕ) (kind : OpKind) (expected : ReplyKind) (todo : List ReplyKind)
    (channel : ReplyChannel UInt8) : Client :=
  { s with
    conns := s.conns.set c ⟨channel, false⟩
    operations := s.operations.set i ⟨kind, .waiting c s.sent expected todo⟩
    sent := s.sent + 1
    asked := (s.sent, expected) :: s.asked }

theorem send_eq_some :
    s.send i = some s' ↔ ∃ kind c expected todo channel,
      s.operations[i]? = some ⟨kind, .ready c (expected :: todo)⟩ ∧
      s.conns[c]? = some ⟨channel, false⟩ ∧
      s' = s.sentOn i c kind expected todo (channel.ask s.sent) := by
  constructor
  · intro h
    obtain ⟨⟨kind, pc⟩, hop, hpc⟩ := Option.bind_eq_some_iff.mp h
    rcases pc
    case ready c todo =>
      rcases todo with _ | ⟨expected, todo⟩
      · exact absurd hpc (by simp)
      · obtain ⟨⟨channel, _ | _⟩, hconn, hrest⟩ := Option.bind_eq_some_iff.mp hpc
        · exact ⟨kind, c, expected, todo, channel, hop, hconn, (Option.some.inj hrest).symm⟩
        · exact absurd hrest (by simp)
    all_goals exact absurd hpc (by simp)
  · rintro ⟨kind, c, expected, todo, channel, hop, hconn, rfl⟩
    rw [send, hop]
    change (s.conns[c]?).bind _ = _
    rw [hconn]
    rfl

theorem PairInv.send (h : PairInv s)
    (hclean : s.sendsClean (.send i) = true) (hsend : s.send i = some s') : PairInv s' := by
  obtain ⟨kind, c, expected, todo, channel, hop, hconn, rfl⟩ := send_eq_some.mp hsend
  rw [sendsClean, hop] at hclean
  dsimp only at hclean
  rw [hconn] at hclean
  dsimp only at hclean
  have hi : i < s.operations.length := (List.getElem?_eq_some_iff.mp hop).1
  -- Who waits now: the sender for the new request, and the others as before.
  have hwaits : ∀ j c' r, (s.sentOn i c kind expected todo (channel.ask s.sent)).Waits j c' r →
      (j = i ∧ c' = c ∧ r = s.sent) ∨ (j ≠ i ∧ s.Waits j c' r) := by
    rintro j c' r ⟨kind', expected', todo', hj⟩
    rw [sentOn] at hj
    by_cases hji : j = i
    · subst hji
      rw [List.getElem?_set_self hi, Option.some.injEq, Operation.mk.injEq,
        OpPc.waiting.injEq] at hj
      exact Or.inl ⟨rfl, hj.2.1.symm, hj.2.2.1.symm⟩
    · rw [List.getElem?_set_ne (Ne.symm hji)] at hj
      exact Or.inr ⟨hji, kind', expected', todo', hj⟩
  refine ⟨fun j c' r hj ↦ ?_, fun j c' r hj ↦ ?_, fun j k c' c'' r hj hk ↦ ?_, h.own⟩
  · rcases hwaits j c' r hj with ⟨rfl, rfl, rfl⟩ | ⟨-, hj⟩
    · exact ⟨_, channel?_set_self hconn _, ReplyChannel.owes_ask hclean s.sent⟩
    · obtain ⟨ch, hch, howes⟩ := h.owes j c' r hj
      -- The connection was clean, so nobody was waiting there.
      have hc : c' ≠ c := by
        rintro rfl
        rw [channel?, hconn, Option.map_some, Option.some.injEq] at hch
        subst hch
        rw [howes.not_clean] at hclean
        exact Bool.false_ne_true hclean
      exact ⟨ch, (channel?_set_ne s hc _).trans hch, howes⟩
  · rcases hwaits j c' r hj with ⟨-, -, rfl⟩ | ⟨-, hj⟩
    · exact Nat.lt_succ_self _
    · exact Nat.lt_succ_of_lt (h.lt_sent j c' r hj)
  · rcases hwaits j c' r hj with ⟨rfl, -, rfl⟩ | ⟨-, hj⟩
    · rcases hwaits k c'' _ hk with ⟨rfl, -, -⟩ | ⟨-, hk⟩
      · rfl
      · exact absurd (h.lt_sent k c'' _ hk) (Nat.lt_irrefl _)
    · rcases hwaits k c'' r hk with ⟨-, -, rfl⟩ | ⟨-, hk⟩
      · exact absurd (h.lt_sent j c' _ hj) (Nat.lt_irrefl _)
      · exact h.unique j k c' c'' r hj hk

/-- The operation that waits on a connection reads from it and stops waiting. -/
theorem PairInv.leave (h : PairInv s) (hw : s.Waits i c r)
    (hleaves : Leaves i s₁ s') (hsent : s₁.sent = s.sent) (hops : s₁.operations = s.operations)
    (hch : ∀ c', c' ≠ c → s₁.channel? c' = s.channel? c')
    (hown : ∀ a ∈ s₁.accepted, a.chunk ≠ [] ∧ ∀ b ∈ a.chunk, b.1 = a.request) : PairInv s' := by
  have hwaits : ∀ j c' r', s'.Waits j c' r' → j ≠ i ∧ s.Waits j c' r' := by
    intro j c' r' hj
    refine ⟨?_, ?_⟩
    · rintro rfl
      exact hleaves.not_waits c' r' hj
    · have hj₁ := hleaves.quiet.waits j c' r' hj
      rwa [Waits, hops] at hj₁
  refine ⟨fun j c' r' hj ↦ ?_, fun j c' r' hj ↦ ?_, fun j k c' c'' r' hj hk ↦ ?_, ?_⟩
  · obtain ⟨hji, hj⟩ := hwaits j c' r' hj
    obtain ⟨ch, hch', howes⟩ := h.owes j c' r' hj
    -- Nobody else waits on this connection, since what it owes is owed to this operation.
    have hc : c' ≠ c := by
      rintro rfl
      obtain ⟨ch₁, hch₁, howes₁⟩ := h.owes i c' r hw
      obtain rfl := Option.some.inj (hch'.symm.trans hch₁)
      obtain rfl := howes.eq howes₁
      exact hji (h.unique j i c' c' r' hj hw)
    exact ⟨ch, hleaves.quiet.channel c' ch (by rw [hch c' hc, hch']), howes⟩
  · rw [hleaves.quiet.sent, hsent]
    exact h.lt_sent j c' r' (hwaits j c' r' hj).2
  · exact h.unique j k c' c'' r' (hwaits j c' r' hj).2 (hwaits k c'' r' hk).2
  · rw [hleaves.quiet.accepted]
    exact hown

/-- Accepting is noting the acceptance, and then a step after which the operation does not wait. -/
theorem leaves_accept (s : Client) (i : ℕ) (kind : OpKind) (c request : ℕ)
    (chunk : List (ℕ × UInt8)) (todo : List ReplyKind) (message : ServerMessage) :
    Leaves i { s with accepted := s.accepted ++ [⟨i, request, chunk, message⟩] }
      (s.accept i kind c request chunk todo message) := by
  rcases todo with _ | ⟨expected, todo⟩
  · rw [accept]
    split
    · exact leaves_abort _ i kind
    · exact leaves_finish _ i
  · exact leaves_setPc _ i fun _ _ _ _ ↦ by simp

/-- What a step of reading does: it takes a chunk off the connection, may note an acceptance, and
the operation stops waiting. -/
theorem read_eq_some (h : s.read i n = some s') :
    ∃ c r conn chunk channel accepted, s.Waits i c r ∧ s.conns[c]? = some conn ∧
      conn.channel.read n = some (chunk, channel) ∧
      (∀ a ∈ accepted, a ∈ s.accepted ∨ a.request = r ∧ a.chunk = chunk) ∧
      Leaves i { s with conns := s.conns.set c { conn with channel := channel }
                        accepted := accepted } s' := by
  obtain ⟨⟨kind, pc⟩, hop, hpc⟩ := Option.bind_eq_some_iff.mp h
  rcases pc
  case waiting c r expected todo =>
    obtain ⟨conn, hconn, hrest⟩ := Option.bind_eq_some_iff.mp hpc
    split at hrest
    · exact absurd hrest (by simp)
    obtain ⟨⟨chunk, channel⟩, hchunk, hdecode⟩ := Option.bind_eq_some_iff.mp hrest
    refine ⟨c, r, conn, chunk, channel, ?_⟩
    dsimp only at hdecode
    split at hdecode
    case h_1 =>
      obtain rfl := Option.some.inj hdecode
      exact ⟨s.accepted, ⟨kind, expected, todo, hop⟩, hconn, hchunk, fun a ha ↦ Or.inl ha,
        leaves_abort _ i kind⟩
    case h_2 message _ =>
      obtain rfl := Option.some.inj hdecode
      have hleaves := leaves_accept
        { s with conns := s.conns.set c { conn with channel := channel } } i kind c r chunk todo
        message
      refine ⟨s.accepted ++ [⟨i, r, chunk, message⟩], ⟨kind, expected, todo, hop⟩, hconn, hchunk,
        fun a ha ↦ ?_, hleaves⟩
      rcases List.mem_append.mp ha with ha | ha
      · exact Or.inl ha
      · rw [List.mem_singleton.mp ha]
        exact Or.inr ⟨rfl, rfl⟩
  all_goals exact absurd hpc (by simp)

theorem PairInv.read (h : PairInv s) (hread : s.read i n = some s') : PairInv s' := by
  obtain ⟨c, r, conn, chunk, channel, accepted, hw, hconn, hchunk, hacc, hleaves⟩ :=
    read_eq_some hread
  obtain ⟨ch, hch, howes⟩ := h.owes i c r hw
  rw [channel?, hconn, Option.map_some, Option.some.injEq] at hch
  subst hch
  refine h.leave hw hleaves rfl rfl (fun c' hc ↦ channel?_set_ne s hc _) fun a ha ↦ ?_
  rcases hacc a ha with hold | ⟨hr, hc⟩
  · exact h.own a hold
  · rw [hr, hc]
    exact howes.read hchunk

/-! ## Requests that were sent -/

/-- Only requests that were sent are unanswered. This holds in every run. -/
def Known (s : Client) : Prop := ∀ c ch, s.channel? c = some ch → ∀ x ∈ ch.unanswered, x < s.sent

theorem Known.quiet (h : Known s) (hq : Quiet s s') : Known s' := by
  intro c ch hch x hx
  rw [hq.sent]
  rcases hq.fresh c ch hch with hold | rfl
  · exact h c ch hold x hx
  · exact absurd hx List.not_mem_nil

/-- The same, when one channel changes and its unanswered requests are known. -/
theorem Known.set (h : Known s) {conn : TCPConn}
    (hconn : s.conns[c]? = some conn) (conn' : TCPConn) {sent : ℕ} (hsent : s.sent ≤ sent)
    (hnew : ∀ x ∈ conn'.channel.unanswered, x < sent) :
    ∀ c' ch, channel? { s with conns := s.conns.set c conn' } c' = some ch →
      ∀ x ∈ ch.unanswered, x < sent := by
  intro c' ch hch x hx
  by_cases hc : c' = c
  · subst hc
    rw [channel?_set_self hconn, Option.some.injEq] at hch
    subst hch
    exact hnew x hx
  · rw [channel?_set_ne s hc] at hch
    exact Nat.lt_of_lt_of_le (h c' ch hch x hx) hsent

theorem Known.send (h : Known s) (hsend : s.send i = some s') : Known s' := by
  obtain ⟨kind, c, expected, todo, channel, hop, hconn, rfl⟩ := send_eq_some.mp hsend
  refine h.set hconn ⟨channel.ask s.sent, false⟩ (Nat.le_succ _) fun x hx ↦ ?_
  rcases List.mem_append.mp hx with hx | hx
  · exact Nat.lt_succ_of_lt (h c channel (by rw [channel?, hconn]; rfl) x hx)
  · rw [List.mem_singleton.mp hx]
    exact Nat.lt_succ_self _

theorem Known.answer (h : Known s) (hans : s.answer c bytes = some s') : Known s' := by
  obtain ⟨conn, hconn, hrest⟩ := Option.bind_eq_some_iff.mp hans
  obtain ⟨channel, hchannel, hs'⟩ := Option.bind_eq_some_iff.mp hrest
  obtain rfl := Option.some.inj hs'
  refine h.set hconn _ (Nat.le_refl _) fun x hx ↦ ?_
  refine h c conn.channel (by rw [channel?, hconn]; rfl) x ?_
  exact ReplyChannel.mem_unanswered_of_answer hchannel hx

theorem Known.read (h : Known s) (hread : s.read i n = some s') : Known s' := by
  obtain ⟨c, r, conn, chunk, channel, accepted, -, hconn, hchunk, -, hleaves⟩ := read_eq_some hread
  obtain ⟨-, -, rfl⟩ := ReplyChannel.read_eq_some.mp hchunk
  refine Known.quiet ?_ hleaves.quiet
  exact h.set hconn { conn with channel := { conn.channel with stream := _ } } (Nat.le_refl _)
    (h c conn.channel (by rw [channel?, hconn]; rfl))

/-! ## A late reply -/

/-- The shortest reply of each kind, without the optional fields. -/
def shortReply : ReplyKind → List UInt8
  | .authChallenge => AuthChallenge.enc ⟨[], 0⟩
  | .authAck => [msgAuthAck, 0x01]
  | .sessionAck => [msgSessionAck, 0x01]
  | .sessionRefreshAck => [msgSessionRefreshAck, 0x01]
  | .apiKeyResponse => [msgAPIKeyResponse, 0x01, 0x01]
  | .apiKeyRevokeAck => [msgAPIKeyRevokeAck, 0x00]
  | .apiKeyStatusResp => [msgAPIKeyStatusResp, 0x00, 0x00, 0x00, 0x00, 0x00]
  | .apiKeyDeleteAck => [msgAPIKeyDeleteAck, 0x00, 0x00]
  | .vpnProvisionAck => [msgVPNProvisionAck, 0x01]

theorem decode_shortReply (kind : ReplyKind) : (kind.decode (shortReply kind)).isSome = true := by
  rcases kind <;> decide

theorem length_shortReply (kind : ReplyKind) :
    0 < (shortReply kind).length ∧ (shortReply kind).length ≤ readBufferSize := by
  rcases kind <;> decide

/-- The operation `i` is about to send on an open connection on which nothing is unread, but an
earlier request for the same kind of reply is unanswered. -/
structure Exposed (s : Client) (i c : ℕ) (expected : ReplyKind) : Prop where
  ready : ∃ kind todo, s.operations[i]? = some ⟨kind, .ready c (expected :: todo)⟩
  late : ∃ x rest, s.conns[c]? = some ⟨⟨x :: rest, []⟩, false⟩ ∧ (x, expected) ∈ s.asked

theorem read_accepts {expected : ReplyKind}
    {todo : List ReplyKind} {channel channel' : ReplyChannel UInt8} {chunk : List (ℕ × UInt8)}
    {message : ServerMessage}
    (hop : s.operations[i]? = some ⟨kind, .waiting c r expected todo⟩)
    (hconn : s.conns[c]? = some ⟨channel, false⟩) (hn : n ≤ readBufferSize)
    (hchunk : channel.read n = some (chunk, channel'))
    (hmessage : expected.decode (chunk.map Prod.snd) = some message) :
    ∃ s', s.read i n = some s' ∧ ⟨i, r, chunk, message⟩ ∈ s'.accepted := by
  have hread : s.read i n = some (accept { s with conns := s.conns.set c ⟨channel', false⟩ }
      i kind c r chunk todo message) := by
    rw [read, hop]
    change (s.conns[c]?).bind _ = _
    rw [hconn]
    change (if _ then none else (channel.read n).bind _) = _
    rw [if_neg (by simpa using hn), hchunk, Option.bind_some]
    dsimp only
    rw [hmessage]
  refine ⟨_, hread, ?_⟩
  rw [(leaves_accept _ i kind c r chunk todo message).quiet.accepted]
  exact List.mem_append_right _ List.mem_cons_self

/-- The answer to the earlier request comes first, and is taken for the reply to the new one. -/
theorem Exposed.confused {expected : ReplyKind} (h : s.Exposed i c expected)
    (hknown : Known s) (forceFresh : Bool) :
    ∃ bytes n s', (expected.decode bytes).isSome = true ∧
      (clientMachine forceFresh).run s [.send i, .answer c bytes, .read i n] = some s' ∧
      ∃ a ∈ s'.accepted, a.operation = i ∧ ∃ b ∈ a.chunk, b.1 ≠ a.request := by
  obtain ⟨kind, todo, hop⟩ := h.ready
  obtain ⟨x, rest, hconn, -⟩ := h.late
  obtain ⟨message, hmessage⟩ := Option.isSome_iff_exists.mp (decode_shortReply expected)
  have hx : x < s.sent := hknown c ⟨x :: rest, []⟩ (by rw [channel?, hconn]; rfl) x
    List.mem_cons_self
  have hi : i < s.operations.length := (List.getElem?_eq_some_iff.mp hop).1
  have hc : c < s.conns.length := (List.getElem?_eq_some_iff.mp hconn).1
  obtain ⟨hpos, hle⟩ := length_shortReply expected
  obtain ⟨b, bs, hbytes⟩ := List.exists_cons_of_length_pos hpos
  have hsend : s.send i = some (s.sentOn i c kind expected todo ⟨x :: rest ++ [s.sent], []⟩) :=
    send_eq_some.mpr ⟨kind, c, expected, todo, ⟨x :: rest, []⟩, hop, hconn, rfl⟩
  have hanswer : (s.sentOn i c kind expected todo ⟨x :: rest ++ [s.sent], []⟩).answer c
      (shortReply expected) = some (s.sentOn i c kind expected todo
        ⟨rest ++ [s.sent], (shortReply expected).map (x, ·)⟩) := by
    rw [answer, sentOn, List.getElem?_set_self hc, hbytes]
    change some _ = some _
    rw [sentOn]
    simp
  have hread : ∃ s', (s.sentOn i c kind expected todo
      ⟨rest ++ [s.sent], (shortReply expected).map (x, ·)⟩).read i (shortReply expected).length =
        some s' ∧ ⟨i, s.sent, (shortReply expected).map (x, ·), message⟩ ∈ s'.accepted := by
    refine read_accepts (List.getElem?_set_self hi) (List.getElem?_set_self hc) hle
      (ReplyChannel.read_eq_some.mpr
        ⟨⟨hpos, by simp⟩, (List.take_of_length_le (by simp)).symm, rfl⟩) ?_
    rw [List.map_map]
    exact (congrArg expected.decode (List.map_id _)).trans hmessage
  obtain ⟨s', hs', hacc⟩ := hread
  refine ⟨shortReply expected, (shortReply expected).length, s', decode_shortReply expected, ?_, _,
    hacc, rfl, (x, b), ?_, ?_⟩
  · exact Machine.run_cons_eq_some.mpr ⟨_, hsend, Machine.run_cons_eq_some.mpr ⟨_, hanswer,
      Machine.run_cons_eq_some.mpr ⟨_, hs', rfl⟩⟩⟩
  · rw [hbytes]
    exact List.mem_cons_self
  · exact Nat.ne_of_lt hx

end Client

/-! ## Whole runs -/

theorem clientMachine_step {forceFresh : Bool} {s s' : Client} {e : ClientEvent}
    (hstep : (clientMachine forceFresh).step s e = some s') :
    (∃ i, e = .send i ∧ s.send i = some s') ∨ (∃ i n, s.read i n = some s') ∨
      (∃ c bytes, s.answer c bytes = some s') ∨ s.Quiet s' := by
  rcases e with kind | i | i | ⟨i, n⟩ | i | ⟨c, bytes⟩ | _ | _ | _
  · obtain rfl := Option.some.inj hstep
    exact Or.inr (Or.inr (Or.inr (Client.quiet_call s kind)))
  · exact Or.inr (Or.inr (Or.inr (Client.quiet_advance hstep)))
  · exact Or.inl ⟨i, rfl, hstep⟩
  · exact Or.inr (Or.inl ⟨i, n, hstep⟩)
  · exact Or.inr (Or.inr (Or.inr (Client.quiet_fail hstep)))
  · exact Or.inr (Or.inr (Or.inl ⟨c, bytes, hstep⟩))
  · obtain rfl := Option.some.inj hstep
    exact Or.inr (Or.inr (Or.inr (Client.quiet_closeTCP s)))
  · obtain rfl := Option.some.inj hstep
    exact Or.inr (Or.inr (Or.inr (Client.quiet_reconnectTCP s)))
  · obtain rfl := Option.some.inj hstep
    exact Or.inr (Or.inr (Or.inr (Client.quiet_closeConn s)))

theorem Client.PairInv.step {forceFresh : Bool} {s s' : Client} {e : ClientEvent} (h : s.PairInv)
    (hclean : s.sendsClean e = true) (hstep : (clientMachine forceFresh).step s e = some s') :
    s'.PairInv := by
  rcases clientMachine_step hstep with ⟨i, rfl, hsend⟩ | ⟨i, n, hread⟩ | ⟨c, bytes, hans⟩ | hquiet
  · exact h.send hclean hsend
  · exact h.read hread
  · exact h.answer hans
  · exact h.quiet hquiet

theorem Client.Known.step {forceFresh : Bool} {s s' : Client} {e : ClientEvent} (h : s.Known)
    (hstep : (clientMachine forceFresh).step s e = some s') : s'.Known := by
  rcases clientMachine_step hstep with ⟨i, -, hsend⟩ | ⟨i, n, hread⟩ | ⟨c, bytes, hans⟩ | hquiet
  · exact h.send hsend
  · exact h.read hread
  · exact h.answer hans
  · exact h.quiet hquiet

theorem known_of_run {forceFresh : Bool} {es : List ClientEvent} {s : Client}
    (hrun : (clientMachine forceFresh).run Client.new es = some s) : s.Known := by
  refine Machine.invariant (fun _ _ _ h hstep ↦ Client.Known.step h hstep) ?_ hrun
  intro c ch hch
  exact absurd hch (by simp [Client.channel?, Client.new])

/-- **Own replies.** If each request is sent on a connection with no request unanswered and no byte
unread, the bytes taken for its reply are bytes of the answer to it. An operation about to send on
an open connection, with an earlier request for the same kind of reply unanswered, may next take the
answer to that one for its own. -/
theorem accepted_replies_are_own {forceFresh : Bool} {es : List ClientEvent} {s : Client}
    (hrun : (clientMachine forceFresh).run Client.new es = some s) :
    ((clientMachine forceFresh).Along (fun s e ↦ s.sendsClean e = true) Client.new es →
      ∀ a ∈ s.accepted, a.chunk ≠ [] ∧ ∀ b ∈ a.chunk, b.1 = a.request) ∧
    ∀ i c expected, s.Exposed i c expected → ∃ bytes n s',
      (expected.decode bytes).isSome = true ∧
      (clientMachine forceFresh).run s [.send i, .answer c bytes, .read i n] = some s' ∧
      ∃ a ∈ s'.accepted, a.operation = i ∧ ∃ b ∈ a.chunk, b.1 ≠ a.request := by
  refine ⟨fun hclean ↦ ?_, fun _ _ _ hlate ↦ hlate.confused (known_of_run hrun) forceFresh⟩
  have hinv := Machine.invariant_along (I := Client.PairInv)
    (fun _ _ _ h hP hstep ↦ h.step hP hstep) Client.PairInv.new hclean hrun
  exact hinv.own

/-- A refresh times out, the connection is closed and dialed again, and a second refresh takes the
reply to its own request. -/
theorem refresh_after_reconnect_takes_own :
    ∃ s, (clientMachine true).run Client.new
        [.reconnectTCP, .call .sendRefresh, .advance 0, .advance 0, .send 0, .fail 0, .closeTCP,
          .reconnectTCP, .call .sendRefresh, .advance 1, .advance 1, .send 1,
          .answer 0 [0x13, 0x01, 0x02], .answer 1 [0x13, 0x01, 0x05], .read 1 3] = some s ∧
      s.accepted.length = 1 ∧ ∀ a ∈ s.accepted, a.chunk ≠ [] ∧ ∀ b ∈ a.chunk, b.1 = a.request := by
  have hrun : (clientMachine true).run Client.new
      [.reconnectTCP, .call .sendRefresh, .advance 0, .advance 0, .send 0, .fail 0, .closeTCP,
        .reconnectTCP, .call .sendRefresh, .advance 1, .advance 1, .send 1,
        .answer 0 [0x13, 0x01, 0x02], .answer 1 [0x13, 0x01, 0x05], .read 1 3] = some _ := rfl
  exact ⟨_, hrun, rfl, (accepted_replies_are_own hrun).1 (by decide)⟩

/-- The request for the status times out after 3 s, and the connection stays open. The status is
asked for again, and the reply to request 2 is taken for the one to request 3. -/
theorem late_status_taken_by_next_request :
    ∃ s, (clientMachine true).run Client.new
        [.call .authenticate, .advance 0, .advance 0,
          .send 0, .answer 0 (AuthChallenge.enc ⟨[0x6e], 30⟩), .read 0 6,
          .send 0, .answer 0 (AuthAck.enc ⟨resultSuccess, 0, 0, [], [0x74], 1, 60⟩), .read 0 15,
          .call .getAPIKeyStatus, .advance 1, .advance 1, .send 1, .fail 1,
          .call .getAPIKeyStatus, .advance 2, .advance 2, .send 2,
          .answer 0 [0x25, 0x00, 0x01, 0x00, 0x2d, 0x00, 0x00], .read 2 7] = some s ∧
      ∃ a ∈ s.accepted, a.operation = 2 ∧ a.request = 3 ∧ ∀ b ∈ a.chunk, b.1 = 2 := by
  refine ⟨_, rfl, ⟨2, 3, _, _⟩, List.mem_append_right _ List.mem_cons_self, rfl, rfl, ?_⟩
  decide

end DroneBridge
