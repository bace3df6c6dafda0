import Mathlib.Data.List.Basic

/-!
# Requests and replies on one stream

A connection over which several parties send requests, and from which they read the replies as one
stream of bytes. Nothing on the wire says to which request a byte belongs; here each byte carries,
as a ghost, the number of the request it answers. The other side answers the requests in their
order, each of them once, at any time, with a non-empty reply. A reader gets some of the bytes that
have arrived.

Pairing by order is safe as long as no request is sent while something is outstanding on the
channel, that is, while a request is unanswered or a byte unread. Then everything outstanding is
owed to one request, which is what `Owes` says.
-/

/-- Unanswered requests in their order, and the replies that have not been read. -/
structure ReplyChannel (β : Type*) where
  unanswered : List ℕ
  stream : List (ℕ × β)
  deriving DecidableEq, Repr

namespace ReplyChannel

variable {β : Type*} {ch ch' : ReplyChannel β} {r r' : ℕ}

def new : ReplyChannel β := ⟨[], []⟩

def ask (ch : ReplyChannel β) (r : ℕ) : ReplyChannel β :=
  { ch with unanswered := ch.unanswered ++ [r] }

def answer (ch : ReplyChannel β) (bytes : List β) : Option (ReplyChannel β) :=
  match ch.unanswered, bytes with
  | r :: rest, b :: bs => some ⟨rest, ch.stream ++ (b :: bs).map (r, ·)⟩
  | _, _ => none

/-- Read `n` bytes of those that are there. -/
def read (ch : ReplyChannel β) (n : ℕ) : Option (List (ℕ × β) × ReplyChannel β) :=
  if 0 < n ∧ n ≤ ch.stream.length then
    some (ch.stream.take n, { ch with stream := ch.stream.drop n })
  else none

/-- Nothing is outstanding. -/
def isClean (ch : ReplyChannel β) : Bool := ch.unanswered.isEmpty && ch.stream.isEmpty

/-- The requests that bytes of the stream answer or that are to be answered. -/
def outstanding (ch : ReplyChannel β) : List ℕ := ch.stream.map Prod.fst ++ ch.unanswered

/-- Something is outstanding, and all of it is owed to the request `r`. -/
structure Owes (ch : ReplyChannel β) (r : ℕ) : Prop where
  nonempty : ch.outstanding ≠ []
  only : ∀ x ∈ ch.outstanding, x = r

theorem Owes.eq (h : ch.Owes r) (h' : ch.Owes r') : r = r' := by
  obtain ⟨x, hx⟩ := List.exists_mem_of_ne_nil _ h.nonempty
  rw [← h.only x hx, h'.only x hx]

theorem Owes.not_clean (h : ch.Owes r) : ch.isClean = false := by
  rw [← Bool.not_eq_true]
  intro hclean
  rw [isClean, Bool.and_eq_true, List.isEmpty_iff, List.isEmpty_iff] at hclean
  refine h.nonempty ?_
  rw [outstanding, hclean.1, hclean.2]
  rfl

theorem owes_ask (h : ch.isClean = true) (r : ℕ) : (ch.ask r).Owes r := by
  rw [isClean, Bool.and_eq_true, List.isEmpty_iff, List.isEmpty_iff] at h
  have hout : (ch.ask r).outstanding = [r] := by rw [outstanding, ask, h.1, h.2]; rfl
  refine ⟨?_, fun x hx ↦ ?_⟩
  · rw [hout]
    exact List.cons_ne_nil r []
  · rw [hout] at hx
    exact List.mem_singleton.mp hx

theorem answer_eq_some {bytes : List β} (h : ch.answer bytes = some ch') :
    ∃ r rest, ch.unanswered = r :: rest ∧ bytes ≠ [] ∧
      ch' = ⟨rest, ch.stream ++ bytes.map (r, ·)⟩ := by
  rcases ch with ⟨_ | ⟨r, rest⟩, stream⟩
  · exact absurd h (by simp [answer])
  · rcases bytes with _ | ⟨b, bs⟩
    · exact absurd h (by simp [answer])
    · exact ⟨r, rest, rfl, List.cons_ne_nil b bs, (Option.some.inj h).symm⟩

/-- An answer moves a request from one end of what is outstanding to the other. -/
theorem Owes.answer (h : ch.Owes r) {bytes : List β} (hans : ch.answer bytes = some ch') :
    ch'.Owes r := by
  obtain ⟨r', rest, hun, hne, rfl⟩ := answer_eq_some hans
  have hr' : r' = r := h.only r' (List.mem_append_right _ (hun ▸ List.mem_cons_self))
  refine ⟨by simp [outstanding, hne], fun x hx ↦ ?_⟩
  simp only [outstanding, List.map_append, List.map_map, List.mem_append, List.mem_map] at hx
  rcases hx with (⟨y, hy, rfl⟩ | ⟨y, hy, rfl⟩) | hx
  · exact h.only y.1 (List.mem_append_left _ (List.mem_map_of_mem hy))
  · exact hr'
  · exact h.only x (List.mem_append_right _ (hun ▸ List.mem_cons_of_mem _ hx))

theorem mem_unanswered_of_answer {bytes : List β} (hans : ch.answer bytes = some ch') {x : ℕ}
    (hx : x ∈ ch'.unanswered) : x ∈ ch.unanswered := by
  obtain ⟨r, rest, hun, -, rfl⟩ := answer_eq_some hans
  rw [hun]
  exact List.mem_cons_of_mem _ hx

theorem read_eq_some {n : ℕ} {chunk : List (ℕ × β)} :
    ch.read n = some (chunk, ch') ↔ (0 < n ∧ n ≤ ch.stream.length) ∧ chunk = ch.stream.take n ∧
      ch' = { ch with stream := ch.stream.drop n } := by
  rw [read]
  by_cases hn : 0 < n ∧ n ≤ ch.stream.length
  · rw [if_pos hn, Option.some.injEq, Prod.mk.injEq, and_iff_right hn, eq_comm, @eq_comm _ _ ch']
  · rw [if_neg hn]
    exact iff_of_false (by simp) fun h ↦ hn h.1

theorem Owes.read (h : ch.Owes r) {n : ℕ} {chunk : List (ℕ × β)}
    (hread : ch.read n = some (chunk, ch')) : chunk ≠ [] ∧ ∀ b ∈ chunk, b.1 = r := by
  obtain ⟨hn, rfl, -⟩ := read_eq_some.mp hread
  refine ⟨?_, fun b hb ↦ ?_⟩
  · refine List.ne_nil_of_length_pos ?_
    rw [List.length_take]
    omega
  · exact h.only b.1 (List.mem_append_left _ (List.mem_map_of_mem (List.mem_of_mem_take hb)))

end ReplyChannel
