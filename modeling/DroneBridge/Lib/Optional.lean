import DroneBridge.Lib.Wire

/-!
# Optional fields

Some messages end with fields that may be missing. A reader of such a field looks whether enough
bytes are left; if not it takes a default and goes on with the next field from where it is. Such
readers return on every input, also on a message that was cut in the middle of a field, so a cut
goes unnoticed unless a default differs from what was sent.

`Peels R f` gives the value such a reader returns and the bytes it leaves. `covers fields n` says
that `n` bytes of the encoded fields are enough: each field that is not complete in them has its
default value. The results at the end say that a sequence of optional fields is read back from a
prefix of its encoding exactly when the prefix covers the fields.
-/

/-! ## Readers -/

namespace Reader

/-- A byte that may be missing; then it counts as zero. -/
def optionalU8 : Reader UInt8 := do
  if ← has 1 then
    let b ← index
    skip 1
    return b
  else return 0

/-- A 16-bit number that may be missing; then it counts as zero. -/
def optionalU16 : Reader UInt16 := optional 2 0 fun bs ↦ UInt16.ofNat (leValue bs)

/-- A 64-bit number that may be missing; then it counts as zero. -/
def optionalU64 : Reader UInt64 := optional 8 0 fun bs ↦ UInt64.ofNat (leValue bs)

/-- A string that may be missing; then it counts as empty. A length whose string is missing is
stepped over all the same. -/
def optionalString16 : Reader (List UInt8) := do
  if ← has 2 then
    let bs ← slice 2
    skip 2
    optional (leValue bs) [] id
  else return []

end Reader

/-! ## Readers that cannot fail -/

section Peels

variable {α β : Type} {R : Reader α} {f : List UInt8 → α × List UInt8}

/-- On every input the reader returns `(f rem).1` and leaves `(f rem).2`. -/
def Peels (R : Reader α) (f : List UInt8 → α × List UInt8) : Prop :=
  ∀ pre rem, ∃ taken, taken ++ (f rem).2 = rem ∧
    R (pre ++ rem) pre.length = .ok ((f rem).1, pre.length + taken.length)

theorem Peels.ok (h : Peels R f) (pre rem : List UInt8) :
    ∃ offset, R (pre ++ rem) pre.length = .ok ((f rem).1, offset) := by
  obtain ⟨taken, -, hok⟩ := h pre rem
  exact ⟨_, hok⟩

theorem peels_pure (a : α) : Peels (pure a) fun rem ↦ (a, rem) :=
  fun _ _ ↦ ⟨[], rfl, rfl⟩

theorem Peels.bind (hR : Peels R f) {S : α → Reader β} {g : α → List UInt8 → β × List UInt8}
    (hS : ∀ a, Peels (S a) (g a)) : Peels (R >>= S) fun rem ↦ g (f rem).1 (f rem).2 := by
  intro pre rem
  obtain ⟨taken, htaken, hok⟩ := hR pre rem
  obtain ⟨taken', htaken', hok'⟩ := hS (f rem).1 (pre ++ taken) (f rem).2
  refine ⟨taken ++ taken', by rw [List.append_assoc, htaken', htaken], ?_⟩
  rw [List.append_assoc, htaken, List.length_append] at hok'
  rw [Reader.bind_apply, hok]
  dsimp only
  rw [hok', List.length_append, Nat.add_assoc]

/-- A reader that always returns, and never one of the values in question. -/
theorem Peels.readsOn_none {P : α → Prop} (h : Peels R f) (hf : ∀ rem, ¬P (f rem).1) :
    ReadsOn P R fun _ _ ↦ False := by
  refine ⟨fun pre rem hout ↦ ?_, fun pre rem a offset ha ↦ ?_⟩
  · obtain ⟨offset, hok⟩ := h.ok pre rem
    exact absurd (hok.symm.trans hout) (by simp)
  · refine iff_of_false (fun hok ↦ ?_) (by simp)
    obtain ⟨offset', hok'⟩ := h.ok pre rem
    obtain ⟨rfl, -⟩ := Prod.mk.inj (Outcome.ok.inj (hok'.symm.trans hok))
    exact hf rem ha

/-- The first `n` bytes, decoded, if they are there. -/
def peel (n : ℕ) (default : α) (f : List UInt8 → α) (rem : List UInt8) : α × List UInt8 :=
  if rem.length < n then (default, rem) else (f (rem.take n), rem.drop n)

theorem peel_of_lt {n : ℕ} {default : α} {f : List UInt8 → α} {rem : List UInt8}
    (h : rem.length < n) : peel n default f rem = (default, rem) := if_pos h

theorem peel_append {n : ℕ} {default : α} {f : List UInt8 → α} {bs : List UInt8}
    (h : bs.length = n) (rem : List UInt8) : peel n default f (bs ++ rem) = (f bs, rem) := by
  subst h
  rw [peel, if_neg (by simp), List.take_left, List.drop_left]

theorem peels_optional (n : ℕ) (default : α) (f : List UInt8 → α) :
    Peels (Reader.optional n default f) (peel n default f) := by
  intro pre rem
  rw [Reader.optional_append]
  by_cases h : rem.length < n
  · rw [if_pos h, peel_of_lt h]
    exact ⟨[], rfl, rfl⟩
  · rw [if_neg h, peel, if_neg h]
    refine ⟨rem.take n, List.take_append_drop n rem, ?_⟩
    rw [List.length_take, Nat.min_eq_left (by omega)]

def peelU8 : List UInt8 → UInt8 × List UInt8
  | [] => (0, [])
  | b :: rem => (b, rem)

def peelU16 : List UInt8 → UInt16 × List UInt8 := peel 2 0 fun bs ↦ UInt16.ofNat (leValue bs)

def peelU64 : List UInt8 → UInt64 × List UInt8 := peel 8 0 fun bs ↦ UInt64.ofNat (leValue bs)

def peelString16 (rem : List UInt8) : List UInt8 × List UInt8 :=
  if rem.length < 2 then ([], rem) else peel (leValue (rem.take 2)) [] id (rem.drop 2)

theorem peels_optionalU8 : Peels Reader.optionalU8 peelU8 := by
  intro pre rem
  rw [Reader.optionalU8, Reader.bind_apply, Reader.has, List.length_append]
  dsimp only
  rcases rem with _ | ⟨b, rem⟩
  · rw [if_neg (by simp)]
    exact ⟨[], rfl, rfl⟩
  · rw [if_pos (by simp), Reader.bind_apply, Reader.index_append]
    exact ⟨[b], rfl, rfl⟩

theorem peels_optionalU16 : Peels Reader.optionalU16 peelU16 := peels_optional _ _ _

theorem peels_optionalU64 : Peels Reader.optionalU64 peelU64 := peels_optional _ _ _

theorem peels_optionalString16 : Peels Reader.optionalString16 peelString16 := by
  intro pre rem
  rw [Reader.optionalString16, Reader.bind_apply, Reader.has, List.length_append]
  dsimp only
  simp only [Nat.add_le_add_iff_left, decide_eq_true_eq]
  by_cases h : rem.length < 2
  · rw [if_neg (Nat.not_le.mpr h), peelString16, if_pos h]
    exact ⟨[], rfl, rfl⟩
  · rw [if_pos (Nat.not_lt.mp h), Reader.bind_apply, Reader.slice_append, if_pos (by omega),
      peelString16, if_neg h]
    dsimp only
    rw [Reader.bind_apply]
    dsimp only [Reader.skip]
    -- The string is read behind its length, which has been taken off the input.
    obtain ⟨taken, htaken, hok⟩ :=
      peels_optional (leValue (rem.take 2)) [] id (pre ++ rem.take 2) (rem.drop 2)
    have hlen : (pre ++ rem.take 2).length = pre.length + 2 := by
      rw [List.length_append, List.length_take]
      omega
    rw [List.append_assoc, List.take_append_drop, hlen] at hok
    refine ⟨rem.take 2 ++ taken, by rw [List.append_assoc, htaken, List.take_append_drop], ?_⟩
    rw [hok, List.length_append, List.length_take, Nat.min_eq_left (by omega), Nat.add_assoc]

end Peels

/-! ## Sequences of optional fields -/

/-- An encoded optional field, and whether its value is the default. -/
structure OptionalField where
  bytes : List UInt8
  isDefault : Bool
  deriving DecidableEq, Repr

namespace OptionalField

def u8 (x : UInt8) : OptionalField := ⟨[x], x == 0⟩

def u16 (x : UInt16) : OptionalField := ⟨leBytes 2 x.toNat, x == 0⟩

def u64 (x : UInt64) : OptionalField := ⟨leBytes 8 x.toNat, x == 0⟩

def string16 (s : List UInt8) : OptionalField := ⟨putString16 s, s.isEmpty⟩

def encode (fields : List OptionalField) : List UInt8 := (fields.map bytes).flatten

/-- Each field that is not complete in the first `n` bytes has its default value. -/
def covers : List OptionalField → ℕ → Bool
  | [], _ => true
  | field :: fields, n =>
    (decide (field.bytes.length ≤ n) || field.isDefault) && covers fields (n - field.bytes.length)

end OptionalField

namespace OptionalField

theorem covers_of_isDefault {fields : List OptionalField}
    (h : ∀ field ∈ fields, field.isDefault = true) (n : ℕ) : covers fields n = true := by
  induction fields generalizing n with
  | nil => rfl
  | cons field fields ih =>
    obtain ⟨hfield, hfields⟩ := List.forall_mem_cons.mp h
    rw [covers, hfield, Bool.or_true, Bool.true_and]
    exact ih hfields _

theorem covers_zero {fields : List OptionalField} (h : ∀ field ∈ fields, field.bytes ≠ []) :
    covers fields 0 = true ↔ ∀ field ∈ fields, field.isDefault = true := by
  refine ⟨fun hcovers ↦ ?_, fun hdefault ↦ covers_of_isDefault hdefault 0⟩
  induction fields with
  | nil => exact List.forall_mem_nil _
  | cons field fields ih =>
    obtain ⟨hfield, hfields⟩ := List.forall_mem_cons.mp h
    rw [covers, Nat.zero_sub, Bool.and_eq_true] at hcovers
    have hlen : ¬field.bytes.length ≤ 0 := by
      rw [Nat.le_zero, List.length_eq_zero_iff]
      exact hfield
    rw [decide_eq_false hlen, Bool.false_or] at hcovers
    exact List.forall_mem_cons.mpr ⟨hcovers.1, ih hfields hcovers.2⟩

/-- The fields up to some field, with default values in those behind it, cover all of them. -/
theorem covers_take {fields : List OptionalField} {sent : ℕ}
    (h : ∀ field ∈ fields.drop sent, field.isDefault = true) :
    covers fields (encode (fields.take sent)).length = true := by
  induction fields generalizing sent with
  | nil => rfl
  | cons field fields ih =>
    rcases sent with _ | sent
    · exact covers_of_isDefault h _
    · rw [List.take_succ_cons, encode, List.map_cons, List.flatten_cons, List.length_append,
        covers, decide_eq_true (Nat.le_add_right _ _), Bool.true_or, Bool.true_and,
        Nat.add_sub_cancel_left]
      exact ih h

end OptionalField

/-! ## Reading the fields back -/

/-- `K t` says that the fields read from `t` on have the values that were sent: for a part `t` of
their encoding exactly when `t` covers them. Zeros stand for the default values. -/
structure ReadBack (K : List UInt8 → Prop) (fields : List OptionalField) : Prop where
  nonempty : ∀ field ∈ fields, field.bytes ≠ []
  zeros : ∀ n, K (List.replicate n 0) ↔ ∀ field ∈ fields, field.isDefault = true
  cut : ∀ t, t <+: OptionalField.encode fields →
    (K t ↔ OptionalField.covers fields t.length = true)

section ReadBack

variable {α : Type} {K : List UInt8 → Prop} {fields : List OptionalField}

theorem readBack_nil : ReadBack (fun _ ↦ True) [] :=
  ⟨List.forall_mem_nil _, fun _ ↦ ⟨fun _ ↦ List.forall_mem_nil _, fun _ ↦ trivial⟩,
    fun _ _ ↦ ⟨fun _ ↦ rfl, fun _ ↦ trivial⟩⟩

/-- One more field in front, read with `g` and with the value `x`. -/
theorem ReadBack.cons (h : ReadBack K fields) {g : List UInt8 → α × List UInt8} {x : α}
    (default : α) {field : OptionalField} (hne : field.bytes ≠ [])
    (hdefault : field.isDefault = true ↔ x = default)
    (hbytes : x = default → ∃ n, field.bytes = List.replicate n 0)
    (hwhole : ∀ rem, g (field.bytes ++ rem) = (x, rem))
    (hpart : ∀ t, t <+: field.bytes → t.length < field.bytes.length → (g t).1 = default)
    (hzeros : ∀ n, ∃ n', g (List.replicate n 0) = (default, List.replicate n' 0)) :
    ReadBack (fun t ↦ (g t).1 = x ∧ K (g t).2) (field :: fields) := by
  have hzeros' : ∀ n, ((g (List.replicate n 0)).1 = x ∧ K (g (List.replicate n 0)).2) ↔
      ∀ f ∈ field :: fields, f.isDefault = true := by
    intro n
    obtain ⟨n', hn'⟩ := hzeros n
    rw [hn', h.zeros n', List.forall_mem_cons, hdefault, eq_comm]
  refine ⟨List.forall_mem_cons.mpr ⟨hne, h.nonempty⟩, hzeros', fun t ht ↦ ?_⟩
  rw [OptionalField.encode, List.map_cons, List.flatten_cons] at ht
  rw [OptionalField.covers, Bool.and_eq_true, Bool.or_eq_true, decide_eq_true_eq]
  rcases prefix_append_cases ht with ⟨t', rfl, ht'⟩ | ⟨hpre, hlt⟩
  · -- The cut is behind this field.
    rw [hwhole, List.length_append, Nat.add_sub_cancel_left, h.cut t' ht']
    exact and_congr_left' (iff_of_true rfl (Or.inl (Nat.le_add_right _ _)))
  · -- The cut is in this field: it is read as the default, which must be its value. Then what was
    -- left of it is zeros, and the other fields are read from these.
    rw [Nat.sub_eq_zero_of_le (Nat.le_of_lt hlt), OptionalField.covers_zero h.nonempty, hdefault,
      or_iff_right (Nat.not_le.mpr hlt)]
    by_cases hx : x = default
    · obtain ⟨n, hn⟩ := hbytes hx
      rw [hn] at hpre
      rw [(List.prefix_replicate_iff.mp hpre).2, hzeros' t.length, List.forall_mem_cons, hdefault]
    · refine iff_of_false (fun hread ↦ hx ?_) fun hcovers ↦ hx hcovers.1
      rw [← hread.1, hpart t hpre hlt]

theorem leBytes_zero (n : ℕ) : leBytes n 0 = List.replicate n 0 := by
  induction n with
  | zero => rfl
  | succ n ih => rw [leBytes, Nat.zero_div, ih]; rfl

theorem leValue_replicate (n : ℕ) : leValue (List.replicate n 0) = 0 := by
  induction n with
  | zero => rfl
  | succ n ih => rw [List.replicate_succ, leValue, ih]; rfl

theorem peel_replicate {f : List UInt8 → α} {default : α} (n : ℕ)
    (h : f (List.replicate n 0) = default) (k : ℕ) :
    ∃ k', peel n default f (List.replicate k 0) = (default, List.replicate k' 0) := by
  by_cases hk : k < n
  · exact ⟨k, peel_of_lt (by rwa [List.length_replicate])⟩
  · refine ⟨k - n, ?_⟩
    rw [peel, if_neg (by rwa [List.length_replicate]), List.take_replicate, List.drop_replicate,
      Nat.min_eq_left (by omega), h]

theorem ReadBack.u8 (h : ReadBack K fields) (x : UInt8) :
    ReadBack (fun t ↦ (peelU8 t).1 = x ∧ K (peelU8 t).2) (.u8 x :: fields) := by
  refine h.cons 0 (by simp [OptionalField.u8]) (by simp [OptionalField.u8]) ?_ ?_ ?_ ?_
  · rintro rfl
    exact ⟨1, rfl⟩
  · intro rem
    rfl
  · intro t _ ht
    rw [List.length_eq_zero_iff.mp (Nat.lt_one_iff.mp ht)]
    rfl
  · rintro (_ | n)
    · exact ⟨0, rfl⟩
    · exact ⟨n, rfl⟩

theorem ReadBack.number (h : ReadBack K fields) {n v : ℕ} {x default : α} {isDefault : Bool}
    {f : List UInt8 → α} (hn : 0 < n) (hdefault : isDefault = true ↔ x = default)
    (hv : x = default → v = 0) (hx : f (leBytes n v) = x)
    (hzero : f (List.replicate n 0) = default) :
    ReadBack (fun t ↦ (peel n default f t).1 = x ∧ K (peel n default f t).2)
      (⟨leBytes n v, isDefault⟩ :: fields) := by
  refine h.cons default ?_ hdefault ?_ ?_ ?_ (peel_replicate n hzero)
  · refine List.ne_nil_of_length_pos ?_
    rwa [length_leBytes]
  · intro hx
    exact ⟨n, by rw [hv hx, leBytes_zero]⟩
  · intro rem
    rw [peel_append (length_leBytes n v), hx]
  · intro t _ ht
    rw [length_leBytes] at ht
    rw [peel_of_lt ht]

theorem ReadBack.u16 (h : ReadBack K fields) (x : UInt16) :
    ReadBack (fun t ↦ (peelU16 t).1 = x ∧ K (peelU16 t).2) (.u16 x :: fields) := by
  refine h.number (by decide) beq_iff_eq ?_ ?_ rfl
  · rintro rfl
    rfl
  · rw [leValue_leBytes x.toNat_lt, UInt16.ofNat_toNat]

theorem ReadBack.u64 (h : ReadBack K fields) (x : UInt64) :
    ReadBack (fun t ↦ (peelU64 t).1 = x ∧ K (peelU64 t).2) (.u64 x :: fields) := by
  refine h.number (by decide) beq_iff_eq ?_ ?_ rfl
  · rintro rfl
    rfl
  · rw [leValue_leBytes x.toNat_lt, UInt64.ofNat_toNat]

theorem peelString16_length_append {n : ℕ} (hn : n ≤ 65535) (rem : List UInt8) :
    peelString16 (leBytes 2 n ++ rem) = peel n [] id rem := by
  have htake : (leBytes 2 n ++ rem).take 2 = leBytes 2 n := List.take_left' (length_leBytes 2 n)
  have hdrop : (leBytes 2 n ++ rem).drop 2 = rem := List.drop_left' (length_leBytes 2 n)
  have hlen : ¬(leBytes 2 n ++ rem).length < 2 := by
    rw [List.length_append, length_leBytes]
    omega
  rw [peelString16, if_neg hlen, htake, hdrop, leValue_leBytes (Nat.lt_succ_of_le hn)]

/-- A string that is not empty is read exactly where it stands behind its length. -/
theorem peelString16_fst_eq_iff {s t : List UInt8} (hs : s ≠ []) :
    (peelString16 t).1 = s ↔ s.length ≤ 65535 ∧ putString16 s <+: t := by
  constructor
  · rintro rfl
    rw [peelString16] at hs ⊢
    split at hs
    case isTrue => exact absurd rfl hs
    case isFalse htwo =>
      rw [if_neg htwo]
      by_cases hshort : (t.drop 2).length < leValue (t.take 2)
      · rw [peel_of_lt hshort] at hs
        exact absurd rfl hs
      · have htake : (t.take 2).length = 2 := by
          rw [List.length_take]
          omega
        have hlt := leValue_lt (t.take 2)
        rw [htake] at hlt
        have hlen : ((t.drop 2).take (leValue (t.take 2))).length = leValue (t.take 2) := by
          rw [List.length_take]
          omega
        have hbytes : leBytes 2 (leValue (t.take 2)) = t.take 2 := by
          have hback := leBytes_leValue (t.take 2)
          rwa [htake] at hback
        rw [peel, if_neg hshort, id, hlen]
        refine ⟨by omega, (t.drop 2).drop (leValue (t.take 2)), ?_⟩
        rw [putString16, hlen, hbytes, List.append_assoc, List.take_append_drop,
          List.take_append_drop]
  · rintro ⟨hlen, rest, rfl⟩
    rw [putString16, List.append_assoc, peelString16_length_append hlen, peel_append rfl, id]

theorem length_peel_snd_le (n : ℕ) (default : α) (f : List UInt8 → α) (t : List UInt8) :
    (peel n default f t).2.length ≤ t.length := by
  rw [peel]
  split
  · exact Nat.le_refl _
  · exact List.length_drop ▸ Nat.sub_le _ _

theorem length_peelString16_snd_le (t : List UInt8) :
    (peelString16 t).2.length ≤ t.length := by
  rw [peelString16]
  split
  · exact Nat.le_refl _
  · refine Nat.le_trans (length_peel_snd_le _ _ _ _) ?_
    exact List.length_drop ▸ Nat.sub_le _ _

theorem ReadBack.string16 (h : ReadBack K fields) {s : List UInt8} (hs : s.length ≤ 65535) :
    ReadBack (fun t ↦ (peelString16 t).1 = s ∧ K (peelString16 t).2) (.string16 s :: fields) := by
  refine h.cons [] ?_ List.isEmpty_iff ?_ ?_ ?_ ?_
  · simp [OptionalField.string16, putString16, leBytes]
  · rintro rfl
    exact ⟨2, rfl⟩
  · intro rem
    rw [OptionalField.string16, putString16, List.append_assoc, peelString16_length_append hs,
      peel_append rfl, id]
  · intro t hpre hlt
    -- The cut is in the length, or behind it in the string.
    rcases prefix_append_cases hpre with ⟨t', rfl, -⟩ | ⟨-, hlen⟩
    · rw [OptionalField.string16, putString16, List.length_append, List.length_append] at hlt
      rw [peelString16_length_append hs, peel_of_lt (by omega)]
    · rw [length_leBytes] at hlen
      rw [peelString16, if_pos hlen]
  · intro n
    by_cases hn : n < 2
    · exact ⟨n, by rw [peelString16, if_pos (by rwa [List.length_replicate])]⟩
    · refine ⟨n - 2, ?_⟩
      rw [peelString16, if_neg (by rwa [List.length_replicate]), List.take_replicate,
        List.drop_replicate, leValue_replicate]
      rfl

/-- A reader of optional fields returns what was sent when the input covers the fields. -/
theorem ReadBack.value?_iff (h : ReadBack K fields) {R : Reader α} {g : List UInt8 → α × List UInt8}
    (hR : Peels R g) {a : α} (ha : ∀ t, (g t).1 = a ↔ K t) {t : List UInt8}
    (ht : t <+: OptionalField.encode fields) (pre : List UInt8) :
    (R (pre ++ t) pre.length).value?.map Prod.fst = some a ↔
      OptionalField.covers fields t.length = true := by
  obtain ⟨offset, hok⟩ := hR.ok pre t
  rw [hok, ← h.cut t ht, ← ha t]
  exact Option.some_inj

end ReadBack
