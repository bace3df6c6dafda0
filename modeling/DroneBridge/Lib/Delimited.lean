import DroneBridge.Lib.Wire

/-!
# Encodings that mark their own end

An encoding is delimited when the bytes behind it never change what it stands for: from the bytes
of a value followed by anything, the value and what follows are determined. Delimited encodings can
be written one after the other and the whole is delimited again, which a merely injective encoding
does not allow. An encoding that is not delimited may still come last.

Text with separators is read from its end: when the last field is free of the separator, what
stands before the last separator may be anything (`append_cons_inj`).
-/

/-- From the encoding of a value in `P` and any bytes behind it, both can be told. -/
def Delimited {α β : Type*} (P : α → Prop) (enc : α → List β) : Prop :=
  ∀ ⦃a b : α⦄, P a → P b → ∀ ⦃r r' : List β⦄, enc a ++ r = enc b ++ r' → a = b ∧ r = r'

namespace Delimited

variable {α β γ : Type*} {P : α → Prop} {enc : α → List β}

theorem of_length {n : ℕ} (hlen : ∀ a, P a → (enc a).length = n)
    (hinj : ∀ ⦃a b⦄, P a → P b → enc a = enc b → a = b) : Delimited P enc := by
  intro a b ha hb r r' h
  obtain ⟨henc, hr⟩ := List.append_inj h ((hlen a ha).trans (hlen b hb).symm)
  exact ⟨hinj ha hb henc, hr⟩

theorem inj (henc : Delimited P enc) {a b : α} (ha : P a) (hb : P b) (h : enc a = enc b) :
    a = b := by
  have happend : enc a ++ [] = enc b ++ [] := by rw [h]
  exact (henc ha hb happend).1

theorem append {Q : γ → Prop} {enc' : γ → List β} (henc : Delimited P enc)
    (henc' : Delimited Q enc') :
    Delimited (fun p : α × γ ↦ P p.1 ∧ Q p.2) fun p ↦ enc p.1 ++ enc' p.2 := by
  rintro ⟨a, c⟩ ⟨b, d⟩ ⟨ha, hc⟩ ⟨hb, hd⟩ r r' h
  rw [List.append_assoc, List.append_assoc] at h
  obtain ⟨hab, h⟩ := henc ha hb h
  obtain ⟨hcd, hr⟩ := henc' hc hd h
  exact ⟨Prod.ext hab hcd, hr⟩

theorem comp {Q : γ → Prop} {f : γ → α} (henc : Delimited P enc) (hf : Function.Injective f)
    (hQ : ∀ c, Q c → P (f c)) : Delimited Q fun c ↦ enc (f c) := by
  intro c d hc hd r r' h
  obtain ⟨hcd, hr⟩ := henc (hQ c hc) (hQ d hd) h
  exact ⟨hf hcd, hr⟩

theorem flatMap_inj (henc : Delimited (fun _ ↦ True) enc) (hne : ∀ a, enc a ≠ []) {as bs : List α}
    (h : as.flatMap enc = bs.flatMap enc) : as = bs := by
  induction as generalizing bs with
  | nil =>
    rcases bs with _ | ⟨b, bs⟩
    · rfl
    · exact absurd (List.append_eq_nil_iff.mp h.symm).1 (hne b)
  | cons a as ih =>
    rcases bs with _ | ⟨b, bs⟩
    · exact absurd (List.append_eq_nil_iff.mp h).1 (hne a)
    · obtain ⟨rfl, hrest⟩ := henc trivial trivial h
      rw [ih hrest]

end Delimited

theorem append_cons_inj {β : Type*} {sep : β} {a a' b b' : List β} (hb : sep ∉ b) (hb' : sep ∉ b')
    (h : a ++ sep :: b = a' ++ sep :: b') : a = a' ∧ b = b' := by
  rcases List.append_eq_append_iff.mp h with ⟨w, rfl, hw⟩ | ⟨w, rfl, hw⟩
  · rcases w with _ | ⟨c, w⟩
    · exact ⟨(List.append_nil a).symm, (List.cons.inj hw).2⟩
    · exact absurd (by simp [(List.cons.inj hw).2]) hb
  · rcases w with _ | ⟨c, w⟩
    · exact ⟨List.append_nil a', (List.cons.inj hw).2.symm⟩
    · exact absurd (by simp [(List.cons.inj hw).2]) hb'

theorem delimited_leBytes (n : ℕ) : Delimited (· < 256 ^ n) (leBytes n) := by
  refine .of_length (fun x _ ↦ length_leBytes n x) fun x y hx hy h ↦ ?_
  rw [← leValue_leBytes hx, h, leValue_leBytes hy]

theorem delimited_lengthPrefixed (n : ℕ) :
    Delimited (fun s : List UInt8 ↦ s.length < 256 ^ n) fun s ↦ leBytes n s.length ++ s := by
  intro s t hs ht r r' h
  rw [List.append_assoc, List.append_assoc] at h
  obtain ⟨hlen, h⟩ := delimited_leBytes n hs ht h
  exact List.append_inj h hlen

theorem delimited_string16 : Delimited (fun s : List UInt8 ↦ s.length ≤ 65535) putString16 :=
  fun _ _ hs ht ↦ delimited_lengthPrefixed 2 (Nat.lt_succ_of_le hs) (Nat.lt_succ_of_le ht)

theorem delimited_u16 : Delimited (fun _ ↦ True) fun x : UInt16 ↦ leBytes 2 x.toNat :=
  (delimited_leBytes 2).comp (fun _ _ ↦ UInt16.toNat_inj.mp) fun x _ ↦ x.toNat_lt

theorem delimited_u64 : Delimited (fun _ ↦ True) fun x : UInt64 ↦ leBytes 8 x.toNat :=
  (delimited_leBytes 8).comp (fun _ _ ↦ UInt64.toNat_inj.mp) fun x _ ↦ x.toNat_lt
