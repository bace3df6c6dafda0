import DroneBridge.Lib.Delimited

/-!
# Addresses and networks of IPv4

An address is four octets; as a number it has them as its digits to base 256. A network of prefix
length `n` is written with an address whose last `32 - n` bits are zero, and the addresses that
agree with it in the first `n` bits belong to it. Both are written in decimal, and the text
determines them (`Ipv4.text_inj`, `Ipv4Network.text_inj`).
-/

theorem Nat.notMem_toDigits {c : Char} (hc : c.isDigit = false) (n : ℕ) :
    c ∉ Nat.toDigits 10 n := by
  intro hmem
  have hdigit := Nat.isDigit_of_mem_toDigits (by decide) (by decide) hmem
  exact Bool.false_ne_true (hc.symm.trans hdigit)

theorem Nat.toDigits_ten_inj {m n : ℕ} (h : Nat.toDigits 10 m = Nat.toDigits 10 n) : m = n :=
  calc m = Nat.ofDigitChars 10 (Nat.toDigits 10 m) 0 := Nat.ofDigitChars_ten_toDigits.symm
    _ = Nat.ofDigitChars 10 (Nat.toDigits 10 n) 0 := by rw [h]
    _ = n := Nat.ofDigitChars_ten_toDigits

@[ext]
structure Ipv4 where
  a : UInt8
  b : UInt8
  c : UInt8
  d : UInt8
  deriving DecidableEq, Repr

namespace Ipv4

def toNat (ip : Ipv4) : ℕ :=
  ((ip.a.toNat * 256 + ip.b.toNat) * 256 + ip.c.toNat) * 256 + ip.d.toNat

def octetText (n : UInt8) : List Char := Nat.toDigits 10 n.toNat

/-- The dotted quad. -/
def text (ip : Ipv4) : List Char :=
  ((octetText ip.a ++ '.' :: octetText ip.b) ++ '.' :: octetText ip.c) ++ '.' :: octetText ip.d

def withLast (ip : Ipv4) (d : UInt8) : Ipv4 := { ip with d := d }

theorem dot_notMem_octetText (n : UInt8) : '.' ∉ octetText n := Nat.notMem_toDigits (by decide) _

theorem octetText_inj {m n : UInt8} (h : octetText m = octetText n) : m = n :=
  UInt8.toNat_inj.mp (Nat.toDigits_ten_inj h)

theorem text_inj {ip ip' : Ipv4} (h : ip.text = ip'.text) : ip = ip' := by
  have hdot := dot_notMem_octetText
  obtain ⟨habc, hd⟩ := append_cons_inj (hdot _) (hdot _) h
  obtain ⟨hab, hc⟩ := append_cons_inj (hdot _) (hdot _) habc
  obtain ⟨ha, hb⟩ := append_cons_inj (hdot _) (hdot _) hab
  exact Ipv4.ext (octetText_inj ha) (octetText_inj hb) (octetText_inj hc) (octetText_inj hd)

theorem splitOn_text (ip : Ipv4) :
    ip.text.splitOn '.' = [octetText ip.a, octetText ip.b, octetText ip.c, octetText ip.d] := by
  have hdot := dot_notMem_octetText
  simp only [text, List.append_assoc, List.cons_append]
  rw [List.splitOn_append_cons_self_of_not_mem (hdot _),
    List.splitOn_append_cons_self_of_not_mem (hdot _),
    List.splitOn_append_cons_self_of_not_mem (hdot _), List.splitOn_eq_singleton (hdot _)]

theorem isDigit_or_dot_of_mem_text {ip : Ipv4} {c : Char} (hc : c ∈ ip.text) :
    c.isDigit = true ∨ c = '.' := by
  have hoctet : ∀ n, c ∈ octetText n → c.isDigit = true :=
    fun n ↦ Nat.isDigit_of_mem_toDigits (by decide) (by decide)
  simp only [text, List.mem_append, List.mem_cons] at hc
  obtain ((ha | rfl | hb) | rfl | hc) | rfl | hd := hc
  · exact .inl (hoctet _ ha)
  · exact .inr rfl
  · exact .inl (hoctet _ hb)
  · exact .inr rfl
  · exact .inl (hoctet _ hc)
  · exact .inr rfl
  · exact .inl (hoctet _ hd)

theorem text_ne_nil (ip : Ipv4) : ip.text ≠ [] := by simp [text]

theorem toNat_eq (ip : Ipv4) : ip.toNat = 256 * (ip.toNat / 256) + ip.d.toNat := by
  have hd := ip.d.toNat_lt
  rw [toNat]
  omega

theorem toNat_withLast (ip : Ipv4) (d : UInt8) :
    (ip.withLast d).toNat = 256 * (ip.toNat / 256) + d.toNat := by
  have hd := ip.d.toNat_lt
  simp only [toNat, withLast]
  omega

end Ipv4

@[ext]
structure Ipv4Network where
  address : Ipv4
  prefixLen : ℕ
  deriving DecidableEq, Repr

namespace Ipv4Network

def text (N : Ipv4Network) : List Char := N.address.text ++ '/' :: Nat.toDigits 10 N.prefixLen

def size (N : Ipv4Network) : ℕ := 2 ^ (32 - N.prefixLen)

def HostBitsZero (N : Ipv4Network) : Prop := N.address.toNat % N.size = 0
  deriving Decidable

def Contains (N : Ipv4Network) (ip : Ipv4) : Prop := ip.toNat / N.size = N.address.toNat / N.size
  deriving Decidable

theorem size_pos (N : Ipv4Network) : 0 < N.size := Nat.two_pow_pos _

theorem text_inj {N N' : Ipv4Network} (h : N.text = N'.text) : N = N' := by
  have hslash := Nat.notMem_toDigits (show '/'.isDigit = false by decide)
  obtain ⟨haddress, hlen⟩ := append_cons_inj (hslash _) (hslash _) h
  exact Ipv4Network.ext (Ipv4.text_inj haddress) (Nat.toDigits_ten_inj hlen)

/-- A network whose host bits are zero has the addresses from its own on. -/
theorem contains_iff_of_hostBitsZero {N : Ipv4Network} (hzero : N.HostBitsZero) {ip : Ipv4}
    {k : ℕ} (hip : ip.toNat = N.address.toNat + k) : N.Contains ip ↔ k < N.size := by
  obtain ⟨q, hq⟩ := Nat.dvd_of_mod_eq_zero hzero
  rw [Contains, hip, hq, Nat.mul_add_div N.size_pos, Nat.mul_div_cancel_left _ N.size_pos]
  refine ⟨fun h ↦ ?_, fun h ↦ ?_⟩
  · exact (Nat.div_eq_zero_iff_lt N.size_pos).mp (by omega)
  · rw [Nat.div_eq_of_lt h, Nat.add_zero]

/-- Multiples of 256 have zero host bits where only the last octet has any, and else where the
other octets do not reach below the prefix. -/
theorem mul_256_mod_eq_zero_iff {n : ℕ} (hn : n ≤ 32) (x : ℕ) :
    256 * x % 2 ^ (32 - n) = 0 ↔ x % 2 ^ (24 - n) = 0 := by
  rcases Nat.le_total n 24 with h | h
  · have hpow : 2 ^ (32 - n) = 256 * 2 ^ (24 - n) := by
      rw [show 32 - n = 8 + (24 - n) by omega, Nat.pow_add]
    rw [hpow, Nat.mul_mod_mul_left]
    omega
  · have hdvd : 2 ^ (32 - n) ∣ 256 := Nat.pow_dvd_pow 2 (show 32 - n ≤ 8 by omega)
    rw [show 24 - n = 0 by omega, Nat.pow_zero, Nat.mod_one]
    exact iff_of_true (Nat.mod_eq_zero_of_dvd (Nat.dvd_mul_right_of_dvd hdvd x)) rfl

/-- The network written with the address and a zero as its last octet. -/
theorem isNetwork_withLast_zero_iff (ip : Ipv4) {n : ℕ} (hn : n ≤ 32) :
    (Ipv4Network.mk (ip.withLast 0) n).HostBitsZero ∧
      (Ipv4Network.mk (ip.withLast 0) n).Contains ip ↔
    ip.toNat / 256 % 2 ^ (24 - n) = 0 ∧ ip.d.toNat < 2 ^ (32 - n) := by
  have hzero : (Ipv4Network.mk (ip.withLast 0) n).HostBitsZero ↔
      ip.toNat / 256 % 2 ^ (24 - n) = 0 := by
    rw [HostBitsZero, Ipv4.toNat_withLast, size]
    exact mul_256_mod_eq_zero_iff hn _
  have hip : ip.toNat = (ip.withLast 0).toNat + ip.d.toNat := by
    rw [Ipv4.toNat_withLast]
    exact ip.toNat_eq
  rw [← hzero]
  exact and_congr_right fun h ↦ contains_iff_of_hostBitsZero h hip

end Ipv4Network
