import DroneBridge.Lib.Machine
import Mathlib.Logic.Function.Basic

/-!
# Clients that change one cell by loading and saving it

Each client loads the whole cell, edits what it has loaded and saves the result. A load and a save
are atomic, the pair is not. The versions of the cell are numbered, and a client that is done knows
the version it started from and the one it wrote. Its edit is built on everything before it exactly
when the two are neighbours; otherwise the versions in between are overwritten.
-/

/-- How the cell is read and written, and what each client does to the record. -/
structure SharedCell (ι σ ρ : Type*) where
  /-- `none` when the cell cannot be read. -/
  load : σ → Option ρ
  save : ρ → σ
  /-- `none` when the client gives up. -/
  edit : ι → ρ → Option ρ

namespace SharedCell

inductive Client (ρ : Type*)
  | idle
  | loaded (base : ℕ) (r : ρ)
  /-- The version and the record it started from, the record it saved and the version it wrote. -/
  | saved (base : ℕ) (r r' : ρ) (version : ℕ)

structure Run (ι σ ρ : Type*) where
  /-- All versions of the cell, oldest first. -/
  versions : List σ
  cell : σ
  client : ι → Client ρ

inductive Event (ι : Type*)
  | load (i : ι)
  | save (i : ι)
  deriving DecidableEq

variable {ι σ ρ : Type*}

/-- Nobody has loaded the cell yet. -/
def start (x : σ) : Run ι σ ρ := ⟨[x], x, fun _ ↦ .idle⟩

def machine [DecidableEq ι] (S : SharedCell ι σ ρ) : Machine (Run ι σ ρ) (Event ι) where
  step s
    | .load i =>
      match s.client i with
      | .idle =>
        (S.load s.cell).map fun r ↦
          { s with client := Function.update s.client i (.loaded (s.versions.length - 1) r) }
      | _ => none
    | .save i =>
      match s.client i with
      | .loaded base r =>
        (S.edit i r).map fun r' ↦
          { versions := s.versions ++ [S.save r']
            cell := S.save r'
            client := Function.update s.client i (.saved base r r' s.versions.length) }
      | _ => none

variable {S : SharedCell ι σ ρ} {s s' : Run ι σ ρ} {x : σ} {versions : List σ} {i : ι}

/-! ## What the clients know -/

/-- What a client has loaded and saved is in the versions. -/
def Client.Sound (S : SharedCell ι σ ρ) (versions : List σ) (i : ι) : Client ρ → Prop
  | .idle => True
  | .loaded base r =>
    base < versions.length ∧ ∃ y, versions[base]? = some y ∧ S.load y = some r
  | .saved base r r' version =>
    (∃ y, versions[base]? = some y ∧ S.load y = some r) ∧ S.edit i r = some r' ∧
      versions[version]? = some (S.save r') ∧ base < version

/-- Whether a client has written the version. -/
def Client.Wrote (version : ℕ) : Client ρ → Prop
  | .saved _ _ _ v => v = version
  | _ => False

theorem getElem?_append_of_eq_some {y : σ} {n : ℕ} (new : List σ) (h : versions[n]? = some y) :
    (versions ++ new)[n]? = some y := by
  obtain ⟨hn, -⟩ := List.getElem?_eq_some_iff.mp h
  rwa [List.getElem?_append_left hn]

theorem Client.Sound.append {c : Client ρ} (h : c.Sound S versions i) (new : List σ) :
    c.Sound S (versions ++ new) i := by
  cases c with
  | idle => trivial
  | loaded base r =>
    obtain ⟨hbase, y, hy, hload⟩ := h
    refine ⟨?_, y, getElem?_append_of_eq_some new hy, hload⟩
    rw [List.length_append]
    omega
  | saved base r r' version =>
    obtain ⟨⟨y, hy, hload⟩, hedit, hversion, hlt⟩ := h
    exact ⟨⟨y, getElem?_append_of_eq_some new hy, hload⟩, hedit,
      getElem?_append_of_eq_some new hversion, hlt⟩

theorem Client.Sound.lt_length {c : Client ρ} {v : ℕ} (h : c.Sound S versions i) (hv : c.Wrote v) :
    v < versions.length := by
  cases c with
  | idle => exact hv.elim
  | loaded base r => exact hv.elim
  | saved base r r' version =>
    obtain rfl : version = v := hv
    obtain ⟨-, -, hversion, -⟩ := h
    exact (List.getElem?_eq_some_iff.mp hversion).1

structure Inv (S : SharedCell ι σ ρ) (x : σ) (s : Run ι σ ρ) : Prop where
  first : s.versions[0]? = some x
  last : s.versions[s.versions.length - 1]? = some s.cell
  sound : ∀ i, (s.client i).Sound S s.versions i
  /-- Every version but the first is the work of exactly one client. -/
  writer : ∀ v, 0 < v → v < s.versions.length → ∃! i, (s.client i).Wrote v

namespace Inv

theorem start : Inv S x (start x) where
  first := rfl
  last := rfl
  sound _ := trivial
  writer v hpos hlt := by
    have hone : v < 1 := hlt
    omega

variable [DecidableEq ι]

theorem load (hs : Inv S x s) (h : S.machine.step s (.load i) = some s') : Inv S x s' := by
  dsimp only [machine] at h
  split at h
  next hidle =>
    obtain ⟨r, hr, rfl⟩ := Option.map_eq_some_iff.mp h
    refine ⟨hs.first, hs.last, fun j ↦ ?_, fun v hpos hlt ↦ ?_⟩
    · obtain rfl | hj := eq_or_ne j i
      · have hbase := (List.getElem?_eq_some_iff.mp hs.last).1
        simpa using ⟨hbase, s.cell, hs.last, hr⟩
      · simpa [Function.update_of_ne hj] using hs.sound j
    · -- The client that loads had written nothing and writes nothing.
      refine (existsUnique_congr fun j ↦ ?_).mpr (hs.writer v hpos hlt)
      obtain rfl | hj := eq_or_ne j i
      · simp [hidle, Client.Wrote]
      · simp [Function.update_of_ne hj]
  next => exact nomatch h

theorem save (hs : Inv S x s) (h : S.machine.step s (.save i) = some s') : Inv S x s' := by
  dsimp only [machine] at h
  split at h
  next base r hloaded =>
    obtain ⟨r', hr', rfl⟩ := Option.map_eq_some_iff.mp h
    refine ⟨getElem?_append_of_eq_some _ hs.first, by simp, fun j ↦ ?_, fun v hpos hlt ↦ ?_⟩
    · obtain rfl | hj := eq_or_ne j i
      · have hsound := hs.sound j
        rw [hloaded] at hsound
        obtain ⟨hbase, y, hy, hload⟩ := hsound
        simpa [Client.Sound] using
          ⟨⟨y, getElem?_append_of_eq_some [S.save r'] hy, hload⟩, hr', hbase⟩
      · simpa [Function.update_of_ne hj] using (hs.sound j).append _
    · rw [List.length_append, List.length_singleton] at hlt
      obtain hold | rfl := Nat.lt_succ_iff_lt_or_eq.mp hlt
      · refine (existsUnique_congr fun j ↦ ?_).mpr (hs.writer v hpos hold)
        obtain rfl | hj := eq_or_ne j i
        · simp only [Function.update_self, hloaded, Client.Wrote, iff_false]
          omega
        · simp [Function.update_of_ne hj]
      · -- Only this client has written the newest version.
        refine ⟨i, by simp [Client.Wrote], fun j hj ↦ ?_⟩
        by_contra hne
        dsimp only at hj
        rw [Function.update_of_ne hne] at hj
        exact absurd ((hs.sound j).lt_length hj) (Nat.lt_irrefl _)
  next => exact nomatch h

theorem of_run {es : List (Event ι)} (hrun : S.machine.run (SharedCell.start x) es = some s) :
    Inv S x s := by
  refine Machine.invariant (fun s e s' hs h ↦ ?_) start hrun
  cases e with
  | load i => exact hs.load h
  | save i => exact hs.save h

end Inv

/-! ## Two clients -/

section Pair

variable {S : SharedCell Bool σ ρ} {s : Run Bool σ ρ} {base version : Bool → ℕ} {r r' : Bool → ρ}

/-- What a client that is done has saved is its edit of what it had loaded. -/
theorem Inv.edit_eq (hs : Inv S x s)
    (hdone : ∀ i, s.client i = .saved (base i) (r i) (r' i) (version i)) (i : Bool) :
    S.edit i (r i) = some (r' i) := by
  have hsound := hs.sound i
  rw [hdone i] at hsound
  exact hsound.2.1

/-- The two versions after the first have different writers. -/
theorem Inv.version_ne (hs : Inv S x s)
    (hdone : ∀ i, s.client i = .saved (base i) (r i) (r' i) (version i)) (i : Bool) :
    version i ≠ version (!i) := by
  intro heq
  have hsound := hs.sound i
  rw [hdone i] at hsound
  obtain ⟨-, -, hversion, hlt⟩ := hsound
  have hlength := (List.getElem?_eq_some_iff.mp hversion).1
  obtain ⟨j, -, huniq⟩ := hs.writer (version i) (by omega) hlength
  have hi : i = j := huniq i (by simp [hdone i, Client.Wrote])
  have hni : (!i) = j := huniq (!i) (by simp [hdone (!i), Client.Wrote, heq])
  exact absurd (hi.trans hni.symm) (by simp)

/-- **Two clients that are done.** The one that saved first had loaded the first version. The other
had loaded the first version or the one just written, and what it saved is the cell. -/
theorem Inv.pair (hs : Inv S x s)
    (hdone : ∀ i, s.client i = .saved (base i) (r i) (r' i) (version i)) {i : Bool}
    (hfirst : version i < version (!i)) :
    s.cell = S.save (r' (!i)) ∧ S.load x = some (r i) ∧
      ((base (!i) = version i ∧ S.load (S.save (r' i)) = some (r (!i))) ∨
        (base (!i) ≠ version i ∧ S.load x = some (r (!i)))) := by
  have hsound : ∀ j, (∃ y, s.versions[base j]? = some y ∧ S.load y = some (r j)) ∧
      S.edit j (r j) = some (r' j) ∧ s.versions[version j]? = some (S.save (r' j)) ∧
      base j < version j := by
    intro j
    have hj := hs.sound j
    rwa [hdone j] at hj
  -- Each version after the first is that of one of the two clients, so there are just two.
  have hwriter : ∀ v, 0 < v → v < s.versions.length → v = version i ∨ v = version (!i) := by
    intro v hpos hlt
    obtain ⟨j, hj, -⟩ := hs.writer v hpos hlt
    rw [hdone j] at hj
    obtain rfl | hne := eq_or_ne j i
    · exact .inl hj.symm
    · obtain rfl := Bool.eq_not_of_ne hne
      exact .inr hj.symm
  obtain ⟨⟨y, hy, hload⟩, -, hversion, hbase⟩ := hsound i
  obtain ⟨⟨y', hy', hload'⟩, -, hversion', hbase'⟩ := hsound (!i)
  have hlength := (List.getElem?_eq_some_iff.mp hversion').1
  have hone : version i = 1 := by
    have := hwriter 1 (by omega) (by omega)
    omega
  have htwo : version (!i) = 2 := by
    have := hwriter 2 (by omega) (by omega)
    omega
  have hthree : s.versions.length = 3 := by
    by_contra hne
    have := hwriter 3 (by omega) (by omega)
    omega
  have hnewest : s.versions.length - 1 = version (!i) := by omega
  have hlast := hs.last
  rw [hnewest, hversion'] at hlast
  obtain hzero : base i = 0 := by omega
  rw [hzero, hs.first] at hy
  obtain rfl := Option.some.inj hy
  refine ⟨(Option.some.inj hlast).symm, hload, ?_⟩
  obtain hbase' | hbase' : base (!i) = 1 ∨ base (!i) = 0 := by omega
  · rw [hbase', ← hone, hversion] at hy'
    obtain rfl := Option.some.inj hy'
    exact .inl ⟨hbase'.trans hone.symm, hload'⟩
  · rw [hbase', hs.first] at hy'
    obtain rfl := Option.some.inj hy'
    exact .inr ⟨by omega, hload'⟩

end Pair

end SharedCell
