import Mathlib.Data.List.Nodup

/-!
# Dictionaries in the order of insertion

A dictionary has its keys in the order in which they first came; a new value for a key that is there
takes the place of the old one.
-/

structure OrderedDict (κ ν : Type*) where
  entries : List (κ × ν)
  nodup : (entries.map Prod.fst).Nodup
  deriving DecidableEq

namespace OrderedDict

variable {κ ν μ : Type*}

def empty : OrderedDict κ ν := ⟨[], List.nodup_nil⟩

def keys (d : OrderedDict κ ν) : List κ := d.entries.map Prod.fst

def values (d : OrderedDict κ ν) : List ν := d.entries.map Prod.snd

/-- The same keys with other values. -/
def map (f : ν → μ) (d : OrderedDict κ ν) : OrderedDict κ μ where
  entries := d.entries.map fun e ↦ (e.1, f e.2)
  nodup := by
    rw [List.map_map]
    exact d.nodup

@[simp] theorem keys_empty : (empty : OrderedDict κ ν).keys = [] := rfl

@[simp] theorem keys_map (f : ν → μ) (d : OrderedDict κ ν) : (d.map f).keys = d.keys := by
  rw [keys, map, List.map_map]
  rfl

variable [DecidableEq κ]

def find? (d : OrderedDict κ ν) (k : κ) : Option ν := (d.entries.find? (·.1 = k)).map Prod.snd

def put (k : κ) (v : ν) (entries : List (κ × ν)) : List (κ × ν) :=
  if k ∈ entries.map Prod.fst then entries.map fun e ↦ if e.1 = k then (k, v) else e
  else entries ++ [(k, v)]

theorem keys_put (k : κ) (v : ν) (entries : List (κ × ν)) :
    (put k v entries).map Prod.fst =
      if k ∈ entries.map Prod.fst then entries.map Prod.fst else entries.map Prod.fst ++ [k] := by
  rw [put]
  split_ifs
  · rw [List.map_map]
    refine List.map_congr_left fun e _ ↦ ?_
    by_cases heq : e.1 = k
    · simp [heq]
    · simp [heq]
  · rw [List.map_append, List.map_singleton]

def insert (d : OrderedDict κ ν) (k : κ) (v : ν) : OrderedDict κ ν where
  entries := put k v d.entries
  nodup := by
    rw [keys_put]
    split_ifs with hk
    · exact d.nodup
    · rw [List.nodup_append_comm]
      exact List.nodup_cons.mpr ⟨hk, d.nodup⟩

theorem mem_keys_insert {d : OrderedDict κ ν} {k l : κ} {v : ν} :
    l ∈ (d.insert k v).keys ↔ l ∈ d.keys ∨ l = k := by
  have hkeys : (d.insert k v).keys = if k ∈ d.keys then d.keys else d.keys ++ [k] :=
    keys_put k v d.entries
  rw [hkeys]
  split_ifs with hk
  · refine ⟨Or.inl, ?_⟩
    rintro (hl | rfl)
    · exact hl
    · exact hk
  · rw [List.mem_append, List.mem_singleton]

/-- Insertions one after another, each value found from the dictionary so far. -/
theorem mem_keys_foldl_insert {ι : Type*} (key : ι → κ) (value : OrderedDict κ ν → ι → ν)
    (is : List ι) (d : OrderedDict κ ν) (k : κ) :
    k ∈ (is.foldl (fun d i ↦ d.insert (key i) (value d i)) d).keys ↔
      k ∈ d.keys ∨ k ∈ is.map key := by
  induction is generalizing d with
  | nil => simp
  | cons i is ih =>
    rw [List.foldl_cons, ih, mem_keys_insert, List.map_cons, List.mem_cons, or_assoc]

end OrderedDict
