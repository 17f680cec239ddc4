import Mathlib.Algebra.Ring.Nat

/-! Finite maps kept in strictly ascending key order, as `std::map` keeps them. -/

/-- A finite map: its entries in strictly ascending key order. -/
structure OrderedMap (κ ν : Type) [LT κ] where
  entries : List (κ × ν)
  sorted : entries.Pairwise fun x y => x.1 < y.1

namespace OrderedMap
variable {κ ν : Type} {k i j : κ} {v : ν} {f : Option ν → ν} {l : List (κ × ν)}

def empty [LT κ] : OrderedMap κ ν := ⟨[], .nil⟩

/-- The value at `k`, if there is an entry. -/
def get? [LT κ] [DecidableEq κ] (m : OrderedMap κ ν) (k : κ) : Option ν := (m.entries.find? (·.1 == k)).map (·.2)

@[simp] theorem get?_empty [LT κ] [DecidableEq κ] : (empty : OrderedMap κ ν).get? k = none := rfl

/-- Replaces the value at `k`, or inserts one at its place in the order. -/
def alterEntries [LT κ] [DecidableLT κ] (k : κ) (f : Option ν → ν) : List (κ × ν) → List (κ × ν)
  | [] => [(k, f none)]
  | (j, v) :: rest =>
    if k < j then (k, f none) :: (j, v) :: rest
    else if j < k then (j, v) :: alterEntries k f rest
    else (j, f (some v)) :: rest

theorem mem_keys_alterEntries [LT κ] [DecidableLT κ] :
    ∀ {l : List (κ × ν)}, i ∈ (alterEntries k f l).map (·.1) → i = k ∨ i ∈ l.map (·.1)
  | [], h => by simpa [alterEntries] using h
  | (j, v) :: rest, h => by
    unfold alterEntries at h
    split at h
    · simpa using h
    · split at h
      · rw [List.map_cons, List.mem_cons] at h
        rcases h with h | h
        · exact Or.inr (by simp [h])
        · exact (mem_keys_alterEntries h).imp id fun h => by simp [List.mem_map.mp h]
      · exact Or.inr (by simpa using h)

/-- The sum of a measure over the entries grows by what the altered value adds. -/
theorem sum_alterEntries [LT κ] [DecidableLT κ] (size : ν → Nat) {n : Nat} (hnone : size (f none) = n)
    (hsome : ∀ v, size (f (some v)) = size v + n) :
    ∀ {l : List (κ × ν)}, ((alterEntries k f l).map fun x => size x.2).sum = (l.map fun x => size x.2).sum + n
  | [] => by simp [alterEntries, hnone]
  | (j, v) :: rest => by
    unfold alterEntries
    split
    · simp only [List.map_cons, List.sum_cons, hnone]
      omega
    · split
      · simp only [List.map_cons, List.sum_cons, sum_alterEntries size hnone hsome]
        omega
      · simp only [List.map_cons, List.sum_cons, hsome]
        omega

section Entries
variable [LE κ] [LT κ] [Std.LawfulOrderLT κ] [DecidableEq κ] {m : OrderedMap κ ν}

/-- In ascending order a key is found where it stands. -/
theorem find?_of_mem (h : l.Pairwise fun x y => x.1 < y.1) (hm : (k, v) ∈ l) : l.find? (·.1 == k) = some (k, v) := by
  induction l with
  | nil => cases hm
  | cons x rest ih =>
    rw [List.pairwise_cons] at h
    rcases List.mem_cons.mp hm with rfl | hm
    · simp
    · have hne : (x.1 == k) = false := by
        rw [beq_eq_false_iff_ne]
        intro hx
        have hlt := h.1 _ hm
        rw [hx] at hlt
        exact Std.lt_irrefl hlt
      simp [hne, ih h.2 hm]

/-- The entries are what the keys map to. -/
theorem mem_entries_iff : (k, v) ∈ m.entries ↔ m.get? k = some v := by
  constructor
  · intro h
    simp [get?, find?_of_mem m.sorted h]
  · intro h
    obtain ⟨⟨j, w⟩, hf, hw⟩ := Option.map_eq_some_iff.mp h
    have hj : j = k := by simpa using List.find?_some hf
    obtain rfl : w = v := hw
    exact hj ▸ List.mem_of_find?_eq_some hf

end Entries

section Order
variable [LE κ] [LT κ] [Std.IsLinearOrder κ] [Std.LawfulOrderLT κ]

theorem eq_of_not_lt (h : ¬i < j) (h' : ¬j < i) : i = j :=
  Std.le_antisymm (Std.not_lt.mp h') (Std.not_lt.mp h)

variable [DecidableLT κ]

theorem sorted_alterEntries :
    ∀ {l : List (κ × ν)}, (l.Pairwise fun x y => x.1 < y.1) → (alterEntries k f l).Pairwise fun x y => x.1 < y.1
  | [], _ => by simp [alterEntries]
  | (j, v) :: rest, h => by
    rw [List.pairwise_cons] at h
    unfold alterEntries
    split
    · rename_i hk
      refine List.pairwise_cons.mpr ⟨fun x hx => ?_, List.pairwise_cons.mpr h⟩
      rcases List.mem_cons.mp hx with rfl | hx
      · exact hk
      · exact Std.lt_trans hk (h.1 x hx)
    · split
      · rename_i hj
        refine List.pairwise_cons.mpr ⟨fun x hx => ?_, sorted_alterEntries h.2⟩
        rcases mem_keys_alterEntries (List.mem_map_of_mem hx) with hxk | hxr
        · exact hxk ▸ hj
        · obtain ⟨y, hy, hyx⟩ := List.mem_map.mp hxr
          exact hyx ▸ h.1 y hy
      · exact List.pairwise_cons.mpr ⟨h.1, h.2⟩

/-- `m[k] = f (m[k])`, where `f none` is the value that a missing entry gets. -/
def alter (m : OrderedMap κ ν) (k : κ) (f : Option ν → ν) : OrderedMap κ ν :=
  ⟨alterEntries k f m.entries, sorted_alterEntries m.sorted⟩

variable [DecidableEq κ]

theorem find?_alterEntries_self :
    ∀ {l : List (κ × ν)}, (l.Pairwise fun x y => x.1 < y.1) →
      (alterEntries k f l).find? (·.1 == k) = some (k, f ((l.find? (·.1 == k)).map (·.2)))
  | [], _ => by simp [alterEntries]
  | (j, v) :: rest, h => by
    rw [List.pairwise_cons] at h
    unfold alterEntries
    split
    · rename_i hk
      have hne : ∀ x ∈ (j, v) :: rest, ¬(x.1 == k) = true := by
        intro x hx hxk
        rw [beq_iff_eq] at hxk
        rcases List.mem_cons.mp hx with rfl | hx
        · exact Std.lt_irrefl (hxk ▸ hk)
        · exact Std.lt_irrefl (hxk ▸ Std.lt_trans hk (h.1 x hx))
      rw [List.find?_eq_none.mpr hne]
      simp
    · split
      · rename_i hj
        have hne : (j == k) = false := by
          rw [beq_eq_false_iff_ne]
          rintro rfl
          exact Std.lt_irrefl hj
        simp [hne, find?_alterEntries_self h.2]
      · rename_i hk hj
        obtain rfl := eq_of_not_lt hk hj
        simp

theorem find?_alterEntries_of_ne (hi : i ≠ k) :
    ∀ {l : List (κ × ν)}, (alterEntries k f l).find? (·.1 == i) = l.find? (·.1 == i)
  | [] => by simp [alterEntries, hi.symm]
  | (j, v) :: rest => by
    unfold alterEntries
    split
    · rw [List.find?_cons_of_neg (by simpa using hi.symm)]
    · split
      · by_cases hji : j = i
        · simp [hji]
        · rw [List.find?_cons_of_neg (by simpa using hji), List.find?_cons_of_neg (by simpa using hji),
            find?_alterEntries_of_ne hi]
      · rename_i hk hj
        obtain rfl := eq_of_not_lt hk hj
        simp [hi.symm]

variable {m : OrderedMap κ ν}

@[simp] theorem get?_alter_self : (m.alter k f).get? k = some (f (m.get? k)) := by
  simp [get?, alter, find?_alterEntries_self m.sorted]

theorem get?_alter_of_ne (hi : i ≠ k) : (m.alter k f).get? i = m.get? i := by
  simp [get?, alter, find?_alterEntries_of_ne hi]

end Order
end OrderedMap
