import Traceroute.Probe

/-! The ttls and retries of the probes of a call, in the order in which both engines send them. -/

namespace Traceroute

variable {c : Call}

/-- The ttls and retries of the probes of a call before retry `i` of `ttl`, ttl by ttl and retry by retry. -/
def Call.positionsBefore (c : Call) (ttl i : Nat) : List (Nat × Nat) :=
  ((List.range' c.ttlBegin.toNat (ttl - c.ttlBegin.toNat)).flatMap fun t =>
    (List.range c.retries.toNat).map fun j => (t, j)) ++ (List.range i).map fun j => (ttl, j)

/-- The number of probes of a call that sends them all. -/
def Call.probeCount (c : Call) : Nat := (c.ttlEnd.toNat + 1 - c.ttlBegin.toNat) * c.retries.toNat

/-- The ttls and retries of all these probes. -/
def Call.positions (c : Call) : List (Nat × Nat) := c.positionsBefore (max c.ttlBegin.toNat (c.ttlEnd.toNat + 1)) 0

theorem positionsBefore_succ (ttl i : Nat) : c.positionsBefore ttl (i + 1) = c.positionsBefore ttl i ++ [(ttl, i)] := by
  simp [Call.positionsBefore, List.range_succ]

theorem positionsBefore_nextTtl {ttl : Nat} (h : c.ttlBegin.toNat ≤ ttl) :
    c.positionsBefore (ttl + 1) 0 = c.positionsBefore ttl c.retries.toNat := by
  have hlen : ttl + 1 - c.ttlBegin.toNat = (ttl - c.ttlBegin.toNat) + 1 := by omega
  have hlast : c.ttlBegin.toNat + (ttl - c.ttlBegin.toNat) = ttl := by omega
  simp [Call.positionsBefore, hlen, List.range'_concat, hlast]

theorem positionsBefore_begin : c.positionsBefore c.ttlBegin.toNat 0 = [] := by
  simp [Call.positionsBefore]

theorem length_positionsBefore (ttl i : Nat) :
    (c.positionsBefore ttl i).length = (ttl - c.ttlBegin.toNat) * c.retries.toNat + i := by
  simp [Call.positionsBefore, List.length_flatMap, List.map_const']

theorem length_positions : c.positions.length = c.probeCount := by
  rw [Call.positions, length_positionsBefore, Call.probeCount,
    show max c.ttlBegin.toNat (c.ttlEnd.toNat + 1) - c.ttlBegin.toNat = c.ttlEnd.toNat + 1 - c.ttlBegin.toNat by omega]
  rfl

/-- A probe of the call has fewer probes before it than the call has. -/
theorem length_positionsBefore_lt {ttl i : Nat} (hb : c.ttlBegin.toNat ≤ ttl) (he : ttl ≤ c.ttlEnd.toNat)
    (hi : i < c.retries.toNat) : (c.positionsBefore ttl i).length < c.probeCount := by
  calc (c.positionsBefore ttl i).length = (ttl - c.ttlBegin.toNat) * c.retries.toNat + i := length_positionsBefore ttl i
    _ < (ttl - c.ttlBegin.toNat) * c.retries.toNat + c.retries.toNat := Nat.add_lt_add_left hi _
    _ = (ttl - c.ttlBegin.toNat + 1) * c.retries.toNat := (Nat.succ_mul _ _).symm
    _ ≤ c.probeCount := Nat.mul_le_mul_right _ (by omega)

theorem positionsBefore_mono {ttl ttl' : Nat} (h : ttl ≤ ttl') : c.positionsBefore ttl 0 <+: c.positionsBefore ttl' 0 := by
  obtain ⟨n, hn⟩ := Nat.exists_eq_add_of_le (Nat.sub_le_sub_right h c.ttlBegin.toNat)
  rw [Call.positionsBefore, Call.positionsBefore, hn, ← List.range'_append_1, List.flatMap_append]
  simp

/-- In the ttl range the probes before a position are the first ones of all. -/
theorem positionsBefore_initial {ttl i : Nat} (hb : c.ttlBegin.toNat ≤ ttl) (he : ttl ≤ c.ttlEnd.toNat)
    (hi : i ≤ c.retries.toNat) : c.positionsBefore ttl i <+: c.positions := by
  obtain ⟨n, hn⟩ := Nat.exists_eq_add_of_le hi
  have hretries : c.positionsBefore ttl i <+: c.positionsBefore ttl c.retries.toNat := by
    rw [Call.positionsBefore, Call.positionsBefore, hn, List.range_add, List.map_append, ← List.append_assoc]
    exact List.prefix_append _ _
  rw [← positionsBefore_nextTtl hb] at hretries
  exact hretries.trans (positionsBefore_mono (by omega))

/-- The place of a probe is the number of those before it. -/
theorem getElem?_positions {ttl i : Nat} (hb : c.ttlBegin.toNat ≤ ttl) (he : ttl ≤ c.ttlEnd.toNat)
    (hi : i < c.retries.toNat) : c.positions[(c.positionsBefore ttl i).length]? = some (ttl, i) := by
  have hinitial := positionsBefore_initial hb he (Nat.succ_le_of_lt hi)
  rw [positionsBefore_succ] at hinitial
  obtain ⟨rest, hrest⟩ := hinitial
  rw [← hrest, List.append_assoc, List.getElem?_append_right (Nat.le_refl _), Nat.sub_self]
  rfl

theorem filter_flatMap_pairs {l : List Nat} (h : l.Nodup) (ttl n : Nat) :
    (l.flatMap fun t => (List.range n).map fun j => (t, j)).filter (·.1 == ttl) =
      if ttl ∈ l then (List.range n).map fun j => (ttl, j) else [] := by
  induction l with
  | nil => rfl
  | cons t l ih =>
    obtain ⟨hne, hl⟩ := List.nodup_cons.mp h
    rw [List.flatMap_cons, List.filter_append, ih hl]
    by_cases ht : t = ttl
    · subst ht
      simp [hne, List.filter_eq_self.mpr]
    · simp [ht, Ne.symm ht, List.filter_map, Function.comp_def]

/-- The probes of a ttl in the range are its retries. -/
theorem filter_positions {ttl : Nat} (hb : c.ttlBegin.toNat ≤ ttl) (he : ttl ≤ c.ttlEnd.toNat) :
    c.positions.filter (·.1 == ttl) = (List.range c.retries.toNat).map fun i => (ttl, i) := by
  rw [Call.positions, Call.positionsBefore, List.range_zero, List.map_nil, List.append_nil,
    filter_flatMap_pairs List.nodup_range', if_pos (List.mem_range'_1.mpr (by omega))]

theorem mem_positions {p : Nat × Nat} (h : p ∈ c.positions) :
    c.ttlBegin.toNat ≤ p.1 ∧ p.1 ≤ c.ttlEnd.toNat ∧ p.2 < c.retries.toNat := by
  simp only [Call.positions, Call.positionsBefore, List.range_zero, List.map_nil, List.append_nil, List.mem_flatMap,
    List.mem_range'_1, List.mem_map, List.mem_range] at h
  obtain ⟨t, ht, i, hi, rfl⟩ := h
  exact ⟨ht.1, by omega, hi⟩

theorem mem_positions_of_lt {ttl i : Nat} (hb : c.ttlBegin.toNat ≤ ttl) (he : ttl ≤ c.ttlEnd.toNat)
    (hi : i < c.retries.toNat) : (ttl, i) ∈ c.positions := by
  have hmem : (ttl, i) ∈ c.positions.filter (·.1 == ttl) := by
    rw [filter_positions hb he]
    exact List.mem_map.mpr ⟨i, List.mem_range.mpr hi, rfl⟩
  exact (List.mem_filter.mp hmem).1

theorem toNat_succ {x : UInt32} {n : Nat} (h : x.toNat < n) (hn : n < 2 ^ 32) : (x + 1).toNat = x.toNat + 1 := by
  rw [UInt32.toNat_add, UInt32.toNat_one, Nat.mod_eq_of_lt (by omega)]

theorem toNat_eq_of_not_lt {x y : UInt32} (hle : x.toNat ≤ y.toNat) (h : ¬x < y) : x.toNat = y.toNat := by
  rw [UInt32.lt_iff_toNat_lt] at h
  omega

/-- Bounds the steps that the loops over the ttls and the retries still take from retry `i` of `ttl` on. -/
def Call.stepsLeft (c : Call) (ttl i : Nat) : Nat :=
  16 * (c.probeCount - (c.positionsBefore ttl i).length) + 4 * (c.ttlEnd.toNat + 1 - ttl)

theorem stepsLeft_succ {ttl i : Nat} (hb : c.ttlBegin.toNat ≤ ttl) (he : ttl ≤ c.ttlEnd.toNat) (hi : i < c.retries.toNat) :
    c.stepsLeft ttl i = c.stepsLeft ttl (i + 1) + 16 := by
  have hlt := length_positionsBefore_lt hb he hi
  simp only [Call.stepsLeft, positionsBefore_succ, List.length_append, List.length_singleton]
  omega

theorem stepsLeft_nextTtl {ttl : Nat} (hb : c.ttlBegin.toNat ≤ ttl) (he : ttl ≤ c.ttlEnd.toNat) :
    c.stepsLeft ttl c.retries.toNat = c.stepsLeft (ttl + 1) 0 + 4 := by
  simp only [Call.stepsLeft, positionsBefore_nextTtl hb]
  omega

end Traceroute
