import Traceroute.Theorems.SequentialShape

/-! The order in which `SequentialTraceroute` sends its probes: ttl by ttl, for each ttl retry by retry, and each one when the
    one before it has its result. -/

namespace Traceroute.Sequential

variable {destination : Nat → SocketAddress} {c : Call} {s t : State}

def Record.key (r : Record) : UInt32 × Nat := (r.attempt.ttl, r.attempt.packet)

/-- The results of the probes before the position are recorded, in their order. -/
def Placed (c : Call) (s : State) : Prop :=
  let b := c.ttlBegin.toNat
  let e := c.ttlEnd.toNat
  match s.position with
  | .ttlLoop ttl => b ≤ ttl.toNat ∧ (ttl.toNat ≤ e + 1 ∨ ttl.toNat = b) ∧
      s.recorded.map (·.attempt.place) = c.positionsBefore ttl.toNat 0
  | .retryLoop ttl i => b ≤ ttl.toNat ∧ ttl.toNat ≤ e ∧ i.toNat ≤ c.retries.toNat ∧
      s.recorded.map (·.attempt.place) = c.positionsBefore ttl.toNat i.toNat
  | .created ttl i _ | .sending ttl i _ | .sent ttl i _ => b ≤ ttl.toNat ∧ ttl.toNat ≤ e ∧ i.toNat < c.retries.toNat ∧
      s.recorded.map (·.attempt.place) = c.positionsBefore ttl.toNat i.toNat
  | .waiting a _ _ | .receiving a _ _ | .validating a _ | .waited a _ _ => b ≤ a.ttl.toNat ∧ a.ttl.toNat ≤ e ∧
      a.i.toNat < c.retries.toNat ∧ s.recorded.map (·.attempt.place) = c.positionsBefore a.ttl.toNat a.i.toNat
  | .returned _ | .threw _ => s.recorded.map (·.attempt.place) <+: c.positions

theorem placed_initial {ttl i : Nat} (hb : c.ttlBegin.toNat ≤ ttl) (he : ttl ≤ c.ttlEnd.toNat) (hi : i ≤ c.retries.toNat)
    (hpos : s.recorded.map (·.attempt.place) = c.positionsBefore ttl i) : s.recorded.map (·.attempt.place) <+: c.positions := by
  rw [hpos]
  exact positionsBefore_initial hb he hi

theorem Move.placed {a : Action} (hend : c.ttlEnd.toNat + 1 < 2 ^ 32) (h : Placed c s) (m : Move destination c s a t) :
    Placed c t := by
  unfold Placed at h
  cases m with
  | tick d => exact h
  | @enterTtl ttl pc le =>
    simp only [pc] at h
    exact ⟨h.1, UInt32.le_iff_toNat_le.mp le, Nat.zero_le _, h.2.2⟩
  | @return_ ttl pc lt =>
    simp only [pc] at h
    obtain ⟨hb, hle, hpos⟩ := h
    show s.recorded.map _ <+: _
    rw [hpos]
    exact positionsBefore_mono (by omega)
  | @create ttl i pc lt =>
    simp only [pc] at h
    exact ⟨h.1, h.2.1, UInt32.lt_iff_toNat_lt.mp lt, h.2.2.2⟩
  | createThrows pc lt =>
    simp only [pc] at h
    exact placed_initial h.1 h.2.1 h.2.2.1 h.2.2.2
  | send pc | sent pc | begin_ pc | stop pc | call pc | nothing pc | receive pc | validate pc =>
    simp only [pc] at h
    exact h
  | notSent pc | sendThrows pc | receiveThrows pc | validateThrows pc =>
    simp only [pc] at h
    exact placed_initial h.1 h.2.1 (Nat.le_of_lt h.2.2.1) h.2.2.2
  | @success a respInfo pc | @failure a r pc =>
    simp only [pc] at h
    obtain ⟨hb, he, hi, hpos⟩ := h
    have hsucc := toNat_succ hi c.retries.toNat_lt
    simp only [Placed, State.record, List.map_append, hpos, hsucc, positionsBefore_succ]
    exact ⟨hb, he, hi, rfl⟩
  | @break_ ttl i pc le reached =>
    simp only [pc] at h
    exact placed_initial h.1 h.2.1 h.2.2.1 h.2.2.2
  | @nextTtl ttl i pc le notReached =>
    simp only [pc] at h
    obtain ⟨hb, he, hi, hpos⟩ := h
    have hir := toNat_eq_of_not_lt hi le
    have hsucc := toNat_succ (x := ttl) (n := c.ttlEnd.toNat + 1) (by omega) hend
    simp only [Placed, hsucc, positionsBefore_nextTtl hb, ← hir]
    exact ⟨by omega, Or.inl (by omega), hpos⟩

theorem Placed.enter {now : Int} {created : Nat} {buffer : Bytes} : Placed c (enter c now created buffer) :=
  ⟨Nat.le_refl _, Or.inr rfl, positionsBefore_begin.symm⟩

/-- The probe that has been handed to `trySending` and has no result yet. -/
def Position.current : Position → List (UInt32 × Nat)
  | .sending ttl _ k | .sent ttl _ k => [(ttl, k)]
  | .waiting a _ _ | .receiving a _ _ | .validating a _ | .waited a _ _ => [(a.ttl, a.packet)]
  | _ => []

/-- The number that the next packet handed to `trySending` has at least. -/
def State.nextSent (s : State) : Nat :=
  match s.position with
  | .created _ _ k => k
  | _ => s.created

def Position.thrown : Position → Bool
  | .threw _ => true
  | _ => false

/-- The probes are handed to `trySending` in the order of the loops, each once the one before it has its result. -/
structure Sends (c : Call) (s : State) : Prop where
  inTurn : s.position.thrown = false → s.sent = s.recorded.map (·.key) ++ s.position.current
  order : s.sent.map (·.1.toNat) <+: c.positions.map (·.1)
  ascending : s.sent.Pairwise (·.2 < ·.2)
  below : ∀ x ∈ s.sent, x.2 < s.nextSent
  created : ∀ ttl i k, s.position = .created ttl i k → k < s.created

theorem Sends.enter {now : Int} {created : Nat} {buffer : Bytes} : Sends c (enter c now created buffer) where
  inTurn := fun _ => rfl
  order := List.nil_prefix
  ascending := .nil
  below := fun x hx => by cases hx
  created := fun ttl i k pc => by cases pc

/-- The probe handed to `trySending` is the next one of the loops. -/
theorem Placed.next {ttl i : UInt32} {k : Nat} (h : Placed c s) (pc : s.position = .created ttl i k)
    (hsent : s.sent = s.recorded.map (·.key)) : (s.sent ++ [(ttl, k)]).map (·.1.toNat) <+: c.positions.map (·.1) := by
  simp only [Placed, pc] at h
  obtain ⟨hb, he, hi, hpos⟩ := h
  have hsends : (s.sent ++ [(ttl, k)]).map (·.1.toNat) = (c.positionsBefore ttl.toNat (i.toNat + 1)).map (·.1) := by
    have hkeys : s.sent.map (·.1.toNat) = (s.recorded.map (·.attempt.place)).map (·.1) := by
      rw [hsent, List.map_map, List.map_map]
      rfl
    rw [positionsBefore_succ, List.map_append, List.map_append, hkeys, hpos]
    rfl
  rw [hsends]
  exact (positionsBefore_initial hb he hi).map _

theorem Move.sends {a : Action} (hp : Placed c s) (h : Sends c s) (m : Move destination c s a t) : Sends c t := by
  have hbelow := h.below
  have hturn := h.inTurn
  have hcreated := h.created
  cases m with
  | tick d => exact ⟨h.inTurn, h.order, h.ascending, h.below, h.created⟩
  | create pc lt =>
    simp only [State.nextSent, pc] at hbelow hturn
    refine ⟨hturn, h.order, h.ascending, hbelow, fun _ _ _ pc => ?_⟩
    cases pc
    exact Nat.lt_succ_self _
  | @send ttl i k pc =>
    simp only [State.nextSent, pc] at hbelow hturn
    have hk := h.created ttl i k pc
    have hsent : s.sent = s.recorded.map (·.key) := (hturn rfl).trans (List.append_nil _)
    refine ⟨fun _ => by rw [hsent]; rfl, hp.next pc hsent, ?_, ?_, fun _ _ _ pc => by cases pc⟩
    · exact List.pairwise_append.mpr ⟨h.ascending, List.pairwise_singleton _ _, fun x hx y hy => by
        obtain rfl := List.mem_singleton.mp hy
        exact hbelow x hx⟩
    · exact List.forall_mem_append.mpr ⟨fun x hx => Nat.lt_trans (hbelow x hx) hk, List.forall_mem_singleton.mpr hk⟩
  | createThrows pc | notSent pc | sendThrows pc | receiveThrows pc | validateThrows pc =>
    simp only [State.nextSent, pc] at hbelow
    exact ⟨fun hthrown => (by cases hthrown), h.order, h.ascending, hbelow, fun _ _ _ pc => by cases pc⟩
  | success pc | failure pc =>
    simp only [State.nextSent, pc] at hbelow hturn
    refine ⟨fun _ => ?_, h.order, h.ascending, hbelow, fun _ _ _ pc => by cases pc⟩
    simp only [State.record, hturn rfl, List.map_append]
    exact (List.append_nil _).symm
  | enterTtl pc | return_ pc | sent pc | begin_ pc | stop pc | call pc | nothing pc | receive pc | validate pc | break_ pc
  | nextTtl pc =>
    simp only [State.nextSent, pc] at hbelow hturn
    exact ⟨fun _ => hturn rfl, h.order, h.ascending, hbelow, fun _ _ _ pc => by cases pc⟩

theorem exec_sends {as : List Action} {now : Int} {created : Nat} {buffer : Bytes} (hend : c.ttlEnd.toNat + 1 < 2 ^ 32)
    (h : (machine destination c).exec (Sequential.enter c now created buffer) as = some t) : Sends c t :=
  (Machine.exec_invariant (I := fun s => Placed c s ∧ Sends c s)
    (fun hs hst => ⟨(step_move hst).placed hend hs.1, (step_move hst).sends hs.1 hs.2⟩) ⟨.enter, .enter⟩ h).2

end Traceroute.Sequential
