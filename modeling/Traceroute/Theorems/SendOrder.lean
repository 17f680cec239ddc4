import Traceroute.Theorems.FastSteps
import Traceroute.Theorems.Positions

/-! The order in which `sendPackets` registers its probes: ttl by ttl, and for each ttl retry by retry. -/

namespace Traceroute.Fast

variable {packets : Nat → Packet} {c : Call} {s t : State}

def PacketToValidate.position (p : PacketToValidate) : Nat × Nat := (p.ttl.toNat, p.retry.toNat)

/-- The sender has registered the probes before its position, in their order. -/
def Placed (c : Call) (s : State) : Prop :=
  let b := c.ttlBegin.toNat
  let e := c.ttlEnd.toNat
  match s.sender with
  | .ttlLoop ttl => b ≤ ttl.toNat ∧ (ttl.toNat ≤ e + 1 ∨ ttl.toNat = b) ∧
      s.pushed.map (·.position) = c.positionsBefore ttl.toNat 0
  | .retryLoop ttl i => b ≤ ttl.toNat ∧ ttl.toNat ≤ e ∧ i.toNat ≤ c.retries.toNat ∧
      s.pushed.map (·.position) = c.positionsBefore ttl.toNat i.toNat
  | .created ttl i _ | .sending ttl i _ | .registering ttl i _ => b ≤ ttl.toNat ∧ ttl.toNat ≤ e ∧
      i.toNat < c.retries.toNat ∧ s.pushed.map (·.position) = c.positionsBefore ttl.toNat i.toNat
  | .finished => s.pushed.map (·.position) = c.positionsBefore (max b (e + 1)) 0
  | .threw _ => ∃ ttl i, b ≤ ttl ∧ ttl ≤ e ∧ i < c.retries.toNat ∧
      s.pushed.map (·.position) = c.positionsBefore ttl i

theorem Placed.senderMove {a : SenderAction} (hc : c.ttlEnd.toNat + 1 < 2 ^ 32) (h : Placed c s)
    (m : SenderMove c s a t) : Placed c t := by
  cases m with
  | @enterTtl ttl pc le =>
    simp only [Placed, pc] at h ⊢
    exact ⟨h.1, UInt32.le_iff_toNat_le.mp le, Nat.zero_le _, h.2.2⟩
  | @finish ttl pc lt =>
    simp only [Placed, pc] at h ⊢
    obtain ⟨hb, hle, hpos⟩ := h
    have hlt : c.ttlEnd.toNat < ttl.toNat := by
      rw [UInt32.le_iff_toNat_le] at lt
      omega
    rwa [show max c.ttlBegin.toNat (c.ttlEnd.toNat + 1) = ttl.toNat by omega]
  | @nextTtl ttl i pc le =>
    simp only [Placed, pc] at h ⊢
    obtain ⟨hb, he, hi, hpos⟩ := h
    have hir := toNat_eq_of_not_lt hi le
    have hsucc := toNat_succ (x := ttl) (n := c.ttlEnd.toNat + 1) (by omega) hc
    rw [hsucc, positionsBefore_nextTtl hb, ← hir]
    exact ⟨by omega, Or.inl (by omega), hpos⟩
  | @create ttl i pc lt =>
    simp only [Placed, pc] at h ⊢
    exact ⟨h.1, h.2.1, UInt32.lt_iff_toNat_lt.mp lt, h.2.2.2⟩
  | @createThrows ttl i e pc lt =>
    simp only [Placed, pc] at h ⊢
    exact ⟨ttl.toNat, i.toNat, h.1, h.2.1, UInt32.lt_iff_toNat_lt.mp lt, h.2.2.2⟩
  | send pc => simpa only [Placed, pc] using h
  | sent pc => simpa only [Placed, pc] using h
  | @notSent ttl i k pc =>
    simp only [Placed, pc] at h ⊢
    exact ⟨ttl.toNat, i.toNat, h⟩
  | @sendThrows ttl i k e pc =>
    simp only [Placed, pc] at h ⊢
    exact ⟨ttl.toNat, i.toNat, h⟩
  | @push ttl i k pc free =>
    simp only [Placed, pc] at h ⊢
    obtain ⟨hb, he, hi, hpos⟩ := h
    have hsucc := toNat_succ hi c.retries.toNat_lt
    rw [List.map_append, hpos, hsucc, positionsBefore_succ]
    exact ⟨hb, he, hi, rfl⟩

theorem Placed.congr (h : Placed c s) (sender : t.sender = s.sender) (pushed : t.pushed = s.pushed) : Placed c t := by
  unfold Placed
  rw [sender, pushed]
  exact h

theorem step_placed {a : Action} (hc : c.ttlEnd.toNat + 1 < 2 ^ 32) (h : Placed c s)
    (hs : (machine packets c).step s a = some t) : Placed c t := by
  cases a with
  | tick d =>
    obtain rfl := Option.some.inj hs
    exact h.congr rfl rfl
  | sender a => exact h.senderMove hc (senderStep_move hs)
  | receiver a =>
    have m := receiverStep_move hs
    exact h.congr m.sender m.pushed

theorem Placed.enter {now : Int} {o : Object} : Placed c (enter c now o) :=
  ⟨Nat.le_refl _, Or.inr rfl, positionsBefore_begin.symm⟩

theorem exec_placed {as : List Action} (hc : c.ttlEnd.toNat + 1 < 2 ^ 32) (hs : Placed c s)
    (h : (machine packets c).exec s as = some t) : Placed c t :=
  Machine.exec_invariant (fun hu hv => step_placed hc hu hv) hs h

/-- `sendPackets` has registered the first of its probes, in their order. -/
theorem Placed.initial (h : Placed c s) : s.pushed.map (·.position) <+: c.positions := by
  unfold Placed at h
  split at h
  · rw [h.2.2]
    exact positionsBefore_mono (by omega)
  · rw [h.2.2.2]
    exact positionsBefore_initial h.1 h.2.1 h.2.2.1
  · rw [h.2.2.2]
    exact positionsBefore_initial h.1 h.2.1 (Nat.le_of_lt h.2.2.1)
  · rw [h.2.2.2]
    exact positionsBefore_initial h.1 h.2.1 (Nat.le_of_lt h.2.2.1)
  · rw [h.2.2.2]
    exact positionsBefore_initial h.1 h.2.1 (Nat.le_of_lt h.2.2.1)
  · rw [h]
    exact List.prefix_refl _
  · obtain ⟨ttl, i, hb, he, hi, hpos⟩ := h
    rw [hpos]
    exact positionsBefore_initial hb he (Nat.le_of_lt hi)

theorem Placed.length_le (h : Placed c s) : s.pushed.length ≤ c.probeCount := by
  rw [← length_positions, ← List.length_map (f := PacketToValidate.position)]
  exact h.initial.length_le

/-- The retries of the registered probes of a ttl. -/
def State.retriesOf (s : State) (ttl : UInt32) : List Nat := (s.pushed.filter (·.ttl == ttl)).map (·.retry.toNat)

/-- Without wrapping around, each retry of a ttl is registered at most once, in their order. -/
theorem Placed.retriesOf (h : Placed c s) (ttl : UInt32) : s.retriesOf ttl <+: List.range c.retries.toNat := by
  have hpositions : c.positions.filter (·.1 == ttl.toNat) <+: (List.range c.retries.toNat).map fun i => (ttl.toNat, i) := by
    rw [Call.positions, Call.positionsBefore, List.range_zero, List.map_nil, List.append_nil,
      filter_flatMap_pairs List.nodup_range']
    split
    · exact List.prefix_refl _
    · exact List.nil_prefix
  have hpushed := ((h.initial.filter (·.1 == ttl.toNat)).trans hpositions).map Prod.snd
  have hfilter : (s.pushed.map (·.position)).filter (·.1 == ttl.toNat) =
      (s.pushed.filter (·.ttl == ttl)).map (·.position) := by
    rw [List.filter_map]
    congr 1
    refine List.filter_congr fun p _ => ?_
    rw [Bool.eq_iff_iff]
    simp [PacketToValidate.position, UInt32.toNat_inj]
  rw [hfilter, List.map_map, List.map_map] at hpushed
  simpa [State.retriesOf, Function.comp_def, PacketToValidate.position] using hpushed

/-- Without retries nothing is sent. -/
def Idle (s : State) : Prop :=
  s.pushed = [] ∧ ((∃ ttl, s.sender = .ttlLoop ttl) ∨ (∃ ttl i, s.sender = .retryLoop ttl i) ∨ s.sender = .finished)

theorem step_idle {a : Action} (hr : c.retries = 0) (h : Idle s) (hs : (machine packets c).step s a = some t) :
    Idle t := by
  obtain ⟨hp, hpc⟩ := h
  have no : ∀ i : UInt32, ¬i < c.retries := fun i hi => by
    rw [hr, UInt32.lt_iff_toNat_lt] at hi
    exact Nat.not_lt_zero _ hi
  cases a with
  | tick d =>
    obtain rfl := Option.some.inj hs
    exact ⟨hp, hpc⟩
  | sender a =>
    cases senderStep_move hs with
    | enterTtl pc le => exact ⟨hp, Or.inr (Or.inl ⟨_, _, rfl⟩)⟩
    | finish pc lt => exact ⟨hp, Or.inr (Or.inr rfl)⟩
    | nextTtl pc le => exact ⟨hp, Or.inl ⟨_, rfl⟩⟩
    | create pc lt => exact absurd lt (no _)
    | createThrows pc lt => exact absurd lt (no _)
    | send pc => simp [pc] at hpc
    | sent pc => simp [pc] at hpc
    | notSent pc => simp [pc] at hpc
    | sendThrows pc => simp [pc] at hpc
    | push pc free => simp [pc] at hpc
  | receiver a =>
    have m := receiverStep_move hs
    exact ⟨m.pushed.trans hp, m.sender ▸ hpc⟩

/-- The registered probes are at most the probes of the call, also when its loop over the ttls does not
    end because it has no probes. -/
theorem exec_pushed_length {as : List Action} {now : Int} {o : Object}
    (hc : c.ttlEnd.toNat + 1 < 2 ^ 32 ∨ c.retries = 0)
    (h : (machine packets c).exec (Fast.enter c now o) as = some t) :
    t.pushed.length ≤ c.probeCount := by
  rcases hc with hc | hr
  · exact (exec_placed hc .enter h).length_le
  · have hidle := Machine.exec_invariant (fun hu hv => step_idle hr hu hv)
      (show Idle (Fast.enter c now o) from ⟨rfl, Or.inl ⟨_, rfl⟩⟩) h
    rw [hidle.1]
    exact Nat.zero_le _

end Traceroute.Fast
