import Mathlib.Data.List.Perm.Basic
import Traceroute.Theorems.SendOrder

/-! Conservation of probes: a registered probe is outstanding, or it has one result under its ttl, and never
    both. -/

namespace Traceroute.Fast

variable {packets : Nat → Packet} {c : Call} {s t : State} {left : List PacketToValidate}

/-- The results recorded for a ttl, in the order in which they were recorded. -/
def State.resultsOf (s : State) (ttl : UInt32) : List ProbeResult :=
  (s.recorded.filter (·.probe.ttl == ttl)).map (·.result)

/-- The probes left over from earlier calls and those of this one are the outstanding ones and the recorded
    ones, each once; `ttlToProbeResults` holds what was recorded, grouped by ttl. -/
structure Conserved (left : List PacketToValidate) (s : State) : Prop where
  perm : (left ++ s.pushed).Perm (s.mPacketsToBeValidated ++ s.recorded.map (·.probe))
  grouped : ∀ ttl, (s.ttlToProbeResults.get? ttl).getD [] = s.resultsOf ttl
  nonempty : ∀ ttl, s.ttlToProbeResults.get? ttl ≠ some []
  size : (s.ttlToProbeResults.entries.map fun kv => kv.2.length).sum = s.recorded.length

theorem Conserved.enter {now : Int} {o : Object} : Conserved o.mPacketsToBeValidated (enter c now o) where
  perm := by simp [Fast.enter]
  grouped ttl := by simp [Fast.enter, State.resultsOf]
  nonempty ttl := by simp [Fast.enter]
  size := rfl

theorem Conserved.move (h : Conserved left s) (m : LedgerMove s t) : Conserved left t := by
  cases m with
  | still packets results pushed recorded =>
    refine ⟨?_, ?_, ?_, ?_⟩
    · rw [packets, pushed, recorded]
      exact h.perm
    · intro ttl
      rw [results, State.resultsOf, recorded]
      exact h.grouped ttl
    · rw [results]
      exact h.nonempty
    · rw [results, recorded]
      exact h.size
  | push probe pc sentAt packets results pushed recorded =>
    refine ⟨?_, ?_, ?_, ?_⟩
    · rw [packets, pushed, recorded, ← List.append_assoc, List.append_assoc s.mPacketsToBeValidated]
      refine (h.perm.append_right [probe]).trans ?_
      rw [List.append_assoc]
      exact List.Perm.append_left _ List.perm_append_comm
    · intro ttl
      rw [results, State.resultsOf, recorded]
      exact h.grouped ttl
    · rw [results]
      exact h.nonempty
    · rw [results, recorded]
      exact h.size
  | record it r at_ packets results pushed recorded =>
    obtain ⟨hit, hr⟩ := List.getElem?_eq_some_iff.mp at_
    refine ⟨?_, ?_, ?_, ?_⟩
    · have hout : s.mPacketsToBeValidated.Perm (r.probe :: s.mPacketsToBeValidated.eraseIdx it) := by
        rw [← hr]
        exact (List.getElem_cons_eraseIdx_perm hit).symm
      rw [packets, pushed, recorded, List.map_append, ← List.append_assoc]
      refine h.perm.trans ((hout.append_right _).trans ?_)
      rw [List.cons_append]
      exact (List.perm_append_singleton _ _).symm
    · intro ttl
      rw [results, State.resultsOf, recorded]
      by_cases ht : r.probe.ttl = ttl
      · subst ht
        rw [OrderedMap.get?_alter_self, Option.getD_some, h.grouped]
        simp [State.resultsOf]
      · rw [OrderedMap.get?_alter_of_ne (Ne.symm ht), h.grouped ttl]
        simp [State.resultsOf, ht]
    · intro ttl
      rw [results]
      by_cases ht : ttl = r.probe.ttl
      · subst ht
        simp
      · rw [OrderedMap.get?_alter_of_ne ht]
        exact h.nonempty ttl
    · rw [results, recorded, List.length_append, ← h.size]
      exact OrderedMap.sum_alterEntries List.length rfl (by simp)

theorem exec_conserved {as : List Action} (h : (machine packets c).exec s as = some t) (hs : Conserved left s) :
    Conserved left t :=
  Machine.exec_invariant (fun hu hv => hu.move (step_ledger hv)) hs h

/-! ### The probes are distinct -/

/-- The packet that `sendPackets` has created and not yet registered. -/
def Sender.held : Sender → Option Nat
  | .created _ _ k | .sending _ _ k | .registering _ _ k => some k
  | _ => none

/-- Packets are numbered by their creation: no two probes have the same one, and the one that the sender
    holds belongs to none yet. -/
structure Numbered (left : List PacketToValidate) (s : State) : Prop where
  below : ∀ p ∈ left ++ s.pushed, p.packet < s.created
  nodup : ((left ++ s.pushed).map (·.packet)).Nodup
  held : ∀ k, s.sender.held = some k → k < s.created ∧ ∀ p ∈ left ++ s.pushed, p.packet ≠ k

theorem Numbered.of_eq (h : Numbered left s) (pushed : t.pushed = s.pushed) (created : s.created ≤ t.created)
    (held : ∀ k, t.sender.held = some k → s.sender.held = some k) : Numbered left t where
  below p hp := Nat.lt_of_lt_of_le (h.below p (pushed ▸ hp)) created
  nodup := by
    rw [pushed]
    exact h.nodup
  held k hk := by
    rw [pushed]
    exact ⟨Nat.lt_of_lt_of_le (h.held k (held k hk)).1 created, (h.held k (held k hk)).2⟩

theorem Numbered.enter {now : Int} {o : Object} : Numbered o.mPacketsToBeValidated (enter c now o) where
  below p hp := o.below p (by simpa [Fast.enter] using hp)
  nodup := by simpa [Fast.enter] using o.distinct
  held k hk := by simp [Fast.enter, Sender.held] at hk

theorem Numbered.senderMove {a : SenderAction} (h : Numbered left s) (m : SenderMove c s a t) : Numbered left t := by
  cases m with
  | create pc lt =>
    refine ⟨fun p hp => Nat.lt_succ_of_lt (h.below p hp), h.nodup, fun k hk => ?_⟩
    obtain rfl := Option.some.inj hk
    exact ⟨Nat.lt_succ_self _, fun p hp => Nat.ne_of_lt (h.below p hp)⟩
  | @push ttl i k pc free =>
    obtain ⟨hk, hne⟩ := h.held k (by rw [pc]; rfl)
    refine ⟨fun p hp => ?_, ?_, fun k hk => by simp [Sender.held] at hk⟩
    · rw [← List.append_assoc, List.mem_append, List.mem_singleton] at hp
      rcases hp with hp | rfl
      · exact h.below p hp
      · exact hk
    · rw [← List.append_assoc, List.map_append, List.nodup_append]
      refine ⟨h.nodup, by simp, fun x hx y hy => ?_⟩
      obtain ⟨p, hp, rfl⟩ := List.mem_map.mp hx
      obtain rfl := List.mem_singleton.mp hy
      exact hne p hp
  | send pc => exact h.of_eq rfl (Nat.le_refl _) fun k hk => by rw [pc]; exact hk
  | sent pc => exact h.of_eq rfl (Nat.le_refl _) fun k hk => by rw [pc]; exact hk
  | _ => exact h.of_eq rfl (Nat.le_refl _) fun k hk => by simp [Sender.held] at hk

theorem exec_numbered {as : List Action} (h : (machine packets c).exec s as = some t) (hs : Numbered left s) :
    Numbered left t := by
  refine Machine.exec_invariant (fun {s t a} hs hst => ?_) hs h
  cases a with
  | tick d =>
    obtain rfl := Option.some.inj hst
    exact hs.of_eq rfl (Nat.le_refl _) fun _ hk => hk
  | sender a => exact hs.senderMove (senderStep_move hst)
  | receiver a =>
    have m := receiverStep_move hst
    exact hs.of_eq m.pushed m.created fun k hk => m.sender ▸ hk

/-! ### What is recorded -/

theorem LedgerMove.recorded (m : LedgerMove s t) : s.recorded <+: t.recorded := by
  cases m with
  | still packets results pushed recorded => exact recorded ▸ List.prefix_refl _
  | push probe pc sentAt packets results pushed recorded => exact recorded ▸ List.prefix_refl _
  | record it r at_ packets results pushed recorded => exact recorded ▸ List.prefix_append _ _

/-- What is recorded stays recorded. -/
theorem exec_recorded {as : List Action} (h : (machine packets c).exec s as = some t) : s.recorded <+: t.recorded :=
  Machine.exec_relation (R := fun s t => s.recorded <+: t.recorded) (fun _ => List.prefix_refl _) List.IsPrefix.trans
    (fun h => (step_ledger h).recorded) h

/-- The outstanding and the recorded probes are distinct. -/
theorem Conserved.nodup (h : Conserved left s) (hn : Numbered left s) :
    ((s.mPacketsToBeValidated ++ s.recorded.map (·.probe)).map (·.packet)).Nodup :=
  (h.perm.map _).nodup_iff.mp hn.nodup

theorem Conserved.recorded_inj (h : Conserved left s) (hn : Numbered left s) {r r' : Record} (hr : r ∈ s.recorded)
    (hr' : r' ∈ s.recorded) (hp : r.probe.packet = r'.probe.packet) : r = r' := by
  have hnd := h.nodup hn
  rw [List.map_append, List.map_map] at hnd
  exact List.inj_on_of_nodup_map (List.nodup_append.mp hnd).2.1 hr hr' hp

theorem Conserved.length (h : Conserved [] s) : s.recorded.length ≤ s.pushed.length := by
  have hlen := h.perm.length_eq
  rw [List.nil_append, List.length_append, List.length_map] at hlen
  omega

theorem Conserved.getCurrentSize_le (h : Conserved [] s) : s.getCurrentSize.toNat ≤ s.recorded.length := by
  rw [State.getCurrentSize, UInt32.toNat_ofNat', h.size]
  exact Nat.mod_le _ _

theorem Conserved.count (h : Conserved [] s) (ttl : UInt32) :
    (s.resultsOf ttl).length + s.mPacketsToBeValidated.countP (·.ttl == ttl) = s.pushed.countP (·.ttl == ttl) := by
  have hcount := h.perm.countP_eq (·.ttl == ttl)
  rw [List.nil_append, List.countP_append, List.countP_map] at hcount
  rw [hcount, State.resultsOf, List.length_map, ← List.countP_eq_length_filter, Nat.add_comm]
  rfl

/-- Every registered probe is in exactly one place: it is outstanding, or it has one result under its ttl. -/
theorem probes_conserved (packets : Nat → Packet) (c : Call) (now : Int) (created : Nat) (buffer : Bytes)
    {as : List Action} {s : State}
    (h : (machine packets c).exec (enter c now (.fresh created buffer)) as = some s) :
    s.pushed.Perm (s.mPacketsToBeValidated ++ s.recorded.map (·.probe)) ∧
    (s.pushed.map (·.packet)).Nodup ∧
    (∀ ttl, (s.ttlToProbeResults.get? ttl).getD [] = (s.recorded.filter (·.probe.ttl == ttl)).map (·.result)) ∧
    (∀ ttl, ((s.ttlToProbeResults.get? ttl).getD []).length + s.mPacketsToBeValidated.countP (·.ttl == ttl) =
      s.pushed.countP (·.ttl == ttl)) ∧
    (c.ttlEnd.toNat + 1 < 2 ^ 32 ∨ c.retries = 0 → c.expectedSize = c.probeCount →
      s.getCurrentSize.toNat ≤ c.expectedSize) := by
  have hs : Conserved [] s := exec_conserved h (Conserved.enter (o := .fresh created buffer))
  have hn : Numbered [] s := exec_numbered h (Numbered.enter (o := .fresh created buffer))
  refine ⟨by simpa using hs.perm, by simpa using hn.nodup, hs.grouped, fun ttl => ?_, fun hc he => ?_⟩
  · rw [hs.grouped]
    exact hs.count ttl
  · calc s.getCurrentSize.toNat ≤ s.recorded.length := hs.getCurrentSize_le
      _ ≤ s.pushed.length := hs.length
      _ ≤ c.probeCount := exec_pushed_length hc h
      _ = c.expectedSize := he.symm

/-- A packet that accepts nothing. -/
def deaf : Packet := ⟨⟨Vector.replicate 128 0⟩, fun _ _ => .ok false⟩

/-- `sendPackets` sends one probe and registers it. -/
def sendProbe : List Action :=
  [.sender (.createPacket (.ok ())), .sender .trySending, .sender (.trySendingReturns (.ok true)), .sender .pushBack]

/-- The receiver waits for `d` nanoseconds, receives nothing and takes the lock. -/
def receiveNothing (d : Nat) : List Action :=
  [.receiver .testLoop, .tick d, .receiver (.tryReceivingReturns (.ok none) fun _ => 0), .receiver .lock,
    .receiver .matchResponse]

def anyResponse : ResponseInfo := ⟨⟨Vector.replicate 128 0⟩, 1, 28⟩

/-- Packet `n` accepts the responses of size `n`. -/
def bySize (n : Nat) : Packet := ⟨⟨Vector.replicate 128 0⟩, fun respInfo _ => .ok (respInfo.size.toNat == n)⟩

/-- A response of size `n` arrives after `d` nanoseconds of a wait, and is matched. -/
def receiveSized (n : UInt64) (d : Nat) : List Action :=
  [.receiver .testLoop, .tick d, .receiver (.tryReceivingReturns (.ok (some { anyResponse with size := n })) fun _ => 0),
    .receiver .lock, .receiver .matchResponse]

/-- Two ttls with two probes each. A wait of a millisecond leaves five microseconds of the window of a probe. -/
def twoByTwo : Call := ⟨1, 2, 2, 1005⟩

/-- The answers to the probes 2 and 0 arrive, one with each of the ttls; the probes 1 and 3 expire. -/
def mixedRun : List Action :=
  .sender .testTtl :: sendProbe ++ sendProbe ++ [.receiver .readBeginAt, .sender .nextTtl, .sender .testTtl] ++
    sendProbe ++ sendProbe ++ receiveSized 2 2000 ++ List.replicate 4 (.receiver .sweep) ++ receiveSized 0 2000 ++
    List.replicate 3 (.receiver .sweep) ++ receiveNothing 1000000 ++
    [.receiver .sweep, .receiver .expire, .receiver .sweep, .receiver .expire]

theorem probes_conserved_expired :
    ∃ s, (machine bySize twoByTwo).exec (enter twoByTwo 0 (.fresh 0 fun _ => 0)) (mixedRun.take 44) = some s ∧
      s.recorded.map (·.probe.packet) = [2, 0, 1] ∧ s.mPacketsToBeValidated.map (·.packet) = [3] ∧
      s.pushed.Perm (s.mPacketsToBeValidated ++ s.recorded.map (·.probe)) := by
  obtain ⟨s, hs, hprobes⟩ := Option.map_eq_some_iff.mp (show ((machine bySize twoByTwo).exec
    (enter twoByTwo 0 (.fresh 0 fun _ => 0)) (mixedRun.take 44)).map
      (fun s => (s.recorded.map (·.probe.packet), s.mPacketsToBeValidated.map (·.packet))) = some ([2, 0, 1], [3]) from rfl)
  obtain ⟨hrecorded, houtstanding⟩ := Prod.mk.inj hprobes
  exact ⟨s, hs, hrecorded, houtstanding, (probes_conserved _ _ _ _ _ hs).1⟩

end Traceroute.Fast
