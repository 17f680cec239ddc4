import Traceroute.Theorems.Results

/-! What a call leaves in `mPacketsToBeValidated`, and what a later call on the same object makes of it. -/

namespace Traceroute.Fast

variable {packets : Nat → Packet} {c : Call} {now : Int} {s t u : State} {o : Object} {as : List Action}

/-- The receiver is in its loop, or before it. -/
def Receiver.probing : Receiver → Bool
  | .postprocessing | .returned _ | .threw _ => false
  | _ => true

theorem Receiver.not_probing_of_done {r : Receiver} (h : r.done = true) : r.probing = false := by
  cases r with
  | returned results => rfl
  | threw e => rfl
  | _ => cases h

/-- The results of all probes of the call have been counted. -/
def State.complete (c : Call) (s : State) : Bool := c.probeCount ≤ s.getCurrentSize.toNat

/-- While results are missing the time for them is not over and `tryReceiving` returns; and no outstanding probe
    throws in `isValid`. -/
def staysInLoop (packets : Nat → Packet) (c : Call) (s : State) : Action → Bool
  | .receiver .testLoop =>
    match s.receiver with
    | .loopHead beginAt => s.complete c || getTimeLeft s.now beginAt c.expectedMaxTimeTaken > 0
    | _ => true
  | .receiver (.tryReceivingReturns (.error _) _) => s.complete c
  | .receiver .matchResponse =>
    match s.receiver with
    | .matching _ (some respInfo) => (findValid packets respInfo s.mBuffer s.mPacketsToBeValidated).isOk
    | _ => true
  | _ => true

/-! ### What is left when the loop is left -/

theorem expectedSize_le_of_not_goesOn {beginAt : Int} (off : s.goesOn c beginAt = false)
    (hleft : getTimeLeft s.now beginAt c.expectedMaxTimeTaken > 0) : c.expectedSize ≤ s.getCurrentSize.toNat := by
  simpa [State.goesOn, hleft] using off

theorem SenderMove.complete {a : SenderAction} (m : SenderMove c s a t) : t.complete c = s.complete c := by
  rw [State.complete, State.complete, State.getCurrentSize, State.getCurrentSize, m.ttlToProbeResults]

theorem step_complete {a : Action} (hcount : c.probeCount ≤ c.expectedSize) (hP : staysInLoop packets c s a = true)
    (h : s.receiver.probing = false → s.complete c = true) (hs : (machine packets c).step s a = some t) :
    t.receiver.probing = false → t.complete c = true := by
  intro ht
  cases a with
  | tick d =>
    obtain rfl := Option.some.inj hs
    exact h ht
  | sender a =>
    have m := senderStep_move hs
    rw [m.complete]
    exact h (m.receiver ▸ ht)
  | receiver a =>
    cases receiverStep_move hs with
    | leave pc off =>
      simp only [staysInLoop, pc, Bool.or_eq_true, decide_eq_true_eq] at hP
      exact hP.elim id fun hleft => decide_eq_true (Nat.le_trans hcount (expectedSize_le_of_not_goesOn off hleft))
    | receiveThrows pc => exact hP
    | matchThrows pc found => simp [staysInLoop, pc, found, Except.toBool] at hP
    | return_ pc => exact h (by rw [pc]; rfl)
    | postprocessThrows pc => exact h (by rw [pc]; rfl)
    | _ => cases ht

/-- A call that begins without probes and has counted all its results has no probe outstanding. -/
theorem outstanding_of_complete (hempty : o.mPacketsToBeValidated = [])
    (hend : c.ttlEnd.toNat + 1 < 2 ^ 32 ∨ c.retries = 0) (h : (machine packets c).exec (enter c now o) as = some s)
    (hs : s.complete c = true) : s.mPacketsToBeValidated = [] := by
  have hc := exec_conserved h .enter
  rw [hempty] at hc
  exact (hc.settled (exec_pushed_length hend h) (of_decide_eq_true hs)).1

/-! ### What is there when the loop is left -/

/-- Once the receiver has left its loop it stays out of it: probes are only added, and no result is. -/
theorem step_left {a : Action} (h : s.receiver.probing = false) (hs : (machine packets c).step s a = some t) :
    t.receiver.probing = false ∧ s.mPacketsToBeValidated <+: t.mPacketsToBeValidated ∧ t.complete c = s.complete c := by
  cases a with
  | tick d =>
    obtain rfl := Option.some.inj hs
    exact ⟨h, List.prefix_refl _, rfl⟩
  | sender a =>
    have m := senderStep_move hs
    refine ⟨m.receiver ▸ h, ?_, m.complete⟩
    cases m with
    | push pc free => exact List.prefix_append _ _
    | _ => exact List.prefix_refl _
  | receiver a =>
    cases receiverStep_move hs with
    | return_ pc => exact ⟨rfl, List.prefix_refl _, rfl⟩
    | postprocessThrows pc => exact ⟨rfl, List.prefix_refl _, rfl⟩
    | _ => simp_all [Receiver.probing]

theorem exec_left (h : s.receiver.probing = false) (hs : (machine packets c).exec s as = some t) :
    s.mPacketsToBeValidated <+: t.mPacketsToBeValidated ∧ t.complete c = s.complete c := by
  refine (Machine.exec_invariant (I := fun t => t.receiver.probing = false ∧
    s.mPacketsToBeValidated <+: t.mPacketsToBeValidated ∧ t.complete c = s.complete c) (fun hI hst => ?_)
    ⟨h, List.prefix_refl _, rfl⟩ hs).2
  obtain ⟨hout, hprobes, hresults⟩ := step_left hI.1 hst
  exact ⟨hout, hI.2.1.trans hprobes, hresults.trans hI.2.2⟩

/-- A run that ends with all results counted and no probe outstanding has met the condition. -/
theorem along_staysInLoop (hs : (machine packets c).exec s as = some t) (ht : t.mPacketsToBeValidated = [])
    (hcomplete : t.complete c = true) : (machine packets c).Along (staysInLoop packets c · ·) s as := by
  refine Machine.along_of_exec (Q := fun _ _ => True) (fun {s u a as} _ hu hrest => ?_)
    (Machine.along_of_all fun _ _ => trivial) hs
  have hout : u.receiver.probing = false → u.mPacketsToBeValidated = [] ∧ u.complete c = true := fun h => by
    obtain ⟨hprobes, hresults⟩ := exec_left h hrest
    exact ⟨List.eq_nil_of_prefix_nil (ht ▸ hprobes), hresults ▸ hcomplete⟩
  cases a with
  | tick d => rfl
  | sender a => rfl
  | receiver a =>
    cases receiverStep_move hu with
    | leave pc off =>
      have hs : s.complete c = true := (hout rfl).2
      simp [staysInLoop, pc, hs]
    | receiveThrows pc => exact (hout rfl).2
    | matchThrows pc found =>
      rw [show s.mPacketsToBeValidated = [] from (hout rfl).1] at found
      cases found
    | call pc on =>
      simp only [State.goesOn, Bool.and_eq_true, decide_eq_true_eq] at on
      simp [staysInLoop, pc, on.2]
    | nothing pc => simp [staysInLoop, pc]
    | unmatched pc found => simp [staysInLoop, pc, found, Except.toBool]
    | matched pc found at_ => simp [staysInLoop, pc, found, Except.toBool]
    | _ => rfl

/-- When `sendPackets` has ended by itself, all probes of the call are registered. -/
theorem pushed_of_finished (hend : c.ttlEnd.toNat + 1 < 2 ^ 32 ∨ c.retries = 0)
    (h : (machine packets c).exec (enter c now o) as = some s) (hfinished : s.sender = .finished) :
    s.pushed.length = c.probeCount := by
  refine Nat.le_antisymm (exec_pushed_length hend h) ?_
  rcases hend with hend | hretries
  · have hplaced := exec_placed hend .enter h
    simp only [Placed, hfinished] at hplaced
    rw [← length_positions, Call.positions, ← hplaced, List.length_map]
  · rw [Call.probeCount, hretries]
    exact Nat.zero_le _

theorem complete_of_empty (hempty : o.mPacketsToBeValidated = []) (hend : c.ttlEnd.toNat + 1 < 2 ^ 32 ∨ c.retries = 0)
    (hcount : c.probeCount ≤ c.expectedSize) (h : (machine packets c).exec (enter c now o) as = some s)
    (hfinished : s.sender = .finished) (hs : s.mPacketsToBeValidated = []) : s.complete c = true := by
  have hc := exec_conserved h .enter
  rw [hempty] at hc
  have hlen := hc.perm.length_eq
  rw [hs, List.nil_append, List.nil_append, List.length_map, pushed_of_finished hend h hfinished] at hlen
  have hsmall : c.expectedSize < 2 ^ 32 := UInt32.toNat_lt _
  refine decide_eq_true (Nat.le_of_eq ?_)
  rw [State.getCurrentSize, UInt32.toNat_ofNat', hc.size, ← hlen, Nat.mod_eq_of_lt (by omega)]

/-! ### The next call -/

/-- The object when the call has been left. -/
def Object.after (o : Object) (h : (machine packets c).exec (enter c now o) as = some s) : Object where
  created := s.created
  mPacketsToBeValidated := s.mPacketsToBeValidated
  mBuffer := s.mBuffer
  below p hp := (exec_numbered h .enter).below p
    ((exec_conserved h .enter).perm.mem_iff.mpr (List.mem_append_left _ hp))
  distinct := by
    have hnd := (exec_conserved h .enter).nodup (exec_numbered h .enter)
    rw [List.map_append] at hnd
    exact (List.nodup_append.mp hnd).1

/-- Each result that the call returns is that of a probe which this call has registered. -/
def OwnResults (t : State) : Prop :=
  ∀ results, t.receiver = .returned results → ∀ tr ∈ results, ∀ result ∈ tr.probeResults,
    ∃ r ∈ t.recorded, r.result = result ∧ r.probe.ttl = tr.ttl ∧ r.probe ∈ t.pushed

theorem ownResults_of_empty (hempty : o.mPacketsToBeValidated = [])
    (h : (machine packets c).exec (enter c now o) as = some s) : OwnResults s := by
  intro results hret tr htr result hresult
  have hc : Conserved o.mPacketsToBeValidated s := exec_conserved h .enter
  obtain ⟨n, rfl⟩ := exec_collected h (fun _ hr => by cases hr) results hret
  rw [collectResults_eq] at htr
  obtain ⟨⟨ttl, v⟩, hv, rfl⟩ := List.mem_map.mp (List.mem_of_mem_take htr)
  rw [(hc.mem_entries.mp hv).1] at hresult
  obtain ⟨r, hr, rfl⟩ := List.mem_map.mp hresult
  obtain ⟨hr, httl⟩ := List.mem_filter.mp hr
  refine ⟨r, hr, rfl, eq_of_beq httl, ?_⟩
  have hperm := hc.perm
  rw [hempty, List.nil_append] at hperm
  exact hperm.mem_iff.mpr (List.mem_append_right _ (List.mem_map_of_mem hr))

/-- A call on an object without probes leaves none behind, and every result of the next call is that of one of its own
    probes, when the receiver stays in its loop while results are missing. Where all packets have been sent, a call
    leaves no probe behind in these runs only. -/
theorem reusable_iff (packets : Nat → Packet) (c : Call) (now : Int) (o : Object) {as : List Action} {s : State}
    (hempty : o.mPacketsToBeValidated = []) (hend : c.ttlEnd.toNat + 1 < 2 ^ 32 ∨ c.retries = 0)
    (hcount : c.probeCount ≤ c.expectedSize) (h : (machine packets c).exec (enter c now o) as = some s)
    (hleft : s.left = true) :
    ((machine packets c).Along (staysInLoop packets c · ·) (enter c now o) as →
      s.mPacketsToBeValidated = [] ∧ ∀ (c' : Call) (now' : Int) (as' : List Action) (t : State),
        (machine packets c').exec (enter c' now' (o.after h)) as' = some t → OwnResults t) ∧
    (s.sender = .finished → (s.mPacketsToBeValidated = [] ↔
      (machine packets c).Along (staysInLoop packets c · ·) (enter c now o) as)) := by
  have hnone (hP : (machine packets c).Along (staysInLoop packets c · ·) (enter c now o) as) :
      s.mPacketsToBeValidated = [] := by
    have hcomplete := Machine.along_invariant (step_complete hcount) (fun hl => by cases hl) hP h
    rw [State.left, Bool.and_eq_true] at hleft
    exact outstanding_of_complete hempty hend h (hcomplete (Receiver.not_probing_of_done hleft.2))
  refine ⟨fun hP => ⟨hnone hP, fun c' now' as' t ht => ownResults_of_empty (hnone hP) ht⟩, fun hfinished =>
    ⟨fun hs => along_staysInLoop h hs (complete_of_empty hempty hend hcount h hfinished hs), hnone⟩⟩

/-- The next call probes ttl 5 with packet 5, which is answered. -/
def nextRun : List Action :=
  .sender .testTtl :: sendProbe ++ .receiver .readBeginAt :: receiveSized 5 2000 ++ .receiver .sweep :: finishProbing

theorem reusable_iff_mixed : ∃ s, ∃ h : (machine bySize twoByTwo).exec (enter twoByTwo 0 (.fresh 0 fun _ => 0))
      (mixedRun ++ .receiver .sweep :: finishProbing) = some s, ∃ t,
    s.mPacketsToBeValidated = [] ∧
    (machine bySize ⟨5, 5, 1, 1000⟩).exec (enter ⟨5, 5, 1, 1000⟩ 0 (Object.after (.fresh 0 fun _ => 0) h)) nextRun = some t ∧
    t.receiver = .returned [⟨5, [successProbe 2 anyResponse.client]⟩] ∧ OwnResults t := by
  have reused {s : State} (h : (machine bySize twoByTwo).exec (enter twoByTwo 0 (.fresh 0 fun _ => 0))
      (mixedRun ++ .receiver .sweep :: finishProbing) = some s) (hleft : s.left = true) :=
    (reusable_iff bySize twoByTwo 0 (.fresh 0 fun _ => 0) rfl (by decide) (by decide) h hleft).1 (by decide)
  exact ⟨_, rfl, _, (reused rfl rfl).1, rfl, rfl, (reused rfl rfl).2 ⟨5, 5, 1, 1000⟩ 0 nextRun _ rfl⟩

/-- The second call probes ttl 5, and sweeps the probe of ttl 1 that the first call has left. -/
def secondRun : List Action :=
  [.receiver .readBeginAt, .sender .testTtl] ++ receiveNothing 1000000 ++
    [.receiver .sweep, .receiver .expire, .receiver .sweep, .receiver .testLoop, .receiver (.postprocess (.ok ()))] ++
    sendProbe ++ [.sender .nextTtl, .sender .testTtl]

/-- The only result of the second call is that of a probe of the first one. -/
theorem leftover_reported : ∃ s, ∃ h : (machine (fun _ => deaf) ⟨1, 1, 1, 500⟩).exec
      (enter ⟨1, 1, 1, 500⟩ 0 (.fresh 0 fun _ => 0)) noTimeRun = some s, ∃ t,
    s.left = true ∧ s.receiver = .returned [] ∧
    (machine (fun _ => deaf) ⟨5, 5, 1, 1000⟩).exec (enter ⟨5, 5, 1, 1000⟩ 0 (Object.after (.fresh 0 fun _ => 0) h))
      secondRun = some t ∧
    t.left = true ∧ t.receiver = .returned [⟨1, [failedProbe 1000]⟩] ∧ t.pushed.map (·.ttl) = [5] :=
  ⟨_, rfl, _, rfl, rfl, rfl, rfl, rfl, rfl⟩

end Traceroute.Fast
