import Traceroute.Sequential

/-! What a step of `SequentialTraceroute::beginProbing` can do: one case for each action and branch. -/

namespace Traceroute

/-- What the engines throw when `trySending` returns `false` or throws. -/
def sendFailure : Except Exception Bool → Option Exception
  | .ok true => none
  | .ok false => some (.runtime_error "Failed to send a packet")
  | .error e => some e

namespace Sequential

variable {destination : Nat → SocketAddress} {c : Call} {s t : State}

inductive Move (destination : Nat → SocketAddress) (c : Call) (s : State) : Action → State → Prop where
  | tick (d : Nat) : Move destination c s (.tick d) { s with now := s.now + d }
  | enterTtl {ttl} (pc : s.position = .ttlLoop ttl) (le : ttl ≤ c.ttlEnd) :
      Move destination c s .testTtl { s with probeResults := [], position := .retryLoop ttl 0 }
  | return_ {ttl} (pc : s.position = .ttlLoop ttl) (lt : ¬ttl ≤ c.ttlEnd) :
      Move destination c s .testTtl { s with position := .returned s.probes }
  | create {ttl i} (pc : s.position = .retryLoop ttl i) (lt : i < c.retries) :
      Move destination c s (.createPacket (.ok ()))
        { s with created := s.created + 1, position := .created ttl i s.created }
  | createThrows {ttl i e} (pc : s.position = .retryLoop ttl i) (lt : i < c.retries) :
      Move destination c s (.createPacket (.error e)) { s with position := .threw e }
  | send {ttl i k} (pc : s.position = .created ttl i k) :
      Move destination c s .trySending { s with position := .sending ttl i k, sent := s.sent ++ [(ttl, k)] }
  | sent {ttl i k} (pc : s.position = .sending ttl i k) :
      Move destination c s (.trySendingReturns (.ok true)) { s with position := .sent ttl i k }
  | notSent {ttl i k} (pc : s.position = .sending ttl i k) :
      Move destination c s (.trySendingReturns (.ok false))
        { s with position := .threw (.runtime_error "Failed to send a packet") }
  | sendThrows {ttl i k e} (pc : s.position = .sending ttl i k) :
      Move destination c s (.trySendingReturns (.error e)) { s with position := .threw e }
  | begin_ {ttl i k} (pc : s.position = .sent ttl i k) :
      Move destination c s .readSentAt { s with position := .waiting ⟨ttl, i, k, s.now⟩ false none }
  | stop {a v r} (pc : s.position = .waiting a v r)
      (isOver : v = true ∨ getTimeLeft s.now a.sentAt c.timeout < MinTimeWaitForResponse) :
      Move destination c s .testLoop { s with position := .waited a v r }
  | call {a r} (pc : s.position = .waiting a false r)
      (inTime : ¬getTimeLeft s.now a.sentAt c.timeout < MinTimeWaitForResponse) :
      Move destination c s .testLoop { s with position := .receiving a (getTimeLeft s.now a.sentAt c.timeout) s.now }
  | nothing {a timeLeft calledAt buffer} (pc : s.position = .receiving a timeLeft calledAt) :
      Move destination c s (.tryReceivingReturns (.ok none) buffer)
        { s with mBuffer := buffer, position := .waiting a false none }
  | receive {a timeLeft calledAt respInfo buffer} (pc : s.position = .receiving a timeLeft calledAt) :
      Move destination c s (.tryReceivingReturns (.ok (some respInfo)) buffer)
        { s with mBuffer := buffer, position := .validating a respInfo }
  | receiveThrows {a timeLeft calledAt e buffer} (pc : s.position = .receiving a timeLeft calledAt) :
      Move destination c s (.tryReceivingReturns (.error e) buffer) { s with mBuffer := buffer, position := .threw e }
  | validate {a respInfo v} (pc : s.position = .validating a respInfo) :
      Move destination c s (.isValid (.ok v)) { s with position := .waiting a v (some respInfo) }
  | validateThrows {a respInfo e} (pc : s.position = .validating a respInfo) :
      Move destination c s (.isValid (.error e)) { s with position := .threw e }
  | success {a respInfo} (pc : s.position = .waited a true (some respInfo)) :
      Move destination c s .pushProbeResult
        { s.record a (successProbe (getTimePassedTillNow s.now a.sentAt) respInfo.client) (some (respInfo, s.mBuffer)) with
          destinationReached := s.destinationReached || respInfo.client.operatorEq (destination a.packet) }
  | failure {a r} (pc : s.position = .waited a false r) :
      Move destination c s .pushProbeResult (s.record a (failedProbe c.timeout) none)
  | break_ {ttl i} (pc : s.position = .retryLoop ttl i) (le : ¬i < c.retries) (reached : s.destinationReached = true) :
      Move destination c s .pushProbe
        { s with
          probes := s.probes ++ [⟨ttl, s.probeResults⟩]
          probeResults := []
          position := .returned (s.probes ++ [⟨ttl, s.probeResults⟩]) }
  | nextTtl {ttl i} (pc : s.position = .retryLoop ttl i) (le : ¬i < c.retries)
      (notReached : s.destinationReached = false) :
      Move destination c s .pushProbe
        { s with
          probes := s.probes ++ [⟨ttl, s.probeResults⟩]
          probeResults := []
          position := .ttlLoop (ttl + 1) }

theorem step_move {a : Action} (h : (machine destination c).step s a = some t) : Move destination c s a t := by
  cases a with
  | tick d =>
    obtain rfl := Option.some.inj h
    exact .tick d
  | testTtl =>
    simp only [machine, step] at h
    split at h
    · rename_i pc
      split at h
      · rename_i le
        obtain rfl := Option.some.inj h
        exact .enterTtl pc le
      · rename_i lt
        obtain rfl := Option.some.inj h
        exact .return_ pc lt
    · cases h
  | createPacket outcome =>
    simp only [machine, step] at h
    split at h
    · rename_i pc
      split at h
      · rename_i lt
        rcases outcome with e | ⟨⟨⟩⟩ <;> obtain rfl := Option.some.inj h
        · exact .createThrows pc lt
        · exact .create pc lt
      · cases h
    · cases h
  | trySending =>
    simp only [machine, step] at h
    split at h
    · rename_i pc
      obtain rfl := Option.some.inj h
      exact .send pc
    · cases h
  | trySendingReturns outcome =>
    simp only [machine, step] at h
    split at h
    · rename_i pc
      rcases outcome with e | (_ | _) <;> obtain rfl := Option.some.inj h
      · exact .sendThrows pc
      · exact .notSent pc
      · exact .sent pc
    · cases h
  | readSentAt =>
    simp only [machine, step] at h
    split at h
    · rename_i pc
      obtain rfl := Option.some.inj h
      exact .begin_ pc
    · cases h
  | testLoop =>
    simp only [machine, step] at h
    split at h
    · rename_i a v r pc
      split at h
      · rename_i isOver
        obtain rfl := Option.some.inj h
        exact .stop pc (by simpa using isOver)
      · rename_i on
        obtain rfl := Option.some.inj h
        obtain ⟨rfl, inTime⟩ : v = false ∧ ¬getTimeLeft s.now a.sentAt c.timeout < MinTimeWaitForResponse := by
          simpa using on
        exact .call pc inTime
    · cases h
  | tryReceivingReturns outcome buffer =>
    simp only [machine, step] at h
    split at h
    · rename_i pc
      rcases outcome with e | (_ | respInfo) <;> obtain rfl := Option.some.inj h
      · exact .receiveThrows pc
      · exact .nothing pc
      · exact .receive pc
    · cases h
  | isValid outcome =>
    simp only [machine, step] at h
    split at h
    · rename_i pc
      rcases outcome with e | v <;> obtain rfl := Option.some.inj h
      · exact .validateThrows pc
      · exact .validate pc
    · cases h
  | pushProbeResult =>
    simp only [machine, step] at h
    split at h
    · rename_i pc
      obtain rfl := Option.some.inj h
      exact .success pc
    · rename_i pc
      obtain rfl := Option.some.inj h
      exact .failure pc
    · cases h
  | pushProbe =>
    simp only [machine, step] at h
    split at h
    · rename_i pc
      split at h
      · cases h
      · rename_i le
        obtain rfl := Option.some.inj h
        cases reached : s.destinationReached
        · simpa [reached] using Move.nextTtl pc le reached
        · simpa [reached] using Move.break_ pc le reached
    · cases h

/-- What holds of every record goes on to do so when it holds of the one that a step adds. -/
theorem step_forall_recorded {P : Record → Prop} {action : Action} (h : ∀ r ∈ s.recorded, P r)
    (success : ∀ {a respInfo}, s.position = .waited a true (some respInfo) →
      P ⟨a, successProbe (getTimePassedTillNow s.now a.sentAt) respInfo.client, some (respInfo, s.mBuffer)⟩)
    (failure : ∀ {a r}, s.position = .waited a false r → P ⟨a, failedProbe c.timeout, none⟩)
    (hst : (machine destination c).step s action = some t) : ∀ r ∈ t.recorded, P r := by
  cases step_move hst with
  | success pc => exact List.forall_mem_append.mpr ⟨h, List.forall_mem_singleton.mpr (success pc)⟩
  | failure pc => exact List.forall_mem_append.mpr ⟨h, List.forall_mem_singleton.mpr (failure pc)⟩
  | _ => exact h

/-- What is recorded stays recorded. -/
theorem step_keepsRecorded {action : Action} (hst : (machine destination c).step s action = some t) : s.recorded <+: t.recorded := by
  cases step_move hst with
  | success | failure => exact List.prefix_append _ _
  | _ => exact List.prefix_refl _

/-! ### Exceptions -/

/-- An exception ends the probing. -/
theorem step_staysThrown {a : Action} {e : Exception} (h : s.position = .threw e)
    (hs : (machine destination c).step s a = some t) : t.position = .threw e := by
  cases step_move hs with
  | tick d => exact h
  | enterTtl pc | return_ pc | create pc | createThrows pc | send pc | sent pc | notSent pc | sendThrows pc | begin_ pc
  | stop pc | call pc | nothing pc | receive pc | receiveThrows pc | validate pc | validateThrows pc | success pc
  | failure pc | break_ pc | nextTtl pc =>
    rw [h] at pc
    cases pc

variable {as : List Action} {e : Exception} {outcome : Except Exception Bool}

theorem step_sendFailure (hfails : sendFailure outcome = some e)
    (hs : (machine destination c).step s (.trySendingReturns outcome) = some t) : t.position = .threw e := by
  cases step_move hs with
  | sent pc => cases hfails
  | notSent pc | sendThrows pc =>
    cases hfails
    rfl

/-- After a failed send `beginProbing` has thrown. -/
theorem exec_sendFailure (h : (machine destination c).exec s as = some t) (hfailed : .trySendingReturns outcome ∈ as)
    (hfails : sendFailure outcome = some e) : t.position = .threw e := by
  obtain ⟨front, rest, rfl⟩ := List.append_of_mem hfailed
  obtain ⟨u, -, hu⟩ := Machine.exec_append_eq_some.mp h
  obtain ⟨v, hv, ht⟩ := Machine.exec_cons_eq_some.mp hu
  exact Machine.exec_invariant (I := fun s => s.position = .threw e) (fun hI hs => step_staysThrown hI hs)
    (step_sendFailure hfails hv) ht

end Sequential
end Traceroute
