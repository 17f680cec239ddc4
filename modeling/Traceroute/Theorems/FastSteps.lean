import Traceroute.Fast

/-! What a step of `beginProbing` can do: one case for each action and branch, with the position it starts
    from and the state it leads to. -/

namespace Traceroute.Fast

variable {packets : Nat → Packet} {c : Call} {s t : State}

inductive SenderMove (c : Call) (s : State) : SenderAction → State → Prop where
  | enterTtl {ttl} (pc : s.sender = .ttlLoop ttl) (le : ttl ≤ c.ttlEnd) :
      SenderMove c s .testTtl { s with sender := .retryLoop ttl 0 }
  | finish {ttl} (pc : s.sender = .ttlLoop ttl) (lt : ¬ttl ≤ c.ttlEnd) :
      SenderMove c s .testTtl { s with sender := .finished }
  | nextTtl {ttl i} (pc : s.sender = .retryLoop ttl i) (le : ¬i < c.retries) :
      SenderMove c s .nextTtl { s with sender := .ttlLoop (ttl + 1) }
  | create {ttl i} (pc : s.sender = .retryLoop ttl i) (lt : i < c.retries) :
      SenderMove c s (.createPacket (.ok ())) { s with created := s.created + 1, sender := .created ttl i s.created }
  | createThrows {ttl i e} (pc : s.sender = .retryLoop ttl i) (lt : i < c.retries) :
      SenderMove c s (.createPacket (.error e)) { s with sender := .threw e }
  | send {ttl i k} (pc : s.sender = .created ttl i k) :
      SenderMove c s .trySending { s with sender := .sending ttl i k, sent := s.sent ++ [(ttl, k)] }
  | sent {ttl i k} (pc : s.sender = .sending ttl i k) :
      SenderMove c s (.trySendingReturns (.ok true)) { s with sender := .registering ttl i k }
  | notSent {ttl i k} (pc : s.sender = .sending ttl i k) :
      SenderMove c s (.trySendingReturns (.ok false))
        { s with sender := .threw (.runtime_error "Failed to send a packet") }
  | sendThrows {ttl i k e} (pc : s.sender = .sending ttl i k) :
      SenderMove c s (.trySendingReturns (.error e)) { s with sender := .threw e }
  | push {ttl i k} (pc : s.sender = .registering ttl i k) (free : s.receiver.holdsMutex = false) :
      SenderMove c s .pushBack
        { s with
          mPacketsToBeValidated := s.mPacketsToBeValidated ++ [⟨k, s.now, ttl, i⟩]
          sender := .retryLoop ttl (i + 1)
          pushed := s.pushed ++ [⟨k, s.now, ttl, i⟩] }

theorem senderStep_move {a : SenderAction} (h : senderStep c s a = some t) : SenderMove c s a t := by
  cases a with
  | testTtl =>
    simp only [senderStep] at h
    split at h
    · rename_i ttl pc
      obtain rfl := Option.some.inj h
      by_cases le : ttl ≤ c.ttlEnd
      · simpa [le] using SenderMove.enterTtl pc le
      · simpa [le] using SenderMove.finish pc le
    · cases h
  | nextTtl =>
    simp only [senderStep] at h
    split at h
    · rename_i ttl i pc
      split at h
      · cases h
      · rename_i le
        obtain rfl := Option.some.inj h
        exact .nextTtl pc le
    · cases h
  | createPacket outcome =>
    simp only [senderStep] at h
    split at h
    · rename_i ttl i pc
      split at h
      · rename_i lt
        rcases outcome with e | ⟨⟨⟩⟩ <;> obtain rfl := Option.some.inj h
        · exact .createThrows pc lt
        · exact .create pc lt
      · cases h
    · cases h
  | trySending =>
    simp only [senderStep] at h
    split at h
    · rename_i pc
      obtain rfl := Option.some.inj h
      exact .send pc
    · cases h
  | trySendingReturns outcome =>
    simp only [senderStep] at h
    split at h
    · rename_i pc
      rcases outcome with e | (_ | _) <;> obtain rfl := Option.some.inj h
      · exact .sendThrows pc
      · exact .notSent pc
      · exact .sent pc
    · cases h
  | pushBack =>
    simp only [senderStep] at h
    split at h
    · rename_i pc
      split at h
      · cases h
      · rename_i free
        obtain rfl := Option.some.inj h
        exact .push pc (by simpa using free)
    · cases h

inductive ReceiverMove (packets : Nat → Packet) (c : Call) (s : State) : ReceiverAction → State → Prop where
  | begin_ (pc : s.receiver = .entering) :
      ReceiverMove packets c s .readBeginAt { s with receiver := .loopHead s.now }
  | call {beginAt} (pc : s.receiver = .loopHead beginAt) (on : s.goesOn c beginAt = true) :
      ReceiverMove packets c s .testLoop { s with receiver := .receiving beginAt s.now }
  | leave {beginAt} (pc : s.receiver = .loopHead beginAt) (off : s.goesOn c beginAt = false) :
      ReceiverMove packets c s .testLoop { s with receiver := .postprocessing }
  | receive {beginAt calledAt respInfo buffer} (pc : s.receiver = .receiving beginAt calledAt) :
      ReceiverMove packets c s (.tryReceivingReturns (.ok respInfo) buffer)
        { s with mBuffer := buffer, receiver := .locking beginAt respInfo }
  | receiveThrows {beginAt calledAt e buffer} (pc : s.receiver = .receiving beginAt calledAt) :
      ReceiverMove packets c s (.tryReceivingReturns (.error e) buffer)
        { s with mBuffer := buffer, receiver := .threw e }
  | lock {beginAt respInfo} (pc : s.receiver = .locking beginAt respInfo) :
      ReceiverMove packets c s .lock { s with receiver := .matching beginAt respInfo }
  | nothing {beginAt} (pc : s.receiver = .matching beginAt none) :
      ReceiverMove packets c s .matchResponse { s with receiver := .sweeping beginAt 0 }
  | unmatched {beginAt respInfo} (pc : s.receiver = .matching beginAt (some respInfo))
      (found : findValid packets respInfo s.mBuffer s.mPacketsToBeValidated = .ok none) :
      ReceiverMove packets c s .matchResponse { s with receiver := .sweeping beginAt 0 }
  | matchThrows {beginAt respInfo e} (pc : s.receiver = .matching beginAt (some respInfo))
      (found : findValid packets respInfo s.mBuffer s.mPacketsToBeValidated = .error e) :
      ReceiverMove packets c s .matchResponse { s with receiver := .threw e }
  | matched {beginAt respInfo it probe} (pc : s.receiver = .matching beginAt (some respInfo))
      (found : findValid packets respInfo s.mBuffer s.mPacketsToBeValidated = .ok (some it))
      (at_ : s.mPacketsToBeValidated[it]? = some probe) :
      ReceiverMove packets c s .matchResponse
        { s.record it probe (successProbe (getTimePassedTillNow s.now probe.sentAt) respInfo.client)
            (some (respInfo, s.mBuffer)) with receiver := .sweeping beginAt 0 }
  | keep {beginAt it probe} (pc : s.receiver = .sweeping beginAt it)
      (at_ : s.mPacketsToBeValidated[it]? = some probe)
      (inTime : ¬getTimeLeft s.now probe.sentAt c.timeout < MinTimeWaitForResponse) :
      ReceiverMove packets c s .sweep { s with receiver := .sweeping beginAt (it + 1) }
  | late {beginAt it probe} (pc : s.receiver = .sweeping beginAt it)
      (at_ : s.mPacketsToBeValidated[it]? = some probe)
      (isOver : getTimeLeft s.now probe.sentAt c.timeout < MinTimeWaitForResponse) :
      ReceiverMove packets c s .sweep { s with receiver := .expiring beginAt it }
  | unlock {beginAt it} (pc : s.receiver = .sweeping beginAt it) (end_ : s.mPacketsToBeValidated[it]? = none) :
      ReceiverMove packets c s .sweep { s with receiver := .loopHead beginAt }
  | expired {beginAt it probe} (pc : s.receiver = .expiring beginAt it)
      (at_ : s.mPacketsToBeValidated[it]? = some probe) :
      ReceiverMove packets c s .expire
        { s.record it probe (failedProbe (getTimePassedTillNow s.now probe.sentAt)) none with
          receiver := .sweeping beginAt it }
  | return_ (pc : s.receiver = .postprocessing) :
      ReceiverMove packets c s (.postprocess (.ok ()))
        { s with
          created := s.created + 1
          receiver := .returned (collectResults (packets s.created).getDestinationAddress s.ttlToProbeResults) }
  | postprocessThrows {e} (pc : s.receiver = .postprocessing) :
      ReceiverMove packets c s (.postprocess (.error e)) { s with receiver := .threw e }

theorem receiverStep_move {a : ReceiverAction} (h : receiverStep packets c s a = some t) :
    ReceiverMove packets c s a t := by
  cases a with
  | readBeginAt =>
    simp only [receiverStep] at h
    split at h
    · rename_i pc
      obtain rfl := Option.some.inj h
      exact .begin_ pc
    · cases h
  | testLoop =>
    simp only [receiverStep] at h
    split at h
    · rename_i beginAt pc
      obtain rfl := Option.some.inj h
      cases on : s.goesOn c beginAt
      · simpa using ReceiverMove.leave pc on
      · simpa using ReceiverMove.call pc on
    · cases h
  | tryReceivingReturns outcome buffer =>
    simp only [receiverStep] at h
    split at h
    · rename_i pc
      rcases outcome with e | respInfo <;> obtain rfl := Option.some.inj h
      · exact .receiveThrows pc
      · exact .receive pc
    · cases h
  | lock =>
    simp only [receiverStep] at h
    split at h
    · rename_i pc
      obtain rfl := Option.some.inj h
      exact .lock pc
    · cases h
  | matchResponse =>
    simp only [receiverStep] at h
    split at h
    · rename_i pc
      obtain rfl := Option.some.inj h
      exact .nothing pc
    · rename_i pc
      split at h
      · rename_i found
        obtain rfl := Option.some.inj h
        exact .matchThrows pc found
      · rename_i found
        obtain rfl := Option.some.inj h
        exact .unmatched pc found
      · rename_i found
        split at h
        · rename_i at_
          obtain rfl := Option.some.inj h
          exact .matched pc found at_
        · cases h
    · cases h
  | sweep =>
    simp only [receiverStep] at h
    split at h
    · rename_i beginAt it pc
      split at h
      · rename_i probe at_
        obtain rfl := Option.some.inj h
        by_cases isOver : getTimeLeft s.now probe.sentAt c.timeout < MinTimeWaitForResponse
        · simpa [isOver] using ReceiverMove.late pc at_ isOver
        · simpa [isOver] using ReceiverMove.keep pc at_ isOver
      · rename_i end_
        obtain rfl := Option.some.inj h
        exact .unlock pc end_
    · cases h
  | expire =>
    simp only [receiverStep] at h
    split at h
    · rename_i pc
      split at h
      · rename_i at_
        obtain rfl := Option.some.inj h
        exact .expired pc at_
      · cases h
    · cases h
  | postprocess outcome =>
    simp only [receiverStep] at h
    split at h
    · rename_i pc
      rcases outcome with e | ⟨⟨⟩⟩ <;> obtain rfl := Option.some.inj h
      · exact .postprocessThrows pc
      · exact .return_ pc
    · cases h

/-- What a step does to the probes and the results: nothing, or it registers the probe that the sender
    holds, or it records a result of an outstanding probe and takes it off the list. -/
inductive LedgerMove (s t : State) : Prop where
  | still (packets : t.mPacketsToBeValidated = s.mPacketsToBeValidated)
      (results : t.ttlToProbeResults = s.ttlToProbeResults) (pushed : t.pushed = s.pushed)
      (recorded : t.recorded = s.recorded)
  | push (probe : PacketToValidate) (pc : s.sender = .registering probe.ttl probe.retry probe.packet)
      (sentAt : probe.sentAt = s.now) (packets : t.mPacketsToBeValidated = s.mPacketsToBeValidated ++ [probe])
      (results : t.ttlToProbeResults = s.ttlToProbeResults) (pushed : t.pushed = s.pushed ++ [probe])
      (recorded : t.recorded = s.recorded)
  | record (it : Nat) (r : Record) (at_ : s.mPacketsToBeValidated[it]? = some r.probe)
      (packets : t.mPacketsToBeValidated = s.mPacketsToBeValidated.eraseIdx it)
      (results : t.ttlToProbeResults =
        s.ttlToProbeResults.alter r.probe.ttl fun old => old.getD [] ++ [r.result])
      (pushed : t.pushed = s.pushed) (recorded : t.recorded = s.recorded ++ [r])

theorem SenderMove.ledger {a : SenderAction} (h : SenderMove c s a t) : LedgerMove s t := by
  cases h with
  | push pc free => exact .push ⟨_, s.now, _, _⟩ pc rfl rfl rfl rfl rfl
  | _ => exact .still rfl rfl rfl rfl

theorem ReceiverMove.ledger {a : ReceiverAction} (h : ReceiverMove packets c s a t) : LedgerMove s t := by
  cases h with
  | matched pc found at_ => exact .record _ ⟨_, _, _⟩ at_ rfl rfl rfl rfl
  | expired pc at_ => exact .record _ ⟨_, _, _⟩ at_ rfl rfl rfl rfl
  | _ => exact .still rfl rfl rfl rfl

theorem step_ledger {a : Action} (h : (machine packets c).step s a = some t) : LedgerMove s t := by
  cases a with
  | tick d =>
    obtain rfl := Option.some.inj h
    exact .still rfl rfl rfl rfl
  | sender a => exact (senderStep_move h).ledger
  | receiver a => exact (receiverStep_move h).ledger

/-- What holds of every record goes on to do so when it holds of the one that a match or an expiry adds. -/
theorem step_forall_recorded {P : Record → Prop} {a : Action} (h : ∀ r ∈ s.recorded, P r)
    (matched : ∀ {beginAt respInfo it probe}, s.receiver = .matching beginAt (some respInfo) →
      findValid packets respInfo s.mBuffer s.mPacketsToBeValidated = .ok (some it) →
      s.mPacketsToBeValidated[it]? = some probe → P ⟨probe,
        successProbe (getTimePassedTillNow s.now probe.sentAt) respInfo.client, some (respInfo, s.mBuffer)⟩)
    (expired : ∀ {beginAt it probe}, s.receiver = .expiring beginAt it → s.mPacketsToBeValidated[it]? = some probe →
      P ⟨probe, failedProbe (getTimePassedTillNow s.now probe.sentAt), none⟩)
    (hst : (machine packets c).step s a = some t) : ∀ r ∈ t.recorded, P r := by
  cases a with
  | tick d =>
    obtain rfl := Option.some.inj hst
    exact h
  | sender a =>
    cases senderStep_move hst with
    | _ => exact h
  | receiver a =>
    cases receiverStep_move hst with
    | matched pc found at_ => exact List.forall_mem_append.mpr ⟨h, List.forall_mem_singleton.mpr (matched pc found at_)⟩
    | expired pc at_ => exact List.forall_mem_append.mpr ⟨h, List.forall_mem_singleton.mpr (expired pc at_)⟩
    | _ => exact h

/-- A step of the receiver, and the passing of time, leave the sender where it is; a step of the sender
    leaves the receiver. -/
theorem ReceiverMove.sender {a : ReceiverAction} (h : ReceiverMove packets c s a t) : t.sender = s.sender := by
  cases h <;> rfl

theorem SenderMove.receiver {a : SenderAction} (h : SenderMove c s a t) : t.receiver = s.receiver := by
  cases h <;> rfl

theorem SenderMove.now {a : SenderAction} (h : SenderMove c s a t) : t.now = s.now := by
  cases h <;> rfl

theorem SenderMove.recorded {a : SenderAction} (h : SenderMove c s a t) : t.recorded = s.recorded := by
  cases h <;> rfl

theorem SenderMove.ttlToProbeResults {a : SenderAction} (h : SenderMove c s a t) :
    t.ttlToProbeResults = s.ttlToProbeResults := by
  cases h <;> rfl

theorem ReceiverMove.now {a : ReceiverAction} (h : ReceiverMove packets c s a t) : t.now = s.now := by
  cases h <;> rfl

theorem ReceiverMove.created {a : ReceiverAction} (h : ReceiverMove packets c s a t) : s.created ≤ t.created := by
  cases h with
  | return_ pc => exact Nat.le_succ _
  | _ => exact Nat.le_refl _

theorem ReceiverMove.pushed {a : ReceiverAction} (h : ReceiverMove packets c s a t) : t.pushed = s.pushed := by
  cases h <;> rfl

/-- The clock never goes back. -/
theorem step_now {a : Action} (h : (machine packets c).step s a = some t) : s.now ≤ t.now := by
  cases a with
  | tick d =>
    obtain rfl := Option.some.inj h
    exact Int.le_add_of_nonneg_right (Int.natCast_nonneg d)
  | sender a => exact Int.le_of_eq (senderStep_move h).now.symm
  | receiver a => exact Int.le_of_eq (receiverStep_move h).now.symm

end Traceroute.Fast
