import Traceroute.Theorems.FastReturns
import Traceroute.Theorems.Results

/-! How many probes `sendPackets` registers, and how many results `receiveAndValidate` waits for. -/

namespace Traceroute

/-- The loop over the ttls comes to an end, and `unsigned` arithmetic does not change the number of probes: the range
    is not reversed and their number does not wrap around, or the range is reversed and what its length wraps around
    to makes no probes. -/
def Call.Countable (c : Call) : Prop :=
  c.ttlEnd.toNat + 1 < 2 ^ 32 ∧
    if c.ttlBegin ≤ c.ttlEnd then (c.ttlEnd.toNat - c.ttlBegin.toNat + 1) * c.retries.toNat < 2 ^ 32
    else 2 ^ 32 ∣ (2 ^ 32 + c.ttlEnd.toNat + 1 - c.ttlBegin.toNat) * c.retries.toNat

namespace Fast

variable {packets : Nat → Packet} {c : Call} {s t : State} {now : Int} {o : Object} {as : List Action}

/-! ### The steps of the sender -/

def Action.isSender : Action → Bool
  | .sender _ => true
  | _ => false

def Action.isReceiver : Action → Bool
  | .receiver _ => true
  | _ => false

theorem step_stepsLeft_le {a : Action} (hend : c.ttlEnd.toNat + 1 < 2 ^ 32) (h : Placed c s)
    (hs : (machine packets c).step s a = some t) : t.sender.stepsLeft c ≤ s.sender.stepsLeft c := by
  cases a with
  | tick d =>
    obtain rfl := Option.some.inj hs
    exact Nat.le_refl _
  | sender a => exact Nat.le_of_lt ((senderStep_move hs).stepsLeft_lt hend h)
  | receiver a => rw [(receiverStep_move hs).sender]

theorem step_stepsLeft_lt {a : Action} (hend : c.ttlEnd.toNat + 1 < 2 ^ 32) (h : Placed c s) (hsender : a.isSender = true)
    (hs : (machine packets c).step s a = some t) : t.sender.stepsLeft c < s.sender.stepsLeft c := by
  cases a with
  | sender a => exact (senderStep_move hs).stepsLeft_lt hend h
  | tick | receiver => cases hsender

/-- While the mutex is free the sender can go on, and go on to send. -/
theorem exists_senderStep (c : Call) (hdone : s.sender.done = false) (free : s.receiver.holdsMutex = false) :
    ∃ a t, senderStep c s a = some t ∧ sends (.sender a) = true ∧ ∀ e, t.sender ≠ .threw e := by
  cases pc : s.sender with
  | ttlLoop ttl =>
    refine ⟨.testTtl, _, by simp only [senderStep, pc]; rfl, rfl, fun e he => ?_⟩
    dsimp only at he
    split at he <;> cases he
  | retryLoop ttl i =>
    by_cases lt : i < c.retries
    · exact ⟨.createPacket (.ok ()), _, by simp only [senderStep, pc, if_pos lt]; rfl, rfl, fun e he => by cases he⟩
    · exact ⟨.nextTtl, _, by simp only [senderStep, pc, if_neg lt]; rfl, rfl, fun e he => by cases he⟩
  | created ttl i packet =>
    exact ⟨.trySending, _, by simp only [senderStep, pc]; rfl, rfl, fun e he => by cases he⟩
  | sending ttl i packet =>
    exact ⟨.trySendingReturns (.ok true), _, by simp only [senderStep, pc]; rfl, rfl, fun e he => by cases he⟩
  | registering ttl i packet =>
    exact ⟨.pushBack, _, by simp only [senderStep, pc, free]; rfl, rfl, fun e he => by cases he⟩
  | finished => simp [pc, Sender.done] at hdone
  | threw e => simp [pc, Sender.done] at hdone

/-- With the largest `ttlEnd` every ttl is in the range, and the loop over them has no end. -/
theorem step_unfinished {a : Action} (hend : c.ttlEnd.toNat + 1 = 2 ^ 32) (h : s.sender ≠ .finished)
    (hs : (machine packets c).step s a = some t) : t.sender ≠ .finished := by
  cases a with
  | tick d =>
    obtain rfl := Option.some.inj hs
    exact h
  | sender a =>
    cases senderStep_move hs with
    | @finish ttl pc lt =>
      have := ttl.toNat_lt
      rw [UInt32.le_iff_toNat_le] at lt
      omega
    | _ => exact fun he => by cases he
  | receiver a =>
    rw [(receiverStep_move hs).sender]
    exact h

/-! ### The mutex -/

/-- Bounds the steps that the receiver still takes until it lets go of the mutex. -/
def State.mutexLeft (s : State) : Nat :=
  match s.receiver with
  | .matching .. => 2 * s.mPacketsToBeValidated.length + 2
  | .sweeping _ it => 2 * (s.mPacketsToBeValidated.length - it) + 1
  | .expiring _ it => 2 * (s.mPacketsToBeValidated.length - it)
  | _ => 0

/-- Each step of the receiver that holds the mutex brings it closer to letting go. -/
theorem ReceiverMove.mutexLeft_lt {a : ReceiverAction} (held : s.receiver.holdsMutex = true)
    (m : ReceiverMove packets c s a t) : t.mutexLeft < s.mutexLeft := by
  cases m with
  | begin_ pc | call pc | leave pc | receive pc | receiveThrows pc | lock pc | return_ pc | postprocessThrows pc =>
    simp [pc, Receiver.holdsMutex] at held
  | nothing pc | unmatched pc | matchThrows pc | unlock pc => simp [State.mutexLeft, pc]
  | matched pc found at_ =>
    simp only [State.mutexLeft, State.record, pc, List.length_eraseIdx_of_lt (List.getElem?_eq_some_iff.mp at_).1]
    omega
  | keep pc at_ =>
    have hit := (List.getElem?_eq_some_iff.mp at_).1
    simp only [State.mutexLeft, pc]
    omega
  | late pc at_ => simp [State.mutexLeft, pc]
  | expired pc at_ =>
    have hit := (List.getElem?_eq_some_iff.mp at_).1
    simp only [State.mutexLeft, State.record, pc, List.length_eraseIdx_of_lt hit]
    omega

theorem step_mutexLeft_lt {a : Action} (held : s.receiver.holdsMutex = true) (hreceiver : a.isReceiver = true)
    (hs : (machine packets c).step s a = some t) : t.mutexLeft < s.mutexLeft := by
  cases a with
  | receiver a => exact (receiverStep_move hs).mutexLeft_lt held
  | tick | sender => cases hreceiver

theorem step_mutexLeft_le {a : Action} (held : s.receiver.holdsMutex = true) (hsender : ¬a.isSender = true)
    (hs : (machine packets c).step s a = some t) : t.mutexLeft ≤ s.mutexLeft := by
  cases a with
  | tick d =>
    obtain rfl := Option.some.inj hs
    exact Nat.le_refl _
  | sender a => exact absurd rfl hsender
  | receiver a => exact Nat.le_of_lt ((receiverStep_move hs).mutexLeft_lt held)

/-- The probe that expires is one of the list. -/
def ExpiresListed (s : State) : Prop := ∀ b it, s.receiver = .expiring b it → it < s.mPacketsToBeValidated.length

theorem findValid_lt {respInfo : ResponseInfo} {buffer : Bytes} {l : List PacketToValidate} {it : Nat}
    (found : findValid packets respInfo buffer l = .ok (some it)) : it < l.length := by
  obtain ⟨before, probe, after, rfl, rfl, -, -⟩ := findValid_eq_some.mp found
  simp

/-- The receiver that holds the mutex can go on. -/
theorem exists_receiverStep (packets : Nat → Packet) (c : Call) (hexpires : ExpiresListed s)
    (held : s.receiver.holdsMutex = true) : ∃ a t, receiverStep packets c s a = some t := by
  cases pc : s.receiver with
  | matching b respInfo =>
    rcases respInfo with _ | respInfo
    · exact ⟨.matchResponse, _, by simp only [receiverStep, pc]; rfl⟩
    · rcases hfound : findValid packets respInfo s.mBuffer s.mPacketsToBeValidated with e | _ | it
      · exact ⟨.matchResponse, _, by simp only [receiverStep, pc, hfound]; rfl⟩
      · exact ⟨.matchResponse, _, by simp only [receiverStep, pc, hfound]; rfl⟩
      · have hit := findValid_lt hfound
        exact ⟨.matchResponse, _, by simp only [receiverStep, pc, hfound, List.getElem?_eq_getElem hit]; rfl⟩
  | sweeping b it =>
    rcases hat : s.mPacketsToBeValidated[it]? with _ | probe
    · exact ⟨.sweep, _, by simp only [receiverStep, pc, hat]; rfl⟩
    · exact ⟨.sweep, _, by simp only [receiverStep, pc, hat]; rfl⟩
  | expiring b it =>
    have hit := hexpires b it pc
    exact ⟨.expire, _, by simp only [receiverStep, pc, List.getElem?_eq_getElem hit]; rfl⟩
  | entering | loopHead | receiving | locking | postprocessing | returned | threw =>
    simp [pc, Receiver.holdsMutex] at held

/-! ### The end of the loop -/

/-- What lets the sender come to its end. -/
structure Sending (c : Call) (s : State) : Prop where
  placed : Placed c s
  expires : ExpiresListed s
  goesOn : ∀ e, s.sender ≠ .threw e

theorem exec_expires (h : (machine packets c).exec (enter c now o) as = some t) : ExpiresListed t :=
  Machine.exec_invariant (I := ExpiresListed) (fun hI hs => step_expires hI hs) (fun _ _ pc => by cases pc) h

/-- Every send succeeds. -/
def Succeeding (_ : State) (_ : Unit) (a : Action) (_ : Unit) : Prop := sends a = true

/-- The receiver goes on until it lets go of the mutex, whatever it makes of the probes. -/
theorem Sending.frees (packets : Nat → Packet) (h : Sending c s) : ∃ bs t,
    (machine packets c).Within Succeeding s () bs t () ∧ Sending c t ∧ t.sender = s.sender ∧
      t.receiver.holdsMutex = false := by
  have hfrees : ∃ bs t f, (machine packets c).Within Succeeding s () bs t f ∧
      (ExpiresListed t ∧ t.sender = s.sender ∧ t.pushed = s.pushed) ∧ t.receiver.holdsMutex = false :=
    Machine.Within.exists_of_measure
      (I := fun t _ => ExpiresListed t ∧ t.sender = s.sender ∧ t.pushed = s.pushed) (fun t _ => t.mutexLeft)
      (fun {t _} ⟨hexpires, hsender, hpushed⟩ hheld => by
        rw [Bool.not_eq_false] at hheld
        obtain ⟨a, u, hs⟩ := exists_receiverStep packets c hexpires hheld
        have hu : (machine packets c).step t (.receiver a) = some u := hs
        have m := receiverStep_move hs
        exact ⟨[.receiver a], u, (), .single hu rfl,
          ⟨step_expires hexpires hu, m.sender.trans hsender, m.pushed.trans hpushed⟩, m.mutexLeft_lt hheld⟩)
      ⟨h.expires, rfl, rfl⟩
  obtain ⟨bs, t, ⟨⟩, hrun, ⟨hexpires, hsender, hpushed⟩, hfree⟩ := hfrees
  exact ⟨bs, t, hrun, ⟨h.placed.congr hsender hpushed, hexpires, fun e => hsender ▸ h.goesOn e⟩, hsender, hfree⟩

/-- Once its loop over the ttls has an end the sender can come to it, wherever it stands. -/
theorem Sending.finishes (packets : Nat → Packet) (hend : c.ttlEnd.toNat + 1 < 2 ^ 32) (h : Sending c s) :
    ∃ bs t, (machine packets c).exec s bs = some t ∧ (∀ a ∈ bs, sends a = true) ∧ t.sender = .finished := by
  have hfinishes : ∃ bs t f, (machine packets c).Within Succeeding s () bs t f ∧ Sending c t ∧ t.sender = .finished :=
    Machine.Within.exists_of_measure (I := fun s _ => Sending c s) (fun s _ => s.sender.stepsLeft c)
      (fun {s _} h hgoal => by
        have hdone : s.sender.done = false := by
          cases pc : s.sender with
          | finished => exact absurd pc hgoal
          | threw e => exact absurd pc (h.goesOn e)
          | _ => rfl
        obtain ⟨bs, t, hfrees, ht, hsender, hfree⟩ := h.frees packets
        obtain ⟨a, u, hs, hsends, hgoes⟩ := exists_senderStep c (hsender ▸ hdone) hfree
        have hu : (machine packets c).step t (.sender a) = some u := hs
        have hlt := (senderStep_move hs).stepsLeft_lt hend ht.placed
        have hsent : (machine packets c).Within Succeeding t () [.sender a] u () := .single hu hsends
        exact ⟨bs ++ [.sender a], u, (), hfrees.append hsent,
          ⟨step_placed hend ht.placed hu, step_expires ht.expires hu, hgoes⟩, hsender ▸ hlt⟩)
      h
  obtain ⟨bs, t, ⟨⟩, hrun, -, hfinished⟩ := hfinishes
  exact ⟨bs, t, hrun.exec, hrun.forall_mem id, hfinished⟩

/-- Both threads get their turns: the sender when it can go on again and again, and the receiver at least while it holds
    the mutex. -/
structure Fair (run : (machine packets c).Run s) : Prop where
  sender : run.StronglyFair fun _ a => a.isSender = true
  receiver : run.WeaklyFair fun s a => s.receiver.holdsMutex = true ∧ a.isReceiver = true

/-- The mutex is not held for ever, and the sender has only so many steps. -/
theorem Fair.terminates {run : (machine packets c).Run (enter c now o)} (hfair : Fair run)
    (hend : c.ttlEnd.toNat + 1 < 2 ^ 32) : ∃ i, (run.state i).sender.done = true := by
  by_contra hnever
  have hdone : ∀ i, (run.state i).sender.done = false := fun i => by
    by_contra hi
    exact hnever ⟨i, by simpa using hi⟩
  have hplaced : ∀ i, Placed c (run.state i) := Machine.Run.invariant (fun hI hs => step_placed hend hI hs) .enter
  have hexpires : ∀ i, ExpiresListed (run.state i) :=
    Machine.Run.invariant (fun hI hs => step_expires hI hs) fun _ _ pc => by cases pc
  -- Its steps come to an end, so from some state on it cannot go on: the mutex is held.
  obtain ⟨k, -, hlast⟩ : ∃ k, 0 ≤ k ∧ ∀ i, k ≤ i → ¬(run.action i).isSender = true :=
    Machine.Run.exists_last (P := fun _ (a : Action) => a.isSender = true) (fun (s : State) => s.sender.stepsLeft c)
      (fun i _ => step_stepsLeft_le hend (hplaced i) (run.step i))
      (fun i _ hsender => step_stepsLeft_lt hend (hplaced i) hsender (run.step i))
  obtain ⟨n, hstuck⟩ : ∃ n, ∀ i, n ≤ i → ¬run.Possible (fun _ a => a.isSender = true) i := by
    by_contra hagain
    obtain ⟨i, hi, hsender⟩ := hfair.sender (fun n => by
      by_contra hno
      exact hagain ⟨n, fun i hi hpossible => hno ⟨i, hi, hpossible⟩⟩) k
    exact hlast i hi hsender
  have hheld : ∀ i, n ≤ i → (run.state i).receiver.holdsMutex = true := fun i hi => by
    by_contra hfree
    obtain ⟨a, t, hs, -⟩ := exists_senderStep c (hdone i) (by simpa using hfree)
    exact hstuck i hi ⟨.sender a, t, rfl, hs⟩
  -- But the steps of the receiver that holds it come to an end as well.
  have hnotSender : ∀ i, n ≤ i → ¬(run.action i).isSender = true := fun i hi hsender =>
    hstuck i hi ⟨_, _, hsender, run.step i⟩
  obtain ⟨m, hm, hlast⟩ : ∃ m, n ≤ m ∧
      ∀ i, m ≤ i → ¬((run.state i).receiver.holdsMutex = true ∧ (run.action i).isReceiver = true) :=
    Machine.Run.exists_last (P := fun (s : State) (a : Action) => s.receiver.holdsMutex = true ∧ a.isReceiver = true) State.mutexLeft
      (fun i hi => step_mutexLeft_le (hheld i hi) (hnotSender i hi) (run.step i))
      (fun i _ hP => step_mutexLeft_lt hP.1 hP.2 (run.step i))
  obtain ⟨i, hi, hP⟩ := hfair.receiver m fun i hi => by
    have held := hheld i (Nat.le_trans hm hi)
    obtain ⟨a, t, hs⟩ := exists_receiverStep packets c (hexpires i) held
    exact ⟨.receiver a, t, ⟨held, rfl⟩, hs⟩
  exact hlast i hi hP

/-! ### The number of probes -/

/-- `sendPackets` terminates when all sends succeed, and then it has registered as many probes as
    `receiveAndValidate` waits for. -/
structure SendsExpected (packets : Nat → Packet) (c : Call) (now : Int) (o : Object) : Prop where
  /-- In every run without end in which all sends succeed and both threads get their turns it is done at some time. -/
  terminates : ∀ run : (machine packets c).Run (enter c now o), (∀ i, sends (run.action i) = true) → Fair run →
    ∃ i, (run.state i).sender.done = true
  /-- Wherever the threads stand it can go on to its end. -/
  finishes : ∀ as t, (machine packets c).exec (enter c now o) as = some t → (∀ a ∈ as, sends a = true) →
    t.sender.done = false →
    ∃ bs u, (machine packets c).exec t bs = some u ∧ (∀ a ∈ bs, sends a = true) ∧ u.sender = .finished
  count : ∀ as t, (machine packets c).exec (enter c now o) as = some t → (∀ a ∈ as, sends a = true) →
    t.sender = .finished → t.pushed.length = c.expectedSize

theorem length_pushed_of_finished (hend : c.ttlEnd.toNat + 1 < 2 ^ 32)
    (h : (machine packets c).exec (enter c now o) as = some t) (hfinished : t.sender = .finished) :
    t.pushed.length = c.probeCount :=
  (exec_placed hend .enter h).registered hfinished

/-- What `unsigned` arithmetic makes of the number of probes. -/
theorem expectedSize_eq_mod (c : Call) :
    c.expectedSize = (2 ^ 32 + c.ttlEnd.toNat + 1 - c.ttlBegin.toNat) * c.retries.toNat % 2 ^ 32 := by
  have hb := c.ttlBegin.toNat_lt
  have hlength : (c.ttlEnd - c.ttlBegin + 1).toNat = (2 ^ 32 + c.ttlEnd.toNat + 1 - c.ttlBegin.toNat) % 2 ^ 32 := by
    rw [UInt32.toNat_add, UInt32.toNat_sub, UInt32.toNat_one, Nat.mod_add_mod]
    congr 1
    omega
  rw [Call.expectedSize, UInt32.toNat_mul, hlength, Nat.mod_mul_mod]

theorem expectedSize_eq_probeCount_iff (hend : c.ttlEnd.toNat + 1 < 2 ^ 32) :
    c.expectedSize = c.probeCount ↔ c.Countable := by
  rw [Call.Countable, expectedSize_eq_mod, Call.probeCount]
  by_cases hrange : c.ttlBegin ≤ c.ttlEnd
  · have hle := UInt32.le_iff_toNat_le.mp hrange
    have hlength : 2 ^ 32 + c.ttlEnd.toNat + 1 - c.ttlBegin.toNat = c.ttlEnd.toNat - c.ttlBegin.toNat + 1 + 2 ^ 32 := by
      omega
    have hcount : c.ttlEnd.toNat + 1 - c.ttlBegin.toNat = c.ttlEnd.toNat - c.ttlBegin.toNat + 1 := by omega
    rw [if_pos hrange, hlength, hcount, Nat.add_mul, Nat.add_mul_mod_self_left]
    constructor
    · intro h
      exact ⟨hend, h ▸ Nat.mod_lt _ (by decide)⟩
    · rintro ⟨-, hlt⟩
      exact Nat.mod_eq_of_lt hlt
  · have hlt : c.ttlEnd.toNat < c.ttlBegin.toNat := Nat.lt_of_not_le fun hle => hrange (UInt32.le_iff_toNat_le.mpr hle)
    have hzero : c.ttlEnd.toNat + 1 - c.ttlBegin.toNat = 0 := by omega
    rw [if_neg hrange, hzero, Nat.zero_mul, ← Nat.dvd_iff_mod_eq_zero]
    exact (and_iff_right hend).symm

/-- The receiver waits for exactly as many probes as the sender sends if and only if the loop over the ttls has an
    end and their number does not wrap around. -/
theorem sendsExpected_iff (packets : Nat → Packet) (c : Call) (now : Int) (o : Object) :
    SendsExpected packets c now o ↔ c.Countable := by
  constructor
  · intro h
    obtain ⟨as, t, hs, hsends, hfinished⟩ := h.finishes [] (enter c now o) rfl (by simp) rfl
    have hend : c.ttlEnd.toNat + 1 < 2 ^ 32 := by
      by_contra hend
      have hmax : c.ttlEnd.toNat + 1 = 2 ^ 32 := by
        have := c.ttlEnd.toNat_lt
        omega
      exact Machine.exec_invariant (I := fun s => s.sender ≠ .finished) (fun hI hst => step_unfinished hmax hI hst)
        (fun he => by cases he) hs hfinished
    exact (expectedSize_eq_probeCount_iff hend).mp
      ((h.count as t hs hsends hfinished).symm.trans (length_pushed_of_finished hend hs hfinished))
  · intro h
    refine ⟨fun run _ hfair => hfair.terminates h.1, fun as t hs hsends hdone => ?_, fun as t hs _ hfinished => ?_⟩
    · exact Sending.finishes packets h.1
        ⟨exec_placed h.1 .enter hs, exec_expires hs, fun e he => by simp [he, Sender.done] at hdone⟩
    · rw [length_pushed_of_finished h.1 hs hfinished, (expectedSize_eq_probeCount_iff h.1).mpr h]

/-- From ttl 3 to ttl 1 nothing is sent, and 4294967295 results are waited for. -/
theorem reversed_range_not_expected : ¬SendsExpected (fun _ => deaf) ⟨3, 1, 1, 1000⟩ 0 (.fresh 0 fun _ => 0) := fun h =>
  absurd (h.count [.sender .testTtl] _ rfl (by simp [sends]) rfl) (by decide)

end Fast
end Traceroute
