import Traceroute.Theorems.Results
import Traceroute.Theorems.Time
import Traceroute.Theorems.SequentialSteps

/-! What becomes of a failed send. `SequentialTraceroute` leaves `beginProbing` by its exception. In `FastTraceroute` the
    exception stays in the future of `sendPackets`, and the receiver goes on as if the probes were unanswered. -/

namespace Traceroute

namespace Fast

variable {packets : Nat → Packet} {c : Call} {s t : State} {as : List Action} {e : Exception}
  {outcome : Except Exception Bool}

/-- Nothing throws in the thread of the receiver. -/
def receiverContinues (packets : Nat → Packet) (s : State) : Action → Bool
  | .receiver (.tryReceivingReturns (.error _) _) => false
  | .receiver .matchResponse =>
    match s.receiver with
    | .matching _ (some respInfo) => (findValid packets respInfo s.mBuffer s.mPacketsToBeValidated).isOk
    | _ => true
  | .receiver (.postprocess (.error _)) => false
  | _ => true

/-- The receiver has thrown, and stays so. -/
theorem step_staysThrown {a : Action} (h : s.receiver = .threw e) (hs : (machine packets c).step s a = some t) :
    t.receiver = .threw e := by
  cases a with
  | tick d =>
    obtain rfl := Option.some.inj hs
    exact h
  | sender a => exact (senderStep_move hs).receiver.trans h
  | receiver a =>
    cases receiverStep_move hs with
    | begin_ pc | call pc | leave pc | receive pc | receiveThrows pc | lock pc | nothing pc | unmatched pc | matchThrows pc
    | matched pc | keep pc | late pc | unlock pc | expired pc | return_ pc | postprocessThrows pc =>
      rw [h] at pc
      cases pc

/-- Only its own steps make the receiver throw, and these are the steps in which something throws. -/
theorem step_receiverContinues {a : Action} (h : ∀ e, s.receiver ≠ .threw e)
    (hs : (machine packets c).step s a = some t) :
    (∃ e, t.receiver = .threw e) ↔ receiverContinues packets s a = false := by
  cases a with
  | tick d =>
    obtain rfl := Option.some.inj hs
    simp [receiverContinues, h]
  | sender a =>
    rw [(senderStep_move hs).receiver]
    simp [receiverContinues, h]
  | receiver a =>
    cases receiverStep_move hs with
    | nothing pc => simp [receiverContinues, pc]
    | unmatched pc found | matched pc found => simp [receiverContinues, pc, found, Except.toBool]
    | matchThrows pc found => simp [receiverContinues, pc, found, Except.toBool]
    | _ => simp [receiverContinues]

theorem exec_receiverContinues (h : ∀ e, s.receiver ≠ .threw e) (hs : (machine packets c).exec s as = some t) :
    (∃ e, t.receiver = .threw e) ↔ ¬(machine packets c).Along (receiverContinues packets · ·) s as := by
  induction as generalizing s with
  | nil =>
    cases hs
    simp [Machine.Along, h]
  | cons a as ih =>
    obtain ⟨u, hu, ht⟩ := Machine.exec_cons_eq_some.mp hs
    have hstep := step_receiverContinues h hu
    rw [Machine.along_cons_of_some hu]
    cases hP : receiverContinues packets s a with
    | true =>
      have hgoes : ∀ e, u.receiver ≠ .threw e := fun e he => by simp [hP] at hstep; exact hstep e he
      simp [ih hgoes ht]
    | false =>
      obtain ⟨e, he⟩ := hstep.mpr hP
      have hthrew := Machine.exec_invariant (I := fun s => s.receiver = .threw e) (fun hI hs => step_staysThrown hI hs) he ht
      simp [hthrew]

/-! ### Every send can fail unnoticed -/

/-- The sender comes to a retry with all sends before it made, while the receiver has not begun. -/
def SendsUpTo (packets : Nat → Packet) (c : Call) (now : Int) (o : Object) (ttl i : Nat) : Prop :=
  ∃ as t, (machine packets c).exec (enter c now o) as = some t ∧ (∀ a ∈ as, sends a = true) ∧
    t.sender = .retryLoop (.ofNat ttl) (.ofNat i) ∧ t.receiver = .entering ∧ t.ttlToProbeResults.entries = []

variable {now : Int} {o : Object}

theorem SendsUpTo.first (hrange : c.ttlBegin ≤ c.ttlEnd) : SendsUpTo packets c now o c.ttlBegin.toNat 0 := by
  refine ⟨[.sender .testTtl], { enter c now o with sender := .retryLoop c.ttlBegin 0 }, ?_, by simp [sends], ?_, rfl, rfl⟩
  · simp only [Machine.exec_singleton, machine, senderStep, enter, if_pos hrange]
  · rw [UInt32.ofNat_toNat]
    rfl

theorem SendsUpTo.send {ttl i : Nat} (h : SendsUpTo packets c now o ttl i) (hi : i < c.retries.toNat) :
    SendsUpTo packets c now o ttl (i + 1) := by
  obtain ⟨as, t, hs, hsends, pc, hreceiver, hentries⟩ := h
  have hlt : UInt32.ofNat i < c.retries := by
    rw [UInt32.lt_iff_toNat_lt, UInt32.toNat_ofNat_of_lt' (Nat.lt_trans hi c.retries.toNat_lt)]
    exact hi
  have hrun : (machine packets c).exec t [.sender (.createPacket (.ok ())), .sender .trySending,
      .sender (.trySendingReturns (.ok true)), .sender .pushBack] = some { t with
        created := t.created + 1
        mPacketsToBeValidated := t.mPacketsToBeValidated ++ [⟨t.created, t.now, .ofNat ttl, .ofNat i⟩]
        sender := .retryLoop (.ofNat ttl) (.ofNat i + 1)
        sent := t.sent ++ [(.ofNat ttl, t.created)]
        pushed := t.pushed ++ [⟨t.created, t.now, .ofNat ttl, .ofNat i⟩] } := by
    simp only [Machine.exec, machine, senderStep, pc, if_pos hlt, hreceiver, Receiver.holdsMutex, Bool.false_eq_true,
      if_false, Option.bind_some]
  refine ⟨_, _, Machine.exec_append hs hrun, List.forall_mem_append.mpr ⟨hsends, by simp [sends]⟩, ?_, hreceiver, hentries⟩
  rw [UInt32.ofNat_add]
  rfl

theorem SendsUpTo.nextTtl {ttl : Nat} (h : SendsUpTo packets c now o ttl c.retries.toNat) (hend : ttl < c.ttlEnd.toNat) :
    SendsUpTo packets c now o (ttl + 1) 0 := by
  obtain ⟨as, t, hs, hsends, pc, hreceiver, hentries⟩ := h
  rw [UInt32.ofNat_toNat] at pc
  have hle : UInt32.ofNat ttl + 1 ≤ c.ttlEnd := by
    rw [show (UInt32.ofNat ttl + 1) = UInt32.ofNat (ttl + 1) from (UInt32.ofNat_add ttl 1).symm, UInt32.le_iff_toNat_le,
      UInt32.toNat_ofNat_of_lt' (Nat.lt_of_le_of_lt hend c.ttlEnd.toNat_lt)]
    exact hend
  have hrun : (machine packets c).exec t [.sender .nextTtl, .sender .testTtl] =
      some { t with sender := .retryLoop (.ofNat ttl + 1) 0 } := by
    simp [Machine.exec, machine, senderStep, pc, hle]
  refine ⟨_, _, Machine.exec_append hs hrun, List.forall_mem_append.mpr ⟨hsends, by simp [sends]⟩, ?_, hreceiver, hentries⟩
  rw [UInt32.ofNat_add]
  rfl

theorem sendsUpTo {ttl i : Nat} (hb : c.ttlBegin.toNat ≤ ttl) (he : ttl ≤ c.ttlEnd.toNat) (hi : i ≤ c.retries.toNat) :
    SendsUpTo packets c now o ttl i := by
  have hretries : ∀ {ttl}, SendsUpTo packets c now o ttl 0 → ∀ i ≤ c.retries.toNat, SendsUpTo packets c now o ttl i := by
    intro ttl h i hi
    induction i with
    | zero => exact h
    | succ i ih => exact (ih (Nat.le_of_succ_le hi)).send hi
  induction ttl, hb using Nat.le_induction generalizing i with
  | base => exact hretries (.first (UInt32.le_iff_toNat_le.mpr he)) i hi
  | succ ttl hb ih => exact hretries ((ih (Nat.le_of_succ_le he) (Nat.le_refl _)).nextTtl he) i hi

/-- Once the time for all probes has passed the loop is not entered any more. -/
theorem goesOn_of_passed (h : s.now = now + c.expectedMaxTimeTaken.toNat * 1000) : s.goesOn c now = false := by
  have hpassed : getTimePassedTillNow s.now now = c.expectedMaxTimeTaken.toNat := by
    rw [getTimePassedTillNow_of_le (by omega)]
    omega
  have hleft : ¬0 < getTimeLeft s.now now c.expectedMaxTimeTaken := by
    unfold getTimeLeft
    rw [hpassed]
    split <;> omega
  simp [State.goesOn, hleft]

/-- Whichever probe of the call cannot be sent, in some run `beginProbing` returns. -/
theorem exists_unnoticed (packets : Nat → Packet) (now : Int) (o : Object) {ttl i : UInt32} (hb : c.ttlBegin ≤ ttl)
    (he : ttl ≤ c.ttlEnd) (hi : i < c.retries) (hfails : sendFailure outcome = some e) :
    ∃ as bs s t k, (machine packets c).exec (enter c now o) as = some s ∧ (∀ a ∈ as, sends a = true) ∧
      s.sender = .sending ttl i k ∧
      (machine packets c).exec s (.sender (.trySendingReturns outcome) :: bs) = some t ∧ t.left = true ∧
      t.receiver = .returned [] := by
  obtain ⟨as, s, hs, hsends, pc, hreceiver, hentries⟩ : SendsUpTo packets c now o ttl.toNat i.toNat :=
    sendsUpTo (UInt32.le_iff_toNat_le.mp hb) (UInt32.le_iff_toNat_le.mp he)
      (Nat.le_of_lt (UInt32.lt_iff_toNat_lt.mp hi))
  rw [UInt32.ofNat_toNat, UInt32.ofNat_toNat] at pc
  have hsending : (machine packets c).exec s [.sender (.createPacket (.ok ())), .sender .trySending] = some { s with
      created := s.created + 1
      sender := .sending ttl i s.created
      sent := s.sent ++ [(ttl, s.created)] } := by
    simp [Machine.exec, machine, senderStep, pc, hi]
  have hfailed : ∀ u : State, u.sender = .sending ttl i s.created → (machine packets c).step u
      (.sender (.trySendingReturns outcome)) = some { u with sender := .threw e } := by
    intro u hu
    rcases outcome with e' | (_ | _) <;> cases hfails <;> simp [machine, senderStep, hu]
  have hoff : ∀ u : State, u.receiver = .loopHead s.now → u.now = s.now + c.expectedMaxTimeTaken.toNat * 1000 →
      (machine packets c).step u (.receiver .testLoop) = some { u with receiver := .postprocessing } := by
    intro u hu hnow
    simp [machine, receiverStep, hu, goesOn_of_passed hnow]
  refine ⟨_, [.receiver .readBeginAt, .tick (c.expectedMaxTimeTaken.toNat * 1000), .receiver .testLoop,
    .receiver (.postprocess (.ok ()))], _, { s with
      now := s.now + c.expectedMaxTimeTaken.toNat * 1000
      created := s.created + 2
      sender := .threw e
      receiver := .returned []
      sent := s.sent ++ [(ttl, s.created)] }, s.created, Machine.exec_append hs hsending,
    List.forall_mem_append.mpr ⟨hsends, by simp [sends]⟩, rfl, ?_, rfl, rfl⟩
  have hbegin : ∀ u : State, u.receiver = .entering →
      (machine packets c).step u (.receiver .readBeginAt) = some { u with receiver := .loopHead u.now } := by
    intro u hu
    simp [machine, receiverStep, hu]
  refine Machine.exec_cons_eq_some.mpr ⟨_, hfailed _ rfl, Machine.exec_cons_eq_some.mpr ⟨_, hbegin _ hreceiver,
    Machine.exec_cons_eq_some.mpr ⟨_, rfl, Machine.exec_cons_eq_some.mpr ⟨_, hoff _ rfl rfl, ?_⟩⟩⟩⟩
  rw [Machine.exec_singleton]
  simp [machine, receiverStep, collectResults_of_nil hentries]

end Fast

/-- After a failed send `SequentialTraceroute` has thrown its exception. `FastTraceroute` leaves `beginProbing` by an
    exception exactly when something throws in the thread of the receiver, and whichever send fails, it can return. -/
theorem send_failure_reported_iff (c : Call) (now : Int) {outcome : Except Exception Bool} {e : Exception}
    (hfails : sendFailure outcome = some e) :
    (∀ (destination : Nat → SocketAddress) (created : Nat) (buffer : Bytes) (as : List Sequential.Action)
      (s : Sequential.State),
      (Sequential.machine destination c).exec (Sequential.enter c now created buffer) as = some s →
      .trySendingReturns outcome ∈ as → s.position = .threw e) ∧
    (∀ (packets : Nat → Packet) (o : Fast.Object) (as : List Fast.Action) (s : Fast.State),
      (Fast.machine packets c).exec (Fast.enter c now o) as = some s → .sender (.trySendingReturns outcome) ∈ as →
      s.left = true → ((∃ e, s.receiver = .threw e) ↔
        ¬(Fast.machine packets c).Along (Fast.receiverContinues packets · ·) (Fast.enter c now o) as)) ∧
    ∀ (packets : Nat → Packet) (o : Fast.Object) (ttl i : UInt32), c.ttlBegin ≤ ttl → ttl ≤ c.ttlEnd → i < c.retries →
      ∃ as bs s t k, (Fast.machine packets c).exec (Fast.enter c now o) as = some s ∧ (∀ a ∈ as, Fast.sends a = true) ∧
        s.sender = .sending ttl i k ∧
        (Fast.machine packets c).exec s (.sender (.trySendingReturns outcome) :: bs) = some t ∧ t.left = true ∧
        t.receiver = .returned [] :=
  ⟨fun _ _ _ _ _ h hfailed => Sequential.exec_sendFailure h hfailed hfails,
    fun _ _ _ _ h _ _ => Fast.exec_receiverContinues (fun e he => by cases he) h,
    fun packets o _ _ hb he hi => Fast.exists_unnoticed packets now o hb he hi hfails⟩

/-- `trySending` returns `false`, and then `tryReceiving` throws. -/
theorem send_failure_reported_iff_thrown : ∃ s e, (Fast.machine (fun _ => Fast.deaf) ⟨1, 1, 1, 1000⟩).exec
    (Fast.enter ⟨1, 1, 1, 1000⟩ 0 (.fresh 0 fun _ => 0))
    [.sender .testTtl, .sender (.createPacket (.ok ())), .sender .trySending, .sender (.trySendingReturns (.ok false)),
      .receiver .readBeginAt, .receiver .testLoop,
      .receiver (.tryReceivingReturns (.error (.runtime_error "recvfrom")) fun _ => 0)] = some s ∧
    s.receiver = .threw e := by
  obtain ⟨e, he⟩ := ((@send_failure_reported_iff ⟨1, 1, 1, 1000⟩ 0 (.ok false) _ rfl).2.1 (fun _ => Fast.deaf)
    (.fresh 0 fun _ => 0)
    [.sender .testTtl, .sender (.createPacket (.ok ())), .sender .trySending, .sender (.trySendingReturns (.ok false)),
      .receiver .readBeginAt, .receiver .testLoop,
      .receiver (.tryReceivingReturns (.error (.runtime_error "recvfrom")) fun _ => 0)] _ rfl (by simp) rfl).mpr (by decide)
  exact ⟨_, e, rfl, he⟩

/-- `trySending` returns `false` for the only probe, nothing is received for a millisecond, and `beginProbing` returns
    an empty list. -/
theorem send_failure_unnoticed : ∃ s, (Fast.machine (fun _ => Fast.deaf) ⟨1, 1, 1, 1000⟩).exec
    (Fast.enter ⟨1, 1, 1, 1000⟩ 0 (.fresh 0 fun _ => 0))
    [.receiver .readBeginAt, .receiver .testLoop, .sender .testTtl, .sender (.createPacket (.ok ())), .sender .trySending,
      .sender (.trySendingReturns (.ok false)), .tick 1000000, .receiver (.tryReceivingReturns (.ok none) fun _ => 0),
      .receiver .lock, .receiver .matchResponse, .receiver .sweep, .receiver .testLoop,
      .receiver (.postprocess (.ok ()))] = some s ∧ s.left = true ∧ s.receiver = .returned [] :=
  ⟨_, rfl, rfl, rfl⟩

end Traceroute
