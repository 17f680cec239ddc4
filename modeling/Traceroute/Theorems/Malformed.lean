import Traceroute.Theorems.FastLeaves
import Traceroute.Theorems.Queries
import Traceroute.Theorems.SequentialLeaves

/-! Which datagrams make `isValid` throw, and what they and all others do to a run. -/

namespace Traceroute

variable {probe : ProbePacket} {responseInfo : ResponseInfo} {p : Bytes}

/-- The datagram has a first byte, unless the probe is a TCP probe that does not listen to its protocol; and the
    header that an ICMP error quotes has an IP version, where the probe asks for it. -/
structure Harmless (probe : ProbePacket) (responseInfo : ResponseInfo) (p : Bytes) : Prop where
  empty : responseInfo.size.toNat = 0 → probe.listens responseInfo.protocol = false ∧ ∃ packet, probe = .tcp packet
  quoted : responseInfo.size.toNat ≠ 0 → probe.listens responseInfo.protocol = true →
    responseInfo.size.toNat < ipHeaderSize p ∨
      ipHeaderSize p + probe.minimum responseInfo.protocol ≤ responseInfo.size.toNat →
    ∀ w e, probe.query responseInfo (p (ipHeaderSize p)) = .quoted w e → announcesIp (p.advance (ipHeaderSize p + 8)) = true

/-- Only a quoted header without a version makes a query throw. -/
theorem Query.answer_eq_ok {query : Query} :
    (∃ v, query.answer p = .ok v) ↔ ∀ w e, query = .quoted w e → announcesIp (p.advance 8) = true := by
  cases query with
  | refuse => exact iff_of_true ⟨_, rfl⟩ fun _ _ h => by cases h
  | field pos w e => exact iff_of_true ⟨_, rfl⟩ fun _ _ h => by cases h
  | quoted w e =>
    simp only [Query.answer, quotedField]
    cases announcesIp (p.advance 8) with
    | true => exact iff_of_true ⟨_, rfl⟩ fun _ _ _ => rfl
    | false =>
      refine iff_of_false ?_ fun h => by cases h w e rfl
      rintro ⟨v, hv⟩
      cases hv

/-- `isValid` returns on the harmless datagrams and throws on all others. -/
theorem isValid_returns_iff : (∃ v, probe.toPacket.isValid responseInfo p = .ok v) ↔ Harmless probe responseInfo p := by
  cases hlistens : probe.listens responseInfo.protocol with
  | false =>
    rw [ProbePacket.isValid_of_not_listens hlistens]
    have hquoted : probe.listens responseInfo.protocol ≠ true := by simp [hlistens]
    cases probe with
    | tcp packet => exact iff_of_true ⟨_, rfl⟩ ⟨fun _ => ⟨hlistens, packet, rfl⟩, fun _ h => absurd h hquoted⟩
    | _ =>
      by_cases hzero : responseInfo.size.toNat = 0
      · rw [if_pos hzero]
        refine iff_of_false (fun ⟨v, hv⟩ => by cases hv) fun h => ?_
        obtain ⟨-, packet, hpacket⟩ := h.empty hzero
        cases hpacket
      · rw [if_neg hzero]
        exact iff_of_true ⟨_, rfl⟩ ⟨fun h => absurd h hzero, fun _ h => absurd h hquoted⟩
  | true =>
    rw [ProbePacket.isValid_of_listens hlistens]
    by_cases hzero : responseInfo.size.toNat = 0
    · rw [if_pos hzero]
      refine iff_of_false (fun ⟨v, hv⟩ => by cases hv) fun h => ?_
      rw [(h.empty hzero).1] at hlistens
      cases hlistens
    · rw [if_neg hzero]
      split
      · rename_i hsize
        rw [Query.answer_eq_ok, Bytes.advance_advance]
        exact ⟨fun h => ⟨fun h0 => absurd h0 hzero, fun _ _ _ => h⟩, fun h => h.quoted hzero hlistens hsize⟩
      · rename_i hsize
        exact iff_of_true ⟨_, rfl⟩ ⟨fun h0 => absurd h0 hzero, fun _ _ h => absurd h hsize⟩

theorem isValid_throws_iff : (∃ e, probe.toPacket.isValid responseInfo p = .error e) ↔ ¬Harmless probe responseInfo p := by
  rw [← isValid_returns_iff]
  cases probe.toPacket.isValid responseInfo p <;> simp

namespace Fast

variable {packets : Nat → Packet} {probes : Nat → ProbePacket} {c : Call} {s t : State} {beginAt : Int} {respInfo : ResponseInfo}

/-- `find_if` gets to the probe with the datagram: the probes in front of it have refused it. -/
def Asked (packets : Nat → Packet) (s : State) (respInfo : ResponseInfo) (q : PacketToValidate) : Prop :=
  ∃ front rest, s.mPacketsToBeValidated = front ++ q :: rest ∧
    ∀ p ∈ front, (packets p.packet).isValid respInfo s.mBuffer = .ok false

/-- Every probe that is asked returns. -/
theorem findValid_throws_iff_asked :
    (∃ e, findValid (fun n => (probes n).toPacket) respInfo s.mBuffer s.mPacketsToBeValidated = .error e) ↔
      ¬∀ q, Asked (fun n => (probes n).toPacket) s respInfo q → Harmless (probes q.packet) respInfo s.mBuffer := by
  rw [findValid_throws_iff]
  constructor
  · rintro ⟨front, q, rest, hl, hb, he⟩ hall
    exact isValid_throws_iff.mp he (hall q ⟨front, rest, hl, hb⟩)
  · intro h
    simp only [not_forall] at h
    obtain ⟨q, ⟨front, rest, hl, hb⟩, hq⟩ := h
    exact ⟨front, q, rest, hl, hb, isValid_throws_iff.mpr hq⟩

/-- The receiver goes on from the matching of a datagram: it sweeps; when no probe accepts the datagram nothing else has
    changed; and it can return, with what has been recorded. -/
structure GoesOn (packets : Nat → Packet) (c : Call) (s : State) (beginAt : Int) (respInfo : ResponseInfo) (t : State) : Prop where
  sweeps : t.receiver = .sweeping beginAt 0
  ignores : (∀ q ∈ s.mPacketsToBeValidated, (packets q.packet).isValid respInfo s.mBuffer = .ok false) →
    t = { s with receiver := .sweeping beginAt 0 }
  returns : ∃ as u results, (machine packets c).exec t as = some u ∧ u.receiver = .returned results ∧
    t.recorded <+: u.recorded ∧ (c.ttlEnd.toNat + 1 < 2 ^ 32 → u.left = true)

theorem exists_returned_of_sweeping (packets : Nat → Packet) (hplaced : c.ttlEnd.toNat + 1 < 2 ^ 32 → Placed c t)
    (hexpires : ExpiresListed t) (pc : t.receiver = .sweeping beginAt 0) :
    ∃ as u results, (machine packets c).exec t as = some u ∧ u.receiver = .returned results ∧
      t.recorded <+: u.recorded ∧ (c.ttlEnd.toNat + 1 < 2 ^ 32 → u.left = true) := by
  have hb : t.receiver.BegunAt beginAt := by rw [pc]; rfl
  have hcalm : t.receiver.calm = true := by rw [pc]; rfl
  by_cases hend : c.ttlEnd.toNat + 1 < 2 ^ 32
  · obtain ⟨as, u, results, hu, hleft, hresults, hrecorded⟩ := exists_left packets hend (hplaced hend) hexpires hb hcalm
    exact ⟨as, u, results, hu, hresults, hrecorded, fun _ => hleft⟩
  · obtain ⟨as, u, results, hu, hresults, hrecorded⟩ := exists_returned (c := c) packets hexpires hb hcalm
    exact ⟨as, u, results, hu, hresults, hrecorded, fun hlt => absurd hlt hend⟩

/-- The receiver goes on from a datagram exactly when it is harmless for each probe that is asked. -/
theorem goesOn_iff {now : Int} {o : Object} {as : List Action}
    (h : (machine (fun n => (probes n).toPacket) c).exec (enter c now o) as = some s)
    (pc : s.receiver = .matching beginAt (some respInfo)) :
    (∀ q, Asked (fun n => (probes n).toPacket) s respInfo q → Harmless (probes q.packet) respInfo s.mBuffer) ↔
      ∃ t, (machine (fun n => (probes n).toPacket) c).step s (.receiver .matchResponse) = some t ∧
        GoesOn (fun n => (probes n).toPacket) c s beginAt respInfo t := by
  constructor
  · intro hharmless
    obtain ⟨a, t, ha⟩ := exists_receiverStep (fun n => (probes n).toPacket) c (exec_expires h) (by rw [pc]; rfl)
    have hstep : (machine (fun n => (probes n).toPacket) c).step s (.receiver a) = some t := ha
    have hreturns (hsweeps : t.receiver = .sweeping beginAt 0) :=
      exists_returned_of_sweeping (fun n => (probes n).toPacket)
        (fun hend => step_placed hend (exec_placed hend .enter h) hstep) (step_expires (exec_expires h) hstep) hsweeps
    cases receiverStep_move ha with
    | matchThrows pc' found =>
      cases pc.symm.trans pc'
      exact absurd hharmless (findValid_throws_iff_asked.mp ⟨_, found⟩)
    | unmatched pc' found =>
      cases pc.symm.trans pc'
      exact ⟨_, hstep, rfl, fun _ => rfl, hreturns rfl⟩
    | matched pc' found at_ =>
      cases pc.symm.trans pc'
      refine ⟨_, hstep, rfl, fun hrefused => ?_, hreturns rfl⟩
      obtain ⟨front, rest, hl, -, accepted, -⟩ := findValid_at found at_
      rw [hrefused _ (hl ▸ List.mem_append_right _ List.mem_cons_self)] at accepted
      cases accepted
    | begin_ pc' | call pc' | leave pc' | receive pc' | receiveThrows pc' | lock pc' | nothing pc' | keep pc' | late pc'
    | unlock pc' | expired pc' | return_ pc' | postprocessThrows pc' => cases pc.symm.trans pc'
  · rintro ⟨t, hstep, hgoes⟩
    by_contra hthrows
    obtain ⟨e, he⟩ := findValid_throws_iff_asked.mpr hthrows
    have hthrew : (machine (fun n => (probes n).toPacket) c).step s (.receiver .matchResponse) =
        some { s with receiver := .threw e } := by
      simp only [machine, receiverStep, pc, he]
    obtain rfl := Option.some.inj (hthrew.symm.trans hstep)
    cases hgoes.sweeps

/-- Each probe that is asked about the datagram returns. -/
def asksHarmless (probes : Nat → ProbePacket) (s : State) : Action → Prop
  | .receiver .matchResponse =>
    match s.receiver with
    | .matching _ (some respInfo) =>
      ∀ q, Asked (fun n => (probes n).toPacket) s respInfo q → Harmless (probes q.packet) respInfo s.mBuffer
    | _ => True
  | _ => True

/-- `tryReceiving`, or `createPacket` behind the loop, has thrown the exception. -/
def ThrownIn (as : List Action) (e : Exception) : Prop :=
  (∃ buffer, .receiver (.tryReceivingReturns (.error e) buffer) ∈ as) ∨ .receiver (.postprocess (.error e)) ∈ as

theorem step_thrownIn {as : List Action} {a : Action} (hP : asksHarmless probes s a ∧ a ∈ as)
    (h : ∀ e, s.receiver = .threw e → ThrownIn as e) (hs : (machine (fun n => (probes n).toPacket) c).step s a = some t) :
    ∀ e, t.receiver = .threw e → ThrownIn as e := by
  obtain ⟨hharmless, ha⟩ := hP
  intro e he
  cases a with
  | tick d =>
    obtain rfl := Option.some.inj hs
    exact h e he
  | sender a => exact h e ((senderStep_move hs).receiver ▸ he)
  | receiver a =>
    cases receiverStep_move hs with
    | @receiveThrows beginAt calledAt e' buffer pc =>
      cases he
      exact Or.inl ⟨buffer, ha⟩
    | postprocessThrows pc =>
      cases he
      exact Or.inr ha
    | matchThrows pc found =>
      simp only [asksHarmless, pc] at hharmless
      exact absurd hharmless (findValid_throws_iff_asked.mp ⟨_, found⟩)
    | call pc on => cases he
    | leave pc off => cases he
    | _ => cases he

end Fast

namespace Sequential

variable {destination : Nat → SocketAddress} {probes : Nat → ProbePacket} {c : Call} {s t : State}

/-- The probing goes on from the validation of a datagram: a datagram that is not valid has changed nothing and is waited
    on; and when its loop over the ttls has an end it can return, with what has been recorded, be it without another
    response. -/
structure GoesOn (destination : Nat → SocketAddress) (c : Call) (s : State) (a : Attempt) (respInfo : ResponseInfo) (v : Bool)
    (t : State) : Prop where
  waits : t = { s with position := .waiting a v (some respInfo) }
  returns : c.ttlEnd.toNat + 1 < 2 ^ 32 → ∃ as u results, (machine destination c).exec t as = some u ∧
    (∀ action ∈ as, action.validates = false) ∧ u.position = .returned results ∧ t.recorded <+: u.recorded

theorem goesOn_iff {now : Int} {created : Nat} {buffer : Bytes} {as : List Action} {a : Attempt} {respInfo : ResponseInfo}
    (h : (machine destination c).exec (enter c now created buffer) as = some s) (pc : s.position = .validating a respInfo) :
    Harmless (probes a.packet) respInfo s.mBuffer ↔
      ∃ v t, (probes a.packet).toPacket.isValid respInfo s.mBuffer = .ok v ∧
        (machine destination c).step s (.isValid (.ok v)) = some t ∧ GoesOn destination c s a respInfo v t := by
  constructor
  · intro hharmless
    obtain ⟨v, hv⟩ := isValid_returns_iff.mpr hharmless
    let t : State := { s with position := .waiting a v (some respInfo) }
    have hstep : (machine destination c).step s (.isValid (.ok v)) = some t := by
      simp only [machine, step, pc, t]
    refine ⟨v, t, hv, hstep, rfl, fun hend => ?_⟩
    obtain ⟨hplaced, hreceived⟩ := Machine.exec_invariant (I := fun s => Placed c s ∧ Received s)
      (fun hI hs => ⟨hI.1.step hend hs, (step_move hs).received hI.2⟩) ⟨.enter, fun a r hr => by simp [enter] at hr⟩ h
    exact exists_returned destination hend (hplaced.step hend hstep) ((step_move hstep).received hreceived) rfl
  · rintro ⟨v, t, hv, -, -⟩
    exact isValid_returns_iff.mp ⟨v, hv⟩

/-- The probe returns on the datagram that it is asked about. -/
def asksHarmless (probes : Nat → ProbePacket) (s : State) : Action → Prop
  | .isValid _ =>
    match s.position with
    | .validating a respInfo => Harmless (probes a.packet) respInfo s.mBuffer
    | _ => True
  | _ => True

/-- `createPacket`, `trySending` or `tryReceiving` has thrown the exception, or a packet could not be sent. -/
def ThrownIn (as : List Action) (e : Exception) : Prop :=
  .createPacket (.error e) ∈ as ∨ (∃ outcome, .trySendingReturns outcome ∈ as ∧ sendFailure outcome = some e) ∨
  ∃ buffer, .tryReceivingReturns (.error e) buffer ∈ as

theorem step_thrownIn {as : List Action} {a : Action}
    (hP : (asksPacket (fun n => (probes n).toPacket) s a ∧ asksHarmless probes s a) ∧ a ∈ as)
    (h : ∀ e, s.position = .threw e → ThrownIn as e) (hs : (machine destination c).step s a = some t) :
    ∀ e, t.position = .threw e → ThrownIn as e := by
  obtain ⟨⟨hasks, hharmless⟩, ha⟩ := hP
  intro e he
  cases step_move hs with
  | tick d => exact h e he
  | createThrows pc lt =>
    cases he
    exact Or.inl ha
  | sendThrows pc | notSent pc =>
    cases he
    exact Or.inr (Or.inl ⟨_, ha, rfl⟩)
  | @receiveThrows a timeLeft calledAt e' buffer pc =>
    cases he
    exact Or.inr (Or.inr ⟨buffer, ha⟩)
  | validateThrows pc =>
    simp only [asksPacket, asksHarmless, pc] at hasks hharmless
    obtain ⟨v, hv⟩ := isValid_returns_iff.mpr hharmless
    rw [hv] at hasks
    cases hasks
  | return_ pc lt => cases he
  | break_ pc le reached => cases he
  | _ => cases he

end Sequential

/-- A datagram makes `isValid` throw exactly when it is not harmless. In every run of either engine a datagram is then
    ignored or credited and the run can go on until the engine returns, exactly when it is harmless for the probes that
    are asked about it; and while the datagrams are, an exception that leaves the engine comes from a collaborator. -/
theorem harmless_continues (probes : Nat → ProbePacket) (c : Call) (now : Int) :
    (∀ (k : Nat) (responseInfo : ResponseInfo) (p : Bytes),
      (∃ v, (probes k).toPacket.isValid responseInfo p = .ok v) ↔ Harmless (probes k) responseInfo p) ∧
    (∀ (o : Fast.Object) (as : List Fast.Action) (s : Fast.State),
      (Fast.machine (fun n => (probes n).toPacket) c).exec (Fast.enter c now o) as = some s →
      (∀ beginAt respInfo, s.receiver = .matching beginAt (some respInfo) →
        ((∀ q, Fast.Asked (fun n => (probes n).toPacket) s respInfo q → Harmless (probes q.packet) respInfo s.mBuffer) ↔
          ∃ t, (Fast.machine (fun n => (probes n).toPacket) c).step s (.receiver .matchResponse) = some t ∧
            Fast.GoesOn (fun n => (probes n).toPacket) c s beginAt respInfo t)) ∧
      ((Fast.machine (fun n => (probes n).toPacket) c).Along (Fast.asksHarmless probes) (Fast.enter c now o) as →
        ∀ e, s.receiver = .threw e → Fast.ThrownIn as e)) ∧
    (∀ (destination : Nat → SocketAddress) (created : Nat) (buffer : Bytes) (as : List Sequential.Action)
      (s : Sequential.State),
      (Sequential.machine destination c).exec (Sequential.enter c now created buffer) as = some s →
      (∀ a respInfo, s.position = .validating a respInfo →
        (Harmless (probes a.packet) respInfo s.mBuffer ↔
          ∃ v t, (probes a.packet).toPacket.isValid respInfo s.mBuffer = .ok v ∧
            (Sequential.machine destination c).step s (.isValid (.ok v)) = some t ∧
            Sequential.GoesOn destination c s a respInfo v t)) ∧
      ((Sequential.machine destination c).Along (fun s a => Sequential.asksPacket (fun n => (probes n).toPacket) s a ∧
          Sequential.asksHarmless probes s a) (Sequential.enter c now created buffer) as →
        ∀ e, s.position = .threw e → Sequential.ThrownIn as e)) := by
  refine ⟨fun _ _ _ => isValid_returns_iff, fun o as s h => ⟨fun _ _ pc => Fast.goesOn_iff h pc, fun hP => ?_⟩,
    fun destination created buffer as s h => ⟨fun _ _ pc => Sequential.goesOn_iff h pc, fun hP => ?_⟩⟩
  · exact Machine.along_invariant Fast.step_thrownIn (fun e he => by cases he)
      (hP.and (Machine.along_of_forall fun a ha => ha)) h
  · exact Machine.along_invariant Sequential.step_thrownIn (fun e he => by cases he)
      (hP.and (Machine.along_of_forall fun a ha => ha)) h

/-- A Time Exceeded message that quotes a header without a version ends a sequential run. -/
def abortedRun : List Sequential.Action :=
  [.testTtl, .createPacket (.ok ()), .trySending, .trySendingReturns (.ok true), .readSentAt, .testLoop,
    .tryReceivingReturns (.ok (some ⟨someHost, 1, 48⟩)) (timeExceeded 0),
    .isValid ((ProbePacket.icmp someIcmpPacket).toPacket.isValid ⟨someHost, 1, 48⟩ (timeExceeded 0))]

theorem malformed_aborts :
    (ProbePacket.icmp someIcmpPacket).toPacket.isValid ⟨someHost, 1, 48⟩ (timeExceeded 0) = .error invalidIpHeader ∧
    ∃ s, (Sequential.machine (fun _ => someHost) ⟨1, 1, 1, 1000⟩).exec (Sequential.enter ⟨1, 1, 1, 1000⟩ 0 0 fun _ => 0)
      abortedRun = some s ∧ s.position = .threw invalidIpHeader :=
  ⟨rfl, _, rfl, rfl⟩

/-- Two probes are sent, and a message of another type is received. -/
def ignoredRun : List Fast.Action :=
  .sender .testTtl :: Fast.sendProbe ++ Fast.sendProbe ++ [.receiver .readBeginAt, .receiver .testLoop,
    .receiver (.tryReceivingReturns (.ok (some ⟨someHost, 1, 28⟩)) fun _ => 1), .receiver .lock]

/-- A probe is sent, and the same message is received. -/
def ignoredInTurn : List Sequential.Action :=
  [.testTtl, .createPacket (.ok ()), .trySending, .trySendingReturns (.ok true), .readSentAt, .testLoop,
    .tryReceivingReturns (.ok (some ⟨someHost, 1, 28⟩)) fun _ => 1]

/-- The message is no answer to any probe, and the engines go on as if it had not come. -/
theorem harmless_continues_ignored :
    (∃ s t, (Fast.machine (fun _ => (ProbePacket.icmp someIcmpPacket).toPacket) ⟨1, 1, 2, 1000⟩).exec
        (Fast.enter ⟨1, 1, 2, 1000⟩ 0 (.fresh 0 fun _ => 0)) ignoredRun = some s ∧ s.mPacketsToBeValidated.length = 2 ∧
      (Fast.machine (fun _ => (ProbePacket.icmp someIcmpPacket).toPacket) ⟨1, 1, 2, 1000⟩).step s (.receiver .matchResponse) =
        some t ∧ t = { s with receiver := .sweeping 0 0 } ∧
      ∃ as u, (Fast.machine (fun _ => (ProbePacket.icmp someIcmpPacket).toPacket) ⟨1, 1, 2, 1000⟩).exec t as = some u ∧
        u.left = true) ∧
    ∃ s t, (Sequential.machine (fun _ => someHost) ⟨1, 1, 2, 1000⟩).exec (Sequential.enter ⟨1, 1, 2, 1000⟩ 0 0 fun _ => 0)
        ignoredInTurn = some s ∧
      (Sequential.machine (fun _ => someHost) ⟨1, 1, 2, 1000⟩).step s (.isValid (.ok false)) = some t ∧
      ∃ as u probes, (Sequential.machine (fun _ => someHost) ⟨1, 1, 2, 1000⟩).exec t as = some u ∧
        u.position = .returned probes := by
  obtain ⟨-, hfast, hsequential⟩ := harmless_continues (fun _ => .icmp someIcmpPacket) ⟨1, 1, 2, 1000⟩ 0
  have hrefused : (ProbePacket.icmp someIcmpPacket).toPacket.isValid ⟨someHost, 1, 28⟩ (fun _ => 1) = .ok false := rfl
  constructor
  · obtain ⟨t, hstep, -, hignores, as, u, results, hu, -, -, hleft⟩ := ((hfast (.fresh 0 fun _ => 0) ignoredRun _ rfl).1 0
      ⟨someHost, 1, 28⟩ rfl).mp fun q _ => isValid_returns_iff.mp ⟨false, hrefused⟩
    exact ⟨_, t, rfl, rfl, hstep, hignores fun q _ => hrefused, as, u, hu, hleft (by decide)⟩
  · obtain ⟨v, t, hv, hstep, -, hreturns⟩ := ((hsequential (fun _ => someHost) 0 (fun _ => 0) ignoredInTurn _ rfl).1
      ⟨1, 0, 0, 0⟩ ⟨someHost, 1, 28⟩ rfl).mp (isValid_returns_iff.mp ⟨false, hrefused⟩)
    obtain rfl : false = v := Except.ok.inj (hrefused.symm.trans hv)
    obtain ⟨as, u, probes, hu, -, hprobes, -⟩ := hreturns (by decide)
    exact ⟨_, t, rfl, hstep, as, u, probes, hu, hprobes⟩

end Traceroute
