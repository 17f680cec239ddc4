import Traceroute.Sending
import Traceroute.Theorems.Attribution

/-! Which probe a datagram is attributed to when the probes are UDP probes of one factory: they accept the same
    datagrams, so it is the first outstanding one, whichever one the datagram quotes. -/

namespace Traceroute

/-! ### Datagrams that quote a probe -/

/-- A Time Exceeded or a Destination Unreachable message of the family of its sender, which quotes an IP header and
    the packet's UDP header, with whatever checksum it left with. -/
structure UdpPacket.QuotedBy (packet : UdpPacket) (responseInfo : ResponseInfo) (p : Bytes) : Prop where
  protocol : validateIcmpProtocol responseInfo.protocol = true
  type : p (ipHeaderSize p) ∈ if responseInfo.client.isV4 then [ICMP_TIME_EXCEEDED, ICMP_DEST_UNREACH]
    else [ICMP6_TIME_EXCEEDED, ICMP6_DST_UNREACH]
  quoted : announcesIp (p.advance (ipHeaderSize p + 8)) = true
  header : (ProbePacket.udp packet).OnWire
    (p.advance (ipHeaderSize p + 8 + ipHeaderSize (p.advance (ipHeaderSize p + 8)))) 8
  size : ipHeaderSize p + 8 + ipHeaderSize (p.advance (ipHeaderSize p + 8)) + 8 ≤ responseInfo.size.toNat

variable {packet packet' : UdpPacket} {packets : Nat → UdpPacket} {responseInfo : ResponseInfo} {p : Bytes}

/-- Packets with different source ports are not quoted by one datagram. -/
theorem UdpPacket.QuotedBy.source_inj (h : packet.QuotedBy responseInfo p) (h' : packet'.QuotedBy responseInfo p) :
    packet.mUdpHeader.source = packet'.mUdpHeader.source := by
  refine ofU16_inj fun i hi => ?_
  have hsize : i < 8 := Nat.lt_of_lt_of_le hi (by decide)
  have hfield : i < 6 := Nat.lt_of_lt_of_le hi (by decide)
  have heq := (h.header.byte rfl hsize hsize (Or.inl hfield)).symm.trans (h'.header.byte rfl hsize hsize (Or.inl hfield))
  simpa only [UdpHeader.toBytes, if_pos hi] using heq

/-- The packets of one factory accept the same datagrams. -/
theorem UdpPacket.isValid_congr (h : packet.mDestinationAddress = packet'.mDestinationAddress) :
    packet.isValid responseInfo p = packet'.isValid responseInfo p := by
  simp only [UdpPacket.isValid, udpResponseValidator, h]

/-- The packets are those that the factory creates. -/
def UdpPacketFactory.Makes (f : UdpPacketFactory) (packets : Nat → UdpPacket) : Prop :=
  ∀ n, ∃ memory rand, f.createPacket memory rand = .ok (packets n)

theorem UdpPacketFactory.Makes.isValid {f : UdpPacketFactory} (h : f.Makes packets) (m n : Nat) :
    (packets m).isValid responseInfo p = (packets n).isValid responseInfo p := by
  obtain ⟨memory, rand, hm⟩ := h m
  obtain ⟨memory', rand', hn⟩ := h n
  exact UdpPacket.isValid_congr ((UdpPacketFactory.destination hm).trans (UdpPacketFactory.destination hn).symm)

/-- The datagram quotes a probe that was sent with `ttl`. -/
def QuotesSent (packets : Nat → UdpPacket) (sent : List (UInt32 × Nat)) (ttl : UInt32) (responseInfo : ResponseInfo)
    (p : Bytes) : Prop := ∃ k, (ttl, k) ∈ sent ∧ (packets k).QuotedBy responseInfo p

/-- Every probe that the datagram quotes was sent with `ttl`. -/
def QuotesOnly (packets : Nat → UdpPacket) (sent : List (UInt32 × Nat)) (ttl : UInt32) (responseInfo : ResponseInfo)
    (p : Bytes) : Prop := ∀ x ∈ sent, (packets x.2).QuotedBy responseInfo p → x.1 = ttl

/-- The probes that have been sent have different source ports. -/
def DifferentPorts (packets : Nat → UdpPacket) (sent : List (UInt32 × Nat)) : Prop :=
  (sent.map fun x => (packets x.2).mUdpHeader.source).Nodup

instance (packets : Nat → UdpPacket) (sent : List (UInt32 × Nat)) : Decidable (DifferentPorts packets sent) :=
  inferInstanceAs (Decidable (List.Nodup _))

section
variable {sent later : List (UInt32 × Nat)} {ttl ttl' : UInt32}

theorem QuotesSent.mono (h : QuotesSent packets sent ttl responseInfo p) (hs : sent ⊆ later) :
    QuotesSent packets later ttl responseInfo p := by
  obtain ⟨k, hk, hq⟩ := h
  exact ⟨k, hs hk, hq⟩

theorem append_sent_subset {earlier : List (UInt32 × Nat)} (hs : sent <+: later) : earlier ++ sent ⊆ earlier ++ later :=
  ((List.Sublist.refl _).append hs.sublist).subset

theorem QuotesSent.append {earlier : List (UInt32 × Nat)} (h : QuotesSent packets (earlier ++ sent) ttl responseInfo p)
    (hs : sent <+: later) : QuotesSent packets (earlier ++ later) ttl responseInfo p :=
  h.mono (append_sent_subset hs)

theorem QuotesSent.of_only (h : QuotesSent packets sent ttl' responseInfo p)
    (ho : QuotesOnly packets sent ttl responseInfo p) : QuotesSent packets sent ttl responseInfo p := by
  obtain ⟨k, hk, hq⟩ := h
  obtain rfl : ttl' = ttl := ho _ hk hq
  exact ⟨k, hk, hq⟩

/-- A datagram quotes one probe at most. -/
theorem QuotesSent.only (h : QuotesSent packets later ttl responseInfo p) (hports : DifferentPorts packets later)
    (hs : sent ⊆ later) : QuotesOnly packets sent ttl responseInfo p := by
  intro x hx hq
  obtain ⟨k, hk, hqk⟩ := h
  exact congrArg Prod.fst (List.inj_on_of_nodup_map hports (hs hx) hk (hq.source_inj hqk))

end

/-! ### `FastTraceroute` -/

namespace Fast

variable {f : UdpPacketFactory} {c : Call} {s t : State} {earlier : List (UInt32 × Nat)}

/-- The datagram that is received quotes a probe that was sent before, by this call or an earlier one. -/
def elicited (packets : Nat → UdpPacket) (earlier : List (UInt32 × Nat)) (s : State) : Action → Prop
  | .receiver (.tryReceivingReturns (.ok (some respInfo)) buffer) =>
    ∃ ttl, QuotesSent packets (earlier ++ s.sent) ttl respInfo buffer
  | _ => True

/-- A datagram that the probes accept is matched while the first outstanding probe has the ttl of the one it quotes. -/
def inTurn (packets : Nat → UdpPacket) (earlier : List (UInt32 × Nat)) (s : State) : Action → Prop
  | .receiver .matchResponse =>
    match s.receiver, s.mPacketsToBeValidated with
    | .matching _ (some respInfo), first :: _ =>
      (packets first.packet).isValid respInfo s.mBuffer = .ok true →
        QuotesOnly packets (earlier ++ s.sent) first.ttl respInfo s.mBuffer
    | _, _ => True
  | _ => True

/-- Every success comes from a datagram that quotes a probe sent with the ttl it is recorded under. -/
def Attributed (packets : Nat → UdpPacket) (earlier : List (UInt32 × Nat)) (s : State) : Prop :=
  ∀ r ∈ s.recorded, r.result.success = true → ∃ respInfo buffer, r.answer = some (respInfo, buffer) ∧
    QuotesSent packets (earlier ++ s.sent) r.probe.ttl respInfo buffer

theorem SenderMove.sent_mono {a : SenderAction} (m : SenderMove c s a t) : s.sent <+: t.sent := by
  cases m with
  | send pc => exact List.prefix_append _ _
  | _ => exact List.prefix_refl _

theorem ReceiverMove.sent_eq {packets : Nat → Packet} {a : ReceiverAction} (m : ReceiverMove packets c s a t) :
    t.sent = s.sent := by
  cases m <;> rfl

theorem SenderMove.mBuffer {a : SenderAction} (m : SenderMove c s a t) : t.mBuffer = s.mBuffer := by
  cases m <;> rfl

theorem step_sent {packets : Nat → Packet} {a : Action} (h : (machine packets c).step s a = some t) :
    s.sent <+: t.sent := by
  cases a with
  | tick d =>
    obtain rfl := Option.some.inj h
    exact List.prefix_refl _
  | sender a => exact (senderStep_move h).sent_mono
  | receiver a => exact (receiverStep_move h).sent_eq ▸ List.prefix_refl _

theorem exec_sent {packets : Nat → Packet} {as : List Action} (h : (machine packets c).exec s as = some t) :
    s.sent <+: t.sent :=
  Machine.exec_relation (R := fun s t => s.sent <+: t.sent) (fun _ => List.prefix_refl _) List.IsPrefix.trans
    (fun h => step_sent h) h

/-- Of probes that accept the same datagrams, `find_if` chooses the first. -/
theorem findValid_first {packets : Nat → Packet} {respInfo : ResponseInfo} {buffer : Bytes}
    {l : List PacketToValidate} {it : Nat} {probe : PacketToValidate}
    (hsame : ∀ m n, (packets m).isValid respInfo buffer = (packets n).isValid respInfo buffer)
    (found : findValid packets respInfo buffer l = .ok (some it)) (at_ : l[it]? = some probe) :
    ∃ rest, l = probe :: rest := by
  obtain ⟨front, rest, rfl, -, accepted, refused⟩ := findValid_at found at_
  cases front with
  | nil => exact ⟨rest, rfl⟩
  | cons q front =>
    have hq := refused q List.mem_cons_self
    rw [hsame q.packet probe.packet, accepted] at hq
    cases hq

/-- The datagram in hand quotes a probe that was sent before, and the successes are attributed. -/
structure Quoting (packets : Nat → UdpPacket) (earlier : List (UInt32 × Nat)) (s : State) : Prop where
  held : ∀ beginAt respInfo, s.receiver = .locking beginAt (some respInfo) ∨ s.receiver = .matching beginAt (some respInfo) →
    ∃ ttl, QuotesSent packets (earlier ++ s.sent) ttl respInfo s.mBuffer
  attributed : Attributed packets earlier s

theorem Attributed.mono (h : Attributed packets earlier s) (recorded : t.recorded = s.recorded)
    (sent : s.sent <+: t.sent) : Attributed packets earlier t := by
  intro r hr hsuccess
  obtain ⟨respInfo, buffer, hanswer, hquotes⟩ := h r (recorded ▸ hr) hsuccess
  exact ⟨respInfo, buffer, hanswer, hquotes.append sent⟩

theorem Quoting.of_eq (h : Quoting packets earlier s) (recorded : t.recorded = s.recorded) (sent : s.sent <+: t.sent)
    (held : ∀ beginAt respInfo, t.receiver = .locking beginAt (some respInfo) ∨
      t.receiver = .matching beginAt (some respInfo) → t.mBuffer = s.mBuffer ∧
        (s.receiver = .locking beginAt (some respInfo) ∨ s.receiver = .matching beginAt (some respInfo))) :
    Quoting packets earlier t := by
  refine ⟨fun beginAt respInfo hp => ?_, h.attributed.mono recorded sent⟩
  obtain ⟨hbuffer, hp⟩ := held beginAt respInfo hp
  obtain ⟨ttl, hquotes⟩ := h.held beginAt respInfo hp
  exact ⟨ttl, hbuffer ▸ hquotes.append sent⟩

theorem step_quoting {a : Action} (hmade : f.Makes packets)
    (hP : elicited packets earlier s a ∧ inTurn packets earlier s a) (h : Quoting packets earlier s)
    (hs : (machine (fun n => (ProbePacket.udp (packets n)).toPacket) c).step s a = some t) :
    Quoting packets earlier t := by
  obtain ⟨helicited, hturn⟩ := hP
  cases a with
  | tick d =>
    obtain rfl := Option.some.inj hs
    exact h.of_eq rfl (List.prefix_refl _) fun _ _ hp => ⟨rfl, hp⟩
  | sender a =>
    have m := senderStep_move hs
    exact h.of_eq m.recorded m.sent_mono fun _ _ hp => ⟨m.mBuffer, m.receiver ▸ hp⟩
  | receiver a =>
    cases receiverStep_move hs with
    | @receive beginAt calledAt respInfo buffer pc =>
      refine ⟨fun beginAt' respInfo' hp => ?_, h.attributed.mono rfl (List.prefix_refl _)⟩
      obtain ⟨rfl, rfl⟩ : beginAt = beginAt' ∧ respInfo = some respInfo' := by simpa using hp
      exact helicited
    | @lock beginAt respInfo pc =>
      refine h.of_eq rfl (List.prefix_refl _) fun beginAt' respInfo' hp => ⟨rfl, Or.inl ?_⟩
      obtain ⟨rfl, rfl⟩ : beginAt = beginAt' ∧ respInfo = some respInfo' := by simpa using hp
      exact pc
    | @matched beginAt respInfo it probe pc found at_ =>
      refine ⟨fun _ _ hp => by simp at hp, List.forall_mem_append.mpr ⟨h.attributed, ?_⟩⟩
      refine List.forall_mem_singleton.mpr fun _ => ?_
      obtain ⟨rest, hfirst⟩ := findValid_first (fun m n => hmade.isValid m n) found at_
      obtain ⟨-, -, -, -, accepted, -⟩ := findValid_at found at_
      simp only [inTurn, pc, hfirst] at hturn
      obtain ⟨ttl, hquotes⟩ := h.held beginAt respInfo (Or.inr pc)
      exact ⟨respInfo, s.mBuffer, rfl, hquotes.of_only (hturn accepted)⟩
    | @expired beginAt it probe pc at_ =>
      refine ⟨fun _ _ hp => by simp at hp, List.forall_mem_append.mpr ⟨h.attributed, ?_⟩⟩
      exact List.forall_mem_singleton.mpr fun hsuccess => by cases hsuccess
    | _ => exact h.of_eq rfl (List.prefix_refl _) fun _ _ hp => by simp at hp

/-- A datagram that the first outstanding probe accepts is credited to it. -/
theorem step_credits {packets : Nat → Packet} {beginAt : Int} {respInfo : ResponseInfo} {first : PacketToValidate}
    {rest : List PacketToValidate} (pc : s.receiver = .matching beginAt (some respInfo))
    (hfirst : s.mPacketsToBeValidated = first :: rest)
    (accepted : (packets first.packet).isValid respInfo s.mBuffer = .ok true)
    (hs : (machine packets c).step s (.receiver .matchResponse) = some t) :
    ∃ r ∈ t.recorded, r.probe = first ∧ r.result.success = true ∧ r.answer = some (respInfo, s.mBuffer) := by
  have hfound : findValid packets respInfo s.mBuffer s.mPacketsToBeValidated = .ok (some 0) :=
    findValid_eq_some.mpr ⟨[], first, rest, hfirst, rfl, accepted, by simp⟩
  have m : ReceiverMove packets c s .matchResponse t := receiverStep_move hs
  cases m with
  | nothing pc' => simp [pc] at pc'
  | unmatched pc' found =>
    obtain ⟨-, rfl⟩ : beginAt = _ ∧ respInfo = _ := by simpa [pc] using pc'
    rw [hfound] at found
    cases found
  | matchThrows pc' found =>
    obtain ⟨-, rfl⟩ : beginAt = _ ∧ respInfo = _ := by simpa [pc] using pc'
    rw [hfound] at found
    cases found
  | matched pc' found at_ =>
    obtain ⟨-, rfl⟩ : beginAt = _ ∧ respInfo = _ := by simpa [pc] using pc'
    rw [hfound] at found
    cases found
    rw [hfirst] at at_
    cases at_
    exact ⟨_, List.mem_append_right _ List.mem_cons_self, rfl, rfl, rfl⟩

theorem attributed_iff {as : List Action} {now : Int} {o : Object} (hmade : f.Makes packets)
    (h : (machine (fun n => (ProbePacket.udp (packets n)).toPacket) c).exec (enter c now o) as = some t)
    (hports : DifferentPorts packets (earlier ++ t.sent))
    (helicited : (machine (fun n => (ProbePacket.udp (packets n)).toPacket) c).Along (elicited packets earlier)
      (enter c now o) as) :
    Attributed packets earlier t ↔
      (machine (fun n => (ProbePacket.udp (packets n)).toPacket) c).Along (inTurn packets earlier) (enter c now o) as := by
  constructor
  · intro hattributed
    refine Machine.along_of_exec (fun {s v a as} _ hv ht => ?_) helicited h
    cases a with
    | tick d => trivial
    | sender a => trivial
    | receiver a =>
      cases a with
      | matchResponse =>
        simp only [inTurn]
        split
        · rename_i beginAt respInfo first rest pc hfirst
          intro accepted
          obtain ⟨r, hr, rfl, hsuccess, hanswer⟩ := step_credits pc hfirst accepted hv
          obtain ⟨respInfo', buffer', hanswer', hquotes⟩ := hattributed r ((exec_recorded ht).subset hr) hsuccess
          obtain ⟨rfl, rfl⟩ : respInfo = respInfo' ∧ s.mBuffer = buffer' := by simpa [hanswer] using hanswer'
          exact hquotes.only hports (append_sent_subset ((step_sent hv).trans (exec_sent ht)))
        · trivial
      | _ => trivial
  · intro hturn
    exact (Machine.along_invariant (fun hP hI hs => step_quoting hmade hP hI hs)
      (⟨fun _ _ hp => by simp [enter] at hp, fun r hr => by cases hr⟩ : Quoting packets earlier (enter c now o))
      (helicited.and hturn) h).attributed

end Fast

/-! ### `SequentialTraceroute` -/

namespace Sequential

variable {f : UdpPacketFactory} {destination : Nat → SocketAddress} {c : Call} {s t : State}
  {earlier : List (UInt32 × Nat)}

/-- The datagram that is received quotes a probe that was sent before, by this call or an earlier one. -/
def elicited (packets : Nat → UdpPacket) (earlier : List (UInt32 × Nat)) (s : State) : Action → Prop
  | .tryReceivingReturns (.ok (some respInfo)) buffer =>
    ∃ ttl, QuotesSent packets (earlier ++ s.sent) ttl respInfo buffer
  | _ => True

/-- A datagram that the current probe accepts quotes a probe of the same ttl. -/
def inTurn (packets : Nat → UdpPacket) (earlier : List (UInt32 × Nat)) (s : State) : Action → Prop
  | .isValid _ =>
    match s.position with
    | .validating a respInfo => (packets a.packet).isValid respInfo s.mBuffer = .ok true →
        QuotesOnly packets (earlier ++ s.sent) a.ttl respInfo s.mBuffer
    | _ => True
  | _ => True

/-- Every success comes from a datagram that quotes a probe sent with the ttl it is recorded under. -/
def Attributed (packets : Nat → UdpPacket) (earlier : List (UInt32 × Nat)) (s : State) : Prop :=
  ∀ r ∈ s.recorded, r.result.success = true → ∃ respInfo buffer, r.answer = some (respInfo, buffer) ∧
    QuotesSent packets (earlier ++ s.sent) r.attempt.ttl respInfo buffer

theorem step_sent {a : Action} (h : (machine destination c).step s a = some t) : s.sent <+: t.sent := by
  cases step_move h with
  | send pc => exact List.prefix_append _ _
  | _ => exact List.prefix_refl _

theorem exec_sent {as : List Action} (h : (machine destination c).exec s as = some t) : s.sent <+: t.sent :=
  Machine.exec_relation (R := fun s t => s.sent <+: t.sent) (fun _ => List.prefix_refl _) List.IsPrefix.trans step_sent h

/-- The datagram in hand quotes a probe that was sent before, one of the same ttl once it has been accepted; and the
    successes are attributed. -/
structure Quoting (packets : Nat → UdpPacket) (earlier : List (UInt32 × Nat)) (s : State) : Prop where
  received : ∀ a respInfo, s.position = .validating a respInfo →
    ∃ ttl, QuotesSent packets (earlier ++ s.sent) ttl respInfo s.mBuffer
  held : ∀ a respInfo, s.position = .waiting a true (some respInfo) ∨ s.position = .waited a true (some respInfo) →
    QuotesSent packets (earlier ++ s.sent) a.ttl respInfo s.mBuffer
  attributed : Attributed packets earlier s

/-- A step after which no datagram is in hand. -/
theorem Quoting.of_eq (h : Quoting packets earlier s) (recorded : t.recorded = s.recorded) (sent : s.sent <+: t.sent)
    (received : ∀ a respInfo, t.position ≠ .validating a respInfo)
    (held : ∀ a respInfo, ¬(t.position = .waiting a true (some respInfo) ∨ t.position = .waited a true (some respInfo))) :
    Quoting packets earlier t := by
  refine ⟨fun a respInfo hp => absurd hp (received a respInfo), fun a respInfo hp => absurd hp (held a respInfo),
    fun r hr hsuccess => ?_⟩
  obtain ⟨respInfo, buffer, hanswer, hquotes⟩ := h.attributed r (recorded ▸ hr) hsuccess
  exact ⟨respInfo, buffer, hanswer, hquotes.append sent⟩

theorem step_quoting {a : Action} (hP : (asksPacket (fun n => (ProbePacket.udp (packets n)).toPacket) s a ∧
      elicited packets earlier s a) ∧ inTurn packets earlier s a)
    (h : Quoting packets earlier s) (hs : (machine destination c).step s a = some t) : Quoting packets earlier t := by
  obtain ⟨⟨hasks, helicited⟩, hturn⟩ := hP
  cases step_move hs with
  | tick d => exact ⟨h.received, h.held, h.attributed⟩
  | @stop a v r pc isOver =>
    refine ⟨fun a' respInfo hp => (by cases hp), fun a' respInfo hp => h.held a' respInfo (Or.inl ?_), h.attributed⟩
    obtain ⟨rfl, rfl, rfl⟩ : a = a' ∧ v = true ∧ r = some respInfo := by simpa using hp
    exact pc
  | @receive a timeLeft calledAt respInfo buffer pc =>
    refine ⟨fun a' respInfo' hp => ?_, fun a' respInfo' hp => by simp at hp, h.attributed⟩
    obtain ⟨rfl, rfl⟩ : a = a' ∧ respInfo = respInfo' := by simpa using hp
    exact helicited
  | @validate a respInfo v pc =>
    refine ⟨fun a' respInfo' hp => (by cases hp), fun a' respInfo' hp => ?_, h.attributed⟩
    obtain ⟨rfl, rfl, rfl⟩ : a = a' ∧ v = true ∧ respInfo = respInfo' := by simpa using hp
    simp only [asksPacket, inTurn, pc] at hasks hturn
    obtain ⟨ttl, hquotes⟩ := h.received a respInfo pc
    exact hquotes.of_only (hturn hasks.symm)
  | @success a respInfo pc =>
    refine ⟨fun a' respInfo' hp => by simp [State.record] at hp, fun a' respInfo' hp => by simp [State.record] at hp,
      List.forall_mem_append.mpr ⟨h.attributed, ?_⟩⟩
    exact List.forall_mem_singleton.mpr fun _ => ⟨respInfo, s.mBuffer, rfl, h.held a respInfo (Or.inr pc)⟩
  | @failure a r pc =>
    refine ⟨fun a' respInfo' hp => by simp [State.record] at hp, fun a' respInfo' hp => by simp [State.record] at hp,
      List.forall_mem_append.mpr ⟨h.attributed, ?_⟩⟩
    exact List.forall_mem_singleton.mpr fun hsuccess => by cases hsuccess
  | send pc => exact h.of_eq rfl (List.prefix_append _ _) (fun _ _ => by simp) fun _ _ => by simp
  | _ => exact h.of_eq rfl (List.prefix_refl _) (fun _ _ => by simp) fun _ _ => by simp

/-- An accepted datagram is held until it is credited to its probe. -/
def Kept (a : Attempt) (respInfo : ResponseInfo) (buffer : Bytes) (s : State) : Prop :=
  ((s.position = .waiting a true (some respInfo) ∨ s.position = .waited a true (some respInfo)) ∧ s.mBuffer = buffer) ∨
  ∃ r ∈ s.recorded, r.attempt = a ∧ r.result.success = true ∧ r.answer = some (respInfo, buffer)

theorem step_kept {a : Attempt} {respInfo : ResponseInfo} {buffer : Bytes} {action : Action}
    (h : Kept a respInfo buffer s) (hs : (machine destination c).step s action = some t) : Kept a respInfo buffer t := by
  rcases h with ⟨hpos, hbuffer⟩ | ⟨r, hr, hcredited⟩
  · cases step_move hs with
    | tick d => exact Or.inl ⟨hpos, hbuffer⟩
    | @stop a' v r pc isOver =>
      obtain ⟨rfl, rfl, rfl⟩ : a' = a ∧ v = true ∧ r = some respInfo := by simpa [pc] using hpos
      exact Or.inl ⟨Or.inr rfl, hbuffer⟩
    | @success a' respInfo' pc =>
      obtain ⟨rfl, rfl⟩ : a' = a ∧ respInfo' = respInfo := by simpa [pc] using hpos
      exact Or.inr ⟨_, List.mem_append_right _ List.mem_cons_self, rfl, rfl, by rw [hbuffer]⟩
    | enterTtl pc | return_ pc | create pc | createThrows pc | call pc | break_ pc | nextTtl pc => simp [pc] at hpos
    | _ =>
      rename_i pc
      simp [pc] at hpos
  · refine Or.inr ⟨r, ?_, hcredited⟩
    cases step_move hs with
    | success pc => exact List.mem_append_left _ hr
    | failure pc => exact List.mem_append_left _ hr
    | _ => exact hr

theorem attributed_of_inTurn {as : List Action} {now : Int} {created : Nat} {buffer : Bytes}
    (h : (machine destination c).exec (enter c now created buffer) as = some t)
    (hasks : (machine destination c).Along (asksPacket fun n => (ProbePacket.udp (packets n)).toPacket)
      (enter c now created buffer) as)
    (helicited : (machine destination c).Along (elicited packets earlier) (enter c now created buffer) as)
    (hturn : (machine destination c).Along (inTurn packets earlier) (enter c now created buffer) as) :
    Attributed packets earlier t :=
  (Machine.along_invariant (fun hP hI hs => step_quoting hP hI hs)
    (⟨fun _ _ hp => by simp [enter] at hp, fun _ _ hp => by simp [enter] at hp, fun r hr => by cases hr⟩ :
      Quoting packets earlier (enter c now created buffer))
    ((hasks.and helicited).and hturn) h).attributed

theorem inTurn_of_attributed {as : List Action} {now : Int} {created : Nat} {buffer : Bytes}
    (h : (machine destination c).exec (enter c now created buffer) as = some t)
    (hports : DifferentPorts packets (earlier ++ t.sent)) {probes : List TracerouteResult}
    (hreturned : t.position = .returned probes)
    (hasks : (machine destination c).Along (asksPacket fun n => (ProbePacket.udp (packets n)).toPacket)
      (enter c now created buffer) as)
    (hattributed : Attributed packets earlier t) :
    (machine destination c).Along (inTurn packets earlier) (enter c now created buffer) as := by
  refine Machine.along_of_exec (fun {s v a as} hasks hv ht => ?_) hasks h
  cases a with
  | isValid outcome =>
    simp only [inTurn]
    split
    · rename_i a respInfo pc
      intro accepted
      simp only [asksPacket, pc] at hasks
      have m : Move destination c s (.isValid outcome) v := step_move hv
      rw [hasks, show (ProbePacket.udp (packets a.packet)).toPacket.isValid respInfo s.mBuffer = .ok true from accepted] at m
      have hkept : Kept a respInfo s.mBuffer v := by
        cases m with
        | validate pc' =>
          obtain ⟨rfl, rfl⟩ : a = _ ∧ respInfo = _ := by simpa [pc] using pc'
          exact Or.inl ⟨Or.inl rfl, rfl⟩
      rcases Machine.exec_invariant (fun h hs => step_kept h hs) hkept ht with ⟨hpos, -⟩ | ⟨r, hr, rfl, hsuccess, hanswer⟩
      · simp [hreturned] at hpos
      · obtain ⟨respInfo', buffer', hanswer', hquotes⟩ := hattributed r hr hsuccess
        obtain ⟨rfl, rfl⟩ : respInfo = respInfo' ∧ s.mBuffer = buffer' := by simpa [hanswer] using hanswer'
        exact hquotes.only hports (append_sent_subset ((step_sent hv).trans (exec_sent ht)))
    · trivial
  | _ => trivial

end Sequential

/-- The probes of a UDP factory accept the same datagrams. So a success is recorded under the ttl of a probe that its
    datagram quotes exactly when the datagrams come in turn: one that is accepted quotes a probe with the ttl of the
    first outstanding one, or for the sequential engine of the current one. -/
theorem udp_attributed_iff (f : UdpPacketFactory) (packets : Nat → UdpPacket) (hmade : f.Makes packets)
    (earlier : List (UInt32 × Nat)) :
    (∀ m n responseInfo p, (packets m).isValid responseInfo p = (packets n).isValid responseInfo p) ∧
    (∀ (c : Call) (now : Int) (o : Fast.Object) (as : List Fast.Action) (s : Fast.State),
      (Fast.machine (fun n => (ProbePacket.udp (packets n)).toPacket) c).exec (Fast.enter c now o) as = some s →
      DifferentPorts packets (earlier ++ s.sent) →
      (Fast.machine (fun n => (ProbePacket.udp (packets n)).toPacket) c).Along (Fast.elicited packets earlier)
        (Fast.enter c now o) as →
      (Fast.Attributed packets earlier s ↔
        (Fast.machine (fun n => (ProbePacket.udp (packets n)).toPacket) c).Along (Fast.inTurn packets earlier)
          (Fast.enter c now o) as)) ∧
    (∀ (destination : Nat → SocketAddress) (c : Call) (now : Int) (created : Nat) (buffer : Bytes)
      (as : List Sequential.Action) (s : Sequential.State),
      (Sequential.machine destination c).exec (Sequential.enter c now created buffer) as = some s →
      DifferentPorts packets (earlier ++ s.sent) →
      (Sequential.machine destination c).Along
        (Sequential.asksPacket fun n => (ProbePacket.udp (packets n)).toPacket) (Sequential.enter c now created buffer) as →
      (Sequential.machine destination c).Along (Sequential.elicited packets earlier)
        (Sequential.enter c now created buffer) as →
      ((Sequential.machine destination c).Along (Sequential.inTurn packets earlier)
        (Sequential.enter c now created buffer) as → Sequential.Attributed packets earlier s) ∧
      ∀ probes, s.position = .returned probes → Sequential.Attributed packets earlier s →
        (Sequential.machine destination c).Along (Sequential.inTurn packets earlier)
          (Sequential.enter c now created buffer) as) := by
  refine ⟨fun m n _ _ => hmade.isValid m n, fun c now o as s h hports helicited => Fast.attributed_iff hmade h hports helicited,
    fun destination c now created buffer as s h hports hasks helicited => ⟨?_, fun probes hreturned hattributed => ?_⟩⟩
  · exact fun hturn => Sequential.attributed_of_inTurn h hasks helicited hturn
  · exact Sequential.inTurn_of_attributed h hports hreturned hasks hattributed

/-! ### Two probes of different ttls -/

/-- An IPv4 address that is not `someHost`. -/
def otherHost : SocketAddress := ⟨someHost.mAddress.set 4 1⟩

def someUdpFactory : UdpPacketFactory := ⟨someHost, otherHost, 33434⟩

def someUdpFactory6 : UdpPacketFactory := ⟨someHost6, otherHost6, 33434⟩

/-- The probe for which `rand` has returned `n`. -/
def udpProbe (n : Nat) : UdpPacket :=
  match someUdpFactory.createPacket ⟨0, 0, 0, 0⟩ n with
  | .ok packet => packet
  | .error _ => ⟨⟨someHost, otherHost, rfl⟩, ⟨0, 0, 0, 0⟩⟩

def udpProbe6 (n : Nat) : UdpPacket :=
  match someUdpFactory6.createPacket ⟨0, 0, 0, 0⟩ n with
  | .ok packet => packet
  | .error _ => ⟨⟨someHost6, otherHost6, by decide⟩, ⟨0, 0, 0, 0⟩⟩

theorem makes_udpProbe : someUdpFactory.Makes udpProbe := fun n => ⟨⟨0, 0, 0, 0⟩, n, rfl⟩

theorem makes_udpProbe6 : someUdpFactory6.Makes udpProbe6 := fun n => ⟨⟨0, 0, 0, 0⟩, n, rfl⟩

theorem differentPorts_udpProbe : DifferentPorts udpProbe [(1, 0), (2, 1)] := by decide

theorem differentPorts_udpProbe6 : DifferentPorts udpProbe6 [(1, 0), (2, 1)] := by decide

/-- A Time Exceeded message of `someHost` that quotes the packet. -/
def exceededFor (packet : UdpPacket) : Bytes :=
  fun i => if 48 ≤ i then packet.mUdpHeader.toBytes (i - 48) else timeExceeded 0x45 i

theorem quotedBy_exceededFor (packet : UdpPacket) : packet.QuotedBy ⟨someHost, 1, 56⟩ (exceededFor packet) := by
  have houter : ipHeaderSize (exceededFor packet) = 20 := ipHeaderSize_congr (q := timeExceeded 0x45) rfl
  have hquoted : (exceededFor packet).advance 28 0 = timeExceeded 0x45 0 := rfl
  have hinner : ipHeaderSize ((exceededFor packet).advance 28) = 20 := ipHeaderSize_congr hquoted
  have htype : exceededFor packet 20 = ICMP_TIME_EXCEEDED := rfl
  refine ⟨rfl, ?_, ?_, fun i hi _ => ?_, ?_⟩
  · rw [houter, htype]
    decide
  · rw [houter]
    exact announcesIp_congr hquoted
  · rw [houter, hinner, ProbePacket.serialize, UdpPacket.serialize, getD_serialize _ _ (by exact hi)]
    simp [exceededFor, Nat.add_comm]
  · rw [houter, hinner]
    decide

/-- An ICMPv6 Time Exceeded message of `someHost6` that quotes the packet with the checksum 0xabab. -/
def exceededFor6 (packet : UdpPacket) : Bytes := fun i =>
  if i = 0 then ICMP6_TIME_EXCEEDED else if i = 8 then 0x60 else if i < 48 then 0
  else if i = 54 ∨ i = 55 then 0xab else packet.mUdpHeader.toBytes (i - 48)

theorem quotedBy_exceededFor6 (packet : UdpPacket) : packet.QuotedBy ⟨someHost6, 58, 56⟩ (exceededFor6 packet) := by
  have houter : ipHeaderSize (exceededFor6 packet) = 0 := ipHeaderSize_congr (q := fun _ => ICMP6_TIME_EXCEEDED) rfl
  have hquoted : (exceededFor6 packet).advance 8 0 = 0x60 := rfl
  have hinner : ipHeaderSize ((exceededFor6 packet).advance 8) = 40 := ipHeaderSize_congr (q := fun _ => 0x60) hquoted
  have htype : exceededFor6 packet 0 = ICMP6_TIME_EXCEEDED := rfl
  refine ⟨rfl, ?_, ?_, fun i hi hfield => ?_, ?_⟩
  · rw [houter, htype]
    decide
  · rw [houter]
    exact announcesIp_congr (q := fun _ => 0x60) hquoted
  · have hfield : i < 6 ∨ 8 ≤ i := hfield
    rw [houter, hinner, ProbePacket.serialize, UdpPacket.serialize, getD_serialize _ _ (by exact hi), Bytes.advance_apply,
      exceededFor6, if_neg (by omega), if_neg (by omega), if_neg (by omega), if_neg (by omega)]
    congr 1
    omega
  · rw [houter, hinner]
    decide

/-- A probe of ttl 1 and one of ttl 2 are sent; then an answer is received. -/
def answerRun (respInfo : ResponseInfo) (answer : Bytes) : List Fast.Action :=
  .sender .testTtl :: Fast.sendProbe ++ [.sender .nextTtl, .sender .testTtl] ++ Fast.sendProbe ++
    [.receiver .readBeginAt, .receiver .testLoop,
      .receiver (.tryReceivingReturns (.ok (some respInfo)) answer), .receiver .lock, .receiver .matchResponse]

section
variable {packets : Nat → UdpPacket} {respInfo : ResponseInfo} {answer : Bytes}

theorem elicited_answerRun (h : (packets 0).QuotedBy respInfo answer) :
    (Fast.machine (fun n => (ProbePacket.udp (packets n)).toPacket) ⟨1, 2, 1, 1000⟩).Along (Fast.elicited packets [])
      (Fast.enter ⟨1, 2, 1, 1000⟩ 0 (.fresh 0 fun _ => 0)) (answerRun respInfo answer) := by
  iterate 13 refine ⟨trivial, fun t ht => ?_⟩; obtain rfl := Option.some.inj ht
  refine ⟨⟨1, 0, List.mem_cons_self, h⟩, fun t ht => ?_⟩
  obtain rfl := Option.some.inj ht
  exact ⟨trivial, fun t ht => ⟨trivial, fun _ _ => trivial⟩⟩

theorem inTurn_answerRun (h : ¬(packets 1).QuotedBy respInfo answer) :
    (Fast.machine (fun n => (ProbePacket.udp (packets n)).toPacket) ⟨1, 2, 1, 1000⟩).Along (Fast.inTurn packets [])
      (Fast.enter ⟨1, 2, 1, 1000⟩ 0 (.fresh 0 fun _ => 0)) (answerRun respInfo answer) := by
  iterate 15 refine ⟨trivial, fun t ht => ?_⟩; obtain rfl := Option.some.inj ht
  refine ⟨fun _ x hx hq => ?_, fun _ _ => trivial⟩
  rcases List.mem_pair.mp hx with rfl | rfl
  · rfl
  · exact absurd hq h

end

/-- The probe of ttl 1 is answered first, over IPv4 and over IPv6. -/
theorem udp_attributed_iff_inTurn :
    (∃ s, (Fast.machine (fun n => (ProbePacket.udp (udpProbe n)).toPacket) ⟨1, 2, 1, 1000⟩).exec
        (Fast.enter ⟨1, 2, 1, 1000⟩ 0 (.fresh 0 fun _ => 0)) (answerRun ⟨someHost, 1, 56⟩ (exceededFor (udpProbe 0))) = some s ∧
      s.recorded.length = 1 ∧ Fast.Attributed udpProbe [] s) ∧
    ∃ s, (Fast.machine (fun n => (ProbePacket.udp (udpProbe6 n)).toPacket) ⟨1, 2, 1, 1000⟩).exec
        (Fast.enter ⟨1, 2, 1, 1000⟩ 0 (.fresh 0 fun _ => 0)) (answerRun ⟨someHost6, 58, 56⟩ (exceededFor6 (udpProbe6 0))) = some s ∧
      s.recorded.length = 1 ∧ Fast.Attributed udpProbe6 [] s := by
  refine ⟨⟨_, rfl, rfl, ((udp_attributed_iff someUdpFactory udpProbe makes_udpProbe []).2.1 ⟨1, 2, 1, 1000⟩ 0
    (.fresh 0 fun _ => 0) (answerRun ⟨someHost, 1, 56⟩ (exceededFor (udpProbe 0))) _ rfl differentPorts_udpProbe
      (elicited_answerRun (quotedBy_exceededFor _))).mpr
      (inTurn_answerRun fun hq => ?_)⟩, ⟨_, rfl, rfl, ((udp_attributed_iff someUdpFactory6 udpProbe6 makes_udpProbe6 []).2.1
    ⟨1, 2, 1, 1000⟩ 0 (.fresh 0 fun _ => 0) (answerRun ⟨someHost6, 58, 56⟩ (exceededFor6 (udpProbe6 0))) _ rfl
      differentPorts_udpProbe6 (elicited_answerRun (quotedBy_exceededFor6 _))).mpr
      (inTurn_answerRun fun hq => ?_)⟩⟩
  · exact absurd (hq.source_inj (quotedBy_exceededFor _)) (by decide)
  · exact absurd (hq.source_inj (quotedBy_exceededFor6 _)) (by decide)

/-- The probe of ttl 2 is answered first, and the success is recorded under ttl 1. -/
theorem udp_misattributed : ∃ s,
    (Fast.machine (fun n => (ProbePacket.udp (udpProbe n)).toPacket) ⟨1, 2, 1, 1000⟩).exec
      (Fast.enter ⟨1, 2, 1, 1000⟩ 0 (.fresh 0 fun _ => 0)) (answerRun ⟨someHost, 1, 56⟩ (exceededFor (udpProbe 1))) = some s ∧
    someUdpFactory.Makes udpProbe ∧ DifferentPorts udpProbe s.sent ∧
    s.sent = [(1, 0), (2, 1)] ∧ (udpProbe 1).QuotedBy ⟨someHost, 1, 56⟩ (exceededFor (udpProbe 1)) ∧
    (s.recorded.map fun r => (r.probe.ttl, r.result.success)) = [(1, true)] ∧
    ¬Fast.Attributed udpProbe [] s := by
  refine ⟨_, rfl, makes_udpProbe, differentPorts_udpProbe, rfl, quotedBy_exceededFor _, rfl, fun h => ?_⟩
  obtain ⟨respInfo, buffer, hanswer, k, hk, hq⟩ := h _ List.mem_cons_self rfl
  cases hanswer
  have hk : (1, k) ∈ [((1 : UInt32), 0), (2, 1)] := hk
  obtain rfl : k = 0 := by simpa using hk
  exact absurd (hq.source_inj (quotedBy_exceededFor _)) (by decide)

end Traceroute
