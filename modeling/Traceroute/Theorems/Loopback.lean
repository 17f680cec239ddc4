import Traceroute.Theorems.Delivered
import Traceroute.Theorems.Hops
import Traceroute.Theorems.ReportedAnswers
import Traceroute.Theorems.SocketOptions
import Traceroute.Theorems.TcpAnswers

/-! No probe answers a probe: what the raw sockets receive of the probes themselves, of this call, another one or another
    host, is credited to none. -/

namespace Traceroute

variable {f g : PacketFactory} {probe : ProbePacket} {responseInfo : ResponseInfo} {p : Bytes} {offset : Nat}

/-! ### The probes -/

/-- The datagram is the probe from `offset` on, with whatever checksum. -/
structure PacketFactory.CarriesAt (g : PacketFactory) (probe : ProbePacket) (responseInfo : ResponseInfo) (p : Bytes)
    (offset : Nat) : Prop where
  made : g.Makes probe
  size : offset + probe.serialize.length ≤ responseInfo.size.toNat
  bytes : probe.OnWire (p.advance offset) probe.serialize.length

/-- A raw socket has received a probe of the factory: behind an IP header, or without one, as in IPv6. -/
inductive PacketFactory.Looped (g : PacketFactory) (responseInfo : ResponseInfo) (p : Bytes) : Prop where
  | behindHeader {probe : ProbePacket} (protocol : responseInfo.protocol = g.protocol) (announces : announcesIp p = true)
      (carries : g.CarriesAt probe responseInfo p (ipHeaderSize p))
  | bare {probe : ProbePacket} (protocol : responseInfo.protocol = g.protocol) (carries : g.CarriesAt probe responseInfo p 0)

theorem IcmpPacketFactory.type_of_made {f : IcmpPacketFactory} {memory : IcmpHeader} {rand : Nat} {packet : IcmpPacket}
    (h : f.createPacket memory rand = .ok packet) :
    packet.mIcmpHeader.type = ICMP_ECHO ∨ packet.mIcmpHeader.type = ICMP6_ECHO_REQUEST := by
  rw [IcmpPacketFactory.createPacket] at h
  split at h
  all_goals
    obtain ⟨base, hmake, -⟩ := PacketBase.create_bind_eq_ok h
    cases Except.ok.inj hmake
  · exact Or.inl rfl
  · exact Or.inr rfl

theorem TcpPacketFactory.header_of_made {f : TcpPacketFactory} {memory : TcpHeader} {rand₁ rand₂ : Nat} {packet : TcpPacket}
    (h : f.createPacket memory rand₁ rand₂ = .ok packet) :
    packet.mTcpHeader.source = htons (.ofNat (50000 + rand₁ % 15001)) ∧ packet.mTcpHeader.ack_seq = 0 ∧
      packet.mTcpHeader.seq = htonl (.ofNat (rand₂ % 65001)) := by
  obtain ⟨base, hmake, -⟩ := PacketBase.create_bind_eq_ok h
  cases Except.ok.inj hmake
  split <;> exact ⟨rfl, rfl, rfl⟩

theorem UdpPacketFactory.source_of_made {f : UdpPacketFactory} {memory : UdpHeader} {rand : Nat} {packet : UdpPacket}
    (h : f.createPacket memory rand = .ok packet) : packet.mUdpHeader.source = htons (.ofNat (50000 + rand % 15001)) := by
  obtain ⟨base, hmake, -⟩ := PacketBase.create_bind_eq_ok h
  cases Except.ok.inj hmake
  split <;> rfl

/-- The drawn source ports are too high to look like the first byte of an IP header. -/
theorem not_looksLikeHeader (rand : Nat) : ¬LooksLikeHeader (.ofNat (50000 + rand % 15001)) := by
  rw [LooksLikeHeader, UInt16.toNat_ofNat']
  omega

/-! ### What is carried -/

theorem PacketFactory.CarriesAt.byte {pod : Bytes} {size : UInt64} (h : g.CarriesAt probe responseInfo p offset)
    (hserialize : probe.serialize = utils.serialize pod size) {i : Nat} (hi : i < size.toNat)
    (hfield : i < probe.checksumField ∨ probe.checksumField + 2 ≤ i) : p (offset + i) = pod i :=
  h.bytes.byte hserialize (by rw [hserialize, length_serialize]; exact hi) hi hfield

theorem PacketFactory.CarriesAt.type {packet : IcmpPacket} (h : g.CarriesAt (.icmp packet) responseInfo p offset) :
    p offset = ICMP_ECHO ∨ p offset = ICMP6_ECHO_REQUEST := by
  cases hmade : h.made with
  | icmp made =>
    have hbyte : p offset = packet.mIcmpHeader.type := h.byte rfl (show 0 < 8 by decide) (Or.inl Nat.two_pos)
    rw [hbyte]
    exact IcmpPacketFactory.type_of_made made

theorem PacketFactory.CarriesAt.ack_seq {packet : TcpPacket} (h : g.CarriesAt (.tcp packet) responseInfo p offset) :
    p.u32 (offset + 8) = 0 := by
  cases hmade : h.made with
  | tcp made =>
    refine Bytes.u32_eq_iff_ofU32.mpr fun i hi => ?_
    rw [Nat.add_assoc, h.byte rfl (show 8 + i < 20 by omega) (Or.inl (show 8 + i < 16 by omega)), TcpHeader.toBytes,
      if_neg (by omega), if_neg (by omega), if_neg (by omega), if_pos (by omega), Nat.add_sub_cancel_left,
      (TcpPacketFactory.header_of_made made).2.1]

/-- A probe does not begin with what could be an IP header. -/
theorem PacketFactory.CarriesAt.ipHeaderSize (h : g.CarriesAt probe responseInfo p 0) : ipHeaderSize p = 0 := by
  cases hmade : h.made with
  | icmp made =>
    refine ipHeaderSize_of_not_announcesIp ?_
    rcases h.type with htype | htype
    · rw [announcesIp, toIpHeaderFirstByte, htype]
      decide
    · rw [announcesIp, toIpHeaderFirstByte, htype]
      decide
  | @tcp f memory rand₁ rand₂ packet made =>
    have hport : p.u16 0 = htons (.ofNat (50000 + rand₁ % 15001)) := by
      refine Bytes.u16_eq_iff_ofU16.mpr fun i hi => ?_
      rw [h.byte rfl (show i < 20 by omega) (Or.inl (show i < 16 by omega)), TcpHeader.toBytes, if_pos hi,
        (TcpPacketFactory.header_of_made made).1]
    exact (ipHeaderSize_eq_zero_iff hport).mpr (not_looksLikeHeader rand₁)
  | @udp f memory rand packet made =>
    have hport : p.u16 0 = htons (.ofNat (50000 + rand % 15001)) := by
      refine Bytes.u16_eq_iff_ofU16.mpr fun i hi => ?_
      rw [h.byte rfl (show i < 8 by omega) (Or.inl (show i < 6 by omega)), UdpHeader.toBytes, if_pos hi,
        UdpPacketFactory.source_of_made made]
    exact (ipHeaderSize_eq_zero_iff hport).mpr (not_looksLikeHeader rand)

/-- Either way the probe stands where the validators look for it. -/
theorem PacketFactory.Looped.carries (h : g.Looped responseInfo p) :
    responseInfo.protocol = g.protocol ∧ ∃ probe, g.CarriesAt probe responseInfo p (ipHeaderSize p) := by
  cases h with
  | behindHeader protocol announces carries => exact ⟨protocol, _, carries⟩
  | bare protocol carries => exact ⟨protocol, _, carries.ipHeaderSize ▸ carries⟩

/-! ### What the probes say to it -/

/-- No probe is answered by an echo request. -/
theorem ProbePacket.query_echo (probe : ProbePacket) (hprotocol : validateIcmpProtocol responseInfo.protocol = true)
    {type : UInt8} (htype : type = ICMP_ECHO ∨ type = ICMP6_ECHO_REQUEST) {q : Bytes} (hq : q 0 = type) :
    (probe.query responseInfo type).answer q = .ok false := by
  cases probe with
  | icmp packet =>
    have hreply : ¬(type = ICMP_ECHOREPLY ∨ type = ICMP6_ECHO_REPLY) := by rcases htype with rfl | rfl <;> decide
    have hexceeded : ¬(type = ICMP_TIME_EXCEEDED ∨ type = ICMP6_TIME_EXCEEDED) := by rcases htype with rfl | rfl <;> decide
    rw [query, IcmpPacket.query, if_neg hreply, if_neg hexceeded]
    rfl
  | tcp packet =>
    have hanswered : packet.answeredBy responseInfo.client type = false := by
      have hv4 : (type == ICMP_TIME_EXCEEDED) = false ∧ (type == ICMP_DEST_UNREACH) = false := by
        rcases htype with rfl | rfl <;> decide
      have hv6 : (type == ICMP6_TIME_EXCEEDED) = false ∧ (type == ICMP6_DST_UNREACH) = false := by
        rcases htype with rfl | rfl <;> decide
      simp [TcpPacket.answeredBy, hv4, hv6]
    rw [query, if_pos hprotocol, TcpPacket.icmpQuery, hanswered]
    rfl
  | udp packet =>
    have hne : type ≠ packet.answerType responseInfo.client := by
      rw [UdpPacket.answerType]
      rcases htype with rfl | rfl
      · split <;> split <;> decide
      · split <;> split <;> decide
    refine congrArg Except.ok (Bool.eq_false_iff.mpr fun hholds => hne ?_)
    exact hq.symm.trans (fieldHolds_eq_true.mp hholds 0 Nat.one_pos)

/-- A segment that acknowledges 0 answers no probe: the sequence numbers are drawn from below `2 ^ 32 - 1`. -/
theorem TcpPacketFactory.tcpQuery_syn {f : TcpPacketFactory} {memory : TcpHeader} {rand₁ rand₂ : Nat} {packet : TcpPacket}
    (h : f.createPacket memory rand₁ rand₂ = .ok packet) (client : SocketAddress) {q : Bytes} (hq : q.u32 8 = 0) :
    (packet.tcpQuery client).answer q = .ok false := by
  have hexpected : packet.ackExpected ≠ 0 := fun hzero => by
    have hseq : (ntohl packet.mTcpHeader.seq).toNat = rand₂ % 65001 := by
      rw [(TcpPacketFactory.header_of_made h).2.2]
      exact toNat_seq rand₂
    have hnext : ntohl packet.mTcpHeader.seq + 1 = 0 := by
      rw [TcpPacket.ackExpected, htonl] at hzero
      rw [← ntohl_ntohl (ntohl packet.mTcpHeader.seq + 1), hzero]
      rfl
    have hsum := congrArg UInt32.toNat hnext
    rw [UInt32.toNat_add, hseq] at hsum
    have : (1 : UInt32).toNat = 1 := rfl
    have : (0 : UInt32).toNat = 0 := rfl
    omega
  rw [TcpPacket.tcpQuery]
  split
  · rw [Query.answer, ← u32_beq, hq]
    exact congrArg Except.ok (beq_eq_false_iff_ne.mpr hexpected.symm)
  · rfl

/-- A probe of any factory refuses what carries a probe of any factory. -/
theorem PacketFactory.Makes.refuses (hmade : f.Makes probe) (h : g.Looped responseInfo p) :
    probe.toPacket.isValid responseInfo p = .ok false := by
  obtain ⟨hprotocol, sent, hcarries⟩ := h.carries
  have hsize : responseInfo.size.toNat ≠ 0 := by
    have hlength := length_serialize_probe sent
    have hle := hcarries.size
    omega
  cases hlistens : probe.listens responseInfo.protocol with
  | false =>
    rw [ProbePacket.isValid_of_not_listens hlistens]
    cases probe with
    | icmp | udp => exact if_neg hsize
    | tcp => rfl
  | true =>
    have hanswer : (probe.query responseInfo (p (ipHeaderSize p))).answer (p.advance (ipHeaderSize p)) = .ok false := by
      cases hsent : hcarries.made with
      | icmp =>
        exact probe.query_echo (by rw [hprotocol]; exact validateIcmpProtocol_icmpProtocol _) hcarries.type rfl
      | tcp =>
        cases hmade with
        | icmp | udp =>
          rw [hprotocol] at hlistens
          cases hlistens
        | tcp made =>
          have hicmp : ¬validateIcmpProtocol responseInfo.protocol = true := by
            rw [hprotocol]
            exact Bool.noConfusion
          rw [ProbePacket.query, if_neg hicmp]
          exact TcpPacketFactory.tcpQuery_syn made _ hcarries.ack_seq
      | udp =>
        rw [hprotocol] at hlistens
        cases hmade <;> cases hlistens
    rw [ProbePacket.isValid_of_listens hlistens, if_neg hsize, hanswer, ite_self]

/-! ### The engines -/

variable {setup : Setup}

/-- What is credited is accepted by the probe that it is credited to. -/
theorem Fast.accepted_of_credited {s : Fast.State} (h : ∀ r ∈ s.recorded, r.Explained setup.packets)
    {x : ResponseInfo × Bytes} (hx : x ∈ s.credited) : ∃ n, (setup.packets n).isValid x.1 x.2 = .ok true := by
  obtain ⟨r, hr, hanswer⟩ := List.mem_filterMap.mp hx
  cases h r hr with
  | unanswered => cases hanswer
  | answered probe waitedFor respInfo buffer accepted =>
    cases hanswer
    exact ⟨probe.packet, accepted⟩

theorem Sequential.accepted_of_credited {s : Sequential.State} (h : Sequential.Credited setup.packets s)
    {x : ResponseInfo × Bytes} (hx : x ∈ s.credited) : ∃ n, (setup.packets n).isValid x.1 x.2 = .ok true := by
  obtain ⟨r, hr, hanswer⟩ := List.mem_filterMap.mp hx
  exact ⟨r.attempt.packet, h.recorded r hr x.1 x.2 hanswer⟩

/-- Whatever the host answers to the system calls of an engine, a datagram that is a probe, be it one of this call, of another
    one or of another host, is refused by every probe of the call, without an exception, and credited to none. -/
theorem no_probe_answers (setup : Setup) (f : PacketFactory) (hmade : ∀ n, f.Makes (setup.probes n)) (c : Call) (now : Int) :
    (∀ (g : PacketFactory) responseInfo p, g.Looped responseInfo p →
      ∀ n, (setup.packets n).isValid responseInfo p = .ok false) ∧
    (∀ o as w, (Fast.wired setup c).composed.exec (.idle (Fast.enter c now o)) as = some w →
      ∀ x ∈ w.base.credited, ∀ g : PacketFactory, ¬g.Looped x.1 x.2) ∧
    ∀ created buffer as w,
      (Sequential.wired setup c).composed.exec (.idle (Sequential.enter c now created buffer)) as = some w →
      ∀ x ∈ w.base.credited, ∀ g : PacketFactory, ¬g.Looped x.1 x.2 := by
  have hrefuses : ∀ (g : PacketFactory) responseInfo p, g.Looped responseInfo p → ∀ n,
      (setup.packets n).isValid responseInfo p = .ok false := fun g responseInfo p h n => (hmade n).refuses h
  have hnone : ∀ {x : ResponseInfo × Bytes}, (∃ n, (setup.packets n).isValid x.1 x.2 = .ok true) →
      ∀ g : PacketFactory, ¬g.Looped x.1 x.2 := by
    rintro x ⟨n, haccepted⟩ g hlooped
    rw [hrefuses g x.1 x.2 hlooped n] at haccepted
    cases haccepted
  refine ⟨hrefuses, fun o as w h x hx => hnone ?_, fun created buffer as w h x hx => hnone ?_⟩
  · obtain ⟨bs, hbs⟩ := Threaded.exec_refines h
    exact Fast.accepted_of_credited (Fast.exec_explained hbs fun r hr => by cases hr) hx
  · obtain ⟨bs, hbs, hasks⟩ := Threaded.exec_refines_along (Sequential.known_asksPacket setup c)
      (s := .idle (Sequential.enter c now created buffer)) (fun t p hp => by cases hp) h
    exact Sequential.accepted_of_credited (Sequential.exec_credited hbs hasks) hx

/-- The first probe, behind an IPv4 header. -/
def loopedEcho : Bytes := fun i => if i = 0 then 0x45 else (echoRequest 0).serialize.getD (i - 20) 0

theorem no_probe_answers_echo : (PacketFactory.icmp ⟨someHost, someHost⟩).Looped ⟨someHost, IPPROTO_ICMP, 28⟩ loopedEcho ∧
    (echoSetup.packets 0).isValid ⟨someHost, IPPROTO_ICMP, 28⟩ loopedEcho = .ok false ∧
    ∃ w : Threaded.State Fast.State Fast.Action Fast.Thread SocketCall SocketCall.Reply, w.base.credited.length = 1 ∧
      ∀ x ∈ w.base.credited, ∀ g : PacketFactory, ¬g.Looped x.1 x.2 := by
  obtain ⟨hrefuses, hfast, -⟩ := no_probe_answers echoSetup (.icmp ⟨someHost, someHost⟩)
    (fun n => @PacketFactory.Makes.icmp _ _ n _ rfl) echoCall 0
  have hcarries : (PacketFactory.icmp ⟨someHost, someHost⟩).CarriesAt (echoRequest 0) ⟨someHost, IPPROTO_ICMP, 28⟩ loopedEcho 20 := {
    made := @PacketFactory.Makes.icmp _ _ 0 _ rfl
    size := by decide
    bytes := fun i hi _ => by rw [Bytes.advance_apply, loopedEcho, if_neg (by omega), Nat.add_sub_cancel_left] }
  have hlooped : (PacketFactory.icmp ⟨someHost, someHost⟩).Looped ⟨someHost, IPPROTO_ICMP, 28⟩ loopedEcho :=
    .behindHeader rfl rfl hcarries
  obtain ⟨as, w, host', log, hrun, -, -, hlength, -⟩ := Fast.echo_run
  exact ⟨hlooped, hrefuses _ _ _ hlooped 0, w, hlength, hfast _ _ _ hrun.exec⟩

end Traceroute
