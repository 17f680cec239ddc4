import Traceroute.Theorems.Queries
import Traceroute.Theorems.Responses

/-! Which responses a TCP probe accepts: a segment that acknowledges its sequence number, and the ICMP errors that quote
    it. -/

namespace Traceroute

variable {packet : TcpPacket} {responseInfo responseInfo' : ResponseInfo} {p p' m m' : Bytes}

/-! ### IPv4 -/

/-- The segment acknowledges the probe's sequence number. -/
def TcpPacket.AckedBy (packet : TcpPacket) (m : Bytes) : Prop := ntohl (m.u32 8) = ntohl packet.mTcpHeader.seq + 1

/-- The TCP header that the message quotes has the probe's sequence number. -/
def TcpPacket.QuotedBy (packet : TcpPacket) (m : Bytes) : Prop := (quotedHeader m).u32 4 = packet.mTcpHeader.seq

/-- What an IPv4 header delivers answers the probe: the acknowledgement of the destination, Time Exceeded that quotes the
    probe's sequence number, or the destination's Destination Unreachable that does. -/
def TcpPacket.IsAnsweredBy (packet : TcpPacket) (responseInfo : ResponseInfo) (m : Bytes) : Prop :=
  responseInfo.protocol = IPPROTO_TCP ∧ responseInfo.client.s_addr = packet.mDestinationAddress.s_addr ∧ packet.AckedBy m ∨
  responseInfo.protocol = IPPROTO_ICMP ∧ m 0 = ICMP_TIME_EXCEEDED ∧ packet.QuotedBy m ∨
  responseInfo.protocol = IPPROTO_ICMP ∧ m 0 = ICMP_DEST_UNREACH ∧
    responseInfo.client.s_addr = packet.mDestinationAddress.s_addr ∧ packet.QuotedBy m

/-- A well-formed IPv4 response to a TCP probe. -/
def TcpProbeResponse (responseInfo : ResponseInfo) (p : Bytes) : Prop :=
  TcpResponseV4 responseInfo p ∨ IcmpResponse .v4 responseInfo p

theorem TcpPacket.ackExpected_beq {x : UInt32} : (x == packet.ackExpected) = true ↔ ntohl x = ntohl packet.mTcpHeader.seq + 1 := by
  rw [← ntohl_sub_one_beq, beq_iff_eq, UInt32.sub_eq_iff_eq_add]

theorem TcpPacket.decides_tcp (packet : TcpPacket) (hdest : packet.mDestinationAddress.isV4 = true)
    (h : TcpResponseV4 responseInfo p) :
    Decides (packet.isValid responseInfo p) (packet.IsAnsweredBy responseInfo (Family.v4.message p)) := by
  have hsize := ipHeaderSize_of_v4 h.delivered
  have hlistens : (ProbePacket.tcp packet).listens responseInfo.protocol = true := by
    rw [h.protocol]
    rfl
  have hfits : ipHeaderSize p + (ProbePacket.tcp packet).minimum responseInfo.protocol ≤ responseInfo.size.toNat := by
    rw [hsize, h.protocol]
    exact h.header
  have hvalid : packet.isValid responseInfo p =
      (packet.tcpQuery responseInfo.client).answer (Family.v4.message p) := by
    have hfits' := ProbePacket.isValid_of_fits hlistens hfits
    rw [hsize, ProbePacket.query, h.protocol] at hfits'
    exact hfits'
  have hicmp : IPPROTO_TCP ≠ IPPROTO_ICMP := by decide
  have hanswered : packet.IsAnsweredBy responseInfo (Family.v4.message p) ↔
      responseInfo.client.s_addr = packet.mDestinationAddress.s_addr ∧ packet.AckedBy (Family.v4.message p) := by
    simp [TcpPacket.IsAnsweredBy, h.protocol, hicmp]
  rw [hvalid, TcpPacket.tcpQuery]
  by_cases hsender : packet.mDestinationAddress.operatorEq responseInfo.client = true
  · rw [if_pos hsender, Query.answer, decides_ok_iff, ← u32_beq, TcpPacket.ackExpected_beq, hanswered]
    exact (and_iff_right ((SocketAddress.operatorEq_of_isV4 hdest).mp hsender).symm).symm
  · rw [if_neg hsender, Query.answer, decides_ok_iff, hanswered]
    exact iff_of_false Bool.false_ne_true fun hack => hsender ((SocketAddress.operatorEq_of_isV4 hdest).mpr hack.1.symm)

/-- An error is long enough for the TCP header that `validateSize` asks for: it quotes an IP header as well. -/
theorem IcmpResponse.long (h : IcmpResponse .v4 responseInfo p) (herror : Family.v4.message p 0 ∈ Family.v4.errors) :
    Family.v4.outer p + 28 ≤ responseInfo.size.toNat := by
  obtain ⟨hheader, hquote⟩ := h.quote herror
  have hlength : 20 ≤ Family.v4.outer ((Family.v4.message p).advance 8) := Nat.mul_le_mul_left 4 hheader.2
  rw [ipHeaderSize_of_v4 hheader] at hquote
  omega

/-- Only errors are asked for a quoted header. -/
theorem TcpPacket.icmpQuery_of_v4 {client : SocketAddress} (hclient : client.isV4 = true) (type : UInt8) :
    packet.icmpQuery client type =
      if type = ICMP_TIME_EXCEEDED ∨ type = ICMP_DEST_UNREACH ∧ client.s_addr = packet.mDestinationAddress.s_addr then
        .quoted 4 (Bytes.ofU32 packet.mTcpHeader.seq) else .refuse := by
  rw [TcpPacket.icmpQuery, TcpPacket.answeredBy, if_pos hclient]
  simp only [Bool.or_eq_true, Bool.and_eq_true, beq_iff_eq, SocketAddress.operatorEq_of_isV4 hclient]

theorem TcpPacket.decides_icmp (packet : TcpPacket) (h : IcmpResponse .v4 responseInfo p) :
    Decides (packet.isValid responseInfo p) (packet.IsAnsweredBy responseInfo (Family.v4.message p)) := by
  have hprotocol : validateIcmpProtocol responseInfo.protocol = true := by
    rw [h.protocol]
    rfl
  have hlistens : (ProbePacket.tcp packet).listens responseInfo.protocol = true := by
    rw [ProbePacket.listens, hprotocol, Bool.true_or]
  have hclient : responseInfo.client.isV4 = true := h.client
  have hicmp : IPPROTO_ICMP ≠ IPPROTO_TCP := by decide
  have hanswered : packet.IsAnsweredBy responseInfo (Family.v4.message p) ↔
      (Family.v4.message p 0 = ICMP_TIME_EXCEEDED ∨ Family.v4.message p 0 = ICMP_DEST_UNREACH ∧
        responseInfo.client.s_addr = packet.mDestinationAddress.s_addr) ∧ packet.QuotedBy (Family.v4.message p) := by
    simp [TcpPacket.IsAnsweredBy, show responseInfo.protocol = IPPROTO_ICMP from h.protocol, hicmp, or_and_right, and_assoc]
  have hquery : (ProbePacket.tcp packet).query responseInfo (p (ipHeaderSize p)) =
      if Family.v4.message p 0 = ICMP_TIME_EXCEEDED ∨ Family.v4.message p 0 = ICMP_DEST_UNREACH ∧
        responseInfo.client.s_addr = packet.mDestinationAddress.s_addr then
        .quoted 4 (Bytes.ofU32 packet.mTcpHeader.seq) else .refuse := by
    rw [h.ipHeaderSize]
    exact (if_pos hprotocol).trans (TcpPacket.icmpQuery_of_v4 hclient _)
  rw [hanswered, show packet.isValid responseInfo p = (ProbePacket.tcp packet).toPacket.isValid responseInfo p from rfl]
  by_cases htype : Family.v4.message p 0 = ICMP_TIME_EXCEEDED ∨ Family.v4.message p 0 = ICMP_DEST_UNREACH ∧
      responseInfo.client.s_addr = packet.mDestinationAddress.s_addr
  · have herror : Family.v4.message p 0 ∈ Family.v4.errors := by
      rcases htype with htype | ⟨htype, -⟩ <;> rw [htype] <;> decide
    have hfits : ipHeaderSize p + (ProbePacket.tcp packet).minimum responseInfo.protocol ≤ responseInfo.size.toNat := by
      rw [h.ipHeaderSize, ProbePacket.minimum, if_pos hprotocol]
      exact h.long herror
    rw [ProbePacket.isValid_of_fits hlistens hfits, hquery, if_pos htype, h.ipHeaderSize]
    show Decides (quotedField 4 _ ((Family.v4.message p).advance 8)) _
    rw [quotedField, if_pos (h.quote herror).1.announcesIp, decides_ok_iff, fieldHolds_advance, ← u32_beq, beq_iff_eq,
      and_iff_right htype]
    exact Iff.rfl
  · have hvalid : (ProbePacket.tcp packet).toPacket.isValid responseInfo p = .ok false := by
      have hsize := h.header
      rw [ProbePacket.isValid_of_listens hlistens, if_neg (by omega), hquery, if_neg htype]
      exact ite_self _
    rw [hvalid, decides_ok_iff]
    exact iff_of_false Bool.false_ne_true fun hquoted => htype hquoted.1

/-- The messages agree on the headers that are read: the TCP header, or the ICMP header and what an error quotes behind an
    IP header. -/
def SameMessage (protocol : Int) (m m' : Bytes) : Prop :=
  if protocol = IPPROTO_TCP then AgreeBelow 20 m m'
  else AgreeBelow 8 m m' ∧ (m 0 ∈ Family.v4.errors → AgreeBelow 8 (quotedHeader m) (quotedHeader m'))

theorem u32_of_agreeBelow {n o : Nat} (h : AgreeBelow n m m') (ho : o + 4 ≤ n) : m.u32 o = m'.u32 o :=
  Bytes.u32_eq_iff.mpr fun i hi => h (o + i) (by omega)

/-- Messages that agree on their headers answer the same probes. -/
theorem TcpPacket.answeredBy_congr (hprotocol : responseInfo'.protocol = responseInfo.protocol)
    (hclient : responseInfo'.client = responseInfo.client) (h : SameMessage responseInfo.protocol m m') :
    packet.IsAnsweredBy responseInfo' m' ↔ packet.IsAnsweredBy responseInfo m := by
  rw [TcpPacket.IsAnsweredBy, TcpPacket.IsAnsweredBy, hprotocol, hclient]
  by_cases htcp : responseInfo.protocol = IPPROTO_TCP
  · rw [SameMessage, if_pos htcp] at h
    have hicmp : IPPROTO_TCP ≠ IPPROTO_ICMP := by decide
    simp only [htcp, hicmp, false_and, or_false, TcpPacket.AckedBy, u32_of_agreeBelow h (show 8 + 4 ≤ 20 by decide)]
  · rw [SameMessage, if_neg htcp] at h
    obtain ⟨hheader, hquoted⟩ := h
    have hquotedBy : m 0 ∈ Family.v4.errors → (packet.QuotedBy m' ↔ packet.QuotedBy m) := fun herror => by
      rw [TcpPacket.QuotedBy, TcpPacket.QuotedBy, u32_of_agreeBelow (hquoted herror) (Nat.le_refl 8)]
    rw [← hheader 0 (by decide)]
    have hexceeded : m 0 = ICMP_TIME_EXCEEDED → (packet.QuotedBy m' ↔ packet.QuotedBy m) := fun htype =>
      hquotedBy (by rw [htype]; decide)
    have hunreach : m 0 = ICMP_DEST_UNREACH → (packet.QuotedBy m' ↔ packet.QuotedBy m) := fun htype =>
      hquotedBy (by rw [htype]; decide)
    simp only [htcp, false_and, false_or]
    refine or_congr (and_congr_right fun _ => and_congr_right hexceeded) (and_congr_right fun _ => ?_)
    exact and_congr_right fun htype => and_congr_right fun _ => hunreach htype

/-- The verdict on a well-formed IPv4 response tells whether it answers the probe. It does not depend on the options in
    either IP header. -/
theorem tcp_answers (packet : TcpPacket) (hdest : packet.mDestinationAddress.isV4 = true) (responseInfo : ResponseInfo)
    (p : Bytes) (h : TcpProbeResponse responseInfo p) :
    Decides (packet.isValid responseInfo p) (packet.IsAnsweredBy responseInfo (Family.v4.message p)) ∧
    ∀ responseInfo' p', TcpProbeResponse responseInfo' p' → responseInfo'.protocol = responseInfo.protocol →
      responseInfo'.client = responseInfo.client →
      SameMessage responseInfo.protocol (Family.v4.message p) (Family.v4.message p') →
      packet.isValid responseInfo' p' = packet.isValid responseInfo p := by
  have hdecides : ∀ {responseInfo p}, TcpProbeResponse responseInfo p →
      Decides (packet.isValid responseInfo p) (packet.IsAnsweredBy responseInfo (Family.v4.message p)) := fun h =>
    h.elim (packet.decides_tcp hdest) packet.decides_icmp
  refine ⟨hdecides h, fun responseInfo' p' h' hprotocol hclient hsame => ?_⟩
  exact (hdecides h').unique (hdecides h) (TcpPacket.answeredBy_congr hprotocol hclient hsame)

/-- A probe with the sequence number 0. -/
def someTcpPacket : TcpPacket := ⟨someIcmpPacket.toPacketBase, ⟨0, 0, 0, 0, 0, 5, 2, 0, 0, 0⟩⟩

/-- A segment behind an IPv4 header that acknowledges the sequence number 0. -/
def acknowledgement : Bytes := fun i => if i = 0 then 0x45 else if i = 31 then 1 else 0

theorem tcp_answers_acknowledgement : someTcpPacket.isValid ⟨someHost, 6, 40⟩ acknowledgement = .ok true := by
  obtain ⟨hheader, houter⟩ := isHeader_of_byte (p := acknowledgement) rfl
  have hresponse : TcpProbeResponse ⟨someHost, 6, 40⟩ acknowledgement :=
    Or.inl ⟨rfl, rfl, hheader, by rw [houter]; decide⟩
  refine (tcp_answers someTcpPacket rfl _ _ hresponse).1.1 (Or.inl ⟨rfl, rfl, ?_⟩)
  rw [TcpPacket.AckedBy, Family.message, houter]
  decide

/-! ### IPv6

No IP header is delivered, and the first byte of a segment is the high byte of its source port. -/

/-- The ports whose high byte announces an IP header of some length. -/
def LooksLikeHeader (port : UInt16) : Prop :=
  0x4100 ≤ port.toNat ∧ port.toNat < 0x5000 ∨ 0x6000 ≤ port.toNat ∧ port.toNat < 0x7000

theorem toNat_of_port {port : UInt16} (h : p.u16 0 = htons port) : (p 0).toNat = port.toNat / 256 := by
  have hbyte := Bytes.u16_eq_iff.mp h 0 (by decide)
  have hport := port.toNat_lt
  rw [Nat.zero_add] at hbyte
  rw [hbyte]
  show (UInt8.ofNat (port.toNat / 256 ^ 1)).toNat = port.toNat / 256
  rw [UInt8.toNat_ofNat', Nat.pow_one, Nat.mod_eq_of_lt (by omega)]

theorem ipHeaderSize_eq_zero_iff {port : UInt16} (h : p.u16 0 = htons port) : ipHeaderSize p = 0 ↔ ¬LooksLikeHeader port := by
  have hbyte := toNat_of_port h
  have hlow : (ihl p).toNat = port.toNat / 256 % 16 := by simp [ihl, lowBits, hbyte]
  have hversion : ∀ k : BitVec 4, (toIpHeaderFirstByte p).version = k ↔ port.toNat / 256 / 16 = k.toNat := fun k => by
    have hlt := port.toNat_lt
    have hhigh : (toIpHeaderFirstByte p).version.toNat = port.toNat / 256 / 16 := by
      simp [toIpHeaderFirstByte, highBits, hbyte, Nat.shiftRight_eq_div_pow]
      omega
    rw [← hhigh]
    exact BitVec.toNat_inj.symm
  have h4 : (4 : BitVec 4).toNat = 4 := rfl
  have h6 : (6 : BitVec 4).toNat = 6 := rfl
  simp only [ipHeaderSize, hversion, hlow, h4, h6, LooksLikeHeader]
  split
  · omega
  · split <;> omega

/-- The verdict on a segment of the destination. -/
theorem TcpPacket.isValid_of_v6 (h : TcpResponseV6 responseInfo)
    (hsender : packet.mDestinationAddress.operatorEq responseInfo.client = true) : packet.isValid responseInfo p =
      if responseInfo.size.toNat < ipHeaderSize p ∨ ipHeaderSize p + 20 ≤ responseInfo.size.toNat then
        .ok ((p.advance (ipHeaderSize p)).u32 8 == packet.ackExpected)
      else .ok false := by
  have hheader := h.header
  have hlistens : (ProbePacket.tcp packet).listens responseInfo.protocol = true := by
    rw [h.protocol]
    rfl
  have hvalid := ProbePacket.isValid_of_listens (p := p) hlistens
  rw [if_neg (by omega), ProbePacket.query, ProbePacket.minimum, h.protocol] at hvalid
  refine Eq.trans hvalid ?_
  simp only [show validateIcmpProtocol IPPROTO_TCP = false from rfl, Bool.false_eq_true, if_false, TcpPacket.tcpQuery,
    if_pos hsender, Query.answer, u32_beq]

/-- A segment from `port` that acknowledges the probe. -/
def TcpPacket.acknowledgedBy (packet : TcpPacket) (port : UInt16) : Bytes :=
  TcpHeader.toBytes ⟨htons port, packet.mTcpHeader.source, 0, packet.ackExpected, 0, 5, 0x10, 0, 0, 0⟩

theorem TcpPacket.acknowledgedBy_source (packet : TcpPacket) (port : UInt16) : (packet.acknowledgedBy port).u16 0 = htons port := by
  refine Bytes.u16_eq_iff_ofU16.mpr fun i hi => ?_
  simp [TcpPacket.acknowledgedBy, TcpHeader.toBytes, hi]

theorem TcpPacket.acknowledgedBy_acked (packet : TcpPacket) (port : UInt16) : packet.AckedBy (packet.acknowledgedBy port) := by
  refine TcpPacket.ackExpected_beq.mp (beq_iff_eq.mpr (Bytes.u32_eq_iff_ofU32.mpr fun i hi => ?_))
  rw [TcpPacket.acknowledgedBy, TcpHeader.toBytes, if_neg (by omega), if_neg (by omega), if_neg (by omega),
    if_pos (by omega), Nat.add_sub_cancel_left]

/-- What the validator reads as the acknowledgement number behind the bytes that it takes for an IP header says the same
    as the segment's own. -/
def TcpPacket.ReadsAck (packet : TcpPacket) (n : Nat) (p : Bytes) : Prop :=
  if n < ipHeaderSize p ∨ ipHeaderSize p + 20 ≤ n then packet.AckedBy (p.advance (ipHeaderSize p)) ↔ packet.AckedBy p
  else ¬packet.AckedBy p

/-- The verdict on a segment that the destination sends from the probed port is right exactly when the validator reads its
    acknowledgement number. It is right for all segments from a port exactly when the port does not look like an IP
    header. -/
theorem tcp_v6_answers_iff (packet : TcpPacket) (dport : UInt16) (hv6 : packet.mDestinationAddress.isV4 = false)
    (hdport : packet.mTcpHeader.dest = htons dport) :
    (∀ responseInfo p, TcpResponseV6 responseInfo → packet.mDestinationAddress.operatorEq responseInfo.client = true →
      p.u16 0 = packet.mTcpHeader.dest →
      (Decides (packet.isValid responseInfo p) (packet.AckedBy p) ↔ packet.ReadsAck responseInfo.size.toNat p)) ∧
    ((∀ responseInfo p, TcpResponseV6 responseInfo → packet.mDestinationAddress.operatorEq responseInfo.client = true →
      p.u16 0 = packet.mTcpHeader.dest → Decides (packet.isValid responseInfo p) (packet.AckedBy p)) ↔
      ¬LooksLikeHeader dport) := by
  have hsegment : ∀ responseInfo p, TcpResponseV6 responseInfo →
      packet.mDestinationAddress.operatorEq responseInfo.client = true → p.u16 0 = packet.mTcpHeader.dest →
      (Decides (packet.isValid responseInfo p) (packet.AckedBy p) ↔ packet.ReadsAck responseInfo.size.toNat p) := by
    intro responseInfo p h hsender hsource
    rw [TcpPacket.isValid_of_v6 h hsender, TcpPacket.ReadsAck]
    split
    · rw [decides_ok_iff, TcpPacket.ackExpected_beq]
      exact Iff.rfl
    · rw [decides_ok_iff]
      simp
  refine ⟨hsegment, fun hall hport => ?_, fun hport responseInfo p h hsender hsource => ?_⟩
  · -- A segment that ends 19 bytes behind what looks like an IP header.
    have hsource := packet.acknowledgedBy_source dport
    have hpos : ipHeaderSize (packet.acknowledgedBy dport) ≠ 0 := fun h => (ipHeaderSize_eq_zero_iff hsource).mp h hport
    have hle := ipHeaderSize_le (packet.acknowledgedBy dport)
    have hsize : (UInt64.ofNat (ipHeaderSize (packet.acknowledgedBy dport) + 19)).toNat =
        ipHeaderSize (packet.acknowledgedBy dport) + 19 := by
      rw [UInt64.toNat_ofNat', Nat.mod_eq_of_lt (by omega)]
    have hresponse : TcpResponseV6 ⟨packet.mDestinationAddress, IPPROTO_TCP,
        .ofNat (ipHeaderSize (packet.acknowledgedBy dport) + 19)⟩ := ⟨rfl, hv6, by rw [hsize]; omega⟩
    have hreads := (hsegment _ _ hresponse SocketAddress.operatorEq_self (hsource.trans hdport.symm)).mp
      (hall _ _ hresponse SocketAddress.operatorEq_self (hsource.trans hdport.symm))
    rw [TcpPacket.ReadsAck, hsize, if_neg (by omega)] at hreads
    exact hreads (packet.acknowledgedBy_acked dport)
  · have hheader := h.header
    have hsize : ipHeaderSize p = 0 := (ipHeaderSize_eq_zero_iff (hsource.trans hdport)).mpr hport
    rw [hsegment responseInfo p h hsender hsource, TcpPacket.ReadsAck, hsize, if_pos (Or.inr (by omega)), Bytes.advance_zero]

/-- An IPv6 probe of `port` with the sequence number 0. -/
def probeOf (port : UInt16) : TcpPacket := ⟨⟨someHost6, someHost6, rfl⟩, ⟨0, htons port, 0, 0, 0, 5, 2, 0, 0, 0⟩⟩

theorem tcp_v6_answers_iff_http : (probeOf 80).isValid ⟨someHost6, 6, 20⟩ ((probeOf 80).acknowledgedBy 80) = .ok true := by
  have hport : ¬LooksLikeHeader 80 := by
    rw [LooksLikeHeader]
    decide
  exact ((tcp_v6_answers_iff (probeOf 80) 80 rfl rfl).2.mpr hport ⟨someHost6, 6, 20⟩ _ ⟨rfl, rfl, by decide⟩ SocketAddress.operatorEq_self
    ((probeOf 80).acknowledgedBy_source 80)).1 ((probeOf 80).acknowledgedBy_acked 80)

/-- An acknowledgement from port 0x6000 is refused. -/
theorem port_hides_acknowledgement : TcpResponseV6 ⟨someHost6, 6, 20⟩ ∧
    (probeOf 0x6000).mDestinationAddress.operatorEq someHost6 = true ∧
    ((probeOf 0x6000).acknowledgedBy 0x6000).u16 0 = (probeOf 0x6000).mTcpHeader.dest ∧
    (probeOf 0x6000).AckedBy ((probeOf 0x6000).acknowledgedBy 0x6000) ∧
    (probeOf 0x6000).isValid ⟨someHost6, 6, 20⟩ ((probeOf 0x6000).acknowledgedBy 0x6000) = .ok false :=
  ⟨⟨rfl, rfl, by decide⟩, SocketAddress.operatorEq_self, TcpPacket.acknowledgedBy_source _ _,
    TcpPacket.acknowledgedBy_acked _ _, rfl⟩

end Traceroute
