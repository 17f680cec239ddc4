import Traceroute.Theorems.Validators

/-! What a probe asks of a datagram: by the protocol, the sender and the ICMP type it is one comparison of a
    field, behind the outer header or behind a quoted one, or none. -/

namespace Traceroute

/-- Nothing (the datagram is refused), a field of what follows the outer header, or one of what follows the
    IP header that an ICMP error quotes. -/
inductive Query where
  | refuse
  | field (pos w : Nat) (e : Bytes)
  | quoted (w : Nat) (e : Bytes)

/-- `p` is what follows the outer header. -/
def Query.answer (p : Bytes) : Query → Except Exception Bool
  | .refuse => .ok false
  | .field pos w e => .ok (fieldHolds pos w e p)
  | .quoted w e => quotedField w e (p.advance 8)

def IcmpPacket.query (packet : IcmpPacket) (client : SocketAddress) (type : UInt8) : Query :=
  if type = ICMP_ECHOREPLY ∨ type = ICMP6_ECHO_REPLY then
    if client.operatorEq packet.mDestinationAddress then .field 4 2 (Bytes.ofU16 packet.mIcmpHeader.id) else .refuse
  else if type = ICMP_TIME_EXCEEDED ∨ type = ICMP6_TIME_EXCEEDED then .quoted 2 (Bytes.ofU16 packet.mIcmpHeader.id)
  else .refuse

/-- The ICMP types that an answer to a TCP probe may have: Time Exceeded, and from the destination
    Destination Unreachable. -/
def TcpPacket.answeredBy (packet : TcpPacket) (client : SocketAddress) (type : UInt8) : Bool :=
  if client.isV4 then
    type == ICMP_TIME_EXCEEDED || type == ICMP_DEST_UNREACH && client.operatorEq packet.mDestinationAddress
  else
    type == ICMP6_TIME_EXCEEDED || type == ICMP6_DST_UNREACH && client.operatorEq packet.mDestinationAddress

def TcpPacket.icmpQuery (packet : TcpPacket) (client : SocketAddress) (type : UInt8) : Query :=
  if packet.answeredBy client type then .quoted 4 (Bytes.ofU32 packet.mTcpHeader.seq) else .refuse

/-- The acknowledgement number that answers the probe. -/
def TcpPacket.ackExpected (packet : TcpPacket) : UInt32 := htonl (ntohl packet.mTcpHeader.seq + 1)

def TcpPacket.tcpQuery (packet : TcpPacket) (client : SocketAddress) : Query :=
  if packet.mDestinationAddress.operatorEq client then .field 8 4 (Bytes.ofU32 packet.ackExpected) else .refuse

/-- The ICMP type that an answer to a UDP probe has. -/
def UdpPacket.answerType (packet : UdpPacket) (client : SocketAddress) : UInt8 :=
  if client.isV4 then
    if packet.mDestinationAddress.operatorEq client then ICMP_DEST_UNREACH else ICMP_TIME_EXCEEDED
  else
    if packet.mDestinationAddress.operatorEq client then ICMP6_DST_UNREACH else ICMP6_TIME_EXCEEDED

def UdpPacket.query (packet : UdpPacket) (client : SocketAddress) : Query :=
  .field 0 1 fun _ => packet.answerType client

/-! ### The validators ask their queries -/

variable {responseInfo : ResponseInfo} {p : Bytes}

theorem regular_icmp (packet : IcmpPacket) : (icmpResponseValidator packet).Regular 8 where
  small := by decide
  size n m hm := by
    obtain rfl : m = IcmpHeader.size := UInt64.toNat_inj.mp hm
    rfl
  fields _ _ _ := rfl

theorem regular_icmpToTcp (packet : TcpPacket) : (icmpToTcpResponseValidator packet).Regular 28 where
  small := by decide
  size n m hm := by
    obtain rfl : m = IcmpHeader.size + TcpHeader.size := UInt64.toNat_inj.mp hm
    rfl
  fields _ _ _ := rfl

theorem regular_tcpToTcp (packet : TcpPacket) : (tcpToTcpResponseValidator packet).Regular 20 where
  small := by decide
  size n m hm := by
    obtain rfl : m = TcpHeader.size := UInt64.toNat_inj.mp hm
    rfl
  fields _ _ _ := rfl

theorem regular_udp (packet : UdpPacket) : (udpResponseValidator packet).Regular 16 where
  small := by decide
  size n m hm := by
    obtain rfl : m = IcmpHeader.size + UdpHeader.size := UInt64.toNat_inj.mp hm
    rfl
  fields _ _ _ := rfl

theorem icmp_validateFields (packet : IcmpPacket) : (icmpResponseValidator packet).validateFields responseInfo p =
    (packet.query responseInfo.client (getIcmpType p)).answer p := by
  simp only [icmpResponseValidator, IcmpPacket.query]
  by_cases hreply : getIcmpType p = ICMP_ECHOREPLY ∨ getIcmpType p = ICMP6_ECHO_REPLY
  · rw [if_pos hreply, if_pos hreply, IcmpResponseValidator.validateEchoReply]
    split
    · exact congrArg Except.ok u16_beq
    · rfl
  · rw [if_neg hreply, if_neg hreply]
    by_cases hexceeded : getIcmpType p = ICMP_TIME_EXCEEDED ∨ getIcmpType p = ICMP6_TIME_EXCEEDED
    · rw [if_pos hexceeded, if_pos hexceeded]
      exact icmp_validateTimeExceeded_eq packet p
    · rw [if_neg hexceeded, if_neg hexceeded]
      rfl

theorem icmpToTcp_validateFields (packet : TcpPacket) :
    (icmpToTcpResponseValidator packet).validateFields responseInfo p =
      (packet.icmpQuery responseInfo.client (getIcmpType p)).answer p := by
  -- The types are different, so the order in which the source asks for them does not matter.
  have key : ∀ unreach exceeded : UInt8, unreach ≠ exceeded →
      (if getIcmpType p = unreach then
        IcmpToTcpResponseValidator.validateDestUnreach p packet responseInfo.client
      else if getIcmpType p = exceeded then IcmpToTcpResponseValidator.validateTimeExceeded p packet
      else .ok false) =
      Query.answer p (if getIcmpType p == exceeded ||
          getIcmpType p == unreach && responseInfo.client.operatorEq packet.mDestinationAddress then
        .quoted 4 (Bytes.ofU32 packet.mTcpHeader.seq) else .refuse) := by
    intro unreach exceeded hne
    rw [validateDestUnreach_eq, tcp_validateTimeExceeded_eq]
    by_cases hunreach : getIcmpType p = unreach
    · rw [if_pos hunreach, hunreach, beq_eq_false_iff_ne.mpr hne, beq_self_eq_true, Bool.false_or, Bool.true_and]
      split <;> rfl
    · rw [if_neg hunreach, beq_eq_false_iff_ne.mpr hunreach, Bool.false_and, Bool.or_false]
      by_cases hexceeded : getIcmpType p = exceeded
      · rw [if_pos hexceeded, if_pos (beq_iff_eq.mpr hexceeded)]
        rfl
      · rw [if_neg hexceeded, if_neg (fun h => hexceeded (beq_iff_eq.mp h))]
        rfl
  simp only [icmpToTcpResponseValidator, TcpPacket.icmpQuery, TcpPacket.answeredBy]
  by_cases hv4 : responseInfo.client.isV4 = true
  · simp only [if_pos hv4]
    exact key _ _ (by decide)
  · simp only [if_neg hv4]
    exact key _ _ (by decide)

/-- The difference that is compared is that of the expected acknowledgement number. -/
theorem ntohl_sub_one_beq {packet : TcpPacket} {x : UInt32} :
    (ntohl x - 1 == ntohl packet.mTcpHeader.seq) = (x == packet.ackExpected) := by
  rw [Bool.eq_iff_iff, beq_iff_eq, beq_iff_eq, TcpPacket.ackExpected, htonl, UInt32.sub_eq_iff_eq_add]
  exact ⟨fun h => by rw [← h, ntohl_ntohl], fun h => by rw [h, ntohl_ntohl]⟩

theorem tcpToTcp_validateFields (packet : TcpPacket) :
    (tcpToTcpResponseValidator packet).validateFields responseInfo p =
      (packet.tcpQuery responseInfo.client).answer p := by
  simp only [tcpToTcpResponseValidator, TcpPacket.tcpQuery, toTcpHeaderT]
  split
  · exact congrArg Except.ok (ntohl_sub_one_beq.trans u32_beq)
  · rfl

theorem udp_validateFields (packet : UdpPacket) :
    (udpResponseValidator packet).validateFields responseInfo p = (packet.query responseInfo.client).answer p := by
  have hfield : ∀ type : UInt8, decide (getIcmpType p = type) = fieldHolds 0 1 (fun _ => type) p := fun type => by
    rw [Bool.eq_iff_iff, decide_eq_true_eq, fieldHolds_eq_true]
    simp [getIcmpType, toIcmpHeaderT]
  simp only [udpResponseValidator, UdpPacket.query, UdpPacket.answerType]
  split <;> split <;> exact congrArg Except.ok (hfield _)

/-! ### The probes -/

/-- The protocol is one whose datagrams the probe's validator looks into. -/
def ProbePacket.listens (protocol : Int) : ProbePacket → Bool
  | .icmp _ | .udp _ => validateIcmpProtocol protocol
  | .tcp _ => validateIcmpProtocol protocol || protocol == IPPROTO_TCP

/-- The size that `validateSize` asks for behind the outer header. -/
def ProbePacket.minimum (protocol : Int) : ProbePacket → Nat
  | .icmp _ => 8
  | .tcp _ => if validateIcmpProtocol protocol then 28 else 20
  | .udp _ => 16

/-- What the probe asks of a datagram of that sender and protocol, whose first byte behind the outer header is
    `type`. -/
def ProbePacket.query (responseInfo : ResponseInfo) (type : UInt8) : ProbePacket → Query
  | .icmp packet => packet.query responseInfo.client type
  | .tcp packet =>
    if validateIcmpProtocol responseInfo.protocol then packet.icmpQuery responseInfo.client type
    else packet.tcpQuery responseInfo.client
  | .udp packet => packet.query responseInfo.client

theorem validateIcmpProtocol_iff {protocol : Int} :
    validateIcmpProtocol protocol = true ↔ protocol = IPPROTO_ICMP ∨ protocol = IPPROTO_ICMPV6 := by
  simp [validateIcmpProtocol]

theorem regular_isValid {v : ResponseValidator} {minimum : Nat} (hv : v.Regular minimum)
    (hprotocol : v.validateProtocol responseInfo.protocol = true) {f : UInt8 → Query}
    (hfields : ∀ p, v.validateFields responseInfo p = (f (getIcmpType p)).answer p) : v.isValid responseInfo p =
      if responseInfo.size.toNat = 0 then .error noIpHeader
      else if responseInfo.size.toNat < ipHeaderSize p ∨ ipHeaderSize p + minimum ≤ responseInfo.size.toNat then
        (f (p (ipHeaderSize p))).answer (p.advance (ipHeaderSize p))
      else .ok false := by
  rw [hv.isValid]
  simp only [hprotocol, true_and, hfields]
  rfl

/-- `isValid` of a datagram of a protocol that the probe listens to. A header that is announced longer than the
    datagram passes the size check. -/
theorem ProbePacket.isValid_of_listens {probe : ProbePacket} (h : probe.listens responseInfo.protocol = true) :
    probe.toPacket.isValid responseInfo p =
      if responseInfo.size.toNat = 0 then .error noIpHeader
      else if responseInfo.size.toNat < ipHeaderSize p ∨
          ipHeaderSize p + probe.minimum responseInfo.protocol ≤ responseInfo.size.toNat then
        (probe.query responseInfo (p (ipHeaderSize p))).answer (p.advance (ipHeaderSize p))
      else .ok false := by
  cases probe with
  | icmp packet => exact regular_isValid (regular_icmp packet) h fun _ => icmp_validateFields packet
  | udp packet =>
    exact regular_isValid (f := fun _ => packet.query _) (regular_udp packet) h fun _ => udp_validateFields packet
  | tcp packet =>
    simp only [ProbePacket.toPacket, TcpPacket.isValid, ProbePacket.query, ProbePacket.minimum]
    by_cases hicmp : validateIcmpProtocol responseInfo.protocol = true
    · rw [if_pos (validateIcmpProtocol_iff.mp hicmp)]
      simp only [if_pos hicmp]
      exact regular_isValid (regular_icmpToTcp packet) hicmp fun _ => icmpToTcp_validateFields packet
    · have htcp : responseInfo.protocol = IPPROTO_TCP := by simpa [ProbePacket.listens, hicmp] using h
      rw [if_neg (fun h => hicmp (validateIcmpProtocol_iff.mpr h)), if_pos htcp]
      simp only [if_neg hicmp]
      exact regular_isValid (f := fun _ => packet.tcpQuery _) (regular_tcpToTcp packet) (beq_iff_eq.mpr htcp)
        fun _ => tcpToTcp_validateFields packet

theorem minimum_pos (probe : ProbePacket) (protocol : Int) : 0 < probe.minimum protocol := by
  cases probe with
  | icmp packet => exact Nat.succ_pos _
  | udp packet => exact Nat.succ_pos _
  | tcp packet =>
    rw [ProbePacket.minimum]
    split <;> exact Nat.succ_pos _

/-- A datagram that is long enough for the headers that are read is asked the probe's query. -/
theorem ProbePacket.isValid_of_fits {probe : ProbePacket} (h : probe.listens responseInfo.protocol = true)
    (fits : ipHeaderSize p + probe.minimum responseInfo.protocol ≤ responseInfo.size.toNat) :
    probe.toPacket.isValid responseInfo p =
      (probe.query responseInfo (p (ipHeaderSize p))).answer (p.advance (ipHeaderSize p)) := by
  have hpos := minimum_pos probe responseInfo.protocol
  rw [ProbePacket.isValid_of_listens h, if_neg (by omega), if_pos (Or.inr fits)]

theorem regular_isValid_of_not {v : ResponseValidator} {minimum : Nat} (hv : v.Regular minimum)
    (hprotocol : v.validateProtocol responseInfo.protocol = false) : v.isValid responseInfo p =
      if responseInfo.size.toNat = 0 then .error noIpHeader else .ok false := by
  simp [hv.isValid, hprotocol]

/-- A datagram of another protocol is refused; but one without a first byte makes an ICMP or UDP probe throw. -/
theorem ProbePacket.isValid_of_not_listens {probe : ProbePacket} (h : probe.listens responseInfo.protocol = false) :
    probe.toPacket.isValid responseInfo p =
      match probe with
      | .tcp _ => .ok false
      | _ => if responseInfo.size.toNat = 0 then .error noIpHeader else .ok false := by
  cases probe with
  | icmp packet => exact regular_isValid_of_not (regular_icmp packet) h
  | udp packet => exact regular_isValid_of_not (regular_udp packet) h
  | tcp packet =>
    obtain ⟨hicmp, htcp⟩ := Bool.or_eq_false_iff.mp h
    simp only [ProbePacket.toPacket, TcpPacket.isValid]
    rw [if_neg (fun h => by simp [validateIcmpProtocol_iff.mpr h] at hicmp), if_neg (by simpa using htcp)]

/-! ### The protocols -/

/-- The probe accepts a datagram of the protocol. -/
def ProbePacket.AnsweredIn (probe : ProbePacket) (protocol : Int) : Prop :=
  ∃ client size p, probe.toPacket.isValid ⟨client, protocol, size⟩ p = .ok true

/-- An IPv4 address. -/
def someHost : SocketAddress := ⟨(Vector.replicate 128 0).set 0 2⟩

/-- Behind an IPv4 header a message of the type, which quotes an IPv4 header; and the bytes `e` from offset `o` on. -/
def answering (type : UInt8) (o : Nat) (e : Bytes) : Bytes := fun i =>
  if i = 0 then 0x45 else if o ≤ i then e (i - o) else if i = 20 then type else if i = 28 then 0x45 else 0

/-- What it is asked. -/
theorem ProbePacket.answeredIn_of_query {probe : ProbePacket} {protocol : Int} (client : SocketAddress) (type : UInt8) {o : Nat}
    {e : Bytes} (h : probe.listens protocol = true) (ho : 20 < o)
    (hanswer : (probe.query ⟨client, protocol, 200⟩ type).answer ((answering type o e).advance 20) = .ok true) :
    probe.AnsweredIn protocol := by
  have hsize : ipHeaderSize (answering type o e) = 20 := ipHeaderSize_congr (q := fun _ => 0x45) rfl
  have htype : answering type o e 20 = type := by
    rw [answering, if_neg (by decide), if_neg (by omega), if_pos rfl]
  refine ⟨client, 200, answering type o e, ?_⟩
  rw [ProbePacket.isValid_of_fits h ?_, hsize, htype]
  · exact hanswer
  · have hle : probe.minimum protocol ≤ 28 := by
      cases probe with
      | icmp packet => exact (by decide : 8 ≤ 28)
      | udp packet => exact (by decide : 16 ≤ 28)
      | tcp packet =>
        rw [ProbePacket.minimum]
        split <;> decide
    rw [hsize]
    exact Nat.le_trans (Nat.add_le_add_left hle 20) (by decide : 20 + 28 ≤ 200)

/-- It quotes what it has behind the header of 20 bytes. -/
theorem quotedField_answering {type : UInt8} {w : Nat} {e : Bytes} :
    quotedField w e (((answering type 52 e).advance 20).advance 8) = .ok true := by
  have hfirst : ((answering type 52 e).advance 20).advance 8 0 = 0x45 := rfl
  have hannounces := announcesIp_congr (q := fun _ => 0x45) hfirst
  have hsize : ipHeaderSize (((answering type 52 e).advance 20).advance 8) = 20 := ipHeaderSize_congr (q := fun _ => 0x45) hfirst
  rw [quotedField, if_pos (hannounces.trans (by decide)), hsize, Except.ok.injEq, fieldHolds_eq_true]
  intro i _
  simp only [Bytes.advance_apply, answering]
  rw [if_neg (by omega), if_pos (by omega)]
  congr 1
  omega

/-- A probe listens to the protocols in which it is answered. -/
theorem ProbePacket.answeredIn_iff {probe : ProbePacket} {protocol : Int} :
    probe.AnsweredIn protocol ↔ probe.listens protocol = true := by
  constructor
  · rintro ⟨client, size, p, haccepts⟩
    by_contra hnot
    rw [@ProbePacket.isValid_of_not_listens ⟨client, protocol, size⟩ p probe (by simpa using hnot)] at haccepts
    cases probe with
    | tcp packet => cases haccepts
    | icmp packet | udp packet =>
      simp only at haccepts
      split at haccepts <;> cases haccepts
  · intro h
    cases probe with
    | icmp packet => exact answeredIn_of_query someHost ICMP_TIME_EXCEEDED h (by decide : 20 < 52) quotedField_answering
    | udp packet =>
      refine answeredIn_of_query someHost (packet.answerType someHost) (o := 52) (e := fun _ => 0) h (by decide) ?_
      refine congrArg Except.ok (fieldHolds_eq_true.mpr fun i hi => ?_)
      obtain rfl : i = 0 := by omega
      rfl
    | tcp packet =>
      by_cases hicmp : validateIcmpProtocol protocol = true
      · refine answeredIn_of_query someHost ICMP_TIME_EXCEEDED (o := 52) (e := Bytes.ofU32 packet.mTcpHeader.seq) h
          (by decide) ?_
        have hexceeded : packet.answeredBy someHost ICMP_TIME_EXCEEDED = true := rfl
        rw [ProbePacket.query, if_pos hicmp, TcpPacket.icmpQuery, if_pos hexceeded]
        exact quotedField_answering
      · refine answeredIn_of_query packet.mDestinationAddress 0 (o := 28) (e := Bytes.ofU32 packet.ackExpected) h
          (by decide) ?_
        rw [ProbePacket.query, if_neg hicmp, TcpPacket.tcpQuery, if_pos SocketAddress.operatorEq_self]
        refine congrArg Except.ok (fieldHolds_eq_true.mpr fun i _ => ?_)
        simp only [Bytes.advance_apply, answering]
        rw [if_neg (by omega), if_pos (by omega)]
        congr 1
        omega

/-! ### A probe and a datagram -/

/-- An IPv6 address. -/
def someHost6 : SocketAddress := ⟨(Vector.replicate 128 0).set 0 10⟩

/-- An IPv6 address that is not `someHost6`. -/
def otherHost6 : SocketAddress := ⟨someHost6.mAddress.set 8 1⟩

def someIcmpPacket : IcmpPacket := ⟨⟨someHost, someHost, rfl⟩, ⟨ICMP_ECHO, 0, 0, 0, 0⟩⟩

/-- A Time Exceeded message behind an IPv4 header; `x` is the first byte of what it quotes. -/
def timeExceeded (x : UInt8) : Bytes := fun i => if i = 0 then 0x45 else if i = 20 then 11 else if i = 28 then x else 0

end Traceroute
