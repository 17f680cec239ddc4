import Traceroute.PacketFactory
import Traceroute.Wire

/-! What a serialized probe says on the wire. Each header is written over what its place in memory held before; the
    urgent pointer of a TCP header is not written. -/

namespace Traceroute

/-! ### Reading a header back -/

theorem length_serialize (pod : Bytes) (size : UInt64) : (utils.serialize pod size).length = size.toNat := by
  rw [utils.serialize, List.length_map, List.length_range]

theorem toNat_htons_octets (x : UInt16) :
    (htons x).toNat = 256 * (Bytes.ofU16 x 0).toNat + (Bytes.ofU16 x 1).toNat := by
  rw [htons, Bytes.toNat_u16]
  exact Nat.add_comm _ _

theorem toNat_ntohl_octets (x : UInt32) :
    (ntohl x).toNat = 65536 * (256 * (Bytes.ofU32 x 0).toNat + (Bytes.ofU32 x 1).toNat) +
      (256 * (Bytes.ofU32 x 2).toNat + (Bytes.ofU32 x 3).toNat) := by
  have h : (ntohl x).toNat = (Bytes.ofU32 x 3).toNat + 256 * (Bytes.ofU32 x 2).toNat +
      65536 * (Bytes.ofU32 x 1).toNat + 16777216 * (Bytes.ofU32 x 0).toNat := Bytes.toNat_u32
  rw [h]
  omega

theorem toNat_append_nibbles (high low : BitVec 4) :
    (UInt8.ofBitVec (high ++ low)).toNat = 16 * high.toNat + low.toNat := by
  have happend : (high ++ low).toNat = high.toNat <<< 4 + low.toNat := by
    rw [BitVec.toNat_append, Nat.shiftLeft_add_eq_or_of_lt low.isLt]
  rw [UInt8.toNat_ofBitVec, happend, Nat.shiftLeft_eq, Nat.mul_comm]

theorem decodeTcp_serialize (header : TcpHeader) :
    Wire.decodeTcp (utils.serialize header.toBytes TcpHeader.size) = some
      ⟨(htons header.source).toNat, (htons header.dest).toNat, (ntohl header.seq).toNat, (ntohl header.ack_seq).toNat,
        header.th_off.toNat, header.th_x2.toNat * 4 + header.th_flags.toNat / 64, header.th_flags.toNat % 64,
        (htons header.window).toNat, (htons header.check).toNat, (htons header.urg_ptr).toNat⟩ := by
  have hlt := header.th_x2.isLt
  have hoctet : (UInt8.ofBitVec (header.th_off ++ header.th_x2)).toNat = 16 * header.th_off.toNat + header.th_x2.toNat :=
    toNat_append_nibbles _ _
  have hoffset : header.th_off.toNat = (UInt8.ofBitVec (header.th_off ++ header.th_x2)).toNat / 16 := by omega
  have hreserved : header.th_x2.toNat = (UInt8.ofBitVec (header.th_off ++ header.th_x2)).toNat % 16 := by omega
  have hlength : (utils.serialize header.toBytes TcpHeader.size).length = 20 := length_serialize _ _
  rw [Wire.decodeTcp, if_pos hlength, hoffset, hreserved]
  simp only [toNat_htons_octets, toNat_ntohl_octets]
  rfl

theorem decodeUdp_serialize (header : UdpHeader) :
    Wire.decodeUdp (utils.serialize header.toBytes UdpHeader.size) = some
      ⟨(htons header.source).toNat, (htons header.dest).toNat, (htons header.len).toNat, (htons header.check).toNat⟩ := by
  have hlength : (utils.serialize header.toBytes UdpHeader.size).length = 8 := length_serialize _ _
  rw [Wire.decodeUdp, if_pos hlength]
  simp only [toNat_htons_octets]
  rfl

theorem decodeEcho_serialize (header : IcmpHeader) :
    Wire.decodeEcho (utils.serialize header.toBytes IcmpHeader.size) = some
      ⟨header.type.toNat, header.code.toNat, (htons header.checksum).toNat, (htons header.id).toNat,
        (htons header.sequence).toNat⟩ := by
  have hlength : (utils.serialize header.toBytes IcmpHeader.size).length = 8 := length_serialize _ _
  rw [Wire.decodeEcho, if_pos hlength]
  simp only [toNat_htons_octets]
  rfl

/-! ### What is asked for -/

/-- A SYN segment with a source port that is drawn. -/
structure IsSyn (dport sequenceNumber : Nat) (header : Wire.Tcp) : Prop where
  sourcePort : 50000 ≤ header.sourcePort ∧ header.sourcePort ≤ 65000
  destinationPort : header.destinationPort = dport
  sequenceNumber : header.sequenceNumber = sequenceNumber
  acknowledgmentNumber : header.acknowledgmentNumber = 0
  reserved : header.reserved = 0
  dataOffset : header.dataOffset = 5
  controlBits : header.controlBits = 0b000010
  window : header.window = 5760
  urgentPointer : header.urgentPointer = 0

/-- A datagram without data, with a source port that is drawn. -/
structure IsEmptyDatagram (dport : Nat) (header : Wire.Udp) : Prop where
  sourcePort : 50000 ≤ header.sourcePort ∧ header.sourcePort ≤ 65000
  destinationPort : header.destinationPort = dport
  length : header.length = 8

/-- An echo request, of ICMP or of ICMPv6. -/
structure IsEchoRequest (v4 : Bool) (identifier : Nat) (header : Wire.Echo) : Prop where
  type : header.type = if v4 then 8 else 128
  code : header.code = 0
  identifier : header.identifier = identifier
  sequenceNumber : header.sequenceNumber = 0

/-! ### What is written -/

section
variable {source destination : SocketAddress} {base : PacketBase}

theorem PacketBase.create_of_family (h : destination.family = source.family) :
    PacketBase.create source destination = .ok ⟨source, destination, h⟩ := dif_pos h

theorem TcpPacket.create_eq (hbase : PacketBase.create source destination = .ok base) (memory : TcpHeader)
    (rand₁ rand₂ : Nat) (dport : Int) :
    ∃ check, TcpPacket.create memory rand₁ rand₂ source destination dport =
      .ok ⟨base, ⟨htons (.ofNat (50000 + rand₁ % 15001)), htons (.ofInt dport), htonl (.ofNat (rand₂ % 65001)), 0, 0, 5, 0x02,
        htons 5760, check, memory.urg_ptr⟩⟩ := by
  rw [TcpPacket.create, hbase]
  by_cases hV4 : source.isV4
  · exact ⟨_, congrArg (fun header => Except.ok (TcpPacket.mk base header)) (if_pos hV4)⟩
  · exact ⟨_, congrArg (fun header => Except.ok (TcpPacket.mk base header)) (if_neg hV4)⟩

theorem UdpPacket.create_eq (hbase : PacketBase.create source destination = .ok base) (memory : UdpHeader) (rand : Nat)
    (dport : Int) :
    ∃ check, UdpPacket.create memory rand source destination dport =
      .ok ⟨base, ⟨htons (.ofNat (50000 + rand % 15001)), htons (.ofInt dport), htons UdpHeader.size.toUInt16, check⟩⟩ := by
  rw [UdpPacket.create, hbase]
  by_cases hV4 : source.isV4
  · exact ⟨_, congrArg (fun header => Except.ok (UdpPacket.mk base header)) (if_pos hV4)⟩
  · exact ⟨_, congrArg (fun header => Except.ok (UdpPacket.mk base header)) (if_neg hV4)⟩

theorem IcmpPacketFactory.createPacket_eq (hbase : PacketBase.create source destination = .ok base) (memory : IcmpHeader)
    (rand : Nat) :
    ∃ checksum, (IcmpPacketFactory.mk source destination).createPacket memory rand =
      .ok ⟨base, ⟨if source.isV4 then ICMP_ECHO else ICMP6_ECHO_REQUEST, 0, checksum, htons (.ofNat (rand % 65536)), 0⟩⟩ := by
  by_cases hV4 : source.isV4
  · rw [IcmpPacketFactory.createPacket, if_pos hV4, if_pos hV4, IcmpPacket.CreateIcmp4Packet, hbase]
    exact ⟨_, rfl⟩
  · rw [IcmpPacketFactory.createPacket, if_neg hV4, if_neg hV4, IcmpPacket.CreateIcmp6Packet, hbase]
    exact ⟨_, rfl⟩

end

theorem toNat_ofInt {dport : Int} (h : 0 ≤ dport) (h' : dport ≤ 65535) : (UInt16.ofInt dport).toNat = dport.toNat := by
  obtain ⟨n, rfl⟩ := Int.eq_ofNat_of_zero_le h
  rw [UInt16.ofInt]
  simp
  omega

theorem toNat_sourcePort (rand : Nat) : (htons (htons (.ofNat (50000 + rand % 15001)))).toNat = 50000 + rand % 15001 := by
  rw [htons_htons, UInt16.toNat_ofNat']
  omega

theorem toNat_htons_eq_zero {x : UInt16} : (htons x).toNat = 0 ↔ x = 0 := by
  constructor
  · intro h
    exact htons_inj (UInt16.toNat_inj.mp h)
  · rintro rfl
    rfl

variable {source destination : SocketAddress} {base : PacketBase} {dport : Int}

theorem sourcePort_bounds (rand : Nat) : 50000 ≤ (htons (htons (.ofNat (50000 + rand % 15001)))).toNat ∧
    (htons (htons (.ofNat (50000 + rand % 15001)))).toNat ≤ 65000 := by
  rw [toNat_sourcePort]
  omega

theorem toNat_dest (h : 0 ≤ dport) (h' : dport ≤ 65535) : (htons (htons (.ofInt dport))).toNat = dport.toNat := by
  rw [htons_htons, toNat_ofInt h h']

theorem toNat_seq (rand : Nat) : (ntohl (htonl (.ofNat (rand % 65001)))).toNat = rand % 65001 := by
  rw [htonl, ntohl_ntohl, UInt32.toNat_ofNat']
  omega

theorem toNat_id (rand : Nat) : (htons (htons (.ofNat (rand % 65536)))).toNat = rand % 65536 := by
  rw [htons_htons, UInt16.toNat_ofNat']
  omega

theorem toNat_window : (htons (htons 5760)).toNat = 5760 := congrArg UInt16.toNat (htons_htons 5760)

theorem toNat_len : (htons (htons UdpHeader.size.toUInt16)).toNat = 8 := congrArg UInt16.toNat (htons_htons _)

theorem toNat_ntohl_zero : (ntohl 0).toNat = 0 := by decide

theorem tcp_decodes (hbase : PacketBase.create source destination = .ok base) (h : 0 ≤ dport) (h' : dport ≤ 65535)
    (memory : TcpHeader) (rand₁ rand₂ : Nat) :
    ∃ packet header, TcpPacket.create memory rand₁ rand₂ source destination dport = .ok packet ∧
      Wire.decodeTcp packet.serialize = some header ∧
      header.urgentPointer = (htons memory.urg_ptr).toNat ∧
      (IsSyn dport.toNat (rand₂ % 65001) header ↔ memory.urg_ptr = 0) := by
  obtain ⟨check, hcreate⟩ := TcpPacket.create_eq hbase memory rand₁ rand₂ dport
  refine ⟨_, _, hcreate, decodeTcp_serialize _, by rfl, ?_⟩
  constructor
  · intro hsyn
    exact toNat_htons_eq_zero.mp hsyn.urgentPointer
  · intro hurg
    have hreserved : (0 : BitVec 4).toNat * 4 + (0x02 : UInt8).toNat / 64 = 0 := rfl
    have hbits : (0x02 : UInt8).toNat % 64 = 0b000010 := rfl
    exact ⟨sourcePort_bounds rand₁, toNat_dest h h', toNat_seq rand₂, toNat_ntohl_zero, hreserved, rfl, hbits,
      toNat_window, toNat_htons_eq_zero.mpr hurg⟩

theorem udp_decodes (hbase : PacketBase.create source destination = .ok base) (h : 0 ≤ dport) (h' : dport ≤ 65535)
    (memory : UdpHeader) (rand : Nat) :
    ∃ packet header, UdpPacket.create memory rand source destination dport = .ok packet ∧
      Wire.decodeUdp packet.serialize = some header ∧ IsEmptyDatagram dport.toNat header := by
  obtain ⟨check, hcreate⟩ := UdpPacket.create_eq hbase memory rand dport
  exact ⟨_, _, hcreate, decodeUdp_serialize _, sourcePort_bounds rand, toNat_dest h h', toNat_len⟩

theorem icmp_decodes (hbase : PacketBase.create source destination = .ok base) (memory : IcmpHeader) (rand : Nat) :
    ∃ packet header, (IcmpPacketFactory.mk source destination).createPacket memory rand = .ok packet ∧
      Wire.decodeEcho packet.serialize = some header ∧ IsEchoRequest source.isV4 (rand % 65536) header := by
  obtain ⟨checksum, hcreate⟩ := IcmpPacketFactory.createPacket_eq hbase memory rand
  have htype : (if source.isV4 then ICMP_ECHO else ICMP6_ECHO_REQUEST).toNat = if source.isV4 then 8 else 128 := by
    cases source.isV4 <;> rfl
  exact ⟨_, _, hcreate, decodeEcho_serialize _, htype, rfl, toNat_id rand, toNat_htons_eq_zero.mpr rfl⟩

/-- The bytes of a TCP probe depend on the memory under the urgent pointer. -/
theorem tcp_serialize_eq_iff (hbase : PacketBase.create source destination = .ok base) (memory memory' : TcpHeader)
    (rand₁ rand₂ : Nat) :
    (TcpPacket.create memory rand₁ rand₂ source destination dport).map TcpPacket.serialize =
      (TcpPacket.create memory' rand₁ rand₂ source destination dport).map TcpPacket.serialize ↔
      memory.urg_ptr = memory'.urg_ptr := by
  constructor
  · intro heq
    obtain ⟨check, hcreate⟩ := TcpPacket.create_eq hbase memory rand₁ rand₂ dport
    obtain ⟨check', hcreate'⟩ := TcpPacket.create_eq hbase memory' rand₁ rand₂ dport
    rw [hcreate, hcreate'] at heq
    have hdecode := congrArg Wire.decodeTcp (Except.ok.inj heq)
    rw [TcpPacket.serialize, TcpPacket.serialize, decodeTcp_serialize, decodeTcp_serialize] at hdecode
    exact htons_inj (UInt16.toNat_inj.mp (congrArg Wire.Tcp.urgentPointer (Option.some.inj hdecode)))
  · intro hurg
    -- nothing else of the memory is left in the header
    have hmemory : ∀ memory : TcpHeader, TcpPacket.create memory rand₁ rand₂ source destination dport =
        TcpPacket.create ⟨0, 0, 0, 0, 0, 0, 0, 0, 0, memory.urg_ptr⟩ rand₁ rand₂ source destination dport := fun _ => rfl
    rw [hmemory memory, hmemory memory', hurg]

/-- Probes decode to what was asked for, whatever the memory held, but for the urgent pointer of a TCP probe: it is what
    was there before. -/
theorem packets_decode_iff (source destination : SocketAddress) (hfamily : destination.family = source.family)
    (dport : Int) (h : 0 ≤ dport) (h' : dport ≤ 65535) :
    (∀ memory rand₁ rand₂, ∃ packet header,
      TcpPacket.create memory rand₁ rand₂ source destination dport = .ok packet ∧
      Wire.decodeTcp packet.serialize = some header ∧
      (IsSyn dport.toNat (rand₂ % 65001) header ↔ memory.urg_ptr = 0)) ∧
    (∀ memory memory' rand₁ rand₂,
      (TcpPacket.create memory rand₁ rand₂ source destination dport).map TcpPacket.serialize =
        (TcpPacket.create memory' rand₁ rand₂ source destination dport).map TcpPacket.serialize ↔
      memory.urg_ptr = memory'.urg_ptr) ∧
    (∀ memory rand, ∃ packet header, UdpPacket.create memory rand source destination dport = .ok packet ∧
      Wire.decodeUdp packet.serialize = some header ∧ IsEmptyDatagram dport.toNat header) ∧
    (∀ memory rand, ∃ packet header,
      (IcmpPacketFactory.mk source destination).createPacket memory rand = .ok packet ∧
      Wire.decodeEcho packet.serialize = some header ∧ IsEchoRequest source.isV4 (rand % 65536) header) ∧
    (∀ memory memory' rand, UdpPacket.create memory rand source destination dport =
      UdpPacket.create memory' rand source destination dport) ∧
    ∀ memory memory' rand, (IcmpPacketFactory.mk source destination).createPacket memory rand =
      (IcmpPacketFactory.mk source destination).createPacket memory' rand := by
  have hbase := PacketBase.create_of_family hfamily
  refine ⟨fun memory rand₁ rand₂ => ?_, fun memory memory' rand₁ rand₂ => tcp_serialize_eq_iff hbase memory memory' rand₁ rand₂,
    udp_decodes hbase h h', icmp_decodes hbase, fun _ _ _ => rfl, fun _ _ _ => rfl⟩
  obtain ⟨packet, header, hcreate, hdecode, -, hiff⟩ := tcp_decodes hbase h h' memory rand₁ rand₂
  exact ⟨packet, header, hcreate, hdecode, hiff⟩

/-- 10.0.0.2 -/
def privateHost : SocketAddress := .ofBytes [2, 0, 0, 0, 10, 0, 0, 2]

/-- 8.8.8.8 -/
def resolver : SocketAddress := .ofBytes [2, 0, 0, 0, 8, 8, 8, 8]

/-- Memory in which the bytes 0x12 and 0x34 are where the urgent pointer will be. -/
def staleTcpHeader : TcpHeader := ⟨0, 0, 0, 0, 0, 0, 0, 0, 0, 0x3412⟩

theorem createBase_resolver : PacketBase.create privateHost resolver = .ok ⟨privateHost, resolver, by decide⟩ :=
  PacketBase.create_of_family (by decide)

theorem packets_decode_iff_resolver : ∃ packet header,
    TcpPacket.create ⟨0, 0, 0, 0, 0, 0, 0, 0, 0, 0⟩ 0 7 privateHost resolver 80 = .ok packet ∧
      Wire.decodeTcp packet.serialize = some header ∧ IsSyn 80 7 header := by
  obtain ⟨packet, header, hcreate, hdecode, hiff⟩ := (packets_decode_iff privateHost resolver (by decide) 80 (by decide)
    (by decide)).1 ⟨0, 0, 0, 0, 0, 0, 0, 0, 0, 0⟩ 0 7
  exact ⟨packet, header, hcreate, hdecode, hiff.mpr rfl⟩

/-- An urgent pointer of 0x1234; and the same arguments give other bytes where the memory holds zeros. -/
theorem stale_urgent_pointer :
    (∃ packet header, TcpPacket.create staleTcpHeader 0 7 privateHost resolver 80 = .ok packet ∧
      Wire.decodeTcp packet.serialize = some header ∧ header.urgentPointer = 0x1234 ∧ ¬IsSyn 80 7 header) ∧
    (TcpPacket.create staleTcpHeader 0 7 privateHost resolver 80).map TcpPacket.serialize ≠
      (TcpPacket.create ⟨0, 0, 0, 0, 0, 0, 0, 0, 0, 0⟩ 0 7 privateHost resolver 80).map TcpPacket.serialize := by
  refine ⟨?_, fun heq => ?_⟩
  · obtain ⟨packet, header, hcreate, hdecode, hurg, hiff⟩ := @tcp_decodes _ _ _ 80 createBase_resolver (by decide)
      (by decide) staleTcpHeader 0 7
    exact ⟨packet, header, hcreate, hdecode, hurg.trans (by decide), fun hsyn => absurd (hiff.mp hsyn) (by decide)⟩
  · exact absurd ((tcp_serialize_eq_iff createBase_resolver staleTcpHeader _ 0 7).mp heq) (by decide)

end Traceroute
