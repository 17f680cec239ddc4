import Traceroute.Theorems.Checksum
import Traceroute.Theorems.Serialized

/-! Whether a receiver accepts the checksums: those of the IPv4 probes it does; an IPv6 checksum only between addresses
    with one sum of words. And when the checksum of a UDP probe says that there is none. -/

namespace Traceroute

open OnesComplement (Folds)
open ChecksumCalculator (addressSum computeTCPHeaderChecksum computeUdpHeaderChecksum computeICMPHeaderChecksum)

variable {source destination : SocketAddress} {protocol : UInt8} {length : UInt16} {bytes : List UInt8} {base : PacketBase}

theorem toNat_htons (x : UInt16) : (htons x).toNat = hostSum [.ofNat (x.toNat / 256), .ofNat x.toNat] := by
  have h0 : Bytes.ofU16 x 0 = .ofNat x.toNat := congrArg UInt8.ofNat (Nat.div_one _)
  rw [htons, Bytes.toNat_u16, h0]
  rfl

/-- The words behind the addresses in a pseudo-header. -/
def lengthSum (protocol : UInt8) (length : UInt16) : Nat := (htons protocol.toUInt16).toNat + (htons length).toNat

theorem lengthSum_eq : lengthSum protocol length =
    hostSum [0, protocol] + hostSum [.ofNat (length.toNat / 256), .ofNat length.toNat] := by
  have hlt := protocol.toNat_lt
  rw [lengthSum, toNat_htons, toNat_htons, UInt8.toNat_toUInt16, Nat.div_eq_of_lt hlt, UInt8.ofNat_toNat]
  rfl

theorem hostSum_pseudoheader : hostSum (Wire.pseudoheader source.in_addr destination.in_addr protocol length.toNat) =
    hostSum source.in_addr + hostSum destination.in_addr + lengthSum protocol length := by
  rw [Wire.pseudoheader, hostSum_append (by simp), hostSum_append (by simp), hostSum_append (by simp), lengthSum_eq, Nat.add_assoc]

theorem hostSum_pseudoheader6 :
    hostSum (Wire.pseudoheader6 source.in6_addr destination.in6_addr protocol length.toNat) =
      hostSum source.in6_addr + hostSum destination.in6_addr + lengthSum protocol length := by
  have hlt := length.toNat_lt
  have hhigh : length.toNat / 16777216 = 0 := Nat.div_eq_of_lt (Nat.lt_trans hlt (by decide))
  have hmiddle : length.toNat / 65536 = 0 := Nat.div_eq_of_lt hlt
  rw [Wire.pseudoheader6, hostSum_append (by simp), hostSum_append (by simp), hostSum_append (by simp), lengthSum_eq,
    hhigh, hmiddle,
    Nat.add_assoc, Nat.add_comm (hostSum [0, protocol])]
  simp [hostSum_cons_cons]

/-- The check field of the bytes is what the calculator returns: the complement of the folded sum of `n`, the words
    of the header without it, and of its own pseudo-header. -/
def Checked (source destination : SocketAddress) (protocol : UInt8) (length : UInt16) (bytes : List UInt8) : Prop :=
  ∃ n r, Folds 65536 (addressSum source destination + lengthSum protocol length + n) r ∧ hostSum bytes = n + (65535 - r)

/-- The words that the calculator has summed and the complement make a multiple of 65535 that is not zero. -/
theorem Checked.dvd (h : Checked source destination protocol length bytes) :
    65535 ∣ addressSum source destination + lengthSum protocol length + hostSum bytes := by
  obtain ⟨n, r, hfolds, hbytes⟩ := h
  rw [hbytes, ← Nat.add_assoc]
  exact hfolds.dvd_add_complement

theorem checked_tcp (header : TcpHeader) (source destination : SocketAddress) :
    Checked source destination 6 TcpHeader.size.toUInt16 (utils.serialize
      { header with check := computeTCPHeaderChecksum header source destination }.toBytes TcpHeader.size) := by
  obtain ⟨r, hfolds, hcheck⟩ := ChecksumCalculator.computeChecksum_header { header with check := 0 }.toBytes
    TcpHeader.size (by decide) 6 TcpHeader.size.toUInt16 source destination
  refine ⟨_, r, by rwa [Nat.add_assoc (addressSum source destination)] at hfolds, ?_⟩
  rw [TcpHeader.hostSum_check, computeTCPHeaderChecksum, hcheck]

theorem checked_udp (header : UdpHeader) (source destination : SocketAddress) :
    Checked source destination 17 UdpHeader.size.toUInt16 (utils.serialize
      { header with check := computeUdpHeaderChecksum header source destination }.toBytes UdpHeader.size) := by
  obtain ⟨r, hfolds, hcheck⟩ := ChecksumCalculator.computeChecksum_header { header with check := 0 }.toBytes
    UdpHeader.size (by decide) 17 UdpHeader.size.toUInt16 source destination
  refine ⟨_, r, by rwa [Nat.add_assoc (addressSum source destination)] at hfolds, ?_⟩
  rw [UdpHeader.hostSum_check, computeUdpHeaderChecksum, hcheck]

/-- An IPv4 checksum is accepted. -/
theorem Checked.verifies (h : Checked source destination protocol length bytes) (hsource : source.isV4 = true)
    (hpos : 0 < lengthSum protocol length) (hlength : bytes.length = length.toNat) :
    Wire.Verifies (Wire.pseudoheader source.in_addr destination.in_addr protocol bytes.length ++ bytes) := by
  have hdvd := h.dvd
  rw [hlength]
  rw [addressSum, if_pos hsource] at hdvd
  rw [Wire.verifies_iff, hostSum_append (by simp [Wire.pseudoheader]), hostSum_pseudoheader]
  exact ⟨by omega, hdvd⟩

/-- An IPv6 checksum is accepted when the address that was left out has the sum of the one that was added twice. -/
theorem Checked.verifies6_iff (h : Checked source destination protocol length bytes) (hsource : source.isV4 = false)
    (hpos : 0 < lengthSum protocol length) :
    Wire.Verifies (Wire.pseudoheader6 source.in6_addr destination.in6_addr protocol length.toNat ++ bytes) ↔
      (Wire.words destination.in6_addr).sum ≡ (Wire.words source.in6_addr).sum [MOD 65535] := by
  have hdvd := h.dvd
  rw [addressSum, if_neg (by rw [hsource]; decide)] at hdvd
  rw [Wire.verifies_iff, hostSum_append (by simp [Wire.pseudoheader6]), hostSum_pseudoheader6, Wire.words_modEq_iff,
    Nat.ModEq]
  constructor
  · rintro ⟨-, hverifies⟩
    omega
  · intro hmod
    exact ⟨by omega, by omega⟩

/-! ### IPv4 -/

theorem SocketAddress.isV4_of_family (h : source.family = AF_INET) : source.isV4 = true := by
  rw [SocketAddress.isV4, h]
  rfl

theorem SocketAddress.isV4_of_family6 (h : source.family = AF_INET6) : source.isV4 = false := by
  rw [SocketAddress.isV4, h]
  rfl

theorem icmp_verifies (header : IcmpHeader) : Wire.Verifies (utils.serialize
    { header with checksum := computeICMPHeaderChecksum header }.toBytes IcmpHeader.size) := by
  have hsize : IcmpHeader.size.toUInt32.toNat = 8 := rfl
  have hle : hostSum ((List.range 8).map { header with checksum := 0 }.toBytes) ≤ 65535 * 8 := hostSum_le _
  obtain ⟨r, hfolds, hcheck⟩ := ChecksumCalculator.computeChecksum_folds { header with checksum := 0 }.toBytes
    IcmpHeader.size.toUInt32 0 (by rw [hsize, UInt64.toNat_zero]; omega)
  rw [hsize, UInt64.toNat_zero, Nat.zero_add] at hfolds
  have hsum : hostSum (utils.serialize
      { header with checksum := computeICMPHeaderChecksum header }.toBytes IcmpHeader.size) =
      hostSum (utils.serialize { header with checksum := 0 }.toBytes IcmpHeader.size) + (65535 - r) := by
    rw [IcmpHeader.hostSum_checksum, computeICMPHeaderChecksum, hcheck]
  rw [Wire.verifies_iff, hsum]
  exact ⟨hfolds.add_complement_ne_zero (by decide), hfolds.dvd_add_complement⟩

theorem TcpPacket.create_v4 (hbase : PacketBase.create source destination = .ok base) (hsource : source.isV4 = true)
    (memory : TcpHeader) (rand₁ rand₂ : Nat) (dport : Int) :
    ∃ header : TcpHeader, TcpPacket.create memory rand₁ rand₂ source destination dport =
      .ok ⟨base, { header with check := computeTCPHeaderChecksum header source destination }⟩ := by
  rw [TcpPacket.create, hbase]
  exact ⟨_, congrArg (fun header => Except.ok (TcpPacket.mk base header)) (if_pos hsource)⟩

/-- The header of a UDP probe before its checksum is computed. -/
def udpHeader (rand : Nat) (dport : Int) : UdpHeader :=
  ⟨htons (.ofNat (50000 + rand % 15001)), htons (.ofInt dport), htons UdpHeader.size.toUInt16, 0⟩

theorem UdpPacket.create_v4 (hbase : PacketBase.create source destination = .ok base) (hsource : source.isV4 = true)
    (memory : UdpHeader) (rand : Nat) (dport : Int) : UdpPacket.create memory rand source destination dport =
      .ok ⟨base, { udpHeader rand dport with
        check := computeUdpHeaderChecksum (udpHeader rand dport) source destination }⟩ := by
  rw [UdpPacket.create, hbase]
  exact congrArg (fun header => Except.ok (UdpPacket.mk base header)) (if_pos hsource)

theorem IcmpPacket.CreateIcmp4Packet_eq (hbase : PacketBase.create source destination = .ok base) (memory : IcmpHeader)
    (rand : Nat) : ∃ header : IcmpHeader, IcmpPacket.CreateIcmp4Packet memory rand source destination =
      .ok ⟨base, { header with checksum := computeICMPHeaderChecksum header }⟩ := by
  rw [IcmpPacket.CreateIcmp4Packet, hbase]
  exact ⟨_, rfl⟩

/-- A receiver accepts the checksum of every IPv4 probe. -/
theorem v4_checksums_verify (source destination : SocketAddress) (hsource : source.family = AF_INET)
    (hdestination : destination.family = AF_INET) :
    (∀ memory rand₁ rand₂ dport, ∃ packet, TcpPacket.create memory rand₁ rand₂ source destination dport = .ok packet ∧
      Wire.Verifies (Wire.pseudoheader source.in_addr destination.in_addr 6 packet.serialize.length ++
        packet.serialize)) ∧
    (∀ memory rand dport, ∃ packet, UdpPacket.create memory rand source destination dport = .ok packet ∧
      Wire.Verifies (Wire.pseudoheader source.in_addr destination.in_addr 17 packet.serialize.length ++
        packet.serialize)) ∧
    ∀ memory rand, ∃ packet, IcmpPacket.CreateIcmp4Packet memory rand source destination = .ok packet ∧
      Wire.Verifies packet.serialize := by
  have hV4 := SocketAddress.isV4_of_family hsource
  have hbase := PacketBase.create_of_family (hdestination.trans hsource.symm)
  refine ⟨fun memory rand₁ rand₂ dport => ?_, fun memory rand dport => ?_, fun memory rand => ?_⟩
  · obtain ⟨header, hcreate⟩ := TcpPacket.create_v4 hbase hV4 memory rand₁ rand₂ dport
    exact ⟨_, hcreate, (checked_tcp header source destination).verifies hV4 (by decide) rfl⟩
  · exact ⟨_, UdpPacket.create_v4 hbase hV4 memory rand dport,
      (checked_udp _ source destination).verifies hV4 (by decide) rfl⟩
  · obtain ⟨header, hcreate⟩ := IcmpPacket.CreateIcmp4Packet_eq hbase memory rand
    exact ⟨_, hcreate, icmp_verifies header⟩

theorem v4_checksums_verify_resolver : ∃ packet,
    TcpPacket.create staleTcpHeader 0 7 privateHost resolver 80 = .ok packet ∧
      Wire.Verifies (Wire.pseudoheader privateHost.in_addr resolver.in_addr 6 packet.serialize.length ++ packet.serialize) :=
  (v4_checksums_verify privateHost resolver (by decide) (by decide)).1 _ _ _ _

/-! ### IPv6 -/

/-- A receiver accepts an IPv6 checksum exactly when the words of the two addresses have one sum modulo 65535. -/
theorem v6_checksums_verify_iff (source destination : SocketAddress) (hsource : source.family = AF_INET6) :
    (∀ header : TcpHeader, Wire.Verifies (Wire.pseudoheader6 source.in6_addr destination.in6_addr 6 20 ++ utils.serialize
      { header with check := computeTCPHeaderChecksum header source destination }.toBytes TcpHeader.size) ↔
      (Wire.words destination.in6_addr).sum ≡ (Wire.words source.in6_addr).sum [MOD 65535]) ∧
    ∀ header : UdpHeader, Wire.Verifies (Wire.pseudoheader6 source.in6_addr destination.in6_addr 17 8 ++ utils.serialize
      { header with check := computeUdpHeaderChecksum header source destination }.toBytes UdpHeader.size) ↔
      (Wire.words destination.in6_addr).sum ≡ (Wire.words source.in6_addr).sum [MOD 65535] :=
  have hV6 := SocketAddress.isV4_of_family6 hsource
  ⟨fun header => (checked_tcp header source destination).verifies6_iff hV6 (by decide),
    fun header => (checked_udp header source destination).verifies6_iff hV6 (by decide)⟩

/-- fe80::1 and fe80::2 -/
def linkLocal (x : UInt8) : SocketAddress :=
  .ofBytes [10, 0, 0, 0, 0, 0, 0, 0, 0xfe, 0x80, 0, 0, 0, 0, 0, 0, 0, 0, 0, 0, 0, 0, 0, x]

/-- To itself. -/
theorem v6_checksums_verify_iff_linkLocal :
    Wire.Verifies (Wire.pseudoheader6 (linkLocal 1).in6_addr (linkLocal 1).in6_addr 6 20 ++ utils.serialize
      { staleTcpHeader with
        check := computeTCPHeaderChecksum staleTcpHeader (linkLocal 1) (linkLocal 1) }.toBytes TcpHeader.size) :=
  ((v6_checksums_verify_iff (linkLocal 1) (linkLocal 1) (by decide)).1 staleTcpHeader).mpr rfl

/-- Between fe80::1 and fe80::2 neither checksum is accepted. -/
theorem v6_checksum_refused :
    ¬Wire.Verifies (Wire.pseudoheader6 (linkLocal 1).in6_addr (linkLocal 2).in6_addr 6 20 ++ utils.serialize
      { staleTcpHeader with
        check := computeTCPHeaderChecksum staleTcpHeader (linkLocal 1) (linkLocal 2) }.toBytes TcpHeader.size) ∧
    ¬Wire.Verifies (Wire.pseudoheader6 (linkLocal 1).in6_addr (linkLocal 2).in6_addr 17 8 ++ utils.serialize
      { udpHeader 0 53 with
        check := computeUdpHeaderChecksum (udpHeader 0 53) (linkLocal 1) (linkLocal 2) }.toBytes UdpHeader.size) := by
  have hV6 : (linkLocal 1).isV4 = false := by decide
  have hwords : ¬(Wire.words (linkLocal 2).in6_addr).sum ≡ (Wire.words (linkLocal 1).in6_addr).sum [MOD 65535] := by decide
  exact ⟨mt ((checked_tcp _ _ _).verifies6_iff hV6 (by decide)).mp hwords,
    mt ((checked_udp _ _ _).verifies6_iff hV6 (by decide)).mp hwords⟩

/-! ### No checksum -/

theorem words_udp (header : UdpHeader) : Wire.words (utils.serialize header.toBytes UdpHeader.size) =
    [(htons header.source).toNat, (htons header.dest).toNat, (htons header.len).toNat, (htons header.check).toNat] := by
  simp only [toNat_htons_octets]
  rfl

/-- The computed checksum is zero when what is summed stands for all ones. -/
theorem udp_check_eq_zero_iff (header : UdpHeader) (hsource : source.isV4 = true) :
    computeUdpHeaderChecksum header source destination = 0 ↔
      65535 ∣ (Wire.words (Wire.pseudoheader source.in_addr destination.in_addr 17 8 ++
        utils.serialize { header with check := 0 }.toBytes UdpHeader.size)).sum := by
  obtain ⟨r, hfolds, hcheck⟩ := ChecksumCalculator.computeChecksum_header { header with check := 0 }.toBytes
    UdpHeader.size (by decide) 17 UdpHeader.size.toUInt16 source destination
  have hpseudo : hostSum (Wire.pseudoheader source.in_addr destination.in_addr 17 UdpHeader.size.toUInt16.toNat) =
      hostSum source.in_addr + hostSum destination.in_addr + lengthSum 17 UdpHeader.size.toUInt16 := hostSum_pseudoheader
  rw [show UdpHeader.size.toUInt16.toNat = 8 from rfl] at hpseudo
  have hpos : 0 < lengthSum 17 UdpHeader.size.toUInt16 := by decide
  have hfolds : Folds 65536 (addressSum source destination + lengthSum 17 UdpHeader.size.toUInt16 +
      hostSum (utils.serialize { header with check := 0 }.toBytes UdpHeader.size)) r := by
    rwa [Nat.add_assoc (addressSum source destination)] at hfolds
  rw [addressSum, if_pos hsource] at hfolds
  have hones := hfolds.eq_max_iff (by decide)
  have hlt := hfolds.lt
  rw [Wire.dvd_words_iff, hostSum_append (by simp [Wire.pseudoheader]), hpseudo, ← UInt16.toNat_inj,
    computeUdpHeaderChecksum, hcheck]
  constructor
  · intro hzero
    have hr : r = 65535 := by
      have hzero : 65535 - r = 0 := hzero
      omega
    exact (hones.mp hr).2
  · intro hdvd
    have hr : r = 65535 := hones.mpr ⟨by omega, hdvd⟩
    rw [hr]
    rfl

theorem udp_checksum_eq_zero_iff (hsource : source.isV4 = true)
    (hbase : PacketBase.create source destination = .ok base) {dport : Int} (h : 0 ≤ dport) (h' : dport ≤ 65535)
    (memory : UdpHeader) (rand : Nat) :
    ∃ packet header, UdpPacket.create memory rand source destination dport = .ok packet ∧
      Wire.decodeUdp packet.serialize = some header ∧
      (header.checksum = 0 ↔ 65535 ∣ (Wire.words source.in_addr).sum + (Wire.words destination.in_addr).sum + 17 + 8 +
        (50000 + rand % 15001) + dport.toNat + 8) := by
  refine ⟨_, _, UdpPacket.create_v4 hbase hsource memory rand dport, decodeUdp_serialize _, ?_⟩
  refine toNat_htons_eq_zero.trans ((udp_check_eq_zero_iff _ hsource).trans ?_)
  rw [Wire.words_append (by simp [Wire.pseudoheader]), words_udp, Wire.pseudoheader, Wire.words_append (by simp),
    Wire.words_append (by simp), Wire.words_append (by simp)]
  have hzero : (htons 0).toNat = 0 := toNat_htons_eq_zero.mpr rfl
  have hprotocol : Wire.words [0, 17] = [17] := rfl
  have hlength : Wire.words [UInt8.ofNat (8 / 256), UInt8.ofNat 8] = [8] := rfl
  simp only [udpHeader, toNat_sourcePort, toNat_dest h h', toNat_len, hzero, hprotocol, hlength, List.sum_append,
    List.sum_cons, List.sum_nil]
  omega

/-- The check field of an IPv4 UDP probe is not zero, which would say that there is no checksum, exactly when the words
    that it covers do not add up to a multiple of 65535. -/
theorem udp_check_nonzero_iff (source destination : SocketAddress) (hsource : source.family = AF_INET)
    (hdestination : destination.family = AF_INET) (dport : Int) (h : 0 ≤ dport) (h' : dport ≤ 65535) (memory : UdpHeader)
    (rand : Nat) :
    ∃ packet header, UdpPacket.create memory rand source destination dport = .ok packet ∧
      Wire.decodeUdp packet.serialize = some header ∧
      (header.checksum ≠ 0 ↔ ¬65535 ∣ (Wire.words source.in_addr).sum + (Wire.words destination.in_addr).sum + 17 + 8 +
        (50000 + rand % 15001) + dport.toNat + 8) := by
  have hbase := PacketBase.create_of_family (hdestination.trans hsource.symm)
  obtain ⟨packet, header, hcreate, hdecode, hiff⟩ := udp_checksum_eq_zero_iff (SocketAddress.isV4_of_family hsource) hbase
    h h' memory rand
  exact ⟨packet, header, hcreate, hdecode, not_congr hiff⟩

theorem udp_check_nonzero_iff_resolver : ∃ packet header,
    UdpPacket.create ⟨0, 0, 0, 0⟩ 0 privateHost resolver 53 = .ok packet ∧
      Wire.decodeUdp packet.serialize = some header ∧ header.checksum ≠ 0 := by
  obtain ⟨packet, header, hcreate, hdecode, hiff⟩ := udp_check_nonzero_iff privateHost resolver (by decide) (by decide) 53
    (by decide) (by decide) ⟨0, 0, 0, 0⟩ 0
  exact ⟨packet, header, hcreate, hdecode, hiff.mpr (by decide)⟩

/-- From port 58775 of 10.0.0.2 to port 53 of 8.8.8.8 the words add up to 65535. -/
theorem udp_check_zero : ∃ packet header,
    UdpPacket.create ⟨0, 0, 0, 0⟩ 8775 privateHost resolver 53 = .ok packet ∧
      Wire.decodeUdp packet.serialize = some header ∧ header.checksum = 0 := by
  obtain ⟨packet, header, hcreate, hdecode, hiff⟩ := @udp_checksum_eq_zero_iff privateHost resolver _ (by decide)
    createBase_resolver 53 (by decide) (by decide) ⟨0, 0, 0, 0⟩ 8775
  exact ⟨packet, header, hcreate, hdecode, hiff.mpr (by decide)⟩

end Traceroute
