import Traceroute.ChecksumCalculator
import Traceroute.Probe

/-! `Packet.cpp`, `IcmpPacket.cpp`, `TcpPacket.cpp` and `UdpPacket.cpp`: the probes and how they are built. The
    values that `rand` returns are arguments, and so is `memory`, what the header's place in memory held before. -/

namespace Traceroute

/-- The base class of the packets: a source and a destination of one family. -/
structure PacketBase where
  mSourceAddress : SocketAddress
  mDestinationAddress : SocketAddress
  sameFamily : mDestinationAddress.family = mSourceAddress.family
  deriving DecidableEq

def PacketBase.create (source destination : SocketAddress) : Except Exception PacketBase :=
  if h : destination.family = source.family then .ok ⟨source, destination, h⟩
  else .error (.runtime_error "source address family doesnt match destination")

structure IcmpPacket extends PacketBase where
  mIcmpHeader : IcmpHeader
  deriving DecidableEq

structure TcpPacket extends PacketBase where
  mTcpHeader : TcpHeader
  deriving DecidableEq

structure UdpPacket extends PacketBase where
  mUdpHeader : UdpHeader
  deriving DecidableEq

def ICMP_ECHO : UInt8 := 8
def ICMP6_ECHO_REQUEST : UInt8 := 128

def IcmpPacket.CreateIcmp4Packet (memory : IcmpHeader) (rand : Nat) (source destination : SocketAddress) :
    Except Exception IcmpPacket := do
  let base ← PacketBase.create source destination
  let header : IcmpHeader :=
    { memory with
      id := htons (.ofNat (rand % 65536))
      type := ICMP_ECHO
      sequence := 0
      code := 0 }
  return ⟨base, { header with checksum := ChecksumCalculator.computeICMPHeaderChecksum header }⟩

/-- The checksum is left to the kernel. -/
def IcmpPacket.CreateIcmp6Packet (memory : IcmpHeader) (rand : Nat) (source destination : SocketAddress) :
    Except Exception IcmpPacket := do
  let base ← PacketBase.create source destination
  return ⟨base,
    { memory with
      type := ICMP6_ECHO_REQUEST
      id := htons (.ofNat (rand % 65536))
      sequence := 0
      code := 0
      checksum := 0 }⟩

/-- `urg_ptr` is not initialised. -/
def TcpPacket.create (memory : TcpHeader) (rand₁ rand₂ : Nat) (source destination : SocketAddress) (dport : Int) :
    Except Exception TcpPacket := do
  let base ← PacketBase.create source destination
  let header : TcpHeader :=
    { memory with
      source := htons (.ofNat (50000 + rand₁ % 15001))
      dest := htons (.ofInt dport)
      seq := htonl (.ofNat (rand₂ % 65001))
      ack_seq := 0
      window := htons 5760
      th_x2 := 0
      th_off := 5
      th_flags := 0x02
      check := 0 }
  return ⟨base, if source.isV4 then
    { header with check := ChecksumCalculator.computeTCPHeaderChecksum header source destination } else header⟩

def UdpPacket.create (memory : UdpHeader) (rand : Nat) (source destination : SocketAddress) (dport : Int) :
    Except Exception UdpPacket := do
  let base ← PacketBase.create source destination
  let header : UdpHeader :=
    { memory with
      source := htons (.ofNat (50000 + rand % 15001))
      dest := htons (.ofInt dport)
      len := htons UdpHeader.size.toUInt16
      check := 0 }
  return ⟨base, if source.isV4 then
    { header with check := ChecksumCalculator.computeUdpHeaderChecksum header source destination } else header⟩

/-- `Serialize.hpp`: the bytes of an object. -/
def utils.serialize (pod : Bytes) (size : UInt64) : List UInt8 := (List.range size.toNat).map pod

theorem getD_serialize (pod : Bytes) (size : UInt64) {i : Nat} (hi : i < size.toNat) :
    (utils.serialize pod size).getD i 0 = pod i := by
  rw [utils.serialize, List.getD_eq_getElem?_getD, List.getElem?_map, List.getElem?_range hi]
  rfl

def IcmpPacket.serialize (packet : IcmpPacket) : List UInt8 :=
  utils.serialize packet.mIcmpHeader.toBytes IcmpHeader.size

def TcpPacket.serialize (packet : TcpPacket) : List UInt8 := utils.serialize packet.mTcpHeader.toBytes TcpHeader.size

def UdpPacket.serialize (packet : UdpPacket) : List UInt8 := utils.serialize packet.mUdpHeader.toBytes UdpHeader.size

end Traceroute
