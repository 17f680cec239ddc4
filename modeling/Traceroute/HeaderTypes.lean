import Traceroute.Bytes

/-! `HeaderTypes.hpp`: the headers, as a little-endian host lays them out. A bit-field of a byte takes the low
    bits first. -/

namespace Traceroute

/-- The first byte of an IP header, `IpHeaderFirstByte` in `common.cpp`. -/
structure IpHeaderFirstByte where
  pad : BitVec 4
  version : BitVec 4
  deriving DecidableEq

structure IcmpHeader where
  type : UInt8
  code : UInt8
  checksum : UInt16
  id : UInt16
  sequence : UInt16
  deriving DecidableEq

structure TcpHeader where
  source : UInt16
  dest : UInt16
  seq : UInt32
  ack_seq : UInt32
  th_x2 : BitVec 4
  th_off : BitVec 4
  th_flags : UInt8
  window : UInt16
  check : UInt16
  urg_ptr : UInt16
  deriving DecidableEq

structure UdpHeader where
  source : UInt16
  dest : UInt16
  len : UInt16
  check : UInt16
  deriving DecidableEq

/-! ### `sizeof` -/

def IpHeaderFirstByte.size : UInt64 := 1
def Ipv6Header.size : UInt64 := 40
def IcmpHeader.size : UInt64 := 8
def TcpHeader.size : UInt64 := 20
def UdpHeader.size : UInt64 := 8

/-! ### `reinterpret_cast` -/

/-- The low and the high half of a byte. -/
def lowBits (x : UInt8) : BitVec 4 := x.toBitVec.extractLsb' 0 4
def highBits (x : UInt8) : BitVec 4 := x.toBitVec.extractLsb' 4 4

def toIpHeaderFirstByte (p : Bytes) : IpHeaderFirstByte := ⟨lowBits (p 0), highBits (p 0)⟩

/-- `ihl` of an `Ipv4Header`. -/
def ihl (p : Bytes) : BitVec 4 := lowBits (p 0)

def toIcmpHeaderT (p : Bytes) : IcmpHeader := ⟨p 0, p 1, p.u16 2, p.u16 4, p.u16 6⟩

def toTcpHeaderT (p : Bytes) : TcpHeader :=
  ⟨p.u16 0, p.u16 2, p.u32 4, p.u32 8, lowBits (p 12), highBits (p 12), p 13, p.u16 14, p.u16 16, p.u16 18⟩

/-! ### The bytes of a header in memory -/

def IcmpHeader.toBytes (h : IcmpHeader) : Bytes := fun i =>
  if i < 1 then h.type
  else if i < 2 then h.code
  else if i < 4 then Bytes.ofU16 h.checksum (i - 2)
  else if i < 6 then Bytes.ofU16 h.id (i - 4)
  else Bytes.ofU16 h.sequence (i - 6)

def TcpHeader.toBytes (h : TcpHeader) : Bytes := fun i =>
  if i < 2 then Bytes.ofU16 h.source i
  else if i < 4 then Bytes.ofU16 h.dest (i - 2)
  else if i < 8 then Bytes.ofU32 h.seq (i - 4)
  else if i < 12 then Bytes.ofU32 h.ack_seq (i - 8)
  else if i < 13 then .ofBitVec (h.th_off ++ h.th_x2)
  else if i < 14 then h.th_flags
  else if i < 16 then Bytes.ofU16 h.window (i - 14)
  else if i < 18 then Bytes.ofU16 h.check (i - 16)
  else Bytes.ofU16 h.urg_ptr (i - 18)

def UdpHeader.toBytes (h : UdpHeader) : Bytes := fun i =>
  if i < 2 then Bytes.ofU16 h.source i
  else if i < 4 then Bytes.ofU16 h.dest (i - 2)
  else if i < 6 then Bytes.ofU16 h.len (i - 4)
  else Bytes.ofU16 h.check (i - 6)

end Traceroute
