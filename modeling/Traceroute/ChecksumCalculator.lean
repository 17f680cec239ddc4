import Traceroute.HeaderTypes
import Traceroute.SocketAddress

/-! `ChecksumCalculator.cpp`. An `unsigned long` has 64 bits; everything is summed up in host byte order. -/

namespace Traceroute

def IPPROTO_ICMP : Int := 1
def IPPROTO_TCP : Int := 6
def IPPROTO_UDP : Int := 17
def IPPROTO_ICMPV6 : Int := 58

namespace ChecksumCalculator

/-- Adds the 16-bit words of the buffer to the sum; a trailing odd byte counts as a word with a zero byte. -/
def sumWords (addr : Bytes) : Nat → UInt64 → UInt64
  | 0, sum => sum
  | 1, sum => sum + ((addr.u16 0) &&& htons 0xFF00).toUInt64
  | size + 2, sum => sumWords (addr.advance 2) size (sum + (addr.u16 0).toUInt64)

theorem toNat_high (sum : UInt64) : (sum >>> 16).toNat = sum.toNat / 65536 := by
  rw [UInt64.toNat_shiftRight, Nat.shiftRight_eq_div_pow]
  rfl

theorem toNat_low (sum : UInt64) : (sum &&& (0xffff : UInt64)).toNat = sum.toNat % 65536 := by
  rw [UInt64.toNat_and]
  exact Nat.and_two_pow_sub_one_eq_mod _ 16

theorem toNat_low_add_high (sum : UInt64) :
    ((sum &&& (0xffff : UInt64)) + (sum >>> 16)).toNat = sum.toNat % 65536 + sum.toNat / 65536 := by
  have hlt := sum.toNat_lt
  rw [UInt64.toNat_add, toNat_low, toNat_high, Nat.mod_eq_of_lt (by omega)]

theorem fold_lt {sum : UInt64} (h : ¬sum >>> 16 = 0) : ((sum &&& (0xffff : UInt64)) + (sum >>> 16)).toNat < sum.toNat := by
  have hpos : 0 < sum.toNat / 65536 := by
    rw [← toNat_high]
    exact Nat.pos_of_ne_zero fun h0 => h (UInt64.toNat_inj.mp h0)
  rw [toNat_low_add_high]
  omega

/-- Adds the carries into the low 16 bits until there are none. -/
def fold (sum : UInt64) : UInt64 :=
  if sum >>> 16 = 0 then sum else fold ((sum &&& (0xffff : UInt64)) + (sum >>> 16))
termination_by sum.toNat
decreasing_by exact fold_lt ‹_›

def computeChecksum (addr : Bytes) (size : UInt32) (prevSum : UInt64) : UInt64 :=
  ~~~fold (sumWords addr size.toNat prevSum)

def computeICMPHeaderChecksum (header : IcmpHeader) : UInt16 :=
  (computeChecksum { header with checksum := 0 }.toBytes IcmpHeader.size.toUInt32 0).toUInt16

/-- The high and the low half of a 32-bit word. -/
def addHalves (sum : UInt64) (x : UInt32) : UInt64 := sum + ((x >>> 16) &&& 0xFFFF).toUInt64 + (x &&& 0xFFFF).toUInt64

/-- The IPv6 branch reads the source address twice. -/
def computePseudoheaderChecksum (protocol headerlen : UInt16) (source destination : SocketAddress) : UInt64 :=
  let sum :=
    if source.isV4 then addHalves (addHalves 0 source.s_addr) destination.s_addr
    else
      let src := (List.range 4).foldl (fun sum i => addHalves sum (source.u6_addr32 i)) 0
      (List.range 4).foldl (fun sum i => addHalves sum (source.u6_addr32 i)) src
  sum + (htons protocol).toUInt64 + (htons headerlen).toUInt64

def computeTCPHeaderChecksum (tcpheader : TcpHeader) (source destination : SocketAddress) : UInt16 :=
  let sum := computePseudoheaderChecksum 6 TcpHeader.size.toUInt16 source destination
  (computeChecksum { tcpheader with check := 0 }.toBytes TcpHeader.size.toUInt32 sum).toUInt16

def computeUdpHeaderChecksum (udpheader : UdpHeader) (source destination : SocketAddress) : UInt16 :=
  let sum := computePseudoheaderChecksum 17 UdpHeader.size.toUInt16 source destination
  (computeChecksum { udpheader with check := 0 }.toBytes UdpHeader.size.toUInt32 sum).toUInt16

end ChecksumCalculator
end Traceroute
