import Traceroute.Lib.OnesComplement
import Traceroute.SocketAddress

/-! What a receiver reads in the bytes of a probe: the headers as RFC 793, RFC 768, RFC 792 and RFC 4443 lay them out,
    in network byte order, and the checksum that it verifies, with the pseudo-header of RFC 793 and RFC 768 or that of
    RFC 2460. -/

namespace Traceroute

namespace Wire

/-! ### Fields -/

def octet (l : List UInt8) (o : Nat) : Nat := (l.getD o 0).toNat

def octets2 (l : List UInt8) (o : Nat) : Nat := 256 * octet l o + octet l (o + 1)

def octets4 (l : List UInt8) (o : Nat) : Nat := 65536 * octets2 l o + octets2 l (o + 2)

/-! ### Headers -/

/-- `controlBits` are URG, ACK, PSH, RST, SYN and FIN. -/
structure Tcp where
  sourcePort : Nat
  destinationPort : Nat
  sequenceNumber : Nat
  acknowledgmentNumber : Nat
  dataOffset : Nat
  reserved : Nat
  controlBits : Nat
  window : Nat
  checksum : Nat
  urgentPointer : Nat
  deriving DecidableEq

structure Udp where
  sourcePort : Nat
  destinationPort : Nat
  length : Nat
  checksum : Nat
  deriving DecidableEq

/-- An echo message, of ICMP or of ICMPv6. -/
structure Echo where
  type : Nat
  code : Nat
  checksum : Nat
  identifier : Nat
  sequenceNumber : Nat
  deriving DecidableEq

/-- The bytes of one header without options and nothing else. -/
def decodeTcp (l : List UInt8) : Option Tcp :=
  if l.length = 20 then
    some ⟨octets2 l 0, octets2 l 2, octets4 l 4, octets4 l 8, octet l 12 / 16, octet l 12 % 16 * 4 + octet l 13 / 64,
      octet l 13 % 64, octets2 l 14, octets2 l 16, octets2 l 18⟩
  else none

def decodeUdp (l : List UInt8) : Option Udp :=
  if l.length = 8 then some ⟨octets2 l 0, octets2 l 2, octets2 l 4, octets2 l 6⟩ else none

def decodeEcho (l : List UInt8) : Option Echo :=
  if l.length = 8 then some ⟨octet l 0, octet l 1, octets2 l 2, octets2 l 4, octets2 l 6⟩ else none

/-! ### The checksum -/

/-- The 16-bit words of the bytes. -/
def words (l : List UInt8) : List Nat := OnesComplement.bigEndian 256 (l.map UInt8.toNat)

/-- A receiver accepts the checksum in the bytes. -/
def Verifies (l : List UInt8) : Prop := OnesComplement.sum 65536 (words l) = 0xFFFF

instance decidableVerifies (l : List UInt8) : Decidable (Verifies l) := inferInstanceAs (Decidable (_ = _))

/-- The pseudo-header of RFC 793 and RFC 768. -/
def pseudoheader (source destination : List UInt8) (protocol : UInt8) (length : Nat) : List UInt8 :=
  source ++ destination ++ [0, protocol] ++ [.ofNat (length / 256), .ofNat length]

/-- The pseudo-header of RFC 2460. -/
def pseudoheader6 (source destination : List UInt8) (nextHeader : UInt8) (length : Nat) : List UInt8 :=
  source ++ destination ++ [.ofNat (length / 16777216), .ofNat (length / 65536), .ofNat (length / 256), .ofNat length] ++
    [0, 0, 0, nextHeader]

end Wire

/-- The bytes of `sin_addr`. -/
def SocketAddress.in_addr (a : SocketAddress) : List UInt8 := (List.range 4).map fun i => a.sockaddrP (4 + i)

/-- The bytes of `sin6_addr`. -/
def SocketAddress.in6_addr (a : SocketAddress) : List UInt8 := (List.range 16).map fun i => a.sockaddrP (8 + i)

@[simp] theorem SocketAddress.length_in_addr (a : SocketAddress) : a.in_addr.length = 4 := rfl

@[simp] theorem SocketAddress.length_in6_addr (a : SocketAddress) : a.in6_addr.length = 16 := rfl

end Traceroute
