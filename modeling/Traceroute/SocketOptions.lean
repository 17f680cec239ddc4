import Traceroute.Sending
import Traceroute.Wire

/-! What is documented of a raw IPv6 socket: by its options it delivers ICMPv6 messages, and puts a checksum into what is
    sent. -/

namespace Traceroute

/-! ### Calls that still count -/

/-- After `call` the other one counts no more: the descriptor is closed, or has the option or the address of `call`. -/
def SystemCall.undoes : SystemCall → SystemCall → Bool
  | .close fd, .setsockopt fd' _ => fd = fd'
  | .close fd, .bind fd' _ _ => fd = fd'
  | .setsockopt fd (.icmp6Filter _), .setsockopt fd' (.icmp6Filter _) => fd = fd'
  | .setsockopt fd (.ipv6Checksum _), .setsockopt fd' (.ipv6Checksum _) => fd = fd'
  | .bind fd _ _, .bind fd' _ _ => fd = fd'
  | _, _ => false

/-- The call has been made, and none after it undoes it. -/
def SystemCall.Lasts (call : SystemCall) (calls : List SystemCall) : Prop :=
  ∃ before after, calls = before ++ call :: after ∧ ∀ call' ∈ after, call'.undoes call = false

section
variable {call : SystemCall} {calls after : List SystemCall}

theorem SystemCall.lasts_concat : call.Lasts (calls ++ [call]) := ⟨calls, [], rfl, by simp⟩

theorem SystemCall.Lasts.append (h : call.Lasts calls) (hafter : ∀ call' ∈ after, call'.undoes call = false) :
    call.Lasts (calls ++ after) := by
  obtain ⟨before, after', rfl, hkept⟩ := h
  refine ⟨before, after' ++ after, by simp, fun call' hcall' => ?_⟩
  rcases List.mem_append.mp hcall' with hcall' | hcall'
  · exact hkept call' hcall'
  · exact hafter call' hcall'

end

/-! ### Checksums -/

namespace Wire

/-- The bytes with the two octets of `x` at offset `o`. -/
def putOctets2 (l : List UInt8) (o x : Nat) : List UInt8 := l.take o ++ ([.ofNat (x / 256), .ofNat x] ++ l.drop (o + 2))

/-- The complement of the sum. -/
def checksum (l : List UInt8) : Nat := 0xFFFF - OnesComplement.sum 65536 (words l)

/-- `x` is the checksum of the bytes. One that is 0 may be sent as 0xFFFF, as in UDP, where 0 says that there is none. -/
def IsChecksum (l : List UInt8) (x : Nat) : Prop := x = checksum l ∨ checksum l = 0 ∧ x = 0xFFFF

end Wire

/-- Where the checksum of what is sent goes: in ICMPv6 always to its field, elsewhere to the offset that has been set. -/
def Socket.checksumAt (s : Socket) (calls : List SystemCall) (o : Nat) : Prop :=
  if s.protocol = IPPROTO_ICMPV6 then o = 2 else (SystemCall.setsockopt s.fd (.ipv6Checksum o)).Lasts calls

/-! ### The sockets -/

/-- `::`, the address that leaves the choice to the host. -/
def SocketAddress.Unspecified (a : SocketAddress) : Prop := a.in6_addr = List.replicate 16 0

/-- The raw IPv6 sockets of a host, after some calls: whether one delivers a message, and what leaves when one sends to an
    address. Of the messages, those of the types in the filter are delivered. Data that has left the two octets of its
    checksum at 0 leaves with the checksum there, over the pseudo-header with the address that the socket is bound to. -/
structure RawSockets6 where
  delivers : List SystemCall → Int → Bytes → Bool
  leaves : List SystemCall → Socket → SocketAddress → List UInt8 → List UInt8
  filtered : ∀ {calls fd pass}, (SystemCall.setsockopt fd (.icmp6Filter pass)).Lasts calls →
    ∀ message, delivers calls fd message = pass.contains (message 0)
  filled : ∀ {calls : List SystemCall} {s : Socket} {source : SocketAddress} {o : Nat},
    (SystemCall.bind s.fd source source.size).Lasts calls → ¬source.Unspecified → s.checksumAt calls o →
    ∀ destination data, o % 2 = 0 → o + 2 ≤ data.length → Wire.octets2 data o = 0 →
      ∃ x, leaves calls s destination data = Wire.putOctets2 data o x ∧
        Wire.IsChecksum (Wire.pseudoheader6 source.in6_addr destination.in6_addr (.ofNat s.protocol.toNat) data.length ++ data) x

end Traceroute
