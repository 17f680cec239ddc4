import Traceroute.Theorems.Validators

/-! Well-formed responses, as the raw sockets deliver them, and the headers that they quote. An IPv4 socket delivers
    the IP header in front of the message, an IPv6 socket does not. -/

namespace Traceroute

/-- The verdict tells whether `P` holds; nothing is thrown. -/
def Decides (verdict : Except Exception Bool) (P : Prop) : Prop :=
  (P → verdict = .ok true) ∧ (¬P → verdict = .ok false)

section
variable {verdict : Except Exception Bool} {P Q : Prop}

theorem decides_ok_iff {b : Bool} : Decides (.ok b) P ↔ (b = true ↔ P) := by
  cases b <;> by_cases hP : P <;> simp [Decides, hP]

/-- A verdict that tells whether `P` holds tells nothing else. -/
theorem Decides.iff (h : Decides verdict P) : Decides verdict Q ↔ (P ↔ Q) := by
  by_cases hP : P
  · rw [h.1 hP, decides_ok_iff]
    simp [hP]
  · rw [h.2 hP, decides_ok_iff]
    simp [hP]

theorem Decides.unique {verdict' : Except Exception Bool} (h : Decides verdict P) (h' : Decides verdict' Q) (hPQ : P ↔ Q) :
    verdict = verdict' := by
  by_cases hP : P
  · rw [h.1 hP, h'.1 (hPQ.mp hP)]
  · rw [h.2 hP, h'.2 (mt hPQ.mpr hP)]

end

inductive Family where
  | v4
  | v6
  deriving DecidableEq

namespace Family

/-- The protocol number of the family's ICMP. -/
def icmp : Family → Int
  | v4 => IPPROTO_ICMP
  | v6 => IPPROTO_ICMPV6

def echoRequest : Family → UInt8
  | v4 => ICMP_ECHO
  | v6 => ICMP6_ECHO_REQUEST

def echoReply : Family → UInt8
  | v4 => ICMP_ECHOREPLY
  | v6 => ICMP6_ECHO_REPLY

def timeExceeded : Family → UInt8
  | v4 => ICMP_TIME_EXCEEDED
  | v6 => ICMP6_TIME_EXCEEDED

/-- The messages that quote the packet that they are about: Destination Unreachable, Source Quench, Redirect, Time
    Exceeded and Parameter Problem of ICMPv4; of ICMPv6 those that the socket filter lets pass. -/
def errors : Family → List UInt8
  | v4 => [ICMP_DEST_UNREACH, 4, 5, ICMP_TIME_EXCEEDED, 12]
  | v6 => [ICMP6_DST_UNREACH, ICMP6_TIME_EXCEEDED]

/-- An IP header of the family; its length is `ipHeaderSize`. -/
def IsHeader (p : Bytes) : Family → Prop
  | v4 => (toIpHeaderFirstByte p).version = 4 ∧ 5 ≤ (ihl p).toNat
  | v6 => (toIpHeaderFirstByte p).version = 6

/-- The number of bytes that a socket delivers in front of the message. -/
def outer (p : Bytes) : Family → Nat
  | v4 => 4 * (ihl p).toNat
  | v6 => 0

/-- The protocol of what follows an IP header. -/
def protocol (p : Bytes) : Family → UInt8
  | v4 => p 9
  | v6 => p 6

/-- The message behind the header that is delivered with it. -/
def message (f : Family) (p : Bytes) : Bytes := p.advance (f.outer p)

end Family

/-- What follows the IP header that an ICMP error quotes. -/
def quotedHeader (m : Bytes) : Bytes := m.advance (8 + ipHeaderSize (m.advance 8))

/-- An ICMP response. Behind an IPv4 header comes any ICMPv4 message; an IPv6 socket delivers the messages that its
    filter lets pass. An error quotes an IP header and at least 8 bytes of what follows it. -/
structure IcmpResponse (f : Family) (responseInfo : ResponseInfo) (p : Bytes) : Prop where
  protocol : responseInfo.protocol = f.icmp
  client : responseInfo.client.isV4 = decide (f = .v4)
  delivered : f = .v4 → f.IsHeader p
  passed : f = .v6 → p 0 = ICMP6_ECHO_REPLY ∨ p 0 = ICMP6_TIME_EXCEEDED ∨ p 0 = ICMP6_DST_UNREACH
  header : f.outer p + 8 ≤ responseInfo.size.toNat
  quote : f.message p 0 ∈ f.errors → f.IsHeader ((f.message p).advance 8) ∧
    f.outer p + 8 + ipHeaderSize ((f.message p).advance 8) + 8 ≤ responseInfo.size.toNat

/-- A TCP segment behind an IPv4 header. -/
structure TcpResponseV4 (responseInfo : ResponseInfo) (p : Bytes) : Prop where
  protocol : responseInfo.protocol = IPPROTO_TCP
  client : responseInfo.client.isV4 = true
  delivered : Family.v4.IsHeader p
  header : Family.v4.outer p + 20 ≤ responseInfo.size.toNat

/-- A TCP segment as an IPv6 socket delivers it. -/
structure TcpResponseV6 (responseInfo : ResponseInfo) : Prop where
  protocol : responseInfo.protocol = IPPROTO_TCP
  client : responseInfo.client.isV4 = false
  header : 20 ≤ responseInfo.size.toNat

/-! ### The validators find the message and the quoted header -/

variable {f : Family} {responseInfo : ResponseInfo} {p : Bytes}

theorem Family.IsHeader.announcesIp (h : f.IsHeader p) : announcesIp p = true := by
  cases f with
  | v4 => simp [Traceroute.announcesIp, h.1]
  | v6 => simp [Traceroute.announcesIp, show (toIpHeaderFirstByte p).version = 6 from h]

theorem ipHeaderSize_of_v4 (h : Family.v4.IsHeader p) : ipHeaderSize p = Family.v4.outer p := if_pos h.1

/-- The first byte of an IPv4 header without options. -/
theorem isHeader_of_byte (h : p 0 = 0x45) : Family.v4.IsHeader p ∧ Family.v4.outer p = 20 := by
  refine ⟨⟨show highBits (p 0) = 4 from ?_, show 5 ≤ (lowBits (p 0)).toNat from ?_⟩,
    show 4 * (lowBits (p 0)).toNat = 20 from ?_⟩ <;> rw [h] <;> decide

theorem IcmpResponse.ipHeaderSize (h : IcmpResponse f responseInfo p) : ipHeaderSize p = f.outer p := by
  cases f with
  | v4 => exact ipHeaderSize_of_v4 (h.delivered rfl)
  | v6 =>
    -- None of the types that pass looks like the first byte of an IP header.
    refine ipHeaderSize_of_not_announcesIp ?_
    rcases h.passed rfl with htype | htype | htype <;>
      exact announcesIp_congr (q := fun _ => p 0) rfl |>.trans (by rw [htype]; decide)

end Traceroute
