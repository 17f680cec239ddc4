import Traceroute.Lib.Window
import Traceroute.ResponseValidators

/-! What the validators compute: the length of the outer header, the size that is left, the ICMP type and the
    one field that is compared. -/

namespace Traceroute

/-- The first byte announces an IPv4 or an IPv6 header. -/
def announcesIp (p : Bytes) : Bool :=
  (toIpHeaderFirstByte p).version = 4 || (toIpHeaderFirstByte p).version = 6

/-- The length of the IP header that the first byte announces, 0 if it announces none. -/
def ipHeaderSize (p : Bytes) : Nat :=
  if (toIpHeaderFirstByte p).version = 4 then 4 * (ihl p).toNat
  else if (toIpHeaderFirstByte p).version = 6 then 40
  else 0

def noIpHeader : Exception := .runtime_error "Response does not contain an ipHeader"

def invalidIpHeader : Exception := .runtime_error "Response does not contain valid ipHeader"

variable {p q : Bytes}

theorem ipHeaderSize_le (p : Bytes) : ipHeaderSize p ≤ 60 := by
  unfold ipHeaderSize
  have := (ihl p).isLt
  split
  · omega
  · split <;> omega

/-- Both are read from the first byte. -/
theorem announcesIp_congr (h : p 0 = q 0) : announcesIp p = announcesIp q := by
  have hfb : toIpHeaderFirstByte p = toIpHeaderFirstByte q := by rw [toIpHeaderFirstByte, toIpHeaderFirstByte, h]
  rw [announcesIp, announcesIp, hfb]

theorem ipHeaderSize_congr (h : p 0 = q 0) : ipHeaderSize p = ipHeaderSize q := by
  have hfb : toIpHeaderFirstByte p = toIpHeaderFirstByte q := by rw [toIpHeaderFirstByte, toIpHeaderFirstByte, h]
  rw [ipHeaderSize, ipHeaderSize, hfb, ihl, ihl, h]

theorem ipHeaderSize_of_not_announcesIp (h : announcesIp p = false) : ipHeaderSize p = 0 := by
  simp only [announcesIp, Bool.or_eq_false_iff, decide_eq_false_iff_not] at h
  rw [ipHeaderSize, if_neg h.1, if_neg h.2]

theorem getIpHeaderSize_eq (p : Bytes) : getIpHeaderSize p =
    if announcesIp p then .ok (.ofNat (ipHeaderSize p)) else .error invalidIpHeader := by
  unfold getIpHeaderSize announcesIp ipHeaderSize
  by_cases h4 : (toIpHeaderFirstByte p).version = 4
  · rw [if_pos h4, if_pos h4, decide_eq_true h4, Bool.true_or, if_pos rfl, Nat.shiftLeft_eq, Nat.mul_comm]
  · rw [if_neg h4, if_neg h4, decide_eq_false h4, Bool.false_or]
    by_cases h6 : (toIpHeaderFirstByte p).version = 6
    · rw [if_pos h6, if_pos h6, decide_eq_true h6, if_pos rfl]
      rfl
    · rw [if_neg h6, decide_eq_false h6, if_neg Bool.false_ne_true]
      rfl

theorem toNat_ipHeaderSize (p : Bytes) : (UInt64.ofNat (ipHeaderSize p)).toNat = ipHeaderSize p := by
  have := ipHeaderSize_le p
  rw [UInt64.toNat_ofNat', Nat.mod_eq_of_lt (by omega)]

/-! ### `ResponseValidator` -/

/-- The size left behind the outer header, as the unsigned difference that it is: it wraps around when the header is
    longer than the datagram. -/
theorem toNat_size_sub {n : UInt64} {h : Nat} (hh : h ≤ 60) :
    (n - .ofNat h).toNat = if n.toNat < h then 2 ^ 64 - h + n.toNat else n.toNat - h := by
  have hn := n.toNat_lt
  rw [UInt64.toNat_sub, UInt64.toNat_ofNat', Nat.mod_eq_of_lt (by omega : h < 2 ^ 64)]
  split
  · exact Nat.mod_eq_of_lt (by omega)
  · rw [show 2 ^ 64 - h + n.toNat = n.toNat - h + 2 ^ 64 by omega, Nat.add_mod_right, Nat.mod_eq_of_lt (by omega)]

theorem le_size_sub {n : UInt64} {m : UInt64} {h : Nat} (hh : h ≤ 60) (hm : m.toNat ≤ 28) :
    m ≤ n - .ofNat h ↔ n.toNat < h ∨ h + m.toNat ≤ n.toNat := by
  rw [UInt64.le_iff_toNat_le, toNat_size_sub hh]
  split <;> omega

/-- A validator whose size check is a minimum and whose field check does not look at the size. -/
structure ResponseValidator.Regular (v : ResponseValidator) (minimum : Nat) : Prop where
  small : minimum ≤ 28
  size : ∀ n m : UInt64, m.toNat = minimum → v.validateSize n = decide (m ≤ n)
  fields : ∀ responseInfo n response,
    v.validateFields { responseInfo with size := n } response = v.validateFields responseInfo response

theorem isIpHeaderPresent_eq (responseInfo : ResponseInfo) (p : Bytes) : isIpHeaderPresent responseInfo p =
    if responseInfo.size.toNat = 0 then .error noIpHeader else .ok (announcesIp p) := by
  have hzero : responseInfo.size < IpHeaderFirstByte.size ↔ responseInfo.size.toNat = 0 := by
    rw [UInt64.lt_iff_toNat_lt, show IpHeaderFirstByte.size.toNat = 1 from rfl]
    omega
  simp only [isIpHeaderPresent, hzero]
  rfl

theorem skipIpHeader_eq (responseInfo : ResponseInfo) (h : announcesIp p = true) : skipIpHeader responseInfo p =
    .ok ({ responseInfo with size := responseInfo.size - .ofNat (ipHeaderSize p) }, p.advance (ipHeaderSize p)) := by
  rw [skipIpHeader, getIpHeaderSize_eq, if_pos h]
  simp only [bind, Except.bind, pure, Except.pure, toNat_ipHeaderSize]

/-- Whether or not there is an outer header, what is behind it is validated. -/
theorem ResponseValidator.isValid_eq (v : ResponseValidator) (responseInfo : ResponseInfo) (p : Bytes) :
    v.isValid responseInfo p =
      if responseInfo.size.toNat = 0 then .error noIpHeader
      else v.validateAll { responseInfo with size := responseInfo.size - .ofNat (ipHeaderSize p) }
        (p.advance (ipHeaderSize p)) := by
  rw [ResponseValidator.isValid, isIpHeaderPresent_eq]
  split
  · rfl
  · cases h : announcesIp p with
    | true =>
      simp only [bind, Except.bind, skipIpHeader_eq responseInfo h, if_true]
    | false =>
      simp only [bind, Except.bind, ipHeaderSize_of_not_announcesIp h, Bytes.advance_zero, Bool.false_eq_true, if_false]
      simp

theorem ResponseValidator.Regular.isValid {v : ResponseValidator} {minimum : Nat} (hv : v.Regular minimum)
    (responseInfo : ResponseInfo) (p : Bytes) : v.isValid responseInfo p =
      if responseInfo.size.toNat = 0 then .error noIpHeader
      else if v.validateProtocol responseInfo.protocol = true ∧
          (responseInfo.size.toNat < ipHeaderSize p ∨ ipHeaderSize p + minimum ≤ responseInfo.size.toNat) then
        v.validateFields responseInfo (p.advance (ipHeaderSize p))
      else .ok false := by
  have hm : (UInt64.ofNat minimum).toNat = minimum := by
    have := hv.small
    rw [UInt64.toNat_ofNat', Nat.mod_eq_of_lt (by omega)]
  have hsize := le_size_sub (n := responseInfo.size) (ipHeaderSize_le p) (hm ▸ hv.small)
  rw [hm] at hsize
  simp only [v.isValid_eq, ResponseValidator.validateAll, hv.fields, hv.size _ _ hm, hsize, Bool.and_eq_true,
    decide_eq_true_eq]

/-! ### The quoted header -/

/-- Compares the `w` bytes at offset 4 of the header behind a quoted IP header with `e`. -/
def quotedField (w : Nat) (e : Bytes) (p : Bytes) : Except Exception Bool :=
  if announcesIp p then .ok (fieldHolds (ipHeaderSize p + 4) w e p) else .error invalidIpHeader

theorem u16_beq {x : UInt16} {o : Nat} : (p.u16 o == x) = fieldHolds o 2 (Bytes.ofU16 x) p := by
  rw [Bool.eq_iff_iff, beq_iff_eq, fieldHolds, decide_eq_true_eq]
  exact Bytes.u16_eq_iff_ofU16

theorem u32_beq {x : UInt32} {o : Nat} : (p.u32 o == x) = fieldHolds o 4 (Bytes.ofU32 x) p := by
  rw [Bool.eq_iff_iff, beq_iff_eq, fieldHolds, decide_eq_true_eq]
  exact Bytes.u32_eq_iff_ofU32

theorem fieldHolds_advance {n pos w : Nat} {e : Bytes} : fieldHolds pos w e (p.advance n) = fieldHolds (n + pos) w e p := by
  rw [Bool.eq_iff_iff, fieldHolds_eq_true, fieldHolds_eq_true]
  simp only [Bytes.advance_apply, Nat.add_assoc]

/-- What is read behind the quoted header that `getIpHeaderSize` skips. -/
theorem quotedField_of_advance {w : Nat} {e : Bytes} {f : Bytes → Bool}
    (hf : ∀ p, f p = fieldHolds 4 w e p) (p : Bytes) :
    (do return f (p.advance (← getIpHeaderSize p).toNat) : Except Exception Bool) = quotedField w e p := by
  rw [getIpHeaderSize_eq, quotedField]
  split
  · simp only [bind, Except.bind, pure, Except.pure, toNat_ipHeaderSize, hf, fieldHolds_advance]
  · rfl

theorem icmp_validateTimeExceeded_eq (packet : IcmpPacket) (p : Bytes) :
    IcmpResponseValidator.validateTimeExceeded p packet =
      quotedField 2 (Bytes.ofU16 packet.mIcmpHeader.id) (p.advance 8) :=
  quotedField_of_advance (f := fun p => validateSession p packet.mIcmpHeader) (fun _ => u16_beq) (p.advance 8)

theorem tcp_validateTimeExceeded_eq (packet : TcpPacket) (p : Bytes) :
    IcmpToTcpResponseValidator.validateTimeExceeded p packet =
      quotedField 4 (Bytes.ofU32 packet.mTcpHeader.seq) (p.advance 8) := by
  rw [IcmpToTcpResponseValidator.validateTimeExceeded, IcmpToTcpResponseValidator.advanceToTcpHeader, bind_assoc]
  simp only [pure_bind]
  exact quotedField_of_advance (f := fun p => validateSameSequence p packet.mTcpHeader) (fun _ => u32_beq) (p.advance 8)

theorem validateDestUnreach_eq (packet : TcpPacket) (p : Bytes) (client : SocketAddress) :
    IcmpToTcpResponseValidator.validateDestUnreach p packet client =
      if client.operatorEq packet.mDestinationAddress then
        quotedField 4 (Bytes.ofU32 packet.mTcpHeader.seq) (p.advance 8)
      else .ok false := by
  rw [IcmpToTcpResponseValidator.validateDestUnreach]
  split
  · exact tcp_validateTimeExceeded_eq packet p
  · rfl

end Traceroute
