import Traceroute.Theorems.Queries

/-! Datagrams that end before the headers that they announce. The length of the outer header is subtracted from the
    received size without a check; when the datagram is shorter, the difference wraps around and passes for a size. -/

namespace Traceroute

variable {probe : ProbePacket} {responseInfo : ResponseInfo} {p : Bytes}

/-- What is refused: a datagram that is too short for the outer header and what `validateSize` asks for behind it. -/
def RefusesTruncated (probe : ProbePacket) (responseInfo : ResponseInfo) (p : Bytes) : Prop :=
  responseInfo.size.toNat < ipHeaderSize p + probe.minimum responseInfo.protocol →
    probe.toPacket.isValid responseInfo p = .ok false

/-- The size that `skipIpHeader` hands to `validateSize` is the number of bytes behind the outer header. -/
def HandsSizeLeft (probe : ProbePacket) (responseInfo : ResponseInfo) (p : Bytes) : Prop :=
  probe.listens responseInfo.protocol = true → ∀ newResponseInfo newResponse,
    skipIpHeader responseInfo p = .ok (newResponseInfo, newResponse) →
    newResponseInfo.size.toNat = responseInfo.size.toNat - ipHeaderSize p

/-- The difference is the number of bytes left exactly when it does not wrap around. -/
theorem toNat_size_sub_eq_iff (n : UInt64) :
    (n - .ofNat (ipHeaderSize p)).toNat = n.toNat - ipHeaderSize p ↔ ipHeaderSize p ≤ n.toNat := by
  have hle := ipHeaderSize_le p
  rw [toNat_size_sub hle]
  split <;> omega

theorem handsSizeLeft_iff (hannounced : announcesIp p = true) (hlistens : probe.listens responseInfo.protocol = true) :
    HandsSizeLeft probe responseInfo p ↔ ipHeaderSize p ≤ responseInfo.size.toNat := by
  rw [← toNat_size_sub_eq_iff, HandsSizeLeft, skipIpHeader_eq responseInfo hannounced]
  constructor
  · intro h
    exact h hlistens _ _ rfl
  · intro h _ newResponseInfo newResponse hskip
    cases hskip
    exact h

/-- Truncated datagrams are refused, and the size is handed on right, exactly when the datagram holds the outer header that
    it announces, or the probe does not look into it. Otherwise the fields that decide are read behind its end. -/
theorem truncated_refused_iff (probe : ProbePacket) (responseInfo : ResponseInfo) (p : Bytes)
    (hn : 1 ≤ responseInfo.size.toNat) (hannounced : announcesIp p = true) :
    (RefusesTruncated probe responseInfo p ∧ HandsSizeLeft probe responseInfo p ↔
      probe.listens responseInfo.protocol = false ∨ ipHeaderSize p ≤ responseInfo.size.toNat) ∧
    (probe.listens responseInfo.protocol = true → responseInfo.size.toNat < ipHeaderSize p →
      probe.toPacket.isValid responseInfo p =
        (probe.query responseInfo (p (ipHeaderSize p))).answer (p.advance (ipHeaderSize p))) := by
  cases hlistens : probe.listens responseInfo.protocol with
  | false =>
    have hfalse : probe.toPacket.isValid responseInfo p = .ok false := by
      rw [ProbePacket.isValid_of_not_listens hlistens]
      cases probe with
      | tcp packet => rfl
      | icmp packet => exact if_neg (by omega)
      | udp packet => exact if_neg (by omega)
    exact ⟨iff_of_true ⟨fun _ => hfalse, fun h => by rw [hlistens] at h; cases h⟩ (Or.inl rfl), nofun⟩
  | true =>
    have hvalid := ProbePacket.isValid_of_listens (p := p) hlistens
    rw [if_neg (by omega)] at hvalid
    refine ⟨?_, fun _ hlt => hvalid.trans (if_pos (Or.inl hlt))⟩
    rw [handsSizeLeft_iff hannounced hlistens]
    constructor
    · exact fun h => Or.inr h.2
    · rintro (hno | hle)
      · cases hno
      · refine ⟨fun hlt => hvalid.trans (if_neg ?_), hle⟩
        omega

/-- An IPv4 header of 60 bytes is announced. -/
def longHeader : Bytes := fun i => if i = 0 then 0x4F else 0

theorem truncated_refused_iff_refused :
    (ProbePacket.icmp someIcmpPacket).toPacket.isValid ⟨someHost, 1, 67⟩ longHeader = .ok false :=
  ((truncated_refused_iff (.icmp someIcmpPacket) ⟨someHost, 1, 67⟩ longHeader (by decide) rfl).1.mpr
    (Or.inr (by decide))).1 (by decide)

/-- A datagram of one byte is accepted by what lies behind it. -/
theorem truncated_accepted : announcesIp longHeader = true ∧
    (1 : UInt64).toNat < ipHeaderSize longHeader + (ProbePacket.icmp someIcmpPacket).minimum 1 ∧
    (ProbePacket.icmp someIcmpPacket).toPacket.isValid ⟨someHost, 1, 1⟩ longHeader = .ok true ∧
    ∃ newResponseInfo newResponse, skipIpHeader ⟨someHost, 1, 1⟩ longHeader = .ok (newResponseInfo, newResponse) ∧
      newResponseInfo.size.toNat = 2 ^ 64 - 59 :=
  ⟨rfl, by decide, rfl, _, _, rfl, rfl⟩

end Traceroute
