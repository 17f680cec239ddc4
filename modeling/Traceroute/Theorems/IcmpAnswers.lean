import Mathlib.Tactic.Tauto
import Traceroute.Theorems.Queries
import Traceroute.Theorems.Responses

/-! Which responses an ICMP probe accepts. The types of both families stand in one switch, and they overlap: an ICMPv4
    message of type 3 (Destination Unreachable) is taken for Time Exceeded of ICMPv6, and one of type 129 for its Echo
    Reply. -/

namespace Traceroute

variable {f : Family} {packet : IcmpPacket} {responseInfo : ResponseInfo} {client : SocketAddress} {p m : Bytes}

/-! ### The answers to a probe -/

/-- The message is an echo with the probe's id that the destination has sent. -/
def IcmpPacket.IsEchoOf (packet : IcmpPacket) (client : SocketAddress) (m : Bytes) : Prop :=
  client.operatorEq packet.mDestinationAddress = true ∧ m.u16 4 = packet.mIcmpHeader.id

/-- The header that the message quotes, read as an echo header, has the probe's id. -/
def IcmpPacket.QuotedBy (packet : IcmpPacket) (m : Bytes) : Prop := (quotedHeader m).u16 4 = packet.mIcmpHeader.id

/-- The message `m` of the family answers the probe: its Echo Reply, or its Time Exceeded message that quotes the probe's
    id. -/
def IcmpPacket.IsAnsweredBy (packet : IcmpPacket) (f : Family) (client : SocketAddress) (m : Bytes) : Prop :=
  m 0 = f.echoReply ∧ packet.IsEchoOf client m ∨ m 0 = f.timeExceeded ∧ packet.QuotedBy m

/-- What the message quotes is an ICMP echo request. -/
def Family.QuotesEcho (f : Family) (m : Bytes) : Prop :=
  ((f.protocol (m.advance 8)).toNat : Int) = f.icmp ∧ quotedHeader m 0 = f.echoRequest

/-- An ICMPv4 message whose type means an answer in ICMPv6 only: type 129, or Destination Unreachable. -/
def IcmpPacket.Misread (packet : IcmpPacket) (f : Family) (client : SocketAddress) (m : Bytes) : Prop :=
  f = .v4 ∧ (m 0 = ICMP6_ECHO_REPLY ∧ packet.IsEchoOf client m ∨ m 0 = ICMP_DEST_UNREACH ∧ packet.QuotedBy m)

/-! ### The verdict -/

/-- What the validator accepts, whatever the family. -/
def IcmpPacket.Accepts (packet : IcmpPacket) (client : SocketAddress) (m : Bytes) : Prop :=
  (m 0 = ICMP_ECHOREPLY ∨ m 0 = ICMP6_ECHO_REPLY) ∧ packet.IsEchoOf client m ∨
    (m 0 = ICMP_TIME_EXCEEDED ∨ m 0 = ICMP6_TIME_EXCEEDED) ∧ packet.QuotedBy m

/-- The types that the validator takes for Time Exceeded are errors, so what it reads in them is quoted. -/
theorem IcmpResponse.quotesHeader (h : IcmpResponse f responseInfo p)
    (htype : f.message p 0 = ICMP_TIME_EXCEEDED ∨ f.message p 0 = ICMP6_TIME_EXCEEDED) :
    announcesIp ((f.message p).advance 8) = true := by
  refine (h.quote ?_).1.announcesIp
  cases f with
  | v4 => rcases htype with htype | htype <;> rw [htype] <;> decide
  | v6 =>
    rcases htype with htype | htype
    · -- The filter does not let type 11 pass.
      have hp : p 0 = ICMP_TIME_EXCEEDED := by simpa [Family.message, Family.outer] using htype
      rcases h.passed rfl with hpass | hpass | hpass <;> rw [hp] at hpass <;> exact absurd hpass (by decide)
    · rw [htype]
      decide

theorem IcmpPacket.isValid_of_response (packet : IcmpPacket) (h : IcmpResponse f responseInfo p) :
    packet.isValid responseInfo p = (packet.query responseInfo.client (f.message p 0)).answer (f.message p) := by
  have hlistens : (ProbePacket.icmp packet).listens responseInfo.protocol = true := by
    rw [ProbePacket.listens, h.protocol]
    cases f <;> rfl
  have hvalid := ProbePacket.isValid_of_fits (p := p) hlistens (h.ipHeaderSize ▸ h.header)
  rw [h.ipHeaderSize] at hvalid
  exact hvalid

theorem IcmpPacket.decides_accepts (packet : IcmpPacket) (h : IcmpResponse f responseInfo p) :
    Decides (packet.isValid responseInfo p) (packet.Accepts responseInfo.client (f.message p)) := by
  rw [packet.isValid_of_response h, IcmpPacket.query, IcmpPacket.Accepts]
  by_cases hreply : f.message p 0 = ICMP_ECHOREPLY ∨ f.message p 0 = ICMP6_ECHO_REPLY
  · have hexceeded : ¬(f.message p 0 = ICMP_TIME_EXCEEDED ∨ f.message p 0 = ICMP6_TIME_EXCEEDED) := by
      rcases hreply with htype | htype <;> rw [htype] <;> decide
    rw [if_pos hreply]
    by_cases hsender : responseInfo.client.operatorEq packet.mDestinationAddress = true
    · rw [if_pos hsender, Query.answer, decides_ok_iff, ← u16_beq, beq_iff_eq]
      simp [hreply, hexceeded, hsender, IcmpPacket.IsEchoOf]
    · rw [if_neg hsender, Query.answer, decides_ok_iff]
      simp [hexceeded, hsender, IcmpPacket.IsEchoOf]
  · rw [if_neg hreply]
    by_cases hexceeded : f.message p 0 = ICMP_TIME_EXCEEDED ∨ f.message p 0 = ICMP6_TIME_EXCEEDED
    · rw [if_pos hexceeded, Query.answer, quotedField, if_pos (h.quotesHeader hexceeded), decides_ok_iff, fieldHolds_advance,
        ← u16_beq, beq_iff_eq]
      simp [hreply, hexceeded, IcmpPacket.QuotedBy, quotedHeader, Bytes.u16_advance, Nat.add_assoc]
    · rw [if_neg hexceeded, Query.answer, decides_ok_iff]
      simp [hreply, hexceeded]

/-- What is accepted answers the probe, or is misread. -/
theorem IcmpPacket.accepts_iff (h : IcmpResponse f responseInfo p) : packet.Accepts client (f.message p) ↔
    packet.IsAnsweredBy f client (f.message p) ∨ packet.Misread f client (f.message p) := by
  unfold IcmpPacket.Accepts IcmpPacket.IsAnsweredBy IcmpPacket.Misread
  cases f with
  | v4 =>
    simp only [Family.echoReply, Family.timeExceeded, true_and, show ICMP_DEST_UNREACH = ICMP6_TIME_EXCEEDED from rfl]
    tauto
  | v6 =>
    have htype : Family.v6.message p 0 = p 0 := by simp [Family.message, Family.outer]
    have hreply : Family.v6.message p 0 ≠ ICMP_ECHOREPLY := by
      rw [htype]
      rcases h.passed rfl with hpass | hpass | hpass <;> rw [hpass] <;> decide
    have hexceeded : Family.v6.message p 0 ≠ ICMP_TIME_EXCEEDED := by
      rw [htype]
      rcases h.passed rfl with hpass | hpass | hpass <;> rw [hpass] <;> decide
    simp [Family.echoReply, Family.timeExceeded, hreply, hexceeded]

theorem IcmpPacket.not_answeredBy_of_misread (h : packet.Misread f client m) : ¬packet.IsAnsweredBy f client m := by
  obtain ⟨rfl, ⟨htype, -⟩ | ⟨htype, -⟩⟩ := h
  · rintro (⟨hreply, -⟩ | ⟨hexceeded, -⟩)
    · exact absurd (htype.symm.trans hreply) (by decide)
    · exact absurd (htype.symm.trans hexceeded) (by decide)
  · rintro (⟨hreply, -⟩ | ⟨hexceeded, -⟩)
    · exact absurd (htype.symm.trans hreply) (by decide)
    · exact absurd (htype.symm.trans hexceeded) (by decide)

/-- The verdict on a well-formed response tells whether it answers the probe, except for the misread types. When a quoted
    header also has to be that of an echo request, the verdict goes wrong on the messages that quote another packet with
    the id in its place, too. -/
theorem icmp_answers_iff (packet : IcmpPacket) (f : Family) (responseInfo : ResponseInfo) (p : Bytes)
    (h : IcmpResponse f responseInfo p) :
    (Decides (packet.isValid responseInfo p) (packet.IsAnsweredBy f responseInfo.client (f.message p)) ↔
      ¬packet.Misread f responseInfo.client (f.message p)) ∧
    (Decides (packet.isValid responseInfo p) (packet.IsAnsweredBy f responseInfo.client (f.message p) ∧
        (f.message p 0 = f.timeExceeded → f.QuotesEcho (f.message p))) ↔
      ¬packet.Misread f responseInfo.client (f.message p) ∧
        (f.message p 0 = f.timeExceeded → packet.QuotedBy (f.message p) → f.QuotesEcho (f.message p))) := by
  have hdecides := packet.decides_accepts h
  have hexclusive : packet.Misread f responseInfo.client (f.message p) →
      ¬packet.IsAnsweredBy f responseInfo.client (f.message p) := packet.not_answeredBy_of_misread
  rw [hdecides.iff, hdecides.iff, packet.accepts_iff h]
  refine ⟨⟨fun hiff hmisread => hexclusive hmisread (hiff.mp (Or.inr hmisread)),
    fun hread => or_iff_left hread⟩, ?_⟩
  constructor
  · intro hiff
    refine ⟨fun hmisread => hexclusive hmisread (hiff.mp (Or.inr hmisread)).1, fun htype hquoted => ?_⟩
    exact (hiff.mp (Or.inl (Or.inr ⟨htype, hquoted⟩))).2 htype
  · rintro ⟨hread, hecho⟩
    refine ⟨fun haccepted => ?_, fun hanswered => Or.inl hanswered.1⟩
    have hanswered := haccepted.resolve_right hread
    refine ⟨hanswered, fun htype => ?_⟩
    rcases hanswered with ⟨hreply, -⟩ | ⟨-, hquoted⟩
    · exact absurd (htype.symm.trans hreply) (by cases f <;> decide)
    · exact hecho htype hquoted

/-- An ICMPv4 error that quotes an echo request with the id 0. -/
def quotingError (type : UInt8) : Bytes := fun i =>
  if i = 0 ∨ i = 28 then 0x45 else if i = 20 then type else if i = 37 then 1 else if i = 48 then ICMP_ECHO else 0

theorem quotingError_response (type : UInt8) : IcmpResponse .v4 ⟨someHost, 1, 56⟩ (quotingError type) := by
  obtain ⟨hheader, houter⟩ := isHeader_of_byte (p := quotingError type) rfl
  obtain ⟨hquoted, hsize⟩ := isHeader_of_byte (p := (quotingError type).advance 28) rfl
  have hmessage : (Family.v4.message (quotingError type)).advance 8 = (quotingError type).advance 28 := by
    rw [Family.message, houter, Bytes.advance_advance]
  refine ⟨rfl, rfl, fun _ => hheader, nofun, ?_, fun _ => ?_⟩
  · rw [houter]
    decide
  · rw [hmessage, ipHeaderSize_of_v4 hquoted, hsize, houter]
    exact ⟨hquoted, by decide⟩

theorem icmp_answers_iff_timeExceeded : someIcmpPacket.isValid ⟨someHost, 1, 56⟩ (quotingError ICMP_TIME_EXCEEDED) = .ok true := by
  have hanswers := (icmp_answers_iff someIcmpPacket .v4 ⟨someHost, 1, 56⟩ _ (quotingError_response ICMP_TIME_EXCEEDED)).1
  refine (hanswers.mpr ?_).1 (Or.inr ⟨rfl, rfl⟩)
  rintro ⟨-, ⟨htype, -⟩ | ⟨htype, -⟩⟩ <;> exact absurd htype (by decide)

/-- Destination Unreachable, from any host, is accepted as an answer. -/
theorem destUnreach_misread : IcmpResponse .v4 ⟨someHost, 1, 56⟩ (quotingError ICMP_DEST_UNREACH) ∧
    someIcmpPacket.isValid ⟨someHost, 1, 56⟩ (quotingError ICMP_DEST_UNREACH) = .ok true ∧
    ¬someIcmpPacket.IsAnsweredBy .v4 someHost (Family.v4.message (quotingError ICMP_DEST_UNREACH)) := by
  refine ⟨quotingError_response _, rfl, ?_⟩
  rintro (⟨htype, -⟩ | ⟨htype, -⟩) <;> exact absurd htype (by decide)

end Traceroute
