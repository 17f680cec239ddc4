import Traceroute.Theorems.Queries

/-! When the verdict on a datagram depends on its received bytes only. -/

namespace Traceroute

variable {n h w : Nat} {e p q : Bytes} {responseInfo : ResponseInfo} {probe : ProbePacket}

instance nontrivialUInt8 : Nontrivial UInt8 := ⟨0, 1, by decide⟩

theorem advance_zero_eq (hq : AgreeBelow n p q) (hn : h < n) : p.advance h 0 = q.advance h 0 := by
  simpa using hq h hn

theorem announcesIp_zero (hp : p 0 = 0) : announcesIp p = false := by
  rw [announcesIp_congr (q := fun _ => 0) hp]
  rfl

theorem announcesIp_four (hp : p 0 = 0x45) : announcesIp p = true := by
  rw [announcesIp_congr (q := fun _ => 0x45) hp]
  rfl

/-- The header at `k` that a quoted field is behind is received, as far as it decides. -/
def QuoteReceived (n : Nat) (p : Bytes) (k w : Nat) (e : Bytes) : Prop :=
  k < n ∧ (announcesIp (p.advance k) = false ∨ FieldDecided n p (k + ipHeaderSize (p.advance k) + 4) w e)

theorem dependsBelow_quoted {k : Nat} (hw : 0 < w) :
    DependsBelow n (fun q : Bytes => (quotedField w e (q.advance k)).toOption) p ↔ QuoteReceived n p k w e := by
  by_cases hk : k < n
  · -- The first byte of the quoted header is received.
    cases hannounced : announcesIp (p.advance k) with
    | false =>
      have hconst : ∀ q : Bytes, AgreeBelow n p q → (quotedField w e (q.advance k)).toOption = none := fun q hq => by
        rw [quotedField, ← announcesIp_congr (advance_zero_eq hq hk), hannounced]
        rfl
      exact ⟨fun _ => ⟨hk, Or.inl hannounced⟩, fun _ => (dependsBelow_congr hconst).mpr dependsBelow_const⟩
    | true =>
      have hfield : ∀ q : Bytes, AgreeBelow n p q → (quotedField w e (q.advance k)).toOption =
          some (fieldHolds (k + ipHeaderSize (p.advance k) + 4) w e q) := fun q hq => by
        rw [quotedField, ← announcesIp_congr (advance_zero_eq hq hk), hannounced, if_pos rfl,
          ← ipHeaderSize_congr (advance_zero_eq hq hk), fieldHolds_advance, Nat.add_assoc]
        rfl
      rw [dependsBelow_congr hfield]
      constructor
      · intro hdep
        exact ⟨hk, Or.inr ((dependsBelow_field hw).mp (hdep.of_map Option.some.inj))⟩
      · rintro ⟨-, hno | hdec⟩
        · rw [hno] at hannounced
          cases hannounced
        · exact ((dependsBelow_field hw).mpr hdec).map some
  · -- It is not: without a version the validator throws, with one it compares.
    refine iff_of_false (not_dependsBelow (q := overwriteFrom n k 1 (fun _ => 0) p)
      (r := overwriteFrom n k 1 (fun _ => 0x45) p) agreeBelow_overwriteFrom agreeBelow_overwriteFrom ?_) fun hr => hk hr.1
    have hq : announcesIp (Bytes.advance (overwriteFrom n k 1 (fun _ => 0) p) k) = false :=
      announcesIp_zero (overwriteFrom_apply (by omega) Nat.one_pos)
    have hr : announcesIp (Bytes.advance (overwriteFrom n k 1 (fun _ => 0x45) p) k) = true :=
      announcesIp_four (overwriteFrom_apply (by omega) Nat.one_pos)
    simp [quotedField, hq, hr, Except.toOption]

/-- The bytes that decide the query are received; `h` is where the outer header ends. -/
def Query.Received (n : Nat) (p : Bytes) (h : Nat) : Query → Prop
  | .refuse | .field .. => True
  | .quoted w e => QuoteReceived n p (h + 8) w e

/-- The received bytes determine the verdict on a datagram. One that ends before the outer header that it
    announces must be asked nothing at all. -/
def VerdictReceived (probe : ProbePacket) (responseInfo : ResponseInfo) (p : Bytes) : Prop :=
  let n := responseInfo.size.toNat
  let h := ipHeaderSize p
  probe.listens responseInfo.protocol = false ∨ n = 0 ∨
  (n < h ∧ ∀ type, probe.query responseInfo type = .refuse) ∨
  (h ≤ n ∧ (n < h + probe.minimum responseInfo.protocol ∨ (probe.query responseInfo (p h)).Received n p h))

/-! ### A header that is announced longer than the datagram -/

section Announced
variable (f : UInt8 → Query) (hn : n < h)
include hn

/-- The type is not received: one type makes the validator throw, another one makes it refuse. -/
theorem not_dependsBelow_of_quoted (type type' : UInt8) (hquoted : f type = .quoted w e) (hrefuse : f type' = .refuse) :
    ¬DependsBelow n (fun q : Bytes => ((f (q h)).answer (q.advance h)).toOption) p := by
  let a : Bytes := overwriteFrom n h 9 (fun i => if i = 0 then type else 0) p
  let b : Bytes := overwriteFrom n h 1 (fun _ => type') p
  have ha : a h = type := overwriteFrom_apply (i := 0) (Nat.le_of_lt hn) (by decide)
  have ha8 : a (h + 8) = 0 := overwriteFrom_apply (by omega) (by decide)
  have hb : b h = type' := overwriteFrom_apply (i := 0) (Nat.le_of_lt hn) (by decide)
  refine not_dependsBelow (q := a) (r := b) agreeBelow_overwriteFrom agreeBelow_overwriteFrom ?_
  have hthrows : announcesIp ((a.advance h).advance 8) = false := announcesIp_zero ha8
  simp [ha, hb, hquoted, hrefuse, Query.answer, quotedField, hthrows, Except.toOption]

theorem not_dependsBelow_of_field {pos : Nat} (hw : 0 < w) (hf : ∀ type, f type = .field pos w e) :
    ¬DependsBelow n (fun q : Bytes => ((f (q h)).answer (q.advance h)).toOption) p := by
  have hfield : ∀ q : Bytes, AgreeBelow n p q → ((f (q h)).answer (q.advance h)).toOption = some (fieldHolds (h + pos) w e q) :=
    fun q _ => by
      rw [hf, Query.answer, fieldHolds_advance]
      rfl
  intro hdep
  rcases (dependsBelow_field hw).mp (((dependsBelow_congr hfield).mp hdep).of_map Option.some.inj) with hend | ⟨i, -, hi, -⟩
  · omega
  · omega

omit f in
/-- What is asked then is asked of bytes that are not received. -/
theorem dependsBelow_announced (hlistens : probe.listens responseInfo.protocol = true) :
    DependsBelow n (fun q : Bytes => ((probe.query responseInfo (q h)).answer (q.advance h)).toOption) p ↔
      ∀ type, probe.query responseInfo type = .refuse := by
  cases probe with
  | icmp packet =>
    refine iff_of_false (not_dependsBelow_of_quoted (ProbePacket.query responseInfo · (.icmp packet)) hn
      ICMP_TIME_EXCEEDED 2 rfl rfl) fun hall => ?_
    cases hall ICMP_TIME_EXCEEDED
  | udp packet =>
    refine iff_of_false (not_dependsBelow_of_field (ProbePacket.query responseInfo · (.udp packet)) hn Nat.one_pos
      fun _ => rfl) fun hall => ?_
    cases hall 0
  | tcp packet =>
    by_cases hicmp : validateIcmpProtocol responseInfo.protocol = true
    · -- Time Exceeded has a query in either family, and type 2 has none.
      let exceeded := if responseInfo.client.isV4 then ICMP_TIME_EXCEEDED else ICMP6_TIME_EXCEEDED
      have hquoted : ProbePacket.query responseInfo exceeded (.tcp packet) =
          .quoted 4 (Bytes.ofU32 packet.mTcpHeader.seq) := by
        have : packet.answeredBy responseInfo.client exceeded = true := by
          by_cases hv4 : responseInfo.client.isV4 = true <;> simp [TcpPacket.answeredBy, exceeded, hv4]
        simp [ProbePacket.query, hicmp, TcpPacket.icmpQuery, this]
      have hrefuse : ProbePacket.query responseInfo 2 (.tcp packet) = .refuse := by
        have : packet.answeredBy responseInfo.client 2 = false := by
          rw [TcpPacket.answeredBy]
          split <;> rfl
        simp [ProbePacket.query, hicmp, TcpPacket.icmpQuery, this]
      refine iff_of_false (not_dependsBelow_of_quoted (ProbePacket.query responseInfo · (.tcp packet)) hn exceeded 2
        hquoted hrefuse) fun hall => ?_
      rw [hall] at hquoted
      cases hquoted
    · by_cases hdest : packet.mDestinationAddress.operatorEq responseInfo.client = true
      · have hfield : ∀ type, ProbePacket.query responseInfo type (.tcp packet) =
            .field 8 4 (Bytes.ofU32 packet.ackExpected) := fun type => by
          simp [ProbePacket.query, hicmp, TcpPacket.tcpQuery, hdest]
        refine iff_of_false (not_dependsBelow_of_field (ProbePacket.query responseInfo · (.tcp packet)) hn (by decide)
          hfield) fun hall => ?_
        have h0 := hall 0
        rw [hfield] at h0
        cases h0
      · have hrefuse : ∀ type, ProbePacket.query responseInfo type (.tcp packet) = .refuse := fun type => by
          simp [ProbePacket.query, hicmp, TcpPacket.tcpQuery, hdest]
        refine iff_of_true ?_ hrefuse
        simp only [hrefuse]
        exact dependsBelow_const

end Announced

/-! ### The verdict -/

/-- A field that is compared lies within the size that `validateSize` asks for. -/
theorem query_field_le {type : UInt8} {pos : Nat} (h : probe.query responseInfo type = .field pos w e) :
    pos + w ≤ probe.minimum responseInfo.protocol := by
  cases probe with
  | icmp packet =>
    simp only [ProbePacket.query, IcmpPacket.query] at h
    split at h
    · split at h <;> cases h
      exact Nat.le_of_ble_eq_true rfl
    · split at h <;> cases h
  | udp packet =>
    cases h
    exact Nat.le_of_ble_eq_true rfl
  | tcp packet =>
    simp only [ProbePacket.query, TcpPacket.icmpQuery, TcpPacket.tcpQuery] at h
    split at h
    · split at h <;> cases h
    · rename_i hicmp
      split at h <;> cases h
      simp only [ProbePacket.minimum, if_neg hicmp]
      exact Nat.le_of_ble_eq_true rfl

theorem query_quoted_pos {type : UInt8} (h : probe.query responseInfo type = .quoted w e) : 0 < w := by
  cases probe with
  | icmp packet =>
    simp only [ProbePacket.query, IcmpPacket.query] at h
    split at h
    · split at h <;> cases h
    · split at h <;> cases h
      exact Nat.two_pos
  | udp packet => cases h
  | tcp packet =>
    simp only [ProbePacket.query, TcpPacket.icmpQuery, TcpPacket.tcpQuery] at h
    split at h
    · split at h <;> cases h
      exact Nat.succ_pos 3
    · split at h <;> cases h

theorem dependsBelow_query {m : Nat} (hend : h + m ≤ n) {query : Query}
    (hfield : ∀ {pos w e}, query = .field pos w e → pos + w ≤ m) (hquoted : ∀ {w e}, query = .quoted w e → 0 < w) :
    DependsBelow n (fun q : Bytes => (query.answer (q.advance h)).toOption) p ↔ query.Received n p h := by
  cases query with
  | refuse => exact iff_of_true dependsBelow_const trivial
  | field pos w e =>
    have hle := hfield rfl
    refine iff_of_true (fun q hq => ?_) trivial
    have heq : fieldHolds (h + pos) w e q = fieldHolds (h + pos) w e p := fieldHolds_congr fun i hi => (hq _ (by omega)).symm
    simp only [Query.answer, fieldHolds_advance, heq]
  | quoted w e =>
    simp only [Query.answer, Bytes.advance_advance]
    exact dependsBelow_quoted (hquoted rfl)

/-- No byte behind the received ones influences the verdict exactly when the received ones decide it. -/
theorem verdict_determined_iff (probe : ProbePacket) (responseInfo : ResponseInfo) (p : Bytes) :
    (∀ q, AgreeBelow responseInfo.size.toNat p q →
      (probe.toPacket.isValid responseInfo q).toOption = (probe.toPacket.isValid responseInfo p).toOption) ↔
    VerdictReceived probe responseInfo p := by
  change DependsBelow _ (fun q => (probe.toPacket.isValid responseInfo q).toOption) p ↔ _
  cases hlistens : probe.listens responseInfo.protocol with
  | false =>
    refine iff_of_true (fun q _ => ?_) (Or.inl hlistens)
    simp only [ProbePacket.isValid_of_not_listens hlistens]
  | true =>
    simp only [ProbePacket.isValid_of_listens hlistens]
    rcases Nat.eq_zero_or_pos responseInfo.size.toNat with hzero | hpos
    · simp only [if_pos hzero]
      exact iff_of_true dependsBelow_const (Or.inr (Or.inl hzero))
    · have hheader : ∀ q : Bytes, AgreeBelow responseInfo.size.toNat p q →
          ((if responseInfo.size.toNat = 0 then .error noIpHeader
            else if responseInfo.size.toNat < ipHeaderSize q ∨
                ipHeaderSize q + probe.minimum responseInfo.protocol ≤ responseInfo.size.toNat then
              (probe.query responseInfo (q (ipHeaderSize q))).answer (q.advance (ipHeaderSize q))
            else .ok false) : Except Exception Bool).toOption =
          ((if responseInfo.size.toNat < ipHeaderSize p ∨
                ipHeaderSize p + probe.minimum responseInfo.protocol ≤ responseInfo.size.toNat then
              (probe.query responseInfo (q (ipHeaderSize p))).answer (q.advance (ipHeaderSize p))
            else .ok false) : Except Exception Bool).toOption := fun q hq => by
        rw [if_neg (Nat.ne_of_gt hpos), ipHeaderSize_congr (hq 0 hpos).symm]
      rw [dependsBelow_congr hheader]
      rcases Nat.lt_or_ge responseInfo.size.toNat (ipHeaderSize p) with hlt | hge
      · simp only [hlt, true_or, if_true, VerdictReceived]
        rw [dependsBelow_announced hlt hlistens]
        simp [hlistens, Nat.ne_of_gt hpos, Nat.not_le.mpr hlt]
      · have hreceived : VerdictReceived probe responseInfo p ↔
            responseInfo.size.toNat < ipHeaderSize p + probe.minimum responseInfo.protocol ∨
              (probe.query responseInfo (p (ipHeaderSize p))).Received responseInfo.size.toNat p (ipHeaderSize p) := by
          simp [VerdictReceived, hlistens, Nat.ne_of_gt hpos, Nat.not_lt.mpr hge, hge]
        rw [hreceived]
        by_cases hend : ipHeaderSize p + probe.minimum responseInfo.protocol ≤ responseInfo.size.toNat
        · -- The type is received.
          have htype : ∀ q : Bytes, AgreeBelow responseInfo.size.toNat p q → q (ipHeaderSize p) = p (ipHeaderSize p) :=
            fun q hq => (hq _ (Nat.lt_of_lt_of_le (Nat.lt_add_of_pos_right (minimum_pos _ _)) hend)).symm
          have hquery : ∀ q : Bytes, AgreeBelow responseInfo.size.toNat p q →
              ((probe.query responseInfo (q (ipHeaderSize p))).answer (q.advance (ipHeaderSize p))).toOption =
              ((probe.query responseInfo (p (ipHeaderSize p))).answer (q.advance (ipHeaderSize p))).toOption :=
            fun q hq => by rw [htype q hq]
          simp only [hend, or_true, if_true, Nat.not_lt.mpr hend, false_or]
          rw [dependsBelow_congr hquery]
          exact dependsBelow_query hend query_field_le query_quoted_pos
        · simp only [Nat.not_lt.mpr hge, hend, or_self, if_false]
          exact iff_of_true dependsBelow_const (Or.inl (Nat.lt_of_not_le hend))

/-! ### A stale byte decides -/

/-- A message of 28 bytes, which quotes nothing, is accepted or makes `isValid` throw by the byte behind it. -/
theorem stale_byte_decides : AgreeBelow 28 (timeExceeded 0x45) (timeExceeded 0) ∧
    (ProbePacket.icmp someIcmpPacket).toPacket.isValid ⟨someHost, 1, 28⟩ (timeExceeded 0x45) = .ok true ∧
    (ProbePacket.icmp someIcmpPacket).toPacket.isValid ⟨someHost, 1, 28⟩ (timeExceeded 0) = .error invalidIpHeader := by
  refine ⟨fun i hi => ?_, rfl, rfl⟩
  simp [timeExceeded, Nat.ne_of_lt hi]

end Traceroute
