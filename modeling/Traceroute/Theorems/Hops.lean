import Traceroute.Sending
import Traceroute.Theorems.AddressEquality
import Traceroute.Theorems.Agreement
import Traceroute.Theorems.Attribution
import Traceroute.Theorems.IcmpAnswers
import Traceroute.Theorems.Serialized
import Traceroute.Theorems.TcpAnswers

/-! What both engines show of the path to a destination, from the datagrams that its hosts send: every hop up to the
    destination, in order, and nothing behind it. -/

namespace Traceroute

variable {destination target : SocketAddress} {timeout : Int} {c : Call} {results : List TracerouteResult} {f : Family}
  {probe : ProbePacket} {responseInfo : ResponseInfo} {p : Bytes}

/-! ### The path -/

/-- The hosts on the way to a destination that is `length` hops away: `router d` is the one that is `d` hops away, if it
    answers, and `target` the destination. The answer to the probe with a ttl and a retry arrives `delay` nanoseconds
    behind it, and within its window. -/
structure Path (destination : SocketAddress) (timeout : Int) where
  length : Nat
  router : Nat → Option SocketAddress
  target : SocketAddress
  delay : Nat × Nat → Nat
  there : target.SameAddress destination
  away : ∀ d < length, ∀ host, router d = some host → host.operatorEq destination = false
  inTime : ∀ position, delay position ≤ (timeout - MinTimeWaitForResponse) * 1000

namespace Path

/-- The host that answers a probe with the ttl. -/
def host (path : Path destination timeout) (ttl : Nat) : Option SocketAddress :=
  if ttl < path.length then path.router ttl else some path.target

/-- The path as a network. -/
def network (path : Path destination timeout) : Network timeout where
  answer position := (path.host position.1).map fun host => ⟨host, path.delay position⟩
  inTime position a h := by
    obtain ⟨host, -, rfl⟩ := Option.map_eq_some_iff.mp h
    exact path.inTime position

/-- What a probe with the ttl is reported as: its success, and the host that has answered. -/
def outcome (path : Path destination timeout) (ttl : Nat) : Bool × Option SocketAddress :=
  ((path.host ttl).isSome, path.host ttl)

/-- The last ttl that is shown: that of the destination, if it is in the range of the call. -/
def last (path : Path destination timeout) (c : Call) : Nat := min c.ttlEnd.toNat (max c.ttlBegin.toNat path.length)

/-- The results show the path: its hops in order up to the last one, each as often as there are retries. -/
structure Shown (path : Path destination timeout) (c : Call) (results : List TracerouteResult) : Prop where
  ttls : results.map (·.ttl.toNat) = List.range' c.ttlBegin.toNat (path.last c + 1 - c.ttlBegin.toNat)
  outcomes : ∀ tr ∈ results, tr.probeResults.map (·.outcome) = .replicate c.retries.toNat (path.outcome tr.ttl.toNat)

variable {path : Path destination timeout}

theorem network_outcome (position : Nat × Nat) : path.network.outcome position = path.outcome position.1 := by
  simp only [Network.outcome, network, outcome]
  cases path.host position.1 <;> rfl

/-- The destination answers from its own distance on. -/
theorem reaches_iff (hretries : 1 ≤ c.retries) (ttl : Nat) : path.network.reaches c destination ttl ↔ path.length ≤ ttl := by
  constructor
  · rintro ⟨i, -, a, ha, hreached⟩
    by_contra hlt
    obtain ⟨host, hhost, rfl⟩ := Option.map_eq_some_iff.mp ha
    simp only [Path.host, if_pos (Nat.lt_of_not_le hlt)] at hhost
    rw [path.away ttl (Nat.lt_of_not_le hlt) host hhost] at hreached
    cases hreached
  · intro hle
    refine ⟨0, UInt32.le_iff_toNat_le.mp hretries, ⟨path.target, path.delay (ttl, 0)⟩, ?_,
      (SocketAddress.operatorEq_iff_of_family path.there.1).mpr path.there⟩
    simp only [network, host, if_neg (Nat.not_lt.mpr hle), Option.map_some]

/-- What shows the network of a path shows the path. -/
theorem shown_of_portrays {k : Nat} (hc : c.Regular) (h : Portrays path.network c destination results k) : path.Shown c results := by
  have hb := h.begin_le
  have he := h.le_end
  have hk : k = path.last c := by
    rw [last]
    rcases Nat.lt_or_ge c.ttlBegin.toNat k with hlt | hge
    · have hfirst := h.first (k - 1) (by omega) (by omega)
      rw [reaches_iff hc.retries] at hfirst
      rcases h.last with hend | hreached
      · omega
      · rw [reaches_iff hc.retries] at hreached
        omega
    · rcases h.last with hend | hreached
      · omega
      · rw [reaches_iff hc.retries] at hreached
        omega
  refine ⟨hk ▸ h.ttls, fun tr htr => ?_⟩
  have hall : (List.range c.retries.toNat).map (fun i => path.network.outcome (tr.ttl.toNat, i)) =
      .replicate c.retries.toNat (path.outcome tr.ttl.toNat) := by
    simp only [network_outcome, List.map_const', List.length_range]
  exact List.perm_replicate.mp (hall ▸ h.outcomes tr htr)

end Path

/-! ### The datagrams -/

/-- What a router answers: a Time Exceeded message that quotes an IP header and at least the first 8 bytes of the probe, as
    they came to the router. -/
structure ProbePacket.Exceeded (probe : ProbePacket) (f : Family) (responseInfo : ResponseInfo) (p : Bytes) : Prop where
  response : IcmpResponse f responseInfo p
  type : f.message p 0 = f.timeExceeded
  quote : probe.OnWire (quotedHeader (f.message p)) 8

/-- What the destination answers: an Echo Reply with the identifier and the sequence number of the request; a segment that
    acknowledges the SYN. -/
inductive ProbePacket.Reached : ProbePacket → Family → ResponseInfo → Bytes → Prop where
  | echoReply {packet : IcmpPacket} {f : Family} {responseInfo : ResponseInfo} {p : Bytes} (response : IcmpResponse f responseInfo p)
      (type : f.message p 0 = f.echoReply) (fields : ∀ i, 4 ≤ i → i < 8 → f.message p i = packet.serialize.getD i 0) :
      Reached (.icmp packet) f responseInfo p
  | acknowledgement {packet : TcpPacket} {responseInfo : ResponseInfo} {p : Bytes} (response : TcpResponseV4 responseInfo p)
      (acked : packet.AckedBy (Family.v4.message p)) : Reached (.tcp packet) .v4 responseInfo p

/-- The datagrams that the hosts on a path send for the probes of a call, which are numbered from `first` on: the router or
    the destination that a probe comes to answers it. -/
structure Path.Answers (path : Path destination c.timeout) (f : Family) (probes : Nat → ProbePacket) (first : Nat) where
  reply : Nat → SocketAddress → ResponseInfo × Bytes
  client : ∀ n host, (reply n host).1.client = host
  router : ∀ k d i, c.positions[k]? = some (d, i) → d < path.length → ∀ host, path.router d = some host →
    (probes (first + k)).Exceeded f (reply (first + k) host).1 (reply (first + k) host).2
  target : ∀ k d i, c.positions[k]? = some (d, i) → path.length ≤ d →
    (probes (first + k)).Reached f (reply (first + k) path.target).1 (reply (first + k) path.target).2

/-- The identifier stands at offset 4 of an echo header. -/
theorem IcmpPacket.id_of_fields {packet : IcmpPacket} {m : Bytes} (h : ∀ i, 4 ≤ i → i < 8 → m i = packet.serialize.getD i 0) :
    m.u16 4 = packet.mIcmpHeader.id := by
  refine Bytes.u16_eq_iff_ofU16.mpr fun i hi => ?_
  rw [h (4 + i) (by omega) (by omega), IcmpPacket.serialize, getD_serialize _ _ (show 4 + i < 8 by omega)]
  simp only [IcmpHeader.toBytes]
  rw [if_neg (by omega), if_neg (by omega), if_neg (by omega), if_pos (by omega), Nat.add_sub_cancel_left]

/-- The sequence number stands at offset 4 of a TCP header. -/
theorem TcpPacket.seq_of_fields {packet : TcpPacket} {m : Bytes} (h : ∀ i, 4 ≤ i → i < 8 → m i = packet.serialize.getD i 0) :
    m.u32 4 = packet.mTcpHeader.seq := by
  refine Bytes.u32_eq_iff_ofU32.mpr fun i hi => ?_
  rw [h (4 + i) (by omega) (by omega), TcpPacket.serialize, getD_serialize _ _ (show 4 + i < 20 by omega)]
  simp only [TcpHeader.toBytes]
  rw [if_neg (by omega), if_neg (by omega), if_pos (by omega), Nat.add_sub_cancel_left]

/-! ### What the probes accept -/

/-- The probes of these factories are told apart in what the family's hosts answer. A TCP probe over IPv6 is not answered
    at all ports, and UDP probes accept each other's answers. -/
def PacketFactory.Serves : PacketFactory → Family → Prop
  | .icmp _, _ => True
  | .tcp _, f => f = .v4
  | .udp _, _ => False

theorem ProbePacket.Exceeded.accepted {factory : PacketFactory} (hmade : factory.Makes probe) (hserves : factory.Serves f)
    (h : probe.Exceeded f responseInfo p) : probe.toPacket.isValid responseInfo p = .ok true := by
  cases hmade with
  | @icmp _ _ _ packet made =>
    refine (packet.decides_accepts h.response).1 (Or.inr ⟨?_, IcmpPacket.id_of_fields fun i hle hi => h.quote i hi (Or.inr hle)⟩)
    rw [h.type]
    cases f with
    | v4 => exact Or.inl rfl
    | v6 => exact Or.inr rfl
  | @tcp _ _ _ _ packet made =>
    obtain rfl : f = .v4 := hserves
    exact (packet.decides_icmp h.response).1
      (Or.inr (Or.inl ⟨h.response.protocol, h.type,
        TcpPacket.seq_of_fields fun i _ hi => h.quote i hi (Or.inl (Nat.lt_trans hi (by decide : 8 < 16)))⟩))
  | udp made => cases hserves

theorem ProbePacket.Reached.accepted (h : probe.Reached f responseInfo p)
    (hdest : responseInfo.client.SameAddress probe.getDestinationAddress) :
    probe.toPacket.isValid responseInfo p = .ok true := by
  cases h with
  | @echoReply packet f responseInfo p response type fields =>
    refine (packet.decides_accepts response).1 (Or.inl ⟨?_, ?_, IcmpPacket.id_of_fields fields⟩)
    · rw [type]
      cases f with
      | v4 => exact Or.inl rfl
      | v6 => exact Or.inr rfl
    · exact (SocketAddress.operatorEq_iff_of_family hdest.1).mpr hdest
  | @acknowledgement packet responseInfo p response acked =>
    have hdest : responseInfo.client.SameAddress packet.mDestinationAddress := hdest
    have hv4 : packet.mDestinationAddress.isV4 = true := by
      rw [SocketAddress.isV4, ← hdest.1]
      exact response.client
    refine (packet.decides_tcp hv4 response).1 (Or.inl ⟨response.protocol, ?_, acked⟩)
    exact (SocketAddress.operatorEq_of_isV4 response.client).mp ((SocketAddress.operatorEq_iff_of_family hdest.1).mpr hdest)

theorem Packet.Apart.refused {packet packet' : Packet} (h : packet.Apart packet' responseInfo p)
    (haccepted : packet.isValid responseInfo p = .ok true) : packet'.isValid responseInfo p = .ok false := by
  cases hother : packet'.isValid responseInfo p with
  | error e =>
    rw [(h.throws e).mpr hother] at haccepted
    cases haccepted
  | ok v =>
    cases v with
    | false => rfl
    | true => exact absurd hother (h.accepts haccepted)

/-- What the hosts on the path send are replies, each to one probe. -/
def Path.Answers.replies {path : Path destination c.timeout} {factory : PacketFactory} {probes : Nat → ProbePacket} {first : Nat}
    (answers : path.Answers f probes first) (hserves : factory.Serves f)
    (hmarked : factory.Marked probes (List.range' first c.probeCount))
    (hdest : ∀ n, (probes n).getDestinationAddress = destination) :
    Replies c path.network (fun n => (probes n).toPacket) first where
  reply := answers.reply
  client := answers.client
  accepted k position a hk ha m hm := by
    obtain ⟨host, hhost, rfl⟩ := Option.map_eq_some_iff.mp ha
    have hlt : k < c.probeCount := length_positions (c := c) ▸ (List.getElem?_eq_some_iff.mp hk).1
    have hn : first + k ∈ List.range' first c.probeCount := List.mem_range'_1.mpr ⟨Nat.le_add_right _ _, by omega⟩
    have hown : (probes (first + k)).toPacket.isValid (answers.reply (first + k) host).1 (answers.reply (first + k) host).2 =
        .ok true := by
      by_cases hlt : position.1 < path.length
      · rw [Path.host, if_pos hlt] at hhost
        exact (answers.router k position.1 position.2 hk hlt host hhost).accepted (hmarked.made _ hn) hserves
      · rw [Path.host, if_neg hlt] at hhost
        obtain rfl := Option.some.inj hhost
        refine (answers.target k position.1 position.2 hk (Nat.le_of_not_lt hlt)).accepted ?_
        rw [answers.client, hdest]
        exact path.there
    by_cases hmn : m = first + k
    · subst hmn
      rw [hown, beq_self_eq_true]
    · have hudp : ∀ g, factory ≠ .udp g := fun g hg => by
        subst hg
        exact hserves
      rw [(hmarked.apart hudp hn hm (Ne.symm hmn) _ _).refused hown, beq_eq_false_iff_ne.mpr hmn]

/-! ### The engines -/

theorem Fast.registeredInTime_of_ne (h : c.probeCount ≠ 1) (s : Fast.State) (a : Fast.Action) : Fast.registeredInTime c s a := by
  unfold Fast.registeredInTime
  split
  · split
    · exact fun hone => absurd hone h
    · trivial
  · trivial

def twoHops : Path someHost twoTtls.timeout where
  length := 2
  router _ := some privateHost
  target := someHost
  delay _ := 300000
  there := ⟨rfl, by decide⟩
  away _ _ host h := by
    obtain rfl := Option.some.inj h
    decide
  inTime _ := by decide

/-- The router's Time Exceeded message, which quotes the probe. -/
def exceededReply (n : Nat) : Bytes := fun i =>
  if i = 0 ∨ i = 28 then 0x45 else if i = 20 then ICMP_TIME_EXCEEDED else if 48 ≤ i then (echoRequest n).serialize.getD (i - 48) 0
  else 0

/-- The destination's Echo Reply, which has the identifier of the probe. -/
def echoReply (n : Nat) : Bytes := fun i =>
  if i = 0 then 0x45 else if 24 ≤ i then (echoRequest n).serialize.getD (i - 20) 0 else 0

theorem exceeded_exceededReply (n : Nat) : (echoRequest n).Exceeded .v4 ⟨privateHost, 1, 56⟩ (exceededReply n) := by
  obtain ⟨hheader, houter⟩ := isHeader_of_byte (p := exceededReply n) rfl
  obtain ⟨hquoted, hsize⟩ := isHeader_of_byte (p := (exceededReply n).advance 28) rfl
  have hmessage : Family.v4.message (exceededReply n) = (exceededReply n).advance 20 := by rw [Family.message, houter]
  have hquote : (Family.v4.message (exceededReply n)).advance 8 = (exceededReply n).advance 28 := by
    rw [hmessage, Bytes.advance_advance]
  refine ⟨⟨rfl, rfl, fun _ => hheader, fun h => (by cases h), ?_, fun _ => ?_⟩, ?_, fun i hi _ => ?_⟩
  · rw [houter]
    decide
  · rw [hquote, ipHeaderSize_of_v4 hquoted, hsize, houter]
    exact ⟨hquoted, by decide⟩
  · rw [hmessage]
    rfl
  · rw [quotedHeader, hquote, ipHeaderSize_of_v4 hquoted, hsize, hmessage, Bytes.advance_advance, Bytes.advance_apply,
      exceededReply, if_neg (by omega), if_neg (by omega), if_pos (by omega), show 20 + (8 + 20) + i - 48 = i by omega]

theorem reached_echoReply (n : Nat) : (echoRequest n).Reached .v4 ⟨someHost, 1, 28⟩ (echoReply n) := by
  obtain ⟨hheader, houter⟩ := isHeader_of_byte (p := echoReply n) rfl
  have hmessage : Family.v4.message (echoReply n) = (echoReply n).advance 20 := by rw [Family.message, houter]
  have htype : Family.v4.message (echoReply n) 0 = ICMP_ECHOREPLY := by
    rw [hmessage]
    rfl
  refine .echoReply ⟨rfl, rfl, fun _ => hheader, fun h => (by cases h), ?_, fun h => ?_⟩ htype fun i hi hi' => ?_
  · rw [houter]
    decide
  · rw [htype] at h
    exact absurd h (by decide)
  · rw [hmessage, Bytes.advance_apply, echoReply, if_neg (by omega), if_pos (by omega), Nat.add_sub_cancel_left]
    rfl

theorem someHost_ne : someHost ≠ privateHost := fun h => absurd (congrArg SocketAddress.s_addr h) (by decide)

def hopAnswers : twoHops.Answers (c := twoTtls) .v4 echoRequest 0 where
  reply n host := if host = privateHost then (⟨host, 1, 56⟩, exceededReply n) else (⟨host, 1, 28⟩, echoReply n)
  client n host := by split <;> rfl
  router k _ _ _ _ host h := by
    obtain rfl := Option.some.inj h
    simp only [if_true]
    exact exceeded_exceededReply (0 + k)
  target k _ _ _ _ := by
    simp only [show twoHops.target = someHost from rfl, if_neg someHost_ne]
    exact reached_echoReply (0 + k)

theorem marked_echoRequest : PacketFactory.Marked (.icmp ⟨someHost, someHost⟩) echoRequest (List.range' 0 twoTtls.probeCount) where
  made n _ := @PacketFactory.Makes.icmp _ _ n _ rfl
  differ := by decide

def twoHops6 : Path someHost6 twoTtls.timeout where
  length := 2
  router _ := some otherHost6
  target := someHost6
  delay _ := 300000
  there := ⟨rfl, by decide⟩
  away _ _ host h := by
    obtain rfl := Option.some.inj h
    decide
  inTime _ := by decide

def echoRequest6 (n : Nat) : ProbePacket :=
  match (IcmpPacketFactory.mk someHost6 someHost6).createPacket ⟨0, 0, 0, 0, 0⟩ n with
  | .ok packet => .icmp packet
  | .error _ => .icmp someIcmpPacket

/-- The router's ICMPv6 message, which quotes the probe with the checksum 0xabab. -/
def exceededReply6 (n : Nat) : Bytes := fun i =>
  if i = 0 then ICMP6_TIME_EXCEEDED else if i = 8 then 0x60 else if i < 48 then 0
  else if i = 50 ∨ i = 51 then 0xab else (echoRequest6 n).serialize.getD (i - 48) 0

def echoReply6 (n : Nat) : Bytes := fun i => if i = 0 then ICMP6_ECHO_REPLY else (echoRequest6 n).serialize.getD i 0

theorem exceeded_exceededReply6 (n : Nat) : (echoRequest6 n).Exceeded .v6 ⟨otherHost6, 58, 56⟩ (exceededReply6 n) := by
  have hmessage : Family.v6.message (exceededReply6 n) = exceededReply6 n := Bytes.advance_zero
  have hquoted : Family.v6.IsHeader ((exceededReply6 n).advance 8) := show highBits 0x60 = 6 by decide
  have hsize : ipHeaderSize ((exceededReply6 n).advance 8) = 40 := ipHeaderSize_congr (q := fun _ => 0x60) rfl
  refine ⟨⟨rfl, rfl, fun h => (by cases h), fun _ => Or.inr (Or.inl rfl), (show 0 + 8 ≤ 56 by decide),
    fun _ => ?_⟩, ?_, fun i hi hfield => ?_⟩
  · rw [hmessage, hsize]
    exact ⟨hquoted, (show 0 + 8 + 40 + 8 ≤ 56 by decide)⟩
  · rw [hmessage]
    rfl
  · have hfield : i < 2 ∨ 4 ≤ i := hfield
    rw [quotedHeader, hmessage, hsize, Bytes.advance_apply, exceededReply6, if_neg (by omega), if_neg (by omega),
      if_neg (by omega), if_neg (by omega), show 8 + 40 + i - 48 = i by omega]

theorem reached_echoReply6 (n : Nat) : (echoRequest6 n).Reached .v6 ⟨someHost6, 58, 8⟩ (echoReply6 n) := by
  have hmessage : Family.v6.message (echoReply6 n) = echoReply6 n := Bytes.advance_zero
  have htype : Family.v6.message (echoReply6 n) 0 = ICMP6_ECHO_REPLY := by rw [hmessage]; rfl
  refine .echoReply ⟨rfl, rfl, fun h => (by cases h), fun _ => Or.inl rfl, (show 0 + 8 ≤ 8 by decide), fun h => ?_⟩
    htype fun i hi hi' => ?_
  · rw [htype] at h
    exact absurd h (by decide)
  · rw [hmessage, echoReply6, if_neg (by omega)]
    rfl

theorem someHost6_ne : someHost6 ≠ otherHost6 := fun h => by
  have hbyte : someHost6.mAddress[8] = otherHost6.mAddress[8] := congrArg (fun a => a.mAddress[8]) h
  exact absurd hbyte (by decide)

def hopAnswers6 : twoHops6.Answers (c := twoTtls) .v6 echoRequest6 0 where
  reply n host := if host = otherHost6 then (⟨host, 58, 56⟩, exceededReply6 n) else (⟨host, 58, 8⟩, echoReply6 n)
  client n host := by split <;> rfl
  router k _ _ _ _ host h := by
    obtain rfl := Option.some.inj h
    simp only [if_true]
    exact exceeded_exceededReply6 (0 + k)
  target k _ _ _ _ := by
    simp only [show twoHops6.target = someHost6 from rfl, if_neg someHost6_ne]
    exact reached_echoReply6 (0 + k)

theorem marked_echoRequest6 :
    PacketFactory.Marked (.icmp ⟨someHost6, someHost6⟩) echoRequest6 (List.range' 0 twoTtls.probeCount) where
  made n _ := @PacketFactory.Makes.icmp _ ⟨0, 0, 0, 0, 0⟩ n _ rfl
  differ := by decide

end Traceroute
