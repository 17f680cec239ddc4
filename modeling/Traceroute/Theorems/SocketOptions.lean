import Traceroute.SocketOptions
import Traceroute.Theorems.CreateSockets

/-! The options that the socket providers set on IPv6 sockets: the checksum goes where the probes have it, and the filter
    blocks no answer. -/

namespace Traceroute

variable {kernel : Kernel} {w w' : World} {f : PacketFactory} {ifaceName : Option String} {sockets : List SocketExt}
  {probe : ProbePacket}

/-! ### The checksum -/

namespace Wire

variable {l k : List UInt8} {o x : Nat}

theorem words_octets2 (h : x < 65536) : words ([.ofNat (x / 256), .ofNat x] ++ l) = x :: words l := by
  have hhigh : (UInt8.ofNat (x / 256)).toNat = x / 256 := by
    rw [UInt8.toNat_ofNat']
    omega
  have hlow : (UInt8.ofNat x).toNat = x % 256 := UInt8.toNat_ofNat'
  show (256 * (UInt8.ofNat (x / 256)).toNat + (UInt8.ofNat x).toNat) :: words l = x :: words l
  rw [hhigh, hlow, Nat.div_add_mod]

/-- What is put at an even offset is one of the words. -/
theorem sum_words_putOctets2 (hk : k.length % 2 = 0) (ho : o % 2 = 0) (hle : o ≤ l.length) (hx : x < 65536) :
    (words (k ++ putOctets2 l o x)).sum = (words (k ++ putOctets2 l o 0)).sum + x := by
  have htake : (l.take o).length % 2 = 0 := by
    rw [List.length_take, Nat.min_eq_left hle]
    exact ho
  rw [putOctets2, putOctets2, words_append hk, words_append hk, words_append htake, words_append htake, words_octets2 hx,
    words_octets2 (by decide)]
  simp only [List.sum_append, List.sum_cons]
  omega

theorem length_putOctets2 (h : o + 2 ≤ l.length) : (putOctets2 l o x).length = l.length := by
  simp only [putOctets2, List.length_append, List.length_take, List.length_drop, List.length_cons, List.length_nil]
  omega

theorem words_lt : ∀ x ∈ words l, x < 65536 := OnesComplement.bigEndian_lt toNat_lt_of_mem

/-- At 0 nothing is put. -/
theorem putOctets2_zero (hle : o + 2 ≤ l.length) (hzero : octets2 l o = 0) : putOctets2 l o 0 = l := by
  have hlt : o < l.length := by omega
  have hlt' : o + 1 < l.length := by omega
  have hoctets : l[o] = 0 ∧ l[o + 1] = 0 := by
    simp only [octets2, octet, List.getD_eq_getElem?_getD, List.getElem?_eq_getElem hlt, List.getElem?_eq_getElem hlt',
      Option.getD_some] at hzero
    exact ⟨UInt8.toNat_inj.mp (by rw [UInt8.toNat_zero]; omega), UInt8.toNat_inj.mp (by rw [UInt8.toNat_zero]; omega)⟩
  have hdrop : l.drop o = 0 :: 0 :: l.drop (o + 2) := by
    rw [List.drop_eq_getElem_cons hlt, List.drop_eq_getElem_cons hlt', hoctets.1, hoctets.2]
  calc l.take o ++ ([0, 0] ++ l.drop (o + 2)) = l.take o ++ l.drop o := by rw [hdrop]; rfl
    _ = l := List.take_append_drop _ _

/-- A receiver accepts the checksum. -/
theorem IsChecksum.verifies {source destination : List UInt8} {nextHeader : UInt8} (hsource : source.length = 16)
    (hdestination : destination.length = 16) (ho : o % 2 = 0) (hle : o + 2 ≤ l.length) (hzero : octets2 l o = 0)
    (h : IsChecksum (pseudoheader6 source destination nextHeader l.length ++ l) x) :
    Verifies (pseudoheader6 source destination nextHeader (putOctets2 l o x).length ++ putOctets2 l o x) := by
  have hpseudo : (pseudoheader6 source destination nextHeader l.length).length % 2 = 0 := by
    simp [pseudoheader6, hsource, hdestination]
  have hfolds := OnesComplement.sum_folds (B := 65536) (by decide)
    (words_lt (l := pseudoheader6 source destination nextHeader l.length ++ l))
  have hlt := hfolds.lt
  have hsum : ∀ x < 65536, (words (pseudoheader6 source destination nextHeader l.length ++ putOctets2 l o x)).sum =
      (words (pseudoheader6 source destination nextHeader l.length ++ l)).sum + x := fun x hx => by
    rw [sum_words_putOctets2 hpseudo ho (by omega) hx, putOctets2_zero hle hzero]
  rw [length_putOctets2 hle, Verifies, OnesComplement.sum_eq_max_iff (by decide) words_lt]
  unfold IsChecksum checksum at h
  rcases h with rfl | ⟨hmax, rfl⟩
  · rw [hsum _ (by omega)]
    exact ⟨hfolds.add_complement_ne_zero (by decide), hfolds.dvd_add_complement⟩
  · rw [hsum _ (by decide)]
    have hdvd := hfolds.dvd_add_complement
    exact ⟨by omega, by omega⟩

end Wire

section
variable {protocol : Int} {address : SocketAddress} {s : Socket}

/-- The option is the last call that makes an IPv6 socket. -/
theorem Made.option (h : Made kernel protocol address ifaceName w s w') (hV6 : address.isV4 = false) :
    (SystemCall.setsockopt s.fd (optionFor protocol)).Lasts w'.calls := by
  have hprotocol : s.protocol = protocol := congrArg Socket.protocol h.eq
  rw [h.calls, Socket.madeBy, if_pos (by rw [SocketAddress.isV6, hV6]; rfl), hprotocol, ← List.append_assoc]
  exact SystemCall.lasts_concat

theorem Made.bound (h : Made kernel protocol address ifaceName w s w') :
    (SystemCall.bind s.fd address address.size).Lasts w'.calls := by
  rw [h.calls, Socket.madeBy, bindCalls, ← List.cons_append, ← List.append_assoc, ← List.append_assoc]
  refine SystemCall.lasts_concat.append fun call hcall => ?_
  split at hcall
  · obtain rfl := List.mem_singleton.mp hcall
    cases optionFor s.protocol <;> rfl
  · cases hcall

end

/-- The sending socket is the last that is made. -/
theorem createSockets_sender (h : f.createSockets kernel ifaceName w = (.ok sockets, w')) :
    ∃ x ∈ sockets, x.role.and .Send = true ∧ ∃ w₁, Made kernel f.protocol f.source ifaceName w₁ x.socket w' := by
  cases f with
  | icmp f =>
    obtain ⟨icmp, w₁, hicmp, hrun⟩ := Sys.bind_eq_ok h
    cases hrun
    exact ⟨_, List.mem_singleton.mpr rfl, (show (Role.Receive.or .Send).and .Send = true by decide), w, setupIcmpRawSocket_made hicmp⟩
  | tcp f =>
    obtain ⟨icmp, w₁, hicmp, hrun⟩ := Sys.bind_eq_ok h
    obtain ⟨tcp, w₂, htcp, hrun'⟩ := Sys.bind_eq_ok hrun
    cases hrun'
    exact ⟨_, List.mem_cons_of_mem _ List.mem_cons_self, (show (Role.Receive.or .Send).and .Send = true by decide), w₁,
      setupTcpRawSocket_made htcp⟩
  | udp f =>
    obtain ⟨icmp, w₁, hicmp, hrun⟩ := Sys.bind_eq_ok h
    obtain ⟨udp, w₂, hudp, hrun'⟩ := Sys.bind_eq_ok hrun
    cases hrun'
    exact ⟨_, List.mem_cons_of_mem _ List.mem_cons_self, (show Role.Send.and .Send = true by decide), w₁, setupUdpRawSocket_made hudp⟩

/-- The offset of a TCP or UDP socket is that of the checksum in the probes. -/
theorem optionFor_protocol (hmade : f.Makes probe) (hprotocol : f.protocol ≠ IPPROTO_ICMPV6) (hV6 : f.source.isV4 = false) :
    optionFor f.protocol = .ipv6Checksum probe.checksumField := by
  cases hmade with
  | @icmp f memory rand packet made =>
    have hicmp : icmpProtocol f.mSource = IPPROTO_ICMPV6 := if_neg (by simpa [PacketFactory.source] using hV6)
    exact absurd hicmp hprotocol
  | tcp | udp => rfl

theorem checksumField_of_icmpv6 (hmade : f.Makes probe) (hprotocol : f.protocol = IPPROTO_ICMPV6) : probe.checksumField = 2 := by
  cases hmade with
  | icmp => rfl
  | tcp => exact absurd hprotocol (by decide : IPPROTO_TCP ≠ IPPROTO_ICMPV6)
  | udp => exact absurd hprotocol (by decide : IPPROTO_UDP ≠ IPPROTO_ICMPV6)

theorem Made.checksumAt {address : SocketAddress} {s : Socket} (h : Made kernel f.protocol address ifaceName w s w')
    (hmade : f.Makes probe) (haddress : address.isV4 = false) (hV6 : f.source.isV4 = false) :
    s.checksumAt w'.calls probe.checksumField := by
  have hsame : s.protocol = f.protocol := congrArg Socket.protocol h.eq
  rw [Socket.checksumAt, hsame]
  split
  · rename_i hicmp
    exact checksumField_of_icmpv6 hmade hicmp
  · rename_i hother
    exact optionFor_protocol hmade hother hV6 ▸ h.option haddress

theorem octets2_serialize {pod : Bytes} {size : UInt64} {o : Nat} (ho : o + 1 < size.toNat) (hlow : pod o = 0)
    (hhigh : pod (o + 1) = 0) : Wire.octets2 (utils.serialize pod size) o = 0 := by
  rw [Wire.octets2, Wire.octet, Wire.octet, getD_serialize _ _ (by omega), getD_serialize _ _ ho, hlow, hhigh]
  rfl

/-- An IPv6 probe has left its checksum at 0. -/
theorem octets2_checksumField (hmade : f.Makes probe) (hV6 : f.source.isV4 = false) :
    Wire.octets2 probe.serialize probe.checksumField = 0 := by
  cases hmade with
  | @icmp f memory rand packet made =>
    have hV6 : ¬f.mSource.isV4 = true := by simpa [PacketFactory.source] using hV6
    rw [IcmpPacketFactory.createPacket, if_neg hV6] at made
    obtain ⟨base, hmake, -⟩ := PacketBase.create_bind_eq_ok made
    cases Except.ok.inj hmake
    exact octets2_serialize (o := 2) (by decide) (show Bytes.ofU16 0 0 = 0 by decide) (show Bytes.ofU16 0 1 = 0 by decide)
  | @tcp f memory rand₁ rand₂ packet made =>
    have hV6 : ¬f.mSource.isV4 = true := by simpa [PacketFactory.source] using hV6
    obtain ⟨base, hmake, -⟩ := PacketBase.create_bind_eq_ok made
    simp only [if_neg hV6] at hmake
    cases Except.ok.inj hmake
    exact octets2_serialize (o := 16) (by decide) (show Bytes.ofU16 0 0 = 0 by decide) (show Bytes.ofU16 0 1 = 0 by decide)
  | @udp f memory rand packet made =>
    have hV6 : ¬f.mSource.isV4 = true := by simpa [PacketFactory.source] using hV6
    obtain ⟨base, hmake, -⟩ := PacketBase.create_bind_eq_ok made
    simp only [if_neg hV6] at hmake
    cases Except.ok.inj hmake
    exact octets2_serialize (o := 6) (by decide) (show Bytes.ofU16 0 0 = 0 by decide) (show Bytes.ofU16 0 1 = 0 by decide)

/-- The header with another checksum. -/
def ProbePacket.SameButChecksum (probe : ProbePacket) (bytes : List UInt8) : Prop :=
  match probe with
  | .icmp packet => (Wire.decodeEcho bytes).map ({ · with checksum := 0 }) = (Wire.decodeEcho packet.serialize).map ({ · with checksum := 0 })
  | .tcp packet => (Wire.decodeTcp bytes).map ({ · with checksum := 0 }) = (Wire.decodeTcp packet.serialize).map ({ · with checksum := 0 })
  | .udp packet => (Wire.decodeUdp bytes).map ({ · with checksum := 0 }) = (Wire.decodeUdp packet.serialize).map ({ · with checksum := 0 })

theorem sameButChecksum_putOctets2 (probe : ProbePacket) (x : Nat) :
    probe.SameButChecksum (Wire.putOctets2 probe.serialize probe.checksumField x) := by
  cases probe <;> rfl

theorem length_serialize_probe (probe : ProbePacket) : probe.checksumField + 2 ≤ probe.serialize.length := by
  cases probe <;> exact Nat.le_of_ble_eq_true rfl

theorem checksumField_even (probe : ProbePacket) : probe.checksumField % 2 = 0 := by
  cases probe with
  | icmp packet => exact Nat.mul_mod_right 2 1
  | tcp packet => exact Nat.mul_mod_right 2 8
  | udp packet => exact Nat.mul_mod_right 2 3

theorem mem_sends {l : List SocketExt} {x : SocketExt} (hx : x ∈ l) (hrole : x.role.and .Send = true) :
    x.socket.fd ∈ DataSender.sends l := List.mem_map.mpr ⟨x, List.mem_filter.mpr ⟨hx, hrole⟩, rfl⟩

/-- What the last of the calls gives that gives anything. -/
def latest {α : Type} (gives : SystemCall → Option α) (calls : List SystemCall) : Option α := calls.reverse.findSome? gives

theorem latest_of_lasts {α : Type} {gives : SystemCall → Option α} {call : SystemCall} {calls : List SystemCall} {a : α}
    (h : call.Lasts calls) (hgives : gives call = some a) (hundoes : ∀ call', call'.undoes call = false → gives call' = none) :
    latest gives calls = some a := by
  obtain ⟨before, after, rfl, hkept⟩ := h
  have hnone : after.reverse.findSome? gives = none :=
    List.findSome?_eq_none_iff.mpr fun call' hcall' => hundoes call' (hkept call' (List.mem_reverse.mp hcall'))
  simp [latest, hnone, hgives]

/-- The filter of the descriptor, if it has one. -/
def SystemCall.filterOf (fd : Int) : SystemCall → Option (Option (List UInt8))
  | .setsockopt fd' (.icmp6Filter pass) => if fd' = fd then some (some pass) else none
  | .close fd' => if fd' = fd then some none else none
  | _ => none

def SystemCall.offsetOf (fd : Int) : SystemCall → Option (Option Int)
  | .setsockopt fd' (.ipv6Checksum offset) => if fd' = fd then some (some offset) else none
  | .close fd' => if fd' = fd then some none else none
  | _ => none

def SystemCall.addressOf (fd : Int) : SystemCall → Option (Option SocketAddress)
  | .bind fd' address _ => if fd' = fd then some (some address) else none
  | .close fd' => if fd' = fd then some none else none
  | _ => none

theorem filterOf_of_undoes {call : SystemCall} {fd : Int} {pass : List UInt8}
    (h : call.undoes (.setsockopt fd (.icmp6Filter pass)) = false) : call.filterOf fd = none := by
  cases call with
  | setsockopt fd' option => cases option <;> simp_all [SystemCall.undoes, SystemCall.filterOf]
  | close fd' => simp_all [SystemCall.undoes, SystemCall.filterOf]
  | _ => rfl

theorem offsetOf_of_undoes {call : SystemCall} {fd offset : Int} (h : call.undoes (.setsockopt fd (.ipv6Checksum offset)) = false) :
    call.offsetOf fd = none := by
  cases call with
  | setsockopt fd' option => cases option <;> simp_all [SystemCall.undoes, SystemCall.offsetOf]
  | close fd' => simp_all [SystemCall.undoes, SystemCall.offsetOf]
  | _ => rfl

theorem addressOf_of_undoes {call : SystemCall} {fd : Int} {address : SocketAddress} {size : UInt32}
    (h : call.undoes (.bind fd address size) = false) : call.addressOf fd = none := by
  cases call with
  | setsockopt fd' option => rfl
  | close fd' | bind fd' => simp_all [SystemCall.undoes, SystemCall.addressOf]
  | _ => rfl

/-- Without a filter every message is delivered; data for which no offset is set leaves as it is. -/
def someSockets6 : RawSockets6 where
  delivers calls fd message := match latest (·.filterOf fd) calls with
    | some (some pass) => pass.contains (message 0)
    | _ => true
  leaves calls s destination data :=
    match latest (·.addressOf s.fd) calls, if s.protocol = IPPROTO_ICMPV6 then some (some 2) else latest (·.offsetOf s.fd) calls with
    | some (some source), some (some offset) =>
      let x := Wire.checksum (Wire.pseudoheader6 source.in6_addr destination.in6_addr (.ofNat s.protocol.toNat) data.length ++ data)
      Wire.putOctets2 data offset.toNat (if x = 0 ∧ s.protocol = IPPROTO_UDP then 0xFFFF else x)
    | _, _ => data
  filtered {calls fd pass} h message := by
    rw [latest_of_lasts h (if_pos rfl) fun _ => filterOf_of_undoes]
  filled {calls s source o} hbound _ hoffset destination data _ _ _ := by
    have haddress : latest (·.addressOf s.fd) calls = some (some source) :=
      latest_of_lasts hbound (if_pos rfl) fun _ => addressOf_of_undoes
    have hplace : (if s.protocol = IPPROTO_ICMPV6 then some (some 2) else latest (·.offsetOf s.fd) calls) = some (some (o : Int)) := by
      unfold Socket.checksumAt at hoffset
      split
      · rename_i hicmp
        rw [if_pos hicmp] at hoffset
        rw [hoffset]
        rfl
      · rename_i hother
        rw [if_neg hother] at hoffset
        exact latest_of_lasts hoffset (if_pos rfl) fun _ => offsetOf_of_undoes
    rw [haddress, hplace]
    refine ⟨_, rfl, ?_⟩
    split
    · rename_i hzero
      exact Or.inr ⟨hzero.1, rfl⟩
    · exact Or.inl rfl

/-- A SYN from fe80::1 to fe80::2. -/
def linkLocalSyn : PacketFactory := .tcp ⟨linkLocal 1, linkLocal 2, 80⟩

/-- A filter is not touched when another socket is made. -/
theorem undoes_madeBy {address : SocketAddress} {s : Socket} {fd : Int} {pass : List UInt8} (hfd : s.fd ≠ fd) :
    ∀ call ∈ s.madeBy address ifaceName, call.undoes (.setsockopt fd (.icmp6Filter pass)) = false := by
  intro call hcall
  rw [Socket.madeBy, List.mem_append, List.mem_cons, bindCalls, List.mem_append] at hcall
  rcases hcall with (rfl | hcall | hcall) | hcall
  · rfl
  · obtain ⟨name, -, rfl⟩ := List.mem_map.mp hcall
    rfl
  · obtain rfl := List.mem_singleton.mp hcall
    rfl
  · split at hcall
    · obtain rfl := List.mem_singleton.mp hcall
      cases optionFor s.protocol with
      | icmp6Filter pass => exact decide_eq_false hfd
      | bindToDevice | ipv6Checksum => rfl
    · cases hcall

/-- The types that an ICMPv6 socket lets pass. -/
def passed : List UInt8 := [ICMP6_ECHO_REPLY, ICMP6_TIME_EXCEEDED, ICMP6_DST_UNREACH]

theorem Made.filter {protocol : Int} {address address' : SocketAddress} {icmp probes : Socket} {w₁ : World}
    (hicmp : Made kernel IPPROTO_ICMPV6 address ifaceName w icmp w₁) (hV6 : address.isV4 = false)
    (hprobes : Made kernel protocol address' ifaceName w₁ probes w') :
    (SystemCall.setsockopt icmp.fd (.icmp6Filter passed)).Lasts w'.calls := by
  have hne : probes.fd ≠ icmp.fd := fun heq => by
    have hnew : probes.fd ∉ w₁.descriptors := by
      rw [hprobes.eq]
      exact kernel.new_notMem _
    rw [heq, hicmp.descriptors] at hnew
    exact hnew List.mem_cons_self
  rw [hprobes.calls]
  exact (hicmp.option hV6).append (undoes_madeBy hne)

theorem createSockets_filter (h : f.createSockets kernel ifaceName w = (.ok sockets, w')) (hV6 : f.source.isV4 = false) :
    ∃ x ∈ sockets, x.role.and .Receive = true ∧ x.socket.protocol = IPPROTO_ICMPV6 ∧
      (SystemCall.setsockopt x.socket.fd (.icmp6Filter passed)).Lasts w'.calls := by
  have hmade : ∀ {s : Socket} {w₁ : World}, setupIcmpRawSocket kernel f.source ifaceName w = (.ok s, w₁) →
      Made kernel IPPROTO_ICMPV6 f.source ifaceName w s w₁ := fun hsetup => by
    have hprotocol : icmpProtocol f.source = IPPROTO_ICMPV6 := by rw [icmpProtocol, if_neg (by rw [hV6]; decide)]
    rw [← hprotocol]
    exact setupIcmpRawSocket_made hsetup
  cases f with
  | icmp f =>
    obtain ⟨icmp, w₁, hicmp, hrun⟩ := Sys.bind_eq_ok h
    cases hrun
    exact ⟨_, List.mem_singleton.mpr rfl, (show (Role.Receive.or .Send).and .Receive = true by decide),
      congrArg Socket.protocol (hmade hicmp).eq, (hmade hicmp).option hV6⟩
  | tcp f =>
    obtain ⟨icmp, w₁, hicmp, hrun⟩ := Sys.bind_eq_ok h
    obtain ⟨tcp, w₂, htcp, hrun'⟩ := Sys.bind_eq_ok hrun
    cases hrun'
    exact ⟨_, List.mem_cons_self, (show Role.Receive.and .Receive = true by decide), congrArg Socket.protocol (hmade hicmp).eq,
      (hmade hicmp).filter hV6 (setupTcpRawSocket_made htcp)⟩
  | udp f =>
    obtain ⟨icmp, w₁, hicmp, hrun⟩ := Sys.bind_eq_ok h
    obtain ⟨udp, w₂, hudp, hrun'⟩ := Sys.bind_eq_ok hrun
    cases hrun'
    exact ⟨_, List.mem_cons_self, (show Role.Receive.and .Receive = true by decide), congrArg Socket.protocol (hmade hicmp).eq,
      (hmade hicmp).filter hV6 (setupUdpRawSocket_made hudp)⟩

theorem not_announcesIp_of_passed {p : Bytes} (h : p 0 ∈ passed) : announcesIp p = false := by
  have hall : passed.all (fun x => !announcesIp fun _ => x) = true := by decide
  rw [announcesIp_congr (q := fun _ => p 0) rfl]
  exact (Bool.not_eq_true' _).mp (List.all_eq_true.mp hall _ h)

theorem listens_icmpv6 (probe : ProbePacket) : probe.listens IPPROTO_ICMPV6 = true := by
  cases probe <;> rfl

/-- What a probe does not refuse has one of the types that pass, or it is an ICMP probe and the type is one of ICMPv4. -/
theorem type_of_query {responseInfo : ResponseInfo} {p : Bytes} (hclient : responseInfo.client.isV4 = false)
    (hprotocol : responseInfo.protocol = IPPROTO_ICMPV6) (haccepts : (probe.query responseInfo (p 0)).answer p = .ok true) :
    p 0 ∈ passed ∨ (∃ packet, probe = .icmp packet) ∧ (p 0 = ICMP_ECHOREPLY ∨ p 0 = ICMP_TIME_EXCEEDED) := by
  have hrefuse : ∀ {q : Query}, q.answer p = .ok true → q ≠ .refuse := fun hanswer hq => by
    rw [hq] at hanswer
    cases hanswer
  cases probe with
  | icmp packet =>
    have hq := hrefuse haccepts
    simp only [ProbePacket.query, IcmpPacket.query] at hq
    split at hq
    · rename_i hreply
      rcases hreply with hreply | hreply
      · exact Or.inr ⟨⟨packet, rfl⟩, Or.inl hreply⟩
      · exact Or.inl (by rw [hreply]; decide)
    · split at hq
      · rename_i hexceeded
        rcases hexceeded with hexceeded | hexceeded
        · exact Or.inr ⟨⟨packet, rfl⟩, Or.inr hexceeded⟩
        · exact Or.inl (by rw [hexceeded]; decide)
      · exact absurd rfl hq
  | tcp packet =>
    have hq := hrefuse haccepts
    rw [ProbePacket.query, if_pos (by rw [hprotocol]; rfl), TcpPacket.icmpQuery] at hq
    by_cases hanswered : packet.answeredBy responseInfo.client (p 0) = true
    · rw [TcpPacket.answeredBy, if_neg (by rw [hclient]; decide), Bool.or_eq_true, Bool.and_eq_true, beq_iff_eq, beq_iff_eq] at hanswered
      rcases hanswered with hexceeded | ⟨hunreach, -⟩
      · exact Or.inl (by rw [hexceeded]; decide)
      · exact Or.inl (by rw [hunreach]; decide)
    · rw [if_neg hanswered] at hq
      exact absurd rfl hq
  | udp packet =>
    have hfield := fieldHolds_eq_true.mp (Except.ok.inj haccepts) 0 Nat.zero_lt_one
    have htype : p 0 = packet.answerType responseInfo.client := hfield
    rw [htype, UdpPacket.answerType, if_neg (by rw [hclient]; decide)]
    split
    · exact Or.inl (by decide)
    · exact Or.inl (by decide)

/-- A message that the ICMPv6 socket delivers is read from its first byte on, never as an IP header. Of those that the filter
    blocks a probe would accept none, but for what begins like an IP header, and for an ICMP probe what has a type of ICMPv4. -/
theorem filter_blocks_no_answer (raw : RawSockets6) (kernel : Kernel) (w w' : World) (f : PacketFactory)
    (ifaceName : Option String) (sockets : List SocketExt) (hsource : f.source.family = AF_INET6)
    (h : f.createSockets kernel ifaceName w = (.ok sockets, w')) :
    ∃ x ∈ sockets, x.role.and .Receive = true ∧ x.socket.protocol = IPPROTO_ICMPV6 ∧
      (SystemCall.setsockopt x.socket.fd (.icmp6Filter passed)).Lasts w'.calls ∧
      ∀ probe, f.Makes probe → ∀ (client : SocketAddress) (size : UInt64) (p : Bytes), client.isV4 = false → 0 < size.toNat →
        (raw.delivers w'.calls x.socket.fd p = true → probe.toPacket.isValid ⟨client, IPPROTO_ICMPV6, size⟩ p =
          if probe.minimum IPPROTO_ICMPV6 ≤ size.toNat then (probe.query ⟨client, IPPROTO_ICMPV6, size⟩ (p 0)).answer p else .ok false) ∧
        (raw.delivers w'.calls x.socket.fd p = false → probe.toPacket.isValid ⟨client, IPPROTO_ICMPV6, size⟩ p = .ok true →
          announcesIp p = true ∨ (∃ packet, probe = .icmp packet) ∧ (p 0 = ICMP_ECHOREPLY ∨ p 0 = ICMP_TIME_EXCEEDED)) := by
  obtain ⟨x, hx, hrole, hprotocol, hfilter⟩ := createSockets_filter h (SocketAddress.isV4_of_family6 hsource)
  refine ⟨x, hx, hrole, hprotocol, hfilter, fun probe hmade client size p hclient hsize => ?_⟩
  have hdelivers := raw.filtered hfilter p
  have hplain : announcesIp p = false → probe.toPacket.isValid ⟨client, IPPROTO_ICMPV6, size⟩ p =
      if probe.minimum IPPROTO_ICMPV6 ≤ size.toNat then (probe.query ⟨client, IPPROTO_ICMPV6, size⟩ (p 0)).answer p else .ok false := by
    intro hannounces
    have hheader := ipHeaderSize_of_not_announcesIp hannounces
    rw [ProbePacket.isValid_of_listens (listens_icmpv6 probe), if_neg (Nat.ne_of_gt hsize), hheader]
    simp
  constructor
  · intro hpass
    rw [hdelivers, List.contains_iff_mem] at hpass
    exact hplain (not_announcesIp_of_passed hpass)
  · intro hblocked haccepts
    by_cases hannounces : announcesIp p = true
    · exact Or.inl hannounces
    · rw [hplain (by simpa using hannounces)] at haccepts
      split at haccepts
      · rcases @type_of_query probe ⟨client, IPPROTO_ICMPV6, size⟩ p hclient rfl haccepts with hpass | hicmp
        · rw [hdelivers, List.contains_iff_mem.mpr hpass] at hblocked
          cases hblocked
        · exact Or.inr hicmp
      · cases haccepts

/-- A message of the type with nothing in it. -/
def emptyMessage (type : UInt8) : Bytes := fun i => if i = 0 then type else 0

/-- Destination Unreachable is delivered, and what it quotes decides; Packet Too Big is not, and no probe would accept it. -/
theorem filter_blocks_no_answer_unreachable : ∃ sockets w',
    linkLocalSyn.createSockets (someKernel fun _ => none) none someWorld = (.ok sockets, w') ∧
    ∃ x ∈ sockets, someSockets6.delivers w'.calls x.socket.fd (emptyMessage ICMP6_DST_UNREACH) = true ∧
      someSockets6.delivers w'.calls x.socket.fd (emptyMessage 2) = false ∧
      ∀ probe, linkLocalSyn.Makes probe →
        probe.toPacket.isValid ⟨linkLocal 2, IPPROTO_ICMPV6, 68⟩ (emptyMessage ICMP6_DST_UNREACH) =
          (probe.query ⟨linkLocal 2, IPPROTO_ICMPV6, 68⟩ ICMP6_DST_UNREACH).answer (emptyMessage ICMP6_DST_UNREACH) ∧
        probe.toPacket.isValid ⟨linkLocal 2, IPPROTO_ICMPV6, 68⟩ (emptyMessage 2) ≠ .ok true := by
  obtain ⟨x, hx, -, -, hfilter, hjudged⟩ := filter_blocks_no_answer someSockets6 (someKernel fun _ => none) someWorld _ linkLocalSyn
    none _ (by decide) rfl
  have hdelivers := someSockets6.filtered hfilter (emptyMessage ICMP6_DST_UNREACH)
  have hblocks := someSockets6.filtered hfilter (emptyMessage 2)
  refine ⟨_, _, rfl, x, hx, hdelivers, hblocks, fun probe hmade => ⟨?_, fun haccepts => ?_⟩⟩
  · rw [(hjudged probe hmade (linkLocal 2) 68 _ (by decide) (by decide)).1 hdelivers, if_pos]
    · rfl
    · cases hmade with
      | tcp => exact (by decide : 28 ≤ (68 : UInt64).toNat)
  · rcases (hjudged probe hmade (linkLocal 2) 68 _ (by decide) (by decide)).2 hblocks haccepts with hannounces | ⟨-, htype | htype⟩
    · rw [announcesIp_congr (q := fun _ => 2) rfl] at hannounces
      exact absurd hannounces (by decide)
    · exact absurd htype (by decide)
    · exact absurd htype (by decide)

end Traceroute
