import Traceroute.Sending
import Traceroute.Theorems.Attribution
import Traceroute.Theorems.DataSenderSockets
import Traceroute.Theorems.Descriptors
import Traceroute.Theorems.ProbeChecksums

/-! What `createSockets` has done when it returns, and the `DataSender` that is made of its sockets. -/

namespace Traceroute

variable {α β : Type} {kernel : Kernel} {w w' : World} {fd : Int} {address : SocketAddress} {ifaceName : Option String}

/-! ### The calls that have been made -/

/-- When it returns, it has made these calls, on an open descriptor. -/
structure Performs (fd : Int) (calls : List SystemCall) (post : α → Prop) (m : Sys α) : Prop where
  made : ∀ w a w', m w = (.ok a, w') → w'.calls = w.calls ++ calls
  kept : ∀ w a w', m w = (.ok a, w') → w'.descriptors = w.descriptors
  opened : ∀ w a w', m w = (.ok a, w') → calls ≠ [] → fd ∈ w.descriptors
  returns : ∀ w a w', m w = (.ok a, w') → post a

variable {calls calls' : List SystemCall} {post : α → Prop} {post' : β → Prop}

theorem Performs.pure {a : α} (h : post a) : Performs fd [] post (Pure.pure a : Sys α) where
  made w b w' hok := by
    cases hok
    exact (List.append_nil _).symm
  kept w b w' hok := by
    cases hok
    rfl
  opened w b w' hok hne := absurd rfl hne
  returns w b w' hok := by
    cases hok
    exact h

theorem Performs.bind {m : Sys α} {f : α → Sys β} (hm : Performs fd calls post m) (hf : ∀ a, Performs fd calls' post' (f a)) :
    Performs fd (calls ++ calls') post' (m >>= f) where
  made w b w' hok := by
    obtain ⟨a, w₁, hrun, hrun'⟩ := Sys.bind_eq_ok hok
    rw [(hf a).made w₁ b w' hrun', hm.made w a w₁ hrun, List.append_assoc]
  kept w b w' hok := by
    obtain ⟨a, w₁, hrun, hrun'⟩ := Sys.bind_eq_ok hok
    rw [(hf a).kept w₁ b w' hrun', hm.kept w a w₁ hrun]
  opened w b w' hok hne := by
    obtain ⟨a, w₁, hrun, hrun'⟩ := Sys.bind_eq_ok hok
    by_cases hcalls : calls = []
    · rw [hcalls, List.nil_append] at hne
      rw [← hm.kept w a w₁ hrun]
      exact (hf a).opened w₁ b w' hrun' hne
    · exact hm.opened w a w₁ hrun hcalls
  returns w b w' hok := by
    obtain ⟨a, w₁, -, hrun'⟩ := Sys.bind_eq_ok hok
    exact (hf a).returns w₁ b w' hrun'

/-- A call that is followed by a `throw` when it fails. -/
theorem Performs.check (call : SystemCall) {m onError : Sys α} (h : ∀ w, ∃ e, onError w = (.error e, w))
    (hm : Performs fd calls post m) :
    Performs fd (call :: calls) post (kernel.onDescriptor fd call >>= fun done => if !done then onError else m) := by
  have key : ∀ w a w', (kernel.onDescriptor fd call >>= fun done => if !done then onError else m) w = (.ok a, w') →
      fd ∈ w.descriptors ∧ m { w with calls := w.calls ++ [call] } = (.ok a, w') := fun w a w' hok => by
    by_cases hgrants : kernel.Grants fd w 0
    · rw [Sys.bind_ok (Kernel.onDescriptor_true call hgrants)] at hok
      exact ⟨hgrants.1, hok⟩
    · obtain ⟨errno, hrun⟩ := Kernel.onDescriptor_false call hgrants
      obtain ⟨e, herror⟩ := h { w with calls := w.calls ++ [call], errno }
      rw [Sys.bind_ok hrun] at hok
      cases herror.symm.trans hok
  refine ⟨fun w a w' hok => ?_, fun w a w' hok => ?_, fun w a w' hok _ => ?_, fun w a w' hok => ?_⟩
  · rw [hm.made _ a w' (key w a w' hok).2, List.append_assoc, List.singleton_append]
  · exact hm.kept { w with calls := w.calls ++ [call] } a w' (key w a w' hok).2
  · exact (key w a w' hok).1
  · exact hm.returns _ a w' (key w a w' hok).2

/-- The calls that bind a socket to the interface, if one is named, and to the address. -/
def bindCalls (fd : Int) (address : SocketAddress) (ifaceName : Option String) : List SystemCall :=
  (ifaceName.toList.map fun name => .setsockopt fd (.bindToDevice name)) ++ [.bind fd address address.size]

theorem bindNamedInterface_performs : Performs fd (ifaceName.toList.map fun name => .setsockopt fd (.bindToDevice name)) (fun _ => True)
    (bindNamedInterface kernel fd ifaceName) := by
  cases ifaceName with
  | none => exact .pure trivial
  | some name => exact .check _ (fun _ => ⟨_, rfl⟩) (.pure trivial)

theorem bindToIpAddressAndInterface_performs :
    Performs fd (bindCalls fd address ifaceName) (fun _ => True) (bindToIpAddressAndInterface kernel fd address ifaceName) :=
  bindNamedInterface_performs.bind fun _ => .check _ (fun _ => ⟨_, rfl⟩) (.pure trivial)

/-- The option of an IPv6 socket: what an ICMPv6 one lets pass, and where a TCP or UDP one has its checksum. -/
def optionFor (protocol : Int) : SocketOption :=
  if protocol = IPPROTO_TCP then .ipv6Checksum 16
  else if protocol = IPPROTO_UDP then .ipv6Checksum 6
  else .icmp6Filter [ICMP6_ECHO_REPLY, ICMP6_TIME_EXCEEDED, ICMP6_DST_UNREACH]

/-- The calls that make a socket. -/
def Socket.madeBy (address : SocketAddress) (ifaceName : Option String) (s : Socket) : List SystemCall :=
  .socket address.family (SOCK_RAW ||| SOCK_NONBLOCK) s.protocol :: bindCalls s.fd address ifaceName ++
    if address.isV6 then [.setsockopt s.fd (optionFor s.protocol)] else []

/-- What has been done when a socket is returned: its descriptor is the one that has been opened. -/
structure Made (kernel : Kernel) (protocol : Int) (address : SocketAddress) (ifaceName : Option String) (w : World) (s : Socket)
    (w' : World) : Prop where
  eq : s = ⟨kernel.newDescriptor w.descriptors, protocol⟩
  descriptors : w'.descriptors = s.fd :: w.descriptors
  calls : w'.calls = w.calls ++ s.madeBy address ifaceName

theorem setupRawSocket_made {protocol : Int} {what : Int → String} {s : Socket}
    (h : setupRawSocket kernel protocol (optionFor protocol) what address ifaceName w = (.ok s, w')) :
    Made kernel protocol address ifaceName w s w' := by
  have hrest : ∀ fd, Performs fd
      (bindCalls fd address ifaceName ++ if address.isV6 then [.setsockopt fd (optionFor protocol)] else [])
      (· = ⟨fd, protocol⟩) (do
        bindToIpAddressAndInterface kernel fd address ifaceName
        if address.isV6 then
          if !(← kernel.setsockopt fd (optionFor protocol)) then
            throw (.runtime_error (what (← get).errno))
        return (⟨fd, protocol⟩ : Socket)) := fun fd => by
    refine bindToIpAddressAndInterface_performs.bind fun _ => ?_
    split
    · exact .check _ (fun _ => ⟨_, rfl⟩) (.pure rfl)
    · exact .pure rfl
  obtain ⟨fd, w₁, hsocket, hrun⟩ := Sys.bind_eq_ok h
  have hfd := (hrest fd).opened w₁ s w' hrun (by simp [bindCalls])
  have hs := (hrest fd).returns w₁ s w' hrun
  have hcalls := (hrest fd).made w₁ s w' hrun
  have hdescriptors := (hrest fd).kept w₁ s w' hrun
  cases houtcome : kernel.outcome w.calls.length with
  | some errno =>
    simp only [Kernel.socket, houtcome] at hsocket
    obtain ⟨hminus, -⟩ := Prod.mk.inj hsocket
    obtain rfl := Except.ok.inj hminus
    exact absurd (w₁.nonneg _ hfd) (by decide)
  | none =>
    simp only [Kernel.socket, houtcome] at hsocket
    obtain ⟨hnew, rfl⟩ := Prod.mk.inj hsocket
    obtain rfl := Except.ok.inj hnew
    subst hs
    refine ⟨rfl, hdescriptors, ?_⟩
    rw [hcalls, Socket.madeBy, List.append_assoc]
    rfl

/-! ### The providers -/

def icmpProtocol (address : SocketAddress) : Int := if address.isV4 then IPPROTO_ICMP else IPPROTO_ICMPV6

theorem validateIcmpProtocol_icmpProtocol (address : SocketAddress) : validateIcmpProtocol (icmpProtocol address) = true := by
  rw [icmpProtocol]
  split <;> rfl

theorem setupIcmpRawSocket_made {s : Socket} (h : setupIcmpRawSocket kernel address ifaceName w = (.ok s, w')) :
    Made kernel (icmpProtocol address) address ifaceName w s w' := by
  have hoption : optionFor (icmpProtocol address) = .icmp6Filter [ICMP6_ECHO_REPLY, ICMP6_TIME_EXCEEDED, ICMP6_DST_UNREACH] := by
    rw [icmpProtocol]
    split <;> rfl
  rw [setupIcmpRawSocket, ← hoption] at h
  exact setupRawSocket_made h

theorem setupTcpRawSocket_made {s : Socket} (h : setupTcpRawSocket kernel address ifaceName w = (.ok s, w')) :
    Made kernel IPPROTO_TCP address ifaceName w s w' := setupRawSocket_made h

theorem setupUdpRawSocket_made {s : Socket} (h : setupUdpRawSocket kernel address ifaceName w = (.ok s, w')) :
    Made kernel IPPROTO_UDP address ifaceName w s w' := setupRawSocket_made h

/-- The addresses of the probes. -/
def PacketFactory.source : PacketFactory → SocketAddress
  | .icmp f => f.mSource
  | .tcp f => f.mSource
  | .udp f => f.mSource

/-- The sockets that the provider for the probes of the factory makes. -/
def PacketFactory.createSockets (kernel : Kernel) (ifaceName : Option String) : PacketFactory → Sys (List SocketExt)
  | .icmp f => IcmpSocketProvider.createSockets kernel f.mSource ifaceName
  | .tcp f => TcpSocketProvider.createSockets kernel f.mSource ifaceName
  | .udp f => UdpSocketProvider.createSockets kernel f.mSource ifaceName

/-- The protocol of the probes. -/
def PacketFactory.protocol : PacketFactory → Int
  | .icmp f => icmpProtocol f.mSource
  | .tcp _ => IPPROTO_TCP
  | .udp _ => IPPROTO_UDP

/-- The ICMP of the other version of IP. -/
def otherIcmpProtocol (address : SocketAddress) : Int := if address.isV4 then IPPROTO_ICMPV6 else IPPROTO_ICMP

/-- The protocols of the sockets that receive. -/
def PacketFactory.answerProtocols : PacketFactory → List Int
  | .icmp f => [icmpProtocol f.mSource]
  | .tcp f => [icmpProtocol f.mSource, IPPROTO_TCP]
  | .udp f => [icmpProtocol f.mSource]

variable {f : PacketFactory} {sockets : List SocketExt}

/-- What has been done when a list of sockets is returned, one socket after the other. -/
structure Provided (f : PacketFactory) (ifaceName : Option String) (w w' : World) (sockets : List SocketExt) : Prop where
  calls : w'.calls = w.calls ++ sockets.flatMap fun x => x.socket.madeBy f.source ifaceName
  descriptors : ∀ fd, fd ∈ w'.descriptors ↔ fd ∈ DataSender.descriptors sockets ∨ fd ∈ w.descriptors
  new : ∀ fd ∈ DataSender.descriptors sockets, fd ∉ w.descriptors
  nodup : (DataSender.descriptors sockets).Nodup
  sends : ∃ fd, DataSender.sends sockets = [fd] ∧ ∃ x ∈ sockets, x.socket = ⟨fd, f.protocol⟩
  receives : ∀ protocol, protocol ∈ f.answerProtocols ↔ ∃ x ∈ sockets, x.role.and .Receive = true ∧ x.socket.protocol = protocol

theorem Provided.one {icmp : Socket} (hmade : Made kernel f.protocol f.source ifaceName w icmp w')
    (hprotocols : f.answerProtocols = [f.protocol]) : Provided f ifaceName w w' [⟨icmp, Role.Receive.or .Send⟩] where
  calls := by rw [hmade.calls, List.flatMap_singleton]
  descriptors fd := by
    rw [hmade.descriptors, List.mem_cons]
    simp [DataSender.descriptors]
  new fd hfd := by
    obtain rfl : fd = icmp.fd := List.mem_singleton.mp hfd
    rw [hmade.eq]
    exact kernel.new_notMem _
  nodup := List.nodup_singleton _
  sends := by
    refine ⟨icmp.fd, ?_, _, List.mem_singleton.mpr rfl, ?_⟩
    · rw [DataSender.sends_cons, if_pos (show (Role.Receive.or .Send).and .Send = true by decide)]
      rfl
    · rw [hmade.eq]
  receives protocol := by
    rw [hprotocols, List.mem_singleton]
    constructor
    · rintro rfl
      exact ⟨_, List.mem_singleton.mpr rfl, (show (Role.Receive.or .Send).and .Receive = true by decide), (by rw [hmade.eq])⟩
    · rintro ⟨x, hx, -, rfl⟩
      obtain rfl := List.mem_singleton.mp hx
      rw [hmade.eq]

theorem Provided.two {icmp probes : Socket} {w₁ : World} {role : Role}
    (hicmp : Made kernel (icmpProtocol f.source) f.source ifaceName w icmp w₁)
    (hprobes : Made kernel f.protocol f.source ifaceName w₁ probes w') (hrole : role.and .Send = true)
    (hprotocols : f.answerProtocols = icmpProtocol f.source :: if role.and .Receive then [f.protocol] else []) :
    Provided f ifaceName w w' [⟨icmp, .Receive⟩, ⟨probes, role⟩] := by
  have hnew : icmp.fd ∉ w.descriptors := by
    rw [hicmp.eq]
    exact kernel.new_notMem _
  have hnew' : probes.fd ∉ icmp.fd :: w.descriptors := by
    rw [hprobes.eq, ← hicmp.descriptors]
    exact kernel.new_notMem _
  have hicmpProtocol : icmp.protocol = icmpProtocol f.source := congrArg Socket.protocol hicmp.eq
  have hprobesProtocol : probes.protocol = f.protocol := congrArg Socket.protocol hprobes.eq
  obtain ⟨hne, hnotMem⟩ := List.ne_and_not_mem_of_not_mem_cons hnew'
  refine ⟨?_, fun fd => ?_, fun fd hfd => ?_, ?_, ⟨probes.fd, ?_, ⟨probes, role⟩, ?_, ?_⟩, fun protocol => ?_⟩
  · rw [hprobes.calls, hicmp.calls, List.append_assoc, List.flatMap_cons, List.flatMap_singleton]
  · rw [hprobes.descriptors, hicmp.descriptors, List.mem_cons, List.mem_cons, DataSender.descriptors, List.map_cons, List.map_cons,
      List.map_nil, List.mem_cons, List.mem_singleton, ← or_assoc, or_comm (a := fd = probes.fd)]
  · rcases List.mem_cons.mp hfd with rfl | hfd
    · exact hnew
    · obtain rfl := List.mem_singleton.mp hfd
      exact hnotMem
  · exact List.nodup_cons.mpr ⟨fun hmem => hne (List.mem_singleton.mp hmem).symm, List.nodup_singleton _⟩
  · rw [DataSender.sends_cons, DataSender.sends_cons, if_pos hrole, if_neg (show ¬Role.Receive.and .Send = true by decide)]
    rfl
  · exact List.mem_cons_of_mem _ List.mem_cons_self
  · rw [hprobes.eq]
  · rw [hprotocols, List.mem_cons]
    constructor
    · rintro (rfl | hmem)
      · exact ⟨_, List.mem_cons_self, (show Role.Receive.and .Receive = true by decide), hicmpProtocol⟩
      · split at hmem
        · rename_i hreceive
          obtain rfl := List.mem_singleton.mp hmem
          exact ⟨_, List.mem_cons_of_mem _ List.mem_cons_self, hreceive, hprobesProtocol⟩
        · cases hmem
    · rintro ⟨x, hx, hreceive, rfl⟩
      rcases List.mem_cons.mp hx with rfl | hx
      · exact Or.inl hicmpProtocol
      · obtain rfl := List.mem_singleton.mp hx
        rw [if_pos hreceive]
        exact Or.inr (List.mem_singleton.mpr hprobesProtocol)

theorem createSockets_provided (h : f.createSockets kernel ifaceName w = (.ok sockets, w')) :
    Provided f ifaceName w w' sockets := by
  cases f with
  | icmp f =>
    obtain ⟨icmp, w₁, hicmp, hrun⟩ := Sys.bind_eq_ok h
    cases hrun
    exact .one (setupIcmpRawSocket_made hicmp) rfl
  | tcp f =>
    obtain ⟨icmp, w₁, hicmp, hrun⟩ := Sys.bind_eq_ok h
    obtain ⟨tcp, w₂, htcp, hrun'⟩ := Sys.bind_eq_ok hrun
    cases hrun'
    exact .two (setupIcmpRawSocket_made hicmp) (setupTcpRawSocket_made htcp) (by decide) rfl
  | udp f =>
    obtain ⟨icmp, w₁, hicmp, hrun⟩ := Sys.bind_eq_ok h
    obtain ⟨udp, w₂, hudp, hrun'⟩ := Sys.bind_eq_ok hrun
    cases hrun'
    exact .two (setupIcmpRawSocket_made hicmp) (setupUdpRawSocket_made hudp) (by decide) rfl

/-! ### The `DataSender` -/

theorem DataSender.family_of_foldlM {sender sender' : DataSender} {l : List SocketExt}
    (h : l.foldlM addSocket sender = .ok sender') : sender'.mFamily = sender.mFamily := by
  induction l generalizing sender with
  | nil =>
    cases h
    rfl
  | cons x l ih =>
    rw [List.foldlM_cons] at h
    cases hadd : addSocket sender x with
    | error e =>
      rw [hadd] at h
      cases h
    | ok next =>
      rw [hadd] at h
      rw [ih h]
      unfold addSocket at hadd
      split at hadd
      · cases hadd
      · cases hadd
        rfl

/-- A list with one sending socket is accepted. -/
theorem DataSender.create_of_one_sender {l : List SocketExt} {fd : Int} (family : Int) (hnodup : (descriptors l).Nodup)
    (hsends : sends l = [fd]) : ∃ sender, create l family = .ok sender ∧ sender.mReceivingSockets = receives l ∧
      sender.mSendingSocket = fd ∧ sender.mFamily = family ∧
      ∀ x ∈ l, sender.fdToProtocol.get? x.socket.fd = some x.socket.protocol := by
  rcases foldlM_addSocket ⟨.empty, [], 0, family, fun _ hfd => absurd hfd List.not_mem_nil⟩ l with ⟨hnone, -⟩ | ⟨sender, hok, hloads⟩
  · rw [hsends] at hnone
    cases hnone
  · have hlast := hloads.sending
    rw [hsends] at hlast
    exact ⟨sender, hok, hloads.receiving, (Option.some.inj hlast).symm, family_of_foldlM hok, hloads.protocol hnodup⟩

/-- The sockets are right for the probes of the factory: they are sent on a socket of their protocol, and the receiving
    sockets have the protocols in which the probes accept anything, but for the ICMP of the other version of IP. -/
structure PacketFactory.Equipped (f : PacketFactory) (w w' : World) (sender : DataSender) : Prop where
  opened : ∀ fd ∈ sender.mSendingSocket :: sender.mReceivingSockets, fd ∈ w'.descriptors ∧ fd ∉ w.descriptors
  sends : sender.fdToProtocol.get? sender.mSendingSocket = some f.protocol
  receives : ∀ probe, f.Makes probe → ∀ protocol, (∃ fd ∈ sender.mReceivingSockets, sender.fdToProtocol.get? fd = some protocol) ↔
    probe.AnsweredIn protocol ∧ protocol ≠ otherIcmpProtocol f.source
  family : ∀ probe, f.Makes probe → probe.getDestinationAddress.family = sender.mFamily

theorem mem_receives {l : List SocketExt} {fd : Int} :
    fd ∈ DataSender.receives l ↔ ∃ x ∈ l, x.role.and .Receive = true ∧ x.socket.fd = fd := by
  simp [DataSender.receives, and_assoc]

variable {probe : ProbePacket}

/-- The addresses of a probe. -/
def ProbePacket.base : ProbePacket → PacketBase
  | .icmp packet => packet.toPacketBase
  | .tcp packet => packet.toPacketBase
  | .udp packet => packet.toPacketBase

theorem PacketBase.source_of_bind {source destination : SocketAddress} {make : PacketBase → Except Exception α} {packet : α}
    (h : PacketBase.create source destination >>= make = .ok packet) :
    ∃ base, make base = .ok packet ∧ base.mSourceAddress = source := by
  unfold PacketBase.create at h
  split at h
  · exact ⟨_, h, rfl⟩
  · cases h

theorem PacketFactory.Makes.source (h : f.Makes probe) : probe.base.mSourceAddress = f.source := by
  cases h with
  | icmp made =>
    rw [IcmpPacketFactory.createPacket] at made
    split at made
    all_goals
      obtain ⟨base, hmake, hsource⟩ := PacketBase.source_of_bind made
      cases Except.ok.inj hmake
      exact hsource
  | tcp made =>
    obtain ⟨base, hmake, hsource⟩ := PacketBase.source_of_bind made
    cases Except.ok.inj hmake
    exact hsource
  | udp made =>
    obtain ⟨base, hmake, hsource⟩ := PacketBase.source_of_bind made
    cases Except.ok.inj hmake
    exact hsource

theorem ProbePacket.getDestinationAddress_eq : probe.getDestinationAddress = probe.base.mDestinationAddress := by
  cases probe <;> rfl

/-- Of the two ICMPs, the one of the address is left without the other. -/
theorem icmpProtocol_iff {protocol : Int} :
    protocol = icmpProtocol address ↔ validateIcmpProtocol protocol = true ∧ protocol ≠ otherIcmpProtocol address := by
  rw [validateIcmpProtocol_iff, icmpProtocol, otherIcmpProtocol]
  split
  · exact ⟨fun h => ⟨Or.inl h, h ▸ (by decide)⟩, fun h => h.1.resolve_right h.2⟩
  · exact ⟨fun h => ⟨Or.inr h, h ▸ (by decide)⟩, fun h => h.1.resolve_left h.2⟩

theorem otherIcmpProtocol_ne : IPPROTO_TCP ≠ otherIcmpProtocol address := by
  rw [otherIcmpProtocol]
  split <;> decide

theorem PacketFactory.Makes.answeredIn (h : f.Makes probe) (protocol : Int) :
    protocol ∈ f.answerProtocols ↔ probe.AnsweredIn protocol ∧ protocol ≠ otherIcmpProtocol f.source := by
  rw [ProbePacket.answeredIn_iff]
  cases h with
  | icmp | udp => exact List.mem_singleton.trans icmpProtocol_iff
  | tcp =>
    have hlistens : ∀ packet, (ProbePacket.tcp packet).listens protocol = true ↔
        validateIcmpProtocol protocol = true ∨ protocol = IPPROTO_TCP := fun packet => by
      rw [ProbePacket.listens, Bool.or_eq_true, beq_iff_eq]
    rw [hlistens, PacketFactory.answerProtocols, List.mem_cons, List.mem_singleton, icmpProtocol_iff, or_and_right]
    exact or_congr_right ⟨fun h => ⟨h, h ▸ otherIcmpProtocol_ne⟩, And.left⟩

/-- The list that `createSockets` returns is one that the constructor of `DataSender` accepts, whatever descriptors the
    sockets have, and each socket in it has been opened, bound and configured, by these calls and no others. -/
theorem sockets_equip (kernel : Kernel) (w w' : World) (f : PacketFactory) (ifaceName : Option String) (sockets : List SocketExt)
    (h : f.createSockets kernel ifaceName w = (.ok sockets, w')) :
    w'.calls = (w.calls ++ sockets.flatMap fun x => x.socket.madeBy f.source ifaceName) ∧
      ∃ sender, DataSender.create sockets f.source.family = .ok sender ∧ f.Equipped w w' sender := by
  have hprovided := createSockets_provided h
  obtain ⟨fd, hsends, x, hx, hsocket⟩ := hprovided.sends
  obtain ⟨sender, hok, hreceiving, hsending, hfamily, hprotocol⟩ :=
    DataSender.create_of_one_sender f.source.family hprovided.nodup hsends
  have hmem : ∀ fd ∈ sender.mSendingSocket :: sender.mReceivingSockets, fd ∈ DataSender.descriptors sockets := fun fd' hfd' => by
    rcases List.mem_cons.mp hfd' with rfl | hfd'
    · rw [hsending]
      exact List.mem_map.mpr ⟨x, hx, by rw [hsocket]⟩
    · rw [hreceiving] at hfd'
      obtain ⟨y, hy, -, rfl⟩ := mem_receives.mp hfd'
      exact List.mem_map.mpr ⟨y, hy, rfl⟩
  refine ⟨hprovided.calls, sender, hok, ⟨fun fd' hfd' => ?_, ?_, fun probe hmade protocol => ?_, fun probe hmade => ?_⟩⟩
  · exact ⟨(hprovided.descriptors fd').mpr (Or.inl (hmem fd' hfd')), hprovided.new fd' (hmem fd' hfd')⟩
  · have hget := hprotocol x hx
    rw [hsocket] at hget
    rw [hsending]
    exact hget
  · rw [← hmade.answeredIn, hprovided.receives, hreceiving]
    constructor
    · rintro ⟨fd', hfd', hget⟩
      obtain ⟨y, hy, hrole, rfl⟩ := mem_receives.mp hfd'
      exact ⟨y, hy, hrole, Option.some.inj ((hprotocol y hy).symm.trans hget)⟩
    · rintro ⟨y, hy, hrole, rfl⟩
      exact ⟨y.socket.fd, mem_receives.mpr ⟨y, hy, hrole, rfl⟩, hprotocol y hy⟩
  · rw [ProbePacket.getDestinationAddress_eq, probe.base.sameFamily, hmade.source, hfamily]

theorem sockets_equip_interface : ∃ sockets w' sender,
    (PacketFactory.tcp ⟨linkLocal 1, linkLocal 2, 80⟩).createSockets (someKernel fun _ => none) (some "eth0") someWorld = (.ok sockets, w') ∧
    DataSender.create sockets AF_INET6 = .ok sender ∧
    (PacketFactory.tcp ⟨linkLocal 1, linkLocal 2, 80⟩).Equipped someWorld w' sender := by
  obtain ⟨-, sender, hok, hequipped⟩ := sockets_equip (someKernel fun _ => none) someWorld _
    (.tcp ⟨linkLocal 1, linkLocal 2, 80⟩) (some "eth0") _ rfl
  exact ⟨_, _, sender, rfl, hok, hequipped⟩

end Traceroute
