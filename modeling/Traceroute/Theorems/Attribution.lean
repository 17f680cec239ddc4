import Traceroute.PacketFactory
import Traceroute.Theorems.Conservation
import Traceroute.Theorems.FindValid
import Traceroute.Theorems.Queries
import Traceroute.Theorems.SequentialShape

/-! Which probe a datagram is attributed to when the probes are ICMP or TCP probes of one factory that has given each
    an echo id or a sequence number of its own. -/

namespace Traceroute

/-! ### The probes of a factory -/

inductive PacketFactory where
  | icmp (f : IcmpPacketFactory)
  | tcp (f : TcpPacketFactory)
  | udp (f : UdpPacketFactory)

/-- The probe is one that `createPacket` can return. -/
inductive PacketFactory.Makes : PacketFactory → ProbePacket → Prop where
  | icmp {f memory rand packet} (made : f.createPacket memory rand = .ok packet) : Makes (.icmp f) (.icmp packet)
  | tcp {f memory rand₁ rand₂ packet} (made : f.createPacket memory rand₁ rand₂ = .ok packet) :
      Makes (.tcp f) (.tcp packet)
  | udp {f memory rand packet} (made : f.createPacket memory rand = .ok packet) : Makes (.udp f) (.udp packet)

/-- What differs between the probes of a factory: the echo id, the sequence number or the source port. -/
def ProbePacket.mark : ProbePacket → Nat
  | .icmp packet => packet.mIcmpHeader.id.toNat
  | .tcp packet => packet.mTcpHeader.seq.toNat
  | .udp packet => packet.mUdpHeader.source.toNat

/-- The packets with these numbers are probes of the factory, pairwise different in what can differ. -/
structure PacketFactory.Marked (f : PacketFactory) (probes : Nat → ProbePacket) (l : List Nat) : Prop where
  made : ∀ n ∈ l, f.Makes (probes n)
  differ : (l.map fun n => (probes n).mark).Nodup

variable {f : PacketFactory} {probe probe' : ProbePacket} {probes : Nat → ProbePacket} {l l' : List Nat}
  {responseInfo : ResponseInfo} {p : Bytes}

theorem PacketFactory.Marked.perm (h : f.Marked probes l) (hp : l.Perm l') : f.Marked probes l' :=
  ⟨fun n hn => h.made n (hp.mem_iff.mpr hn), (hp.map _).nodup_iff.mp h.differ⟩

theorem PacketFactory.Marked.sublist (h : f.Marked probes l) (hs : l'.Sublist l) : f.Marked probes l' :=
  ⟨fun n hn => h.made n (hs.subset hn), h.differ.sublist (hs.map _)⟩

theorem PacketFactory.Marked.mark_ne (h : f.Marked probes l) {m n : Nat} (hm : m ∈ l) (hn : n ∈ l) (hne : m ≠ n) :
    (probes m).mark ≠ (probes n).mark :=
  fun heq => hne (List.inj_on_of_nodup_map h.differ hm hn heq)

theorem PacketBase.create_eq_ok {source destination : SocketAddress} {base : PacketBase}
    (h : PacketBase.create source destination = .ok base) : base.mDestinationAddress = destination := by
  unfold PacketBase.create at h
  split at h <;> cases h
  rfl

/-- What is made of the base of a packet is made of one with its destination. -/
theorem PacketBase.create_bind_eq_ok {α : Type} {source destination : SocketAddress}
    {make : PacketBase → Except Exception α} {packet : α}
    (h : PacketBase.create source destination >>= make = .ok packet) :
    ∃ base, make base = .ok packet ∧ base.mDestinationAddress = destination := by
  cases hbase : PacketBase.create source destination with
  | error e =>
    rw [hbase] at h
    cases h
  | ok base =>
    rw [hbase] at h
    exact ⟨base, h, PacketBase.create_eq_ok hbase⟩

/-- Two probes of one class to one destination. -/
inductive Siblings : ProbePacket → ProbePacket → Prop where
  | icmp {packet packet'} (h : packet.mDestinationAddress = packet'.mDestinationAddress) :
      Siblings (.icmp packet) (.icmp packet')
  | tcp {packet packet'} (h : packet.mDestinationAddress = packet'.mDestinationAddress) :
      Siblings (.tcp packet) (.tcp packet')
  | udp {packet packet'} (h : packet.mDestinationAddress = packet'.mDestinationAddress) :
      Siblings (.udp packet) (.udp packet')

theorem IcmpPacketFactory.destination {f : IcmpPacketFactory} {memory : IcmpHeader} {rand : Nat} {packet : IcmpPacket}
    (h : f.createPacket memory rand = .ok packet) : packet.mDestinationAddress = f.mDestination := by
  rw [IcmpPacketFactory.createPacket] at h
  split at h
  all_goals
    obtain ⟨base, hmake, hdestination⟩ := PacketBase.create_bind_eq_ok h
    cases Except.ok.inj hmake
    exact hdestination

theorem TcpPacketFactory.destination {f : TcpPacketFactory} {memory : TcpHeader} {rand₁ rand₂ : Nat} {packet : TcpPacket}
    (h : f.createPacket memory rand₁ rand₂ = .ok packet) : packet.mDestinationAddress = f.mDestination := by
  obtain ⟨base, hmake, hdestination⟩ := PacketBase.create_bind_eq_ok h
  cases Except.ok.inj hmake
  exact hdestination

theorem UdpPacketFactory.destination {f : UdpPacketFactory} {memory : UdpHeader} {rand : Nat} {packet : UdpPacket}
    (h : f.createPacket memory rand = .ok packet) : packet.mDestinationAddress = f.mDestination := by
  obtain ⟨base, hmake, hdestination⟩ := PacketBase.create_bind_eq_ok h
  cases Except.ok.inj hmake
  exact hdestination

theorem PacketFactory.Makes.siblings (h : f.Makes probe) (h' : f.Makes probe') : Siblings probe probe' := by
  cases h with
  | icmp made =>
    cases h' with
    | icmp made' => exact .icmp ((IcmpPacketFactory.destination made).trans (IcmpPacketFactory.destination made').symm)
  | tcp made =>
    cases h' with
    | tcp made' => exact .tcp ((TcpPacketFactory.destination made).trans (TcpPacketFactory.destination made').symm)
  | udp made =>
    cases h' with
    | udp made' => exact .udp ((UdpPacketFactory.destination made).trans (UdpPacketFactory.destination made').symm)

/-! ### Queries of two probes -/

/-- The same comparison, with `e` and with `e'`. -/
inductive Query.Alike (w : Nat) (e e' : Bytes) : Query → Query → Prop where
  | refuse : Alike w e e' .refuse .refuse
  | field (pos : Nat) : Alike w e e' (.field pos w e) (.field pos w e')
  | quoted : Alike w e e' (.quoted w e) (.quoted w e')

namespace Query.Alike
variable {w : Nat} {e e' : Bytes} {q q' : Query}

theorem throws (h : Alike w e e' q q') (x : Exception) : q.answer p = .error x ↔ q'.answer p = .error x := by
  cases h with
  | refuse => exact Iff.rfl
  | field pos => simp [answer]
  | quoted =>
    simp only [answer, quotedField]
    split <;> simp

/-- Both accept only where the compared values are equal. -/
theorem accepts (h : Alike w e e' q q') (hq : q.answer p = .ok true) (hq' : q'.answer p = .ok true) :
    ∀ i < w, e i = e' i := by
  have hfield : ∀ {pos : Nat} {p : Bytes}, fieldHolds pos w e p = true → fieldHolds pos w e' p = true → ∀ i < w, e i = e' i :=
    fun he he' i hi => (fieldHolds_eq_true.mp he i hi).symm.trans (fieldHolds_eq_true.mp he' i hi)
  cases h with
  | refuse => cases hq
  | field pos => exact hfield (Except.ok.inj hq) (Except.ok.inj hq')
  | quoted =>
    simp only [answer, quotedField] at hq hq'
    split at hq
    · rename_i hip
      rw [if_pos hip] at hq'
      exact hfield (Except.ok.inj hq) (Except.ok.inj hq')
    · cases hq

end Query.Alike

theorem ofU16_inj {x y : UInt16} (h : ∀ i < 2, Bytes.ofU16 x i = Bytes.ofU16 y i) : x = y := by
  rw [← Bytes.u16_ofU16 x, Bytes.u16_eq_iff_ofU16]
  simpa using h

theorem ofU32_inj {x y : UInt32} (h : ∀ i < 4, Bytes.ofU32 x i = Bytes.ofU32 y i) : x = y := by
  rw [← Bytes.u32_ofU32 x, Bytes.u32_eq_iff_ofU32]
  simpa using h

theorem TcpPacket.ackExpected_inj {packet packet' : TcpPacket} (h : packet.ackExpected = packet'.ackExpected) :
    packet.mTcpHeader.seq = packet'.mTcpHeader.seq :=
  ntohl_inj ((UInt32.add_left_inj 1).mp (ntohl_inj h))

/-- ICMP and TCP probes to one destination ask the same query, each with a value of its own. -/
theorem Siblings.query (h : Siblings probe probe') (hudp : ∀ packet, probe ≠ .udp packet)
    (responseInfo : ResponseInfo) (type : UInt8) :
    ∃ w e e', Query.Alike w e e' (probe.query responseInfo type) (probe'.query responseInfo type) ∧
      ((∀ i < w, e i = e' i) → probe.mark = probe'.mark) := by
  cases h with
  | @icmp packet packet' h =>
    refine ⟨2, Bytes.ofU16 packet.mIcmpHeader.id, Bytes.ofU16 packet'.mIcmpHeader.id, ?_,
      fun hids => congrArg UInt16.toNat (ofU16_inj hids)⟩
    simp only [ProbePacket.query, IcmpPacket.query, h]
    split
    · split
      · exact .field 4
      · exact .refuse
    · split
      · exact .quoted
      · exact .refuse
  | @tcp packet packet' h =>
    by_cases hicmp : validateIcmpProtocol responseInfo.protocol = true
    · refine ⟨4, Bytes.ofU32 packet.mTcpHeader.seq, Bytes.ofU32 packet'.mTcpHeader.seq, ?_,
        fun hseqs => congrArg UInt32.toNat (ofU32_inj hseqs)⟩
      have hanswered : packet.answeredBy responseInfo.client type = packet'.answeredBy responseInfo.client type := by
        simp only [TcpPacket.answeredBy, h]
      simp only [ProbePacket.query, if_pos hicmp, TcpPacket.icmpQuery, hanswered]
      split
      · exact .quoted
      · exact .refuse
    · refine ⟨4, Bytes.ofU32 packet.ackExpected, Bytes.ofU32 packet'.ackExpected, ?_,
        fun hacks => congrArg UInt32.toNat (TcpPacket.ackExpected_inj (ofU32_inj hacks))⟩
      simp only [ProbePacket.query, if_neg hicmp, TcpPacket.tcpQuery, h]
      split
      · exact .field 8
      · exact .refuse
  | udp h => exact absurd rfl (hudp _)

/-- The packets throw on the same datagrams, and there is none that both accept. -/
structure Packet.Apart (packet packet' : Packet) (responseInfo : ResponseInfo) (p : Bytes) : Prop where
  throws : ∀ e, packet.isValid responseInfo p = .error e ↔ packet'.isValid responseInfo p = .error e
  accepts : packet.isValid responseInfo p = .ok true → packet'.isValid responseInfo p ≠ .ok true

theorem Packet.Apart.symm {packet packet' : Packet} (h : packet.Apart packet' responseInfo p) :
    packet'.Apart packet responseInfo p := ⟨fun e => (h.throws e).symm, fun hq' hq => h.accepts hq hq'⟩

theorem Siblings.listens (h : Siblings probe probe') (protocol : Int) :
    probe'.listens protocol = probe.listens protocol := by
  cases h <;> rfl

theorem Siblings.minimum (h : Siblings probe probe') (protocol : Int) :
    probe'.minimum protocol = probe.minimum protocol := by
  cases h <;> rfl

theorem Siblings.apart (h : Siblings probe probe') (hudp : ∀ packet, probe ≠ .udp packet)
    (hmark : probe.mark ≠ probe'.mark) (responseInfo : ResponseInfo) (p : Bytes) :
    probe.toPacket.Apart probe'.toPacket responseInfo p := by
  -- Where they do not come to their queries they do the same, and do not accept.
  have hsame : ∀ {r : Except Exception Bool}, probe.toPacket.isValid responseInfo p = r →
      probe'.toPacket.isValid responseInfo p = r → r ≠ .ok true → probe.toPacket.Apart probe'.toPacket responseInfo p := by
    intro r hr hr' hne
    exact ⟨fun e => by rw [hr, hr'], fun _ => by rw [hr']; exact hne⟩
  cases hlistens : probe.listens responseInfo.protocol with
  | false =>
    have hempty : (if responseInfo.size.toNat = 0 then .error noIpHeader else .ok false : Except Exception Bool) ≠
        .ok true := by
      split <;> simp
    have hq := ProbePacket.isValid_of_not_listens (p := p) hlistens
    have hq' := ProbePacket.isValid_of_not_listens (p := p) ((h.listens _).trans hlistens)
    cases h with
    | tcp h => exact hsame hq hq' (by simp)
    | icmp h => exact hsame hq hq' hempty
    | udp h => exact absurd rfl (hudp _)
  | true =>
    have hq := ProbePacket.isValid_of_listens (p := p) hlistens
    have hq' := ProbePacket.isValid_of_listens (p := p) ((h.listens _).trans hlistens)
    rw [h.minimum] at hq'
    by_cases hzero : responseInfo.size.toNat = 0
    · rw [if_pos hzero] at hq hq'
      exact hsame hq hq' (by simp)
    · rw [if_neg hzero] at hq hq'
      split at hq
      · rename_i hsize
        rw [if_pos hsize] at hq'
        obtain ⟨w, e, e', halike, hinj⟩ := h.query hudp responseInfo (p (ipHeaderSize p))
        refine ⟨fun x => by rw [hq, hq']; exact halike.throws x, fun ha ha' => hmark (hinj ?_)⟩
        exact halike.accepts (hq ▸ ha) (hq' ▸ ha')
      · rename_i hsize
        rw [if_neg hsize] at hq'
        exact hsame hq hq' (by simp)

/-- Two different probes of a list accept no datagram both. -/
theorem PacketFactory.Marked.apart (h : f.Marked probes l) (hudp : ∀ g, f ≠ .udp g) {m n : Nat} (hm : m ∈ l) (hn : n ∈ l)
    (hne : m ≠ n) (responseInfo : ResponseInfo) (p : Bytes) :
    (probes m).toPacket.Apart (probes n).toPacket responseInfo p := by
  refine ((h.made m hm).siblings (h.made n hn)).apart ?_ (h.mark_ne hm hn hne) responseInfo p
  intro packet hpacket
  have hmade := h.made m hm
  rw [hpacket] at hmade
  cases hmade
  exact hudp _ rfl

/-! ### `FastTraceroute` -/

namespace Fast

variable {packets : Nat → Packet} {respInfo : ResponseInfo} {buffer : Bytes} {l l' : List PacketToValidate}

/-- The probe that `find_if` chooses. -/
def chosen (packets : Nat → Packet) (respInfo : ResponseInfo) (buffer : Bytes) (l : List PacketToValidate) :
    Except Exception (Option PacketToValidate) := (findValid packets respInfo buffer l).map (·.bind (l[·]?))

theorem chosen_cons {q : PacketToValidate} : chosen packets respInfo buffer (q :: l) =
    match (packets q.packet).isValid respInfo buffer with
    | .error e => .error e
    | .ok true => .ok (some q)
    | .ok false => chosen packets respInfo buffer l := by
  rw [chosen, chosen, findValid]
  cases (packets q.packet).isValid respInfo buffer with
  | error e => rfl
  | ok v =>
    cases v with
    | true => rfl
    | false =>
      cases findValid packets respInfo buffer l with
      | error e => rfl
      | ok found => cases found <;> rfl

theorem chosen_of_cons {q : PacketToValidate} (h : chosen packets respInfo buffer l = chosen packets respInfo buffer l') :
    chosen packets respInfo buffer (q :: l) = chosen packets respInfo buffer (q :: l') := by
  rw [chosen_cons, chosen_cons, h]

/-- Of probes that are apart, `find_if` chooses the same one in whatever order they stand. -/
theorem chosen_perm (hp : l.Perm l')
    (h : l.Pairwise fun q q' => (packets q.packet).Apart (packets q'.packet) respInfo buffer) :
    chosen packets respInfo buffer l = chosen packets respInfo buffer l' := by
  induction hp with
  | nil => rfl
  | cons q _ ih => exact chosen_of_cons (ih (List.pairwise_cons.mp h).2)
  | swap q q' l =>
    obtain ⟨throws, accepts⟩ := (List.pairwise_cons.mp h).1 q List.mem_cons_self
    simp only [chosen_cons]
    cases hq' : (packets q'.packet).isValid respInfo buffer with
    | error e => rw [(throws e).mp hq']
    | ok v' =>
      cases hq : (packets q.packet).isValid respInfo buffer with
      | error e =>
        rw [(throws e).mpr hq] at hq'
        cases hq'
      | ok v =>
        cases v <;> cases v'
        · rfl
        · rfl
        · rfl
        · exact absurd hq (accepts hq')
  | trans hp _ ih ih' => exact (ih h).trans (ih' (hp.pairwise h fun h => h.symm))

/-- The outstanding probes are among those that are left over or have been registered. -/
theorem Conserved.marked {f : PacketFactory} {probes : Nat → ProbePacket} {left : List PacketToValidate} {s : State}
    (h : Conserved left s) (hm : f.Marked probes ((left ++ s.pushed).map (·.packet))) :
    f.Marked probes (s.mPacketsToBeValidated.map (·.packet)) :=
  (hm.perm (h.perm.map _)).sublist ((List.sublist_append_left _ _).map _)

theorem marked_pairwise {f : PacketFactory} {probes : Nat → ProbePacket} (hf : ∀ g, f ≠ .udp g)
    (h : f.Marked probes (l.map (·.packet))) : l.Pairwise fun q q' =>
      (probes q.packet).toPacket.Apart (probes q'.packet).toPacket respInfo buffer := by
  have hne : l.Pairwise fun q q' => q.packet ≠ q'.packet := by
    have := List.Pairwise.of_map (R := (· ≠ ·)) (fun n => (probes n).mark)
      (fun m n hne heq => hne (congrArg (fun n => (probes n).mark) heq)) h.differ
    exact List.pairwise_map.mp this
  refine hne.imp_of_mem fun hq hq' hne => ?_
  exact h.apart hf (List.mem_map_of_mem hq) (List.mem_map_of_mem hq') hne respInfo buffer

end Fast

/-! ### `SequentialTraceroute` -/

namespace Sequential

variable {packets : Nat → Packet} {destination : Nat → SocketAddress} {c : Call} {s t : State}

/-- The datagram that the current probe or a recorded one has been credited with is one that the probe accepts. -/
structure Credited (packets : Nat → Packet) (s : State) : Prop where
  held : ∀ a respInfo, s.position = .waiting a true (some respInfo) ∨ s.position = .waited a true (some respInfo) →
    (packets a.packet).isValid respInfo s.mBuffer = .ok true
  recorded : ∀ r ∈ s.recorded, ∀ respInfo buffer, r.answer = some (respInfo, buffer) →
    (packets r.attempt.packet).isValid respInfo buffer = .ok true

theorem Credited.step_held {a : Action} (hasks : asksPacket packets s a) (h : Credited packets s)
    (hs : (machine destination c).step s a = some t) {a' : Attempt} {respInfo' : ResponseInfo}
    (hp : t.position = .waiting a' true (some respInfo') ∨ t.position = .waited a' true (some respInfo')) :
    (packets a'.packet).isValid respInfo' t.mBuffer = .ok true := by
  cases step_move hs with
  | tick d => exact h.held a' respInfo' hp
  | @stop a v r pc isOver =>
    refine h.held a' respInfo' (Or.inl ?_)
    obtain ⟨rfl, rfl, rfl⟩ : a = a' ∧ v = true ∧ r = some respInfo' := by simpa using hp
    exact pc
  | @validate a respInfo v pc =>
    obtain ⟨rfl, rfl, rfl⟩ : a = a' ∧ v = true ∧ respInfo = respInfo' := by simpa using hp
    simp only [asksPacket, pc] at hasks
    exact hasks.symm
  | success pc => simp [State.record] at hp
  | failure pc => simp [State.record] at hp
  | _ => simp at hp

theorem step_credited {a : Action} (hasks : asksPacket packets s a) (h : Credited packets s)
    (hs : (machine destination c).step s a = some t) : Credited packets t where
  held _ _ hp := h.step_held hasks hs hp
  recorded := by
    refine step_forall_recorded h.recorded (fun {a respInfo} pc respInfo' buffer hanswer => ?_) (fun pc _ _ hanswer => ?_) hs
    · cases hanswer
      exact h.held a respInfo (Or.inr pc)
    · cases hanswer

theorem exec_credited {as : List Action} {now : Int} {created : Nat} {buffer : Bytes}
    (h : (machine destination c).exec (enter c now created buffer) as = some s)
    (hasks : (machine destination c).Along (asksPacket packets) (enter c now created buffer) as) :
    Credited packets s :=
  Machine.along_invariant (fun hP hI hs => step_credited hP hI hs)
    ⟨fun a respInfo hp => by simp [enter] at hp, fun r hr => by cases hr⟩ hasks h

end Sequential

/-- Among ICMP or TCP probes that one factory has marked differently, a datagram is accepted by one probe at most. So the
    probe that the fast engine chooses does not depend on the order of the outstanding ones, and the sequential engine
    credits a probe with no datagram that another one accepts. -/
theorem attribution_unambiguous (f : PacketFactory) (hf : ∀ g, f ≠ .udp g) (probes : Nat → ProbePacket) :
    (∀ l, f.Marked probes l → ∀ responseInfo p, ∀ m ∈ l, ∀ n ∈ l,
      (probes m).toPacket.isValid responseInfo p = .ok true → (probes n).toPacket.isValid responseInfo p = .ok true →
      m = n) ∧
    (∀ (c : Call) (now : Int) (o : Fast.Object) (as : List Fast.Action) (s : Fast.State),
      (Fast.machine (fun n => (probes n).toPacket) c).exec (Fast.enter c now o) as = some s →
      f.Marked probes ((o.mPacketsToBeValidated ++ s.pushed).map (·.packet)) →
      ∀ responseInfo p l, l.Perm s.mPacketsToBeValidated →
        Fast.chosen (fun n => (probes n).toPacket) responseInfo p l =
          Fast.chosen (fun n => (probes n).toPacket) responseInfo p s.mPacketsToBeValidated) ∧
    (∀ (destination : Nat → SocketAddress) (c : Call) (now : Int) (created : Nat) (buffer : Bytes)
      (as : List Sequential.Action) (s : Sequential.State),
      (Sequential.machine destination c).exec (Sequential.enter c now created buffer) as = some s →
      (Sequential.machine destination c).Along (Sequential.asksPacket fun n => (probes n).toPacket)
        (Sequential.enter c now created buffer) as →
      ∀ r ∈ s.recorded, r.result.success = true →
        ∃ responseInfo p, r.answer = some (responseInfo, p) ∧
          (probes r.attempt.packet).toPacket.isValid responseInfo p = .ok true ∧
          ∀ l, f.Marked probes l → r.attempt.packet ∈ l → ∀ n ∈ l, n ≠ r.attempt.packet →
            (probes n).toPacket.isValid responseInfo p = .ok false) := by
  refine ⟨fun l hl responseInfo p m hm n hn haccepts haccepts' => ?_, fun c now o as s h hmarked responseInfo p l hp => ?_,
    fun destination c now created buffer as s h hasks r hr hsuccess => ?_⟩
  · by_contra hne
    exact (hl.apart hf hm hn hne responseInfo p).accepts haccepts haccepts'
  · have hs : Fast.Conserved o.mPacketsToBeValidated s := Fast.exec_conserved h Fast.Conserved.enter
    exact (Fast.chosen_perm hp.symm (Fast.marked_pairwise hf (hs.marked hmarked))).symm
  · have hcredited := Sequential.exec_credited h hasks
    cases Sequential.exec_explained h (fun r hr => by cases hr) r hr with
    | unanswered attempt => cases hsuccess
    | answered attempt waitedFor responseInfo p =>
      have haccepts := hcredited.recorded _ hr responseInfo p rfl
      refine ⟨responseInfo, p, rfl, haccepts, fun l hl hmem n hn hne => ?_⟩
      have hapart := hl.apart hf hmem hn (Ne.symm hne) responseInfo p
      cases hother : (probes n).toPacket.isValid responseInfo p with
      | error e =>
        rw [(hapart.throws e).mpr hother] at haccepts
        cases haccepts
      | ok v =>
        cases v with
        | false => rfl
        | true => exact absurd hother (hapart.accepts haccepts)

/-- The echo request for which `rand` has returned `n`. -/
def echoRequest (n : Nat) : ProbePacket :=
  match (IcmpPacketFactory.mk someHost someHost).createPacket ⟨0, 0, 0, 0, 0⟩ n with
  | .ok packet => .icmp packet
  | .error _ => .icmp someIcmpPacket

/-- A Time Exceeded message that quotes the second in a list of two. -/
theorem attribution_unambiguous_echo : ∃ s, ∃ q q' : Fast.PacketToValidate,
    (Fast.machine (fun n => (echoRequest n).toPacket) ⟨1, 1, 2, 1000⟩).exec
      (Fast.enter ⟨1, 1, 2, 1000⟩ 0 (.fresh 0 fun _ => 0)) (.sender .testTtl :: Fast.sendProbe ++ Fast.sendProbe) = some s ∧
    s.mPacketsToBeValidated = [q, q'] ∧
    Fast.chosen (fun n => (echoRequest n).toPacket) ⟨someHost, 1, 56⟩ (timeExceeded 0x45) [q', q] =
      .ok (some q) := by
  refine ⟨_, ⟨0, 0, 1, 0⟩, ⟨1, 0, 1, 1⟩, rfl, rfl, ?_⟩
  refine ((attribution_unambiguous (.icmp ⟨someHost, someHost⟩) (by simp) echoRequest).2.1 ⟨1, 1, 2, 1000⟩ 0
    (.fresh 0 fun _ => 0) (.sender .testTtl :: Fast.sendProbe ++ Fast.sendProbe) _ rfl ⟨?_, ?_⟩ _ _ _
    (.swap _ _ _)).trans rfl
  · intro n hn
    exact @PacketFactory.Makes.icmp _ _ n _ rfl
  · decide

end Traceroute
