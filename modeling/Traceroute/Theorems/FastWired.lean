import Traceroute.Theorems.Attribution
import Traceroute.Theorems.Emission
import Traceroute.Wired

/-! `FastTraceroute` on a `DataSender`: what is on the wire in every interleaving of the system calls of its two threads. -/

namespace Traceroute

/-- The datagram of a probe that has been handed to `trySending`. -/
def Setup.datagram (setup : Setup) (stack : Stack) (x : UInt32 × Nat) : Outgoing :=
  setup.sender.outgoing stack (setup.probes x.2) (asInt x.1)

/-- The datagrams of the probes have left, one each and in their order. -/
structure Emitted (setup : Setup) (stack : Stack) (before : List Outgoing) (l : List (UInt32 × Nat)) (host : Host) : Prop where
  datagrams : host.datagrams = before ++ l.map (setup.datagram stack)
  hops : ∀ x ∈ l, -1 ≤ asInt x.1 ∧ asInt x.1 ≤ 255

variable {setup : Setup} {stack : Stack} {before : List Outgoing} {l : List (UInt32 × Nat)} {host : Host}

theorem Emitted.departed {ttl : UInt32} {packet : Nat} {host' : Host} (h : Emitted setup stack before l host)
    (hd : setup.sender.Departed stack (setup.probes packet) (asInt ttl) host.datagrams host') :
    Emitted setup stack before (l ++ [(ttl, packet)]) host' := by
  refine ⟨?_, List.forall_mem_append.mpr ⟨h.hops, List.forall_mem_singleton.mpr hd.hops⟩⟩
  rw [hd.datagrams, h.datagrams, List.append_assoc, List.map_append]
  rfl

theorem Emitted.of_datagrams {host' : Host} (h : Emitted setup stack before l host) (same : host'.datagrams = host.datagrams) :
    Emitted setup stack before l host' := ⟨same.trans h.datagrams, h.hops⟩

/-- The datagrams of the probes `l` have left, and that of the next one has or has not. -/
def Emitting (setup : Setup) (stack : Stack) (before : List Outgoing) (l : List (UInt32 × Nat)) (x : UInt32 × Nat)
    (host : Host) : Prop := Emitted setup stack before l host ∨ Emitted setup stack before (l ++ [x]) host

/-- What a `trySending` call of an engine does. -/
theorem send_ensures {α : Type} (ret : Except Exception Bool → α) {ttl : UInt32} {packet : Nat} {Q : α → Host → Prop}
    (hdomain : stack.domain setup.sender.mSendingSocket = setup.sender.mFamily) (h : Emitted setup stack before l host)
    (sent : ∀ f, Emitted setup stack before (l ++ [(ttl, packet)]) f → Q (ret (.ok true)) f)
    (failed : ∀ outcome f, outcome ≠ .ok true → Emitted setup stack before l f → Q (ret outcome) f) :
    (do return ret (← setup.send packet ttl) : SocketScript α).Ensures stack.Effect
      (Emitting setup stack before l (ttl, packet)) Q host := by
  have hJ : ∀ f : Host, f.datagrams = host.datagrams ∨
      setup.sender.Departed stack (setup.probes packet) (asInt ttl) host.datagrams f →
      Emitting setup stack before l (ttl, packet) f := by
    rintro f (hsame | hd)
    · exact Or.inl (h.of_datagrams hsame)
    · exact Or.inr (h.departed hd)
  refine Script.ensures_bind ((DataSender.trySending_ensures hdomain rfl).mono_now hJ fun r f hnow hr => ?_)
  rcases hr with ⟨rfl, hd⟩ | ⟨hr, hsame⟩
  · exact Script.ensures_done (hJ f hnow) (sent f (h.departed hd))
  · exact Script.ensures_done (hJ f hnow) (failed r f hr (h.of_datagrams hsame))

/-- What a `tryReceiving` call of an engine does. -/
theorem makes_receive {α : Type} {ret : Except Exception (Option ResponseInfo) × Bytes → α} (buffer : Bytes) (timeout : Int) :
    (do return ret (← setup.receive buffer timeout) : SocketScript α).Makes (·.reads = true) :=
  Script.makes_bind (DataSender.makes_receiving _ _) fun _ => trivial

/-- Calls that only read leave the host as it is. -/
theorem Stack.effect_reads {call : SocketCall} {reply : call.Reply} {host' : Host} (h : call.reads = true)
    (effect : stack.Effect host call reply host') : host' = host := by
  cases effect with
  | setsockopt | sendto => cases h
  | _ => rfl

/-- The datagram of a probe: its bytes, to its destination, with its ttl as the hop limit. -/
def Setup.probeDatagram (setup : Setup) (x : UInt32 × Nat) : Outgoing :=
  ⟨setup.sender.mSendingSocket, x.1.toNat, (setup.probes x.2).serialize, (setup.probes x.2).getDestinationAddress⟩

/-- A ttl that the host accepts as an `int` is at most 255, but for 4294967295, which is -1. -/
theorem asInt_of_accepted {x : UInt32} (hx : x.toNat + 1 < 2 ^ 32) (h : -1 ≤ asInt x ∧ asInt x ≤ 255) :
    asInt x = x.toNat ∧ x.toNat ≤ 255 := by
  have hbmod : asInt x = if ((x.toNat : Int) % 4294967296) < 2147483648 then (x.toNat : Int) % 4294967296
    else (x.toNat : Int) % 4294967296 - 4294967296 := Int.bmod_def ..
  omega

theorem Emitted.probeDatagrams (h : Emitted setup stack before l host) (hl : ∀ x ∈ l, x.1.toNat + 1 < 2 ^ 32) :
    host.datagrams = before ++ l.map setup.probeDatagram ∧ ∀ x ∈ l, x.1.toNat ≤ 255 := by
  refine ⟨?_, fun x hx => (asInt_of_accepted (hl x hx) (h.hops x hx)).2⟩
  rw [h.datagrams]
  refine congrArg (before ++ ·) (List.map_congr_left fun x hx => ?_)
  have hasInt := (asInt_of_accepted (hl x hx) (h.hops x hx)).1
  have hne : ¬((x.1.toNat : Int) = -1) := by omega
  rw [Setup.datagram, DataSender.outgoing, Setup.probeDatagram, Stack.hopsOf, hasInt, if_neg hne]

/-- The ttls of probes that are sent in the order of the loops are not above `ttlEnd`. -/
theorem lt_of_positions {c : Call} {departed sent : List (UInt32 × Nat)} (hend : c.ttlEnd.toNat + 1 < 2 ^ 32)
    (order : sent.map (·.1.toNat) <+: c.positions.map (·.1)) (h : departed <+: sent) :
    ∀ x ∈ departed, x.1.toNat + 1 < 2 ^ 32 := by
  intro x hx
  obtain ⟨position, hposition, heq⟩ := List.mem_map.mp (order.subset (List.mem_map_of_mem (h.subset hx)))
  have hle := (mem_positions hposition).2.1
  omega

namespace Fast

variable {c : Call} {s t : State} {packets : Nat → Packet}

/-! ### The probes handed to `trySending` -/

def PacketToValidate.key (p : PacketToValidate) : UInt32 × Nat := (p.ttl, p.packet)

/-- The number that the next packet handed to `trySending` has at least. -/
def State.nextSent (s : State) : Nat :=
  match s.sender with
  | .created _ _ k => k
  | _ => s.created

/-- The probes are handed to `trySending` in the order of the loops, and then registered. -/
structure Sends (c : Call) (s : State) : Prop where
  registered : match s.sender with
    | .sending ttl _ k | .registering ttl _ k => s.sent = s.pushed.map (·.key) ++ [(ttl, k)]
    | .threw _ => s.pushed.map (·.key) <+: s.sent ∧ s.sent.length ≤ s.pushed.length + 1
    | _ => s.sent = s.pushed.map (·.key)
  order : s.sent.map (·.1.toNat) <+: c.positions.map (·.1)
  ascending : s.sent.Pairwise (·.2 < ·.2)
  below : ∀ x ∈ s.sent, x.2 < s.nextSent
  created : ∀ ttl i k, s.sender = .created ttl i k → k < s.created

theorem Sends.enter {now : Int} {o : Object} : Sends c (enter c now o) where
  registered := rfl
  order := List.nil_prefix
  ascending := .nil
  below := fun x hx => by cases hx
  created := fun ttl i k pc => by cases pc

/-- Steps that leave `sent` and `pushed`, and no packet in the sender's hands that was not there. -/
theorem Sends.of_eq (h : Sends c s) (hsent : t.sent = s.sent) (hpushed : t.pushed = s.pushed) (hcreated : s.created ≤ t.created)
    (hsender : t.sender = s.sender) : Sends c t where
  registered := by
    rw [hsender, hsent, hpushed]
    exact h.registered
  order := hsent ▸ h.order
  ascending := hsent ▸ h.ascending
  below x hx := by
    have hlt := h.below x (hsent ▸ hx)
    simp only [State.nextSent, hsender] at hlt ⊢
    split at hlt
    · exact hlt
    · exact Nat.lt_of_lt_of_le hlt hcreated
  created ttl i k pc := Nat.lt_of_lt_of_le (h.created ttl i k (hsender ▸ pc)) hcreated

/-- The probe handed to `trySending` is the next one of the loops. -/
theorem Placed.next {ttl i : UInt32} {k : Nat} (h : Placed c s) (pc : s.sender = .created ttl i k)
    (hsent : s.sent = s.pushed.map (·.key)) : (s.sent ++ [(ttl, k)]).map (·.1.toNat) <+: c.positions.map (·.1) := by
  simp only [Placed, pc] at h
  obtain ⟨hb, he, hi, hpos⟩ := h
  have hsends : (s.sent ++ [(ttl, k)]).map (·.1.toNat) = (c.positionsBefore ttl.toNat (i.toNat + 1)).map (·.1) := by
    have hkeys : s.sent.map (·.1.toNat) = (s.pushed.map (·.position)).map (·.1) := by
      rw [hsent, List.map_map, List.map_map]
      rfl
    rw [positionsBefore_succ, List.map_append, List.map_append, hkeys, hpos]
    rfl
  rw [hsends]
  exact (positionsBefore_initial hb he hi).map _

theorem Sends.senderMove {a : SenderAction} (hp : Placed c s) (h : Sends c s) (m : SenderMove c s a t) : Sends c t := by
  have hbelow := h.below
  have hreg := h.registered
  cases m with
  | enterTtl pc | finish pc | nextTtl pc =>
    simp only [State.nextSent, pc] at hbelow hreg
    exact ⟨hreg, h.order, h.ascending, hbelow, fun _ _ _ pc => by cases pc⟩
  | create pc lt =>
    simp only [State.nextSent, pc] at hbelow hreg
    refine ⟨hreg, h.order, h.ascending, hbelow, fun _ _ _ pc => ?_⟩
    cases pc
    exact Nat.lt_succ_self _
  | createThrows pc lt =>
    simp only [State.nextSent, pc] at hbelow hreg
    refine ⟨⟨by rw [hreg], ?_⟩, h.order, h.ascending, hbelow, fun _ _ _ pc => by cases pc⟩
    rw [hreg, List.length_map]
    exact Nat.le_succ _
  | @send ttl i k pc =>
    simp only [State.nextSent, pc] at hbelow hreg
    have hk := h.created ttl i k pc
    refine ⟨by rw [hreg], hp.next pc hreg, ?_, ?_, fun _ _ _ pc => by cases pc⟩
    · exact List.pairwise_append.mpr ⟨h.ascending, List.pairwise_singleton _ _, fun x hx y hy => by
        obtain rfl := List.mem_singleton.mp hy
        exact hbelow x hx⟩
    · exact List.forall_mem_append.mpr ⟨fun x hx => Nat.lt_trans (hbelow x hx) hk, List.forall_mem_singleton.mpr hk⟩
  | sent pc =>
    simp only [State.nextSent, pc] at hbelow hreg
    exact ⟨hreg, h.order, h.ascending, hbelow, fun _ _ _ pc => by cases pc⟩
  | notSent pc | sendThrows pc =>
    simp only [State.nextSent, pc] at hbelow hreg
    exact ⟨⟨by rw [hreg]; exact List.prefix_append _ _, by simp [hreg]⟩, h.order, h.ascending, hbelow, fun _ _ _ pc => by cases pc⟩
  | push pc free =>
    simp only [State.nextSent, pc] at hbelow hreg
    refine ⟨?_, h.order, h.ascending, hbelow, fun _ _ _ pc => by cases pc⟩
    simp only [hreg, List.map_append]
    rfl

theorem ReceiverMove.sent {a : ReceiverAction} (m : ReceiverMove packets c s a t) : t.sent = s.sent := by
  cases m <;> rfl

theorem exec_sends {as : List Action} {now : Int} {o : Object} (hend : c.ttlEnd.toNat + 1 < 2 ^ 32)
    (h : (machine packets c).exec (Fast.enter c now o) as = some t) : Sends c t := by
  refine (Machine.exec_invariant (I := fun s => Placed c s ∧ Sends c s) (fun {s t a} hs hst => ?_) ⟨.enter, .enter⟩ h).2
  refine ⟨step_placed hend hs.1 hst, ?_⟩
  cases a with
  | tick d =>
    obtain rfl := Option.some.inj hst
    exact hs.2.of_eq rfl rfl (Nat.le_refl _) rfl
  | sender a => exact hs.2.senderMove hs.1 (senderStep_move hst)
  | receiver a =>
    have m := receiverStep_move hst
    exact hs.2.of_eq m.sent m.pushed m.created m.sender

/-! ### The wire -/

/-- What the wire has to do with of a state: the sender, the probes handed to `trySending` and the registered ones. -/
def State.sending (s : State) : Sender × List (UInt32 × Nat) × List (UInt32 × Nat) := (s.sender, s.sent, s.pushed.map (·.key))

/-- Between the calls of `sendPackets` the registered probes are on the wire, and so is the one that is to be registered;
    the one whose call has not begun is not. -/
def OnWire (setup : Setup) (stack : Stack) (before : List Outgoing) :
    Sender × List (UInt32 × Nat) × List (UInt32 × Nat) → Host → Prop
  | (.sending ttl _ k, sent, registered), host => sent = registered ++ [(ttl, k)] ∧ Emitted setup stack before registered host
  | (.registering ttl _ k, sent, registered), host => sent = registered ++ [(ttl, k)] ∧ Emitted setup stack before sent host
  | (.threw _, sent, registered), host => registered <+: sent ∧ sent.length ≤ registered.length + 1 ∧
      Emitted setup stack before registered host
  | (_, sent, registered), host => sent = registered ∧ Emitted setup stack before registered host

/-- In its call the probe may or may not be on the wire. -/
def InCall (setup : Setup) (stack : Stack) (before : List Outgoing)
    (v : Sender × List (UInt32 × Nat) × List (UInt32 × Nat)) (host : Host) : Prop :=
  ∃ x, v.2.1 = v.2.2 ++ [x] ∧ Emitting setup stack before v.2.2 x host

theorem calls_sendPackets_eq_none {s : State} (h : ∀ ttl i k, s.sender ≠ .sending ttl i k) :
    calls setup c s .sendPackets = none := by
  cases pc : s.sender with
  | sending ttl i k => exact absurd pc (h ttl i k)
  | _ => simp [calls, pc]

theorem SenderMove.onWire {a : SenderAction} (m : SenderMove c s a t) (hcall : calls setup c s .sendPackets = none)
    (h : OnWire setup stack before s.sending host) : OnWire setup stack before t.sending host := by
  cases m with
  | enterTtl pc | finish pc | nextTtl pc | create pc lt =>
    simp only [State.sending, pc, OnWire] at h ⊢
    exact h
  | createThrows pc lt =>
    simp only [State.sending, pc, OnWire] at h ⊢
    exact ⟨h.1 ▸ List.prefix_refl _, h.1 ▸ Nat.le_succ _, h.2⟩
  | send pc =>
    simp only [State.sending, pc, OnWire] at h ⊢
    exact ⟨by rw [h.1], h.2⟩
  | push pc free =>
    simp only [State.sending, pc, OnWire, List.map_append] at h ⊢
    exact ⟨h.1, h.1 ▸ h.2⟩
  | sent pc | notSent pc | sendThrows pc => simp [calls, pc] at hcall

theorem guarantee (hdomain : stack.domain setup.sender.mSendingSocket = setup.sender.mFamily) (c : Call) :
    (wired setup c).Guarantee stack.Effect .sendPackets State.sending (OnWire setup stack before)
      (InCall setup stack before) where
  quiet {s t p} ht hscript := by
    cases t with
    | sendPackets => exact absurd rfl ht
    | receiveAndValidate =>
      simp only [wired, calls] at hscript
      split at hscript
      · cases hscript
        exact (makes_receive _ _).mono fun call hreads host reply host' effect => stack.effect_reads hreads effect
      · cases hscript
  others {s s' a t} hreturns ht hstep := by
    cases a with
    | tick d => cases hreturns
    | sender a =>
      cases a with
      | trySendingReturns outcome =>
        cases hreturns
        exact absurd rfl ht
      | _ => cases hreturns
    | receiver a =>
      have m := receiverStep_move hstep
      simp only [State.sending, m.sender, m.sent, m.pushed]
  own {s s' a} hstays hstep := by
    cases a with
    | tick d =>
      obtain rfl := Option.some.inj hstep
      exact Or.inl rfl
    | sender a =>
      have m := senderStep_move hstep
      have hcall : calls setup c s .sendPackets = none := calls_sendPackets_eq_none fun ttl i k pc => by
        cases m with
        | sent | notSent | sendThrows => cases hstays
        | enterTtl pc' | finish pc' | nextTtl pc' | create pc' | createThrows pc' | send pc' | push pc' =>
          rw [pc] at pc'
          cases pc'
      exact Or.inr ⟨hcall, fun host h => m.onWire hcall h⟩
    | receiver a =>
      have m := receiverStep_move hstep
      exact Or.inl (by simp only [State.sending, m.sender, m.sent, m.pushed])
  visible {s s'} hview hnone := by
    have hsender : s'.sender = s.sender := congrArg Prod.fst hview
    simpa only [wired, calls, hsender] using hnone
  call {s p host} hscript h := by
    simp only [wired, calls] at hscript
    split at hscript
    · next ttl i packet pc =>
      cases hscript
      simp only [State.sending, pc, OnWire] at h
      obtain ⟨hsent, hemitted⟩ := h
      -- The receiver may have moved on meanwhile, but the sender stands where it stood.
      have hreturns : ∀ {outcome s' s''}, State.sending s' = s.sending →
          (machine setup.packets c).step s' (.sender (.trySendingReturns outcome)) = some s'' →
          SenderMove c s' (.trySendingReturns outcome) s'' ∧ s'.sender = .sending ttl i packet ∧ s'.sent = s.sent ∧
            s'.pushed.map (·.key) = s.pushed.map (·.key) := fun {outcome s' s''} hview hstep => by
        obtain ⟨hsender, hsent', hpushed⟩ : s'.sender = s.sender ∧ s'.sent = s.sent ∧
            s'.pushed.map (·.key) = s.pushed.map (·.key) := by simpa [State.sending] using hview
        exact ⟨senderStep_move hstep, hsender.trans pc, hsent', hpushed⟩
      refine (send_ensures (fun outcome => Action.sender (.trySendingReturns outcome)) hdomain hemitted ?_ ?_).mono
        (fun f hf => ⟨_, hsent, hf⟩) fun _ _ => id
      · intro f hf s' s'' hview hstep
        obtain ⟨m, hsender, hsent', hpushed⟩ := hreturns hview hstep
        cases m with
        | sent pc' =>
          cases hsender.symm.trans pc'
          exact ⟨by rw [hsent', hpushed, hsent], by rw [hsent', hsent]; exact hf⟩
      · intro outcome f hne hf s' s'' hview hstep
        obtain ⟨m, hsender, hsent', hpushed⟩ := hreturns hview hstep
        cases m with
        | sent pc' => exact absurd rfl hne
        | notSent pc' | sendThrows pc' =>
          simp only [State.sending, OnWire, hsent', hpushed, hsent]
          exact ⟨List.prefix_append _ _, by simp, hf⟩
    · cases hscript

/-- The probes whose datagrams have left: all that are registered, and at most one more. -/
theorem departed_of_onWire (h : OnWire setup stack before s.sending host ∨ InCall setup stack before s.sending host) :
    ∃ departed, Emitted setup stack before departed host ∧ departed <+: s.sent ∧ s.pushed.map (·.key) <+: departed ∧
      departed.length ≤ s.pushed.length + 1 := by
  have hlength : (s.pushed.map (·.key)).length = s.pushed.length := List.length_map _
  have registered : ∀ {sent : List (UInt32 × Nat)}, s.sent = sent → s.pushed.map (·.key) <+: sent →
      Emitted setup stack before (s.pushed.map (·.key)) host → ∃ departed, Emitted setup stack before departed host ∧
        departed <+: s.sent ∧ s.pushed.map (·.key) <+: departed ∧ departed.length ≤ s.pushed.length + 1 :=
    fun hsent hprefix hemitted => ⟨_, hemitted, hsent ▸ hprefix, List.prefix_refl _, by omega⟩
  have handed : ∀ {x : UInt32 × Nat}, s.sent = s.pushed.map (·.key) ++ [x] → Emitted setup stack before s.sent host →
      ∃ departed, Emitted setup stack before departed host ∧ departed <+: s.sent ∧ s.pushed.map (·.key) <+: departed ∧
        departed.length ≤ s.pushed.length + 1 :=
    fun hsent hemitted => ⟨_, hemitted, List.prefix_refl _, hsent ▸ List.prefix_append _ _, by simp [hsent]⟩
  rcases h with h | ⟨x, hsent, hregistered | hall⟩
  · cases pc : s.sender with
    | sending ttl i k =>
      simp only [State.sending, pc, OnWire] at h
      exact registered h.1 (List.prefix_append _ _) h.2
    | registering ttl i k =>
      simp only [State.sending, pc, OnWire] at h
      exact handed h.1 h.2
    | threw e =>
      simp only [State.sending, pc, OnWire] at h
      exact registered rfl h.1 h.2.2
    | _ =>
      simp only [State.sending, pc, OnWire] at h
      exact registered h.1 (List.prefix_refl _) h.2
  · exact registered hsent (List.prefix_append _ _) hregistered
  · exact handed hsent (by rw [show s.sent = _ from hsent]; exact hall)

/-! ### Runs -/

variable {now : Int} {o : Object} {host' : Host} {as : List (Threaded.Action Action Thread SocketCall SocketCall.Reply)}
  {w : Threaded.State State Action Thread SocketCall SocketCall.Reply}

theorem exec_of_wired
    (h : (wired setup c).composed.Within (Threaded.Env stack.Effect) (.idle (Fast.enter c now o)) host as w host') :
    ∃ bs, (machine setup.packets c).exec (Fast.enter c now o) bs = some w.base :=
  Threaded.exec_refines (T := wired setup c) h.exec

theorem departed_of_wired (hdomain : stack.domain setup.sender.mSendingSocket = setup.sender.mFamily)
    (h : (wired setup c).composed.Within (Threaded.Env stack.Effect) (.idle (Fast.enter c now o)) host as w host') :
    ∃ departed, Emitted setup stack host.datagrams departed host' ∧ departed <+: w.base.sent ∧
      w.base.pushed.map (·.key) <+: departed ∧ departed.length ≤ w.base.pushed.length + 1 := by
  have hstart : OnWire setup stack host.datagrams (Fast.enter c now o).sending host :=
    ⟨rfl, (List.append_nil _).symm, fun x hx => by cases hx⟩
  exact departed_of_onWire ((guarantee hdomain c).run hstart h)

/-- Whatever the order of the system calls of the two threads and whatever the host answers: the datagrams that have left
    are those of the first probes of the loops, in their order and each once, with their ttl as the hop limit; they are
    those of the registered probes and of at most one more. -/
theorem datagrams_in_order (setup : Setup) (c : Call) (now : Int) (o : Object) (stack : Stack)
    (hdomain : stack.domain setup.sender.mSendingSocket = setup.sender.mFamily) (hend : c.ttlEnd.toNat + 1 < 2 ^ 32)
    {host host' : Host} {as : List (Threaded.Action Action Thread SocketCall SocketCall.Reply)}
    {w : Threaded.State State Action Thread SocketCall SocketCall.Reply}
    (h : (wired setup c).composed.Within (Threaded.Env stack.Effect) (.idle (Fast.enter c now o)) host as w host') :
    ∃ departed : List (UInt32 × Nat),
      host'.datagrams = host.datagrams ++ departed.map setup.probeDatagram ∧
      (∀ x ∈ departed, x.1.toNat ≤ 255) ∧
      departed.map (·.1.toNat) <+: c.positions.map (·.1) ∧
      departed.Pairwise (·.2 < ·.2) ∧
      w.base.pushed.map (·.key) <+: departed ∧ departed.length ≤ w.base.pushed.length + 1 := by
  obtain ⟨bs, hbs⟩ := exec_of_wired h
  have hsends := exec_sends hend hbs
  obtain ⟨departed, hemitted, hsent, hpushed, hlength⟩ := departed_of_wired hdomain h
  obtain ⟨hdatagrams, hhops⟩ := hemitted.probeDatagrams (lt_of_positions hend hsends.order hsent)
  exact ⟨departed, hdatagrams, hhops, (hsent.map _).trans hsends.order, hsends.ascending.sublist hsent.sublist, hpushed, hlength⟩

end Fast

/-- One socket, which sends and receives. -/
def someSender : DataSender where
  fdToProtocol := OrderedMap.empty.alter 3 fun _ => IPPROTO_ICMP
  mReceivingSockets := [3]
  mSendingSocket := 3
  mFamily := AF_INET
  known := by decide

def echoSetup : Setup := ⟨echoRequest, someSender, fun _ => ""⟩

def someStack : Stack := ⟨fun _ => AF_INET, 64⟩

def someHosting : Host := ⟨fun _ _ => none, []⟩

def someRouter : SocketAddress := .ofBytes [2, 0, 0, 0, 10, 0, 0, 1]

/-- What is asked for is granted, and a router's Time Exceeded message that quotes the first probe is there to be received
    again and again. -/
def granting : (call : SocketCall) → call.Reply
  | .setsockopt .. => .ok ()
  | .poll pollfds _ => .ok (1, pollfds.map fun pollfd => { pollfd with revents := pollfd.events })
  | .sendto _ data _ _ => .ok data.length
  | .recvfrom .. => .ok (56, someRouter, timeExceeded 0x45)

def echoCall : Call := ⟨7, 8, 1, 1000⟩

/-- The probe of ttl 7 is answered while that of ttl 8 is being sent; the answer is received twice more, and the probe of
    ttl 8 expires. -/
theorem Fast.echo_run : ∃ as w host' log,
    (wired echoSetup echoCall).composed.Within (Threaded.Env (Threaded.Both someStack.Effect Delivers))
      (.idle (enter echoCall 0 (.fresh 0 fun _ => 0))) (someHosting, []) as w (host', log) ∧
    w.base.receiver = .returned [⟨7, [successProbe 0 someRouter]⟩, ⟨8, [failedProbe 1000]⟩] ∧
    w.base.sent = [(7, 0), (8, 1)] ∧ (w.base.recorded.filterMap (·.answer)).length = 1 ∧ host'.datagrams.length = 2 ∧
    log.length = 3 := by
  have hrun : (wired echoSetup echoCall).composed.Within (Threaded.Env (Threaded.Both someStack.Effect Delivers))
      (.idle (enter echoCall 0 (.fresh 0 fun _ => 0))) (someHosting, []) _ _ (_, _) :=
    .cons (a := .own (.sender .testTtl)) rfl .own <| .cons (a := .own (.sender (.createPacket (.ok ())))) rfl .own <|
    .cons (a := .own (.sender .trySending)) rfl .own <| .cons (a := .start .sendPackets) rfl .start <|
    .cons (a := .answer .sendPackets granting) rfl (.answer rfl (.both (.setsockopt (by decide)) (.other rfl))) <|
    .cons (a := .answer .sendPackets granting) rfl (.answer rfl (.both .poll (.other rfl))) <|
    .cons (a := .own (.receiver .readBeginAt)) rfl .own <| .cons (a := .own (.receiver .testLoop)) rfl .own <|
    .cons (a := .answer .sendPackets granting) rfl (.answer rfl (.both .sendto (.other rfl))) <|
    .cons (a := .start .receiveAndValidate) rfl .start <| .cons (a := .finish .sendPackets) rfl .finish <|
    .cons (a := .answer .receiveAndValidate granting) rfl (.answer rfl (.both .poll (.other rfl))) <|
    .cons (a := .own (.sender .pushBack)) rfl .own <|
    .cons (a := .answer .receiveAndValidate granting) rfl (.answer rfl (.both .recvfrom .recvfrom)) <|
    .cons (a := .finish .receiveAndValidate) rfl .finish <| .cons (a := .own (.receiver .lock)) rfl .own <|
    .cons (a := .own (.receiver .matchResponse)) rfl .own <| .cons (a := .own (.sender .nextTtl)) rfl .own <|
    -- The probe of ttl 8 leaves between two calls of the receiver.
    .cons (a := .own (.sender .testTtl)) rfl .own <| .cons (a := .own (.sender (.createPacket (.ok ())))) rfl .own <|
    .cons (a := .own (.sender .trySending)) rfl .own <| .cons (a := .start .sendPackets) rfl .start <|
    .cons (a := .own (.receiver .sweep)) rfl .own <| .cons (a := .own (.receiver .testLoop)) rfl .own <|
    .cons (a := .answer .sendPackets granting) rfl (.answer rfl (.both (.setsockopt (by decide)) (.other rfl))) <|
    .cons (a := .start .receiveAndValidate) rfl .start <|
    .cons (a := .answer .sendPackets granting) rfl (.answer rfl (.both .poll (.other rfl))) <|
    .cons (a := .answer .sendPackets granting) rfl (.answer rfl (.both .sendto (.other rfl))) <|
    .cons (a := .answer .receiveAndValidate granting) rfl (.answer rfl (.both .poll (.other rfl))) <|
    .cons (a := .finish .sendPackets) rfl .finish <| .cons (a := .own (.sender .pushBack)) rfl .own <|
    .cons (a := .answer .receiveAndValidate granting) rfl (.answer rfl (.both .recvfrom .recvfrom)) <|
    .cons (a := .finish .receiveAndValidate) rfl .finish <| .cons (a := .own (.receiver .lock)) rfl .own <|
    .cons (a := .own (.receiver .matchResponse)) rfl .own <| .cons (a := .own (.receiver .sweep)) rfl .own <|
    .cons (a := .own (.receiver .sweep)) rfl .own <| .cons (a := .own (.receiver .testLoop)) rfl .own <|
    .cons (a := .own (.tick 1000000)) rfl .own <| .cons (a := .start .receiveAndValidate) rfl .start <|
    .cons (a := .own (.sender .nextTtl)) rfl .own <|
    .cons (a := .answer .receiveAndValidate granting) rfl (.answer rfl (.both .poll (.other rfl))) <|
    .cons (a := .answer .receiveAndValidate granting) rfl (.answer rfl (.both .recvfrom .recvfrom)) <|
    .cons (a := .finish .receiveAndValidate) rfl .finish <| .cons (a := .own (.receiver .lock)) rfl .own <|
    .cons (a := .own (.receiver .matchResponse)) rfl .own <| .cons (a := .own (.receiver .sweep)) rfl .own <|
    .cons (a := .own (.receiver .expire)) rfl .own <| .cons (a := .own (.receiver .sweep)) rfl .own <|
    .cons (a := .own (.receiver .testLoop)) rfl .own <| .cons (a := .own (.sender .testTtl)) rfl .own <|
    .cons (a := .own (.receiver (.postprocess (.ok ())))) rfl .own .nil
  exact ⟨_, _, _, _, hrun, rfl, rfl, rfl, rfl, rfl⟩

theorem Fast.datagrams_in_order_sent : ∃ as w host',
    (wired echoSetup echoCall).composed.Within (Threaded.Env someStack.Effect)
      (.idle (enter echoCall 0 (.fresh 0 fun _ => 0))) someHosting as w host' ∧
    host'.datagrams.length = 2 ∧ ∃ departed : List (UInt32 × Nat),
      host'.datagrams = departed.map echoSetup.probeDatagram ∧ departed.map (·.1.toNat) <+: echoCall.positions.map (·.1) ∧
      departed.length ≤ w.base.pushed.length + 1 := by
  obtain ⟨as, w, host', log, hrun, -, -, -, hdatagrams, -⟩ := echo_run
  obtain ⟨departed, heq, -, horder, -, -, hlength⟩ := datagrams_in_order echoSetup echoCall 0 _ someStack rfl (by decide)
    (Threaded.within_left hrun)
  exact ⟨as, w, host', Threaded.within_left hrun, hdatagrams, departed, heq, horder, hlength⟩

end Traceroute
