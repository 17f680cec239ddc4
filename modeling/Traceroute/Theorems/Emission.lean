import Traceroute.Sending

/-! What `trySending` puts on the wire, and that `tryReceiving`, call by call, is what it is as a function. -/

namespace Traceroute

/-! ### `tryReceiving` -/

/-- The answers to the system calls that `tryReceiving` makes; it makes no others. -/
def System.answers (sys : System) : (call : SocketCall) → call.Reply
  | .poll pollfds timeout => sys.poll pollfds timeout
  | .recvfrom fd buffer bufferSize => sys.recvfrom fd buffer bufferSize
  | .setsockopt .. => .ok ()
  | .sendto .. => .ok 0

namespace DataSender

variable {sender : DataSender} {sys : System} {strerror : Int → String} {packet : ProbePacket} {ttl timeout : Int}
  {stack : Stack} {host : Host} {before : List Outgoing} {J : Host → Prop}

theorem run_pollAny (fds : List Int) (events : UInt16) :
    (PollAny sys.strerror fds events timeout).run.run sys.answers = Poll sys fds events timeout := by
  have hpoll : Script.run sys.answers (Calls.poll (pollfdsOf fds events) timeout).run =
      .ok (sys.poll (pollfdsOf fds events) (Int.bmod timeout (2 ^ 32))) := rfl
  unfold PollAny Poll
  rw [ExceptT.run_bind, Script.run_bind, hpoll]
  rcases sys.poll (pollfdsOf fds events) (Int.bmod timeout (2 ^ 32)) with errno | ⟨result, pollfds⟩
  · rfl
  · by_cases h : result > 0
    · simp only [if_pos h]
      rfl
    · simp only [if_neg h]
      rfl

/-- Answered by the system, the script returns what the function does. -/
theorem run_receiving (buffer : Bytes) (bufferSize : Nat) :
    (sender.receiving sys.strerror buffer bufferSize timeout).run sys.answers =
      ((sender.tryReceiving sys buffer bufferSize timeout).outcome, (sender.tryReceiving sys buffer bufferSize timeout).buffer) := by
  unfold receiving tryReceiving getAnySocketReadyToReceive
  rw [Script.run_bind, run_pollAny]
  rcases Poll sys sender.mReceivingSockets POLLIN timeout with e | _ | fd
  · rfl
  · rfl
  · have hrecvfrom : Script.run sys.answers (Calls.recvfrom fd buffer bufferSize).run = .ok (sys.recvfrom fd buffer bufferSize) :=
      rfl
    simp only [Script.run_bind, hrecvfrom]
    rcases sys.recvfrom fd buffer bufferSize with errno | ⟨size, sockaddrStorage, received⟩
    · rfl
    · rfl

theorem makes_pollAny {P : SocketCall → Prop} (hP : ∀ pollfds timeout, P (.poll pollfds timeout)) (fds : List Int) (events : UInt16) :
    (PollAny strerror fds events timeout).run.Makes P := by
  unfold PollAny
  refine Script.makes_run_bind ⟨hP _ _, fun reply => trivial⟩ fun r => ?_
  rcases r with errno | ⟨result, pollfds⟩
  · trivial
  · by_cases h : result > 0
    · simp only [if_pos h]
      trivial
    · simp only [if_neg h]
      trivial

theorem makes_receiving (buffer : Bytes) (bufferSize : Nat) :
    (sender.receiving strerror buffer bufferSize timeout).Makes (·.reads = true) := by
  unfold receiving
  refine Script.makes_bind (makes_pollAny (fun _ _ => rfl) _ _) fun r => ?_
  rcases r with e | _ | fd
  · trivial
  · trivial
  · refine Script.makes_bind ⟨rfl, fun reply => trivial⟩ fun r => ?_
    rcases r with e | (errno | ⟨size, sockaddrStorage, received⟩)
    · trivial
    · trivial
    · trivial

/-! ### `trySending` -/

/-- The datagram of a probe that is sent with the ttl. -/
def outgoing (sender : DataSender) (stack : Stack) (packet : ProbePacket) (ttl : Int) : Outgoing :=
  ⟨sender.mSendingSocket, stack.hopsOf ttl, packet.serialize, packet.getDestinationAddress⟩

/-- The datagram has left, and nothing else. -/
structure Departed (sender : DataSender) (stack : Stack) (packet : ProbePacket) (ttl : Int) (before : List Outgoing)
    (host : Host) : Prop where
  datagrams : host.datagrams = before ++ [sender.outgoing stack packet ttl]
  family : packet.getDestinationAddress.family = sender.mFamily
  hops : -1 ≤ ttl ∧ ttl ≤ 255

theorem setTtl_ensures (hJ : ∀ host : Host, host.datagrams = before → J host) (h : host.datagrams = before) :
    (sender.setTtl strerror ttl).run.Ensures stack.Effect J
      (fun r host => host.datagrams = before ∧ (r = .ok () → (-1 ≤ ttl ∧ ttl ≤ 255) ∧
        (stack.domain sender.mSendingSocket = sender.mFamily → stack.hopLimit host sender.mSendingSocket = stack.hopsOf ttl)))
      host := by
  refine Script.ensures_run_bind (S := fun r host => host.datagrams = before ∧ (r = .ok (.ok ()) → (-1 ≤ ttl ∧ ttl ≤ 255) ∧
        (stack.domain sender.mSendingSocket = sender.mFamily → stack.hopLimit host sender.mSendingSocket = stack.hopsOf ttl)))
    ⟨hJ host h, fun reply host' effect => ?_⟩ (fun a host' hJ' hS => ?_) (fun x host' hS => ?_)
  · cases effect with
    | setsockopt accepted =>
      refine ⟨hJ _ h, h, fun _ => ⟨accepted, fun hdomain => ?_⟩⟩
      simp only [Stack.hopLimit, Host.setOption, Stack.hopOption, hdomain]
      split <;> simp
    | setsockoptFails => exact ⟨hJ _ h, h, fun he => by cases he⟩
  · rcases a with errno | ⟨⟩
    · exact Script.ensures_done hJ' ⟨hS.1, fun he => by cases he⟩
    · exact Script.ensures_done hJ' ⟨hS.1, fun _ => hS.2 rfl⟩
  · exact ⟨hS.1, fun he => by cases he⟩

theorem pollOne_ensures (hJ : J host) (fd : Int) (events : UInt16) :
    (PollOne strerror fd events timeout).run.Ensures stack.Effect J (fun _ host' => host' = host) host := by
  refine Script.ensures_run_bind (S := fun _ host' => host' = host) ⟨hJ, fun reply host' effect => ?_⟩
    (fun a host' hJ' hS => ?_) (fun x host' hS => hS)
  · cases effect with
    | poll => exact ⟨hJ, rfl⟩
  · rcases a with errno | ⟨result, pollfds⟩
    · exact Script.ensures_done hJ' hS
    · exact Script.ensures_done hJ' hS

/-- A probe has bytes to send. -/
theorem serialize_ne_nil (packet : ProbePacket) : packet.serialize ≠ [] := by
  cases packet with
  | icmp packet => simp [ProbePacket.serialize, IcmpPacket.serialize, utils.serialize, IcmpHeader.size]
  | tcp packet => simp [ProbePacket.serialize, TcpPacket.serialize, utils.serialize, TcpHeader.size]
  | udp packet => simp [ProbePacket.serialize, UdpPacket.serialize, utils.serialize, UdpHeader.size]

/-- `trySending` returns `true` when the datagram of the probe has left, and when it returns `false` or throws nothing
    has. -/
theorem trySending_ensures (hdomain : stack.domain sender.mSendingSocket = sender.mFamily) (h : host.datagrams = before) :
    (sender.trySending strerror packet ttl timeout).run.Ensures stack.Effect
      (fun host => host.datagrams = before ∨ sender.Departed stack packet ttl before host)
      (fun r host => r = .ok true ∧ sender.Departed stack packet ttl before host ∨ r ≠ .ok true ∧ host.datagrams = before)
      host := by
  unfold trySending
  refine Script.ensures_run_bind (setTtl_ensures (fun _ => Or.inl) h) (fun _ host' hJ' ⟨hbefore, hset⟩ => ?_)
    fun x host' hS => Or.inr ⟨by simp, hS.1⟩
  obtain ⟨hops, hlimit⟩ := hset rfl
  by_cases hfamily : sender.mFamily ≠ packet.getDestinationAddress.family
  · simp only [if_pos hfamily]
    exact Script.ensures_done hJ' (Or.inr ⟨by simp, hbefore⟩)
  simp only [if_neg hfamily]
  refine Script.ensures_run_bind (pollOne_ensures hJ' _ _) (fun ready host'' hJ'' hS => ?_)
    fun x host'' hS => Or.inr ⟨by simp, by rw [hS, hbefore]⟩
  subst hS
  cases ready with
  | false => exact Script.ensures_done hJ'' (Or.inr ⟨by simp, hbefore⟩)
  | true =>
    have hdeparted : ∀ {f : Host}, f.datagrams = host''.datagrams ++
        [⟨sender.mSendingSocket, stack.hopLimit host'' sender.mSendingSocket, packet.serialize, packet.getDestinationAddress⟩] →
        sender.Departed stack packet ttl before f := fun hf =>
      ⟨by rw [hf, hbefore, hlimit hdomain, outgoing], Eq.symm (not_not.mp hfamily), hops⟩
    refine Script.ensures_run_bind (S := fun r host => (r = .ok (.ok packet.serialize.length) ∧ sender.Departed stack packet ttl before host) ∨
      ((∃ errno, r = .ok (.error errno)) ∧ host.datagrams = before)) ⟨hJ'', fun reply f effect => ?_⟩ (fun a f hJf hS => ?_)
      (fun x f hS => ?_)
    · cases effect with
      | sendto => exact ⟨Or.inr (hdeparted rfl), Or.inl ⟨rfl, hdeparted rfl⟩⟩
      | sendtoFails => exact ⟨Or.inl hbefore, Or.inr ⟨⟨_, rfl⟩, hbefore⟩⟩
    · rcases hS with ⟨ha, hdep⟩ | ⟨⟨errno, ha⟩, hsame⟩
      · cases ha
        exact Script.ensures_done hJf (Or.inl ⟨by simp [serialize_ne_nil], hdep⟩)
      · cases ha
        exact Script.ensures_done hJf (Or.inr ⟨by simp, hsame⟩)
    · rcases hS with ⟨ha, -⟩ | ⟨⟨errno, ha⟩, -⟩
      · cases ha
      · cases ha

end DataSender
end Traceroute
