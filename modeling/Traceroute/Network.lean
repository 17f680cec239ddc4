import Mathlib.Data.List.Forall2
import Traceroute.Theorems.Positions
import Traceroute.Fast
import Traceroute.Sequential

/-! A network that answers each probe at most once, and the two engines in it: which steps it allows, and which
    datagrams are on their way after them. Time passes only while `tryReceiving` waits. -/

namespace Traceroute

/-- The answer to a probe: the host that sends it, and the nanoseconds from the probe to its arrival. -/
structure Answer where
  host : SocketAddress
  delay : Nat

/-- The answers to the probes, by ttl and retry. An answer arrives within the window of its probe. -/
structure Network (timeout : Int) where
  answer : Nat × Nat → Option Answer
  inTime : ∀ position a, answer position = some a → a.delay ≤ (timeout - MinTimeWaitForResponse) * 1000

/-- An answer comes within the timeout. -/
theorem Network.delay_lt {timeout : Int} (net : Network timeout) {position : Nat × Nat} {a : Answer}
    (h : net.answer position = some a) : (a.delay : Int) < timeout * 1000 := by
  have hdelay := net.inTime position a h
  rw [MinTimeWaitForResponse] at hdelay
  omega

/-- What an answered probe and an unanswered one are reported as: the success and the sender. -/
def Network.outcome {timeout : Int} (net : Network timeout) (position : Nat × Nat) : Bool × Option SocketAddress :=
  match net.answer position with
  | some a => (true, some a.host)
  | none => (false, none)

def ProbeResult.outcome (r : ProbeResult) : Bool × Option SocketAddress := (r.success, r.responseSender)

/-- The datagrams of the answering hosts, for a call whose packets are numbered from `first` on in the order of its probes.
    Of these packets, one accepts the reply that it elicits, and no other accepts it. -/
structure Replies (c : Call) (net : Network c.timeout) (packets : Nat → Packet) (first : Nat) where
  reply : Nat → SocketAddress → ResponseInfo × Bytes
  client : ∀ n host, (reply n host).1.client = host
  accepted : ∀ k position a, c.positions[k]? = some position → net.answer position = some a →
    ∀ m ∈ List.range' first c.probeCount,
      (packets m).isValid (reply (first + k) a.host).1 (reply (first + k) a.host).2 = .ok (m == first + k)

/-- An answer on its way. -/
structure Datagram where
  packet : Nat
  host : SocketAddress
  arrivesAt : Int

/-- What a probe that is sent now elicits. -/
def Network.elicits {timeout : Int} (net : Network timeout) (position : Nat × Nat) (packet : Nat) (now : Int) :
    List Datagram :=
  (net.answer position).toList.map fun a => ⟨packet, a.host, now + a.delay⟩

theorem mem_elicits {timeout : Int} {net : Network timeout} {position : Nat × Nat} {packet : Nat} {now : Int}
    {g : Datagram} :
    g ∈ net.elicits position packet now ↔ ∃ a, net.answer position = some a ∧ g = ⟨packet, a.host, now + a.delay⟩ := by
  simp [Network.elicits, eq_comm]

/-- `d` nanoseconds pass while `tryReceiving` waits until `end_`, or until the first datagram arrives. -/
structure Waits (end_ now : Int) (flying : List Datagram) (d : Nat) : Prop where
  window : now + d ≤ end_
  quiet : ∀ g ∈ flying, now + d ≤ g.arrivesAt

/-- `tryReceiving`, which waits until `end_`, returns now: with the earliest datagram, if it has arrived, or with
    nothing at the end. -/
inductive Receives (reply : Nat → SocketAddress → ResponseInfo × Bytes) (end_ now : Int) (flying : List Datagram) :
    Except Exception (Option ResponseInfo) → Bytes → List Datagram → Prop where
  | datagram {g : Datagram} {rest : List Datagram} (mem : flying.Perm (g :: rest)) (arrived : g.arrivesAt ≤ now)
      (earliest : ∀ g' ∈ flying, g.arrivesAt ≤ g'.arrivesAt) :
      Receives reply end_ now flying (.ok (some (reply g.packet g.host).1)) (reply g.packet g.host).2 rest
  | nothing {buffer : Bytes} (isOver : now = end_) (none_ : ∀ g ∈ flying, now < g.arrivesAt) :
      Receives reply end_ now flying (.ok none) buffer flying

/-- Nanoseconds of a wait for so many microseconds, which `tryReceiving` is given in milliseconds. -/
def waitFor (microseconds : Int) : Int := millisecondsCast microseconds * 1000000

/-- No packet is being sent: `trySending` takes no time. -/
def Fast.Sender.sends : Fast.Sender → Bool
  | .sending .. => true
  | _ => false

/-- The steps that the network allows the fast engine, when all probes are registered before the first receive
    completes. -/
inductive Fast.Env {c : Call} (net : Network c.timeout) (reply : Nat → SocketAddress → ResponseInfo × Bytes)
    (s : Fast.State) (flying : List Datagram) : Fast.Action → List Datagram → Prop where
  | tick {beginAt calledAt : Int} {d : Nat} (receiving : s.receiver = .receiving beginAt calledAt)
      (idle : s.sender.sends = false) (waits : Waits (calledAt + waitFor c.timeout) s.now flying d) :
      Env net reply s flying (.tick d) flying
  | create : Env net reply s flying (.sender (.createPacket (.ok ()))) flying
  | send {ttl i : UInt32} {packet : Nat} (created : s.sender = .created ttl i packet) :
      Env net reply s flying (.sender .trySending) (flying ++ net.elicits (ttl.toNat, i.toNat) packet s.now)
  | sent : Env net reply s flying (.sender (.trySendingReturns (.ok true))) flying
  | sender {a : SenderAction} (loop : a = .testTtl ∨ a = .nextTtl ∨ a = .pushBack) :
      Env net reply s flying (.sender a) flying
  | receive {beginAt calledAt : Int} {outcome : Except Exception (Option ResponseInfo)} {buffer : Bytes}
      {rest : List Datagram} (receiving : s.receiver = .receiving beginAt calledAt)
      (registered : s.pushed.length = c.probeCount)
      (receives : Receives reply (calledAt + waitFor c.timeout) s.now flying outcome buffer rest) :
      Env net reply s flying (.receiver (.tryReceivingReturns outcome buffer)) rest
  | receiver {a : ReceiverAction} (loop : a = .readBeginAt ∨ a = .testLoop ∨ a = .lock ∨ a = .matchResponse ∨
      a = .sweep ∨ a = .expire ∨ a = .postprocess (.ok ())) : Env net reply s flying (.receiver a) flying

/-- The steps that the network allows the sequential engine. -/
inductive Sequential.Env {c : Call} (net : Network c.timeout) (packets : Nat → Packet)
    (reply : Nat → SocketAddress → ResponseInfo × Bytes) (s : Sequential.State) (flying : List Datagram) :
    Sequential.Action → List Datagram → Prop where
  | tick {a : Attempt} {timeLeft calledAt : Int} {d : Nat} (receiving : s.position = .receiving a timeLeft calledAt)
      (waits : Waits (calledAt + waitFor timeLeft) s.now flying d) : Env net packets reply s flying (.tick d) flying
  | create : Env net packets reply s flying (.createPacket (.ok ())) flying
  | send {ttl i : UInt32} {packet : Nat} (created : s.position = .created ttl i packet) :
      Env net packets reply s flying .trySending (flying ++ net.elicits (ttl.toNat, i.toNat) packet s.now)
  | sent : Env net packets reply s flying (.trySendingReturns (.ok true)) flying
  | receive {a : Attempt} {timeLeft calledAt : Int} {outcome : Except Exception (Option ResponseInfo)} {buffer : Bytes}
      {rest : List Datagram} (receiving : s.position = .receiving a timeLeft calledAt)
      (receives : Receives reply (calledAt + waitFor timeLeft) s.now flying outcome buffer rest) :
      Env net packets reply s flying (.tryReceivingReturns outcome buffer) rest
  | validate {outcome : Except Exception Bool} (asks : asksPacket packets s (.isValid outcome)) :
      Env net packets reply s flying (.isValid outcome) flying
  | loop {a : Action} (loop : a = .testTtl ∨ a = .readSentAt ∨ a = .testLoop ∨ a = .pushProbeResult ∨ a = .pushProbe) :
      Env net packets reply s flying a flying

/-- The calls that the engines are compared on: the timeout is a whole number of milliseconds, and the number of probes
    and the time for all of them fit their types. -/
structure Call.Regular (c : Call) : Prop where
  range : c.ttlBegin ≤ c.ttlEnd
  ends : c.ttlEnd.toNat + 1 < 2 ^ 32
  retries : 1 ≤ c.retries
  count : c.probeCount < 2 ^ 32
  timeout : 0 < c.timeout ∧ 1000 ∣ c.timeout
  fits : c.timeout * c.probeCount < 2 ^ 63

/-! ### What the network shows of a path -/

section
variable {timeout : Int}

/-- The target is among the hosts that answer the probes of `ttl`. -/
def Network.reaches (net : Network timeout) (c : Call) (target : SocketAddress) (ttl : Nat) : Prop :=
  ∃ i < c.retries.toNat, ∃ a, net.answer (ttl, i) = some a ∧ a.host.operatorEq target = true

/-- The results are those that the network gives for the ttls up to `k`, the first one at which the target answers or
    the last one of the call. -/
structure Portrays (net : Network timeout) (c : Call) (target : SocketAddress) (results : List TracerouteResult)
    (k : Nat) : Prop where
  begin_le : c.ttlBegin.toNat ≤ k
  le_end : k ≤ c.ttlEnd.toNat
  ttls : results.map (·.ttl.toNat) = List.range' c.ttlBegin.toNat (k + 1 - c.ttlBegin.toNat)
  outcomes : ∀ tr ∈ results, (tr.probeResults.map (·.outcome)).Perm
    ((List.range c.retries.toNat).map fun i => net.outcome (tr.ttl.toNat, i))
  last : k = c.ttlEnd.toNat ∨ net.reaches c target k
  first : ∀ ttl, c.ttlBegin.toNat ≤ ttl → ttl < k → ¬net.reaches c target ttl

/-- The same ttls in the same order, each with the same successes and senders in some order. -/
def Agree (results results' : List TracerouteResult) : Prop :=
  List.Forall₂ (fun tr tr' => tr.ttl = tr'.ttl ∧
    (tr.probeResults.map (·.outcome)).Perm (tr'.probeResults.map (·.outcome))) results results'

variable {net : Network timeout} {c : Call} {target : SocketAddress} {results results' : List TracerouteResult} {k k' : Nat}

theorem Portrays.ne_nil (h : Portrays net c target results k) : results ≠ [] := by
  rintro rfl
  have hlen := congrArg List.length h.ttls
  have hb := h.begin_le
  rw [List.map_nil, List.length_nil, List.length_range'] at hlen
  omega

/-- The path ends at one ttl. -/
theorem Portrays.le (h : Portrays net c target results k) (h' : Portrays net c target results' k') : k ≤ k' := by
  by_contra hlt
  have hlast := h'.last
  have hle := h.le_end
  rcases hlast with hend | hreaches
  · omega
  · exact h.first k' h'.begin_le (by omega) hreaches

theorem Portrays.agree (h : Portrays net c target results k) (h' : Portrays net c target results' k') :
    Agree results results' := by
  obtain rfl : k = k' := Nat.le_antisymm (h.le h') (h'.le h)
  have hmap := h.ttls.trans h'.ttls.symm
  have hlen : results.length = results'.length := by simpa using congrArg List.length hmap
  refine List.forall₂_iff_get.mpr ⟨hlen, fun i hi hi' => ?_⟩
  have httl : results[i].ttl = results'[i].ttl := by
    have hget := List.getElem_of_eq hmap (by simpa using hi)
    rw [List.getElem_map, List.getElem_map] at hget
    exact UInt32.toNat_inj.mp hget
  refine ⟨httl, (h.outcomes _ (List.getElem_mem hi)).trans ?_⟩
  rw [List.get_eq_getElem] at *
  rw [httl]
  exact (h'.outcomes _ (List.getElem_mem hi')).symm

/-- A result that shows what the network answers has the target as its sender where the target answers. -/
theorem sentBy_iff {r : ProbeResult} {position : Nat × Nat} (h : r.outcome = net.outcome position) :
    r.sentBy target = true ↔ ∃ a, net.answer position = some a ∧ a.host.operatorEq target = true := by
  have hsender : r.responseSender = (net.outcome position).2 := congrArg Prod.snd h
  rw [ProbeResult.sentBy, hsender, Network.outcome]
  cases net.answer position <;> simp

end

end Traceroute
