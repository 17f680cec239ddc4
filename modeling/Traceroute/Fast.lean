import Mathlib.Data.List.Sort
import Traceroute.Probe
import Traceroute.Lib.Machine
import Traceroute.Lib.OrderedMap

/-! # `FastTraceroute.cpp`

`beginProbing` runs two threads: `sendPackets`, started with `std::async`, and `receiveAndValidate` in the
caller. They share `mPacketsToBeValidated` under `mMutex`. Here each thread is a sequence of atomic steps: a
step reads the clock at most once, and a section under `mMutex` is several steps between which the other
thread cannot enter its own section. Time passes between any two steps. -/

namespace Traceroute

/-- The number of results that `receiveAndValidate` waits for, computed in `unsigned` arithmetic. -/
def Call.expectedSize (c : Call) : Nat := ((c.ttlEnd - c.ttlBegin + 1) * c.retries).toNat

/-- `duration_cast<milliseconds>(timeout) * expectedSize` as a `microseconds` value: the product is an
    `unsigned long`, and so is its multiplication by 1000. -/
def Call.expectedMaxTimeTaken (c : Call) : Int :=
  Int.bmod (millisecondsCast c.timeout % 2 ^ 64 * c.expectedSize % 2 ^ 64 * 1000) (2 ^ 64)

namespace Fast

/-- `packet` is a `unique_ptr`: the number of the `createPacket` call that returned it. -/
structure PacketToValidate where
  packet : Nat
  sentAt : Int
  ttl : UInt32
  retry : UInt32
  deriving DecidableEq

/-- Where `sendPackets` stands. -/
inductive Sender where
  | ttlLoop (ttl : UInt32)
  | retryLoop (ttl i : UInt32)
  | created (ttl i : UInt32) (packet : Nat)
  | sending (ttl i : UInt32) (packet : Nat)
  | registering (ttl i : UInt32) (packet : Nat)
  | finished
  | threw (e : Exception)
  deriving DecidableEq

/-- Where `receiveAndValidate` stands. It holds `mMutex` while it matches, sweeps and expires. -/
inductive Receiver where
  | entering
  | loopHead (beginAt : Int)
  | receiving (beginAt calledAt : Int)
  | locking (beginAt : Int) (respInfo : Option ResponseInfo)
  | matching (beginAt : Int) (respInfo : Option ResponseInfo)
  | sweeping (beginAt : Int) (it : Nat)
  | expiring (beginAt : Int) (it : Nat)
  | postprocessing
  | returned (results : List TracerouteResult)
  | threw (e : Exception)
  deriving DecidableEq

def Receiver.holdsMutex : Receiver → Bool
  | .matching .. | .sweeping .. | .expiring .. => true
  | _ => false

/-- A result as it was recorded: its probe, and the datagram that answered it. -/
structure Record where
  probe : PacketToValidate
  result : ProbeResult
  answer : Option (ResponseInfo × Bytes)

/-- `now` is the clock and `created` the number of `createPacket` calls so far. `sent`, `pushed` and `recorded`
    are history that no step reads: the ttl and the packet of each `trySending` call, the probes that this call
    registered and the results that it recorded. -/
structure State where
  now : Int
  created : Nat
  mPacketsToBeValidated : List PacketToValidate
  mBuffer : Bytes
  ttlToProbeResults : OrderedMap UInt32 (List ProbeResult)
  sender : Sender
  receiver : Receiver
  sent : List (UInt32 × Nat)
  pushed : List PacketToValidate
  recorded : List Record

/-- A `FastTraceroute` between two calls. Its probes, if any, were registered by earlier calls, each with a
    packet of its own. -/
structure Object where
  created : Nat
  mPacketsToBeValidated : List PacketToValidate
  mBuffer : Bytes
  below : ∀ p ∈ mPacketsToBeValidated, p.packet < created
  distinct : (mPacketsToBeValidated.map (·.packet)).Nodup

/-- A new object, whose factory may have been used before. -/
def Object.fresh (created : Nat) (buffer : Bytes) : Object := ⟨created, [], buffer, by simp, by simp⟩

/-- `beginProbing` is entered. -/
def enter (c : Call) (now : Int) (o : Object) : State where
  now := now
  created := o.created
  mPacketsToBeValidated := o.mPacketsToBeValidated
  mBuffer := o.mBuffer
  ttlToProbeResults := .empty
  sender := .ttlLoop c.ttlBegin
  receiver := .entering
  sent := []
  pushed := []
  recorded := []

/-! ### `sendPackets` -/

inductive SenderAction where
  | testTtl
  | nextTtl
  | createPacket (outcome : Except Exception Unit)
  | trySending
  | trySendingReturns (outcome : Except Exception Bool)
  | pushBack

def senderStep (c : Call) (s : State) : SenderAction → Option State
  | .testTtl =>
    match s.sender with
    | .ttlLoop ttl => some { s with sender := if ttl ≤ c.ttlEnd then .retryLoop ttl 0 else .finished }
    | _ => none
  | .nextTtl =>
    match s.sender with
    | .retryLoop ttl i => if i < c.retries then none else some { s with sender := .ttlLoop (ttl + 1) }
    | _ => none
  | .createPacket outcome =>
    match s.sender with
    | .retryLoop ttl i =>
      if i < c.retries then
        match outcome with
        | .ok () => some { s with created := s.created + 1, sender := .created ttl i s.created }
        | .error e => some { s with sender := .threw e }
      else none
    | _ => none
  | .trySending =>
    match s.sender with
    | .created ttl i packet =>
      some { s with sender := .sending ttl i packet, sent := s.sent ++ [(ttl, packet)] }
    | _ => none
  | .trySendingReturns outcome =>
    match s.sender with
    | .sending ttl i packet =>
      match outcome with
      | .ok true => some { s with sender := .registering ttl i packet }
      | .ok false => some { s with sender := .threw (.runtime_error "Failed to send a packet") }
      | .error e => some { s with sender := .threw e }
    | _ => none
  | .pushBack =>
    match s.sender with
    | .registering ttl i packet =>
      if s.receiver.holdsMutex then none
      else some { s with
        mPacketsToBeValidated := s.mPacketsToBeValidated ++ [⟨packet, s.now, ttl, i⟩]
        sender := .retryLoop ttl (i + 1)
        pushed := s.pushed ++ [⟨packet, s.now, ttl, i⟩] }
    | _ => none

/-! ### `receiveAndValidate` -/

/-- The number of recorded results, as the `unsigned` that `std::accumulate` sums it up in. -/
def State.getCurrentSize (s : State) : UInt32 :=
  UInt32.ofNat ((s.ttlToProbeResults.entries.map fun kv => kv.2.length).sum)

/-- `std::find_if` over the probes: the position of the first one that accepts the response. -/
def findValid (packets : Nat → Packet) (respInfo : ResponseInfo) (buffer : Bytes) :
    List PacketToValidate → Except Exception (Option Nat)
  | [] => .ok none
  | packetTV :: rest =>
    match (packets packetTV.packet).isValid respInfo buffer with
    | .error e => .error e
    | .ok true => .ok (some 0)
    | .ok false => (findValid packets respInfo buffer rest).map (·.map (· + 1))

/-- `ttlToProbeResults[it->ttl].push_back(result); mPacketsToBeValidated.erase(it);` -/
def State.record (s : State) (it : Nat) (probe : PacketToValidate) (result : ProbeResult)
    (answer : Option (ResponseInfo × Bytes)) : State :=
  { s with
    ttlToProbeResults := s.ttlToProbeResults.alter probe.ttl fun old => old.getD [] ++ [result]
    mPacketsToBeValidated := s.mPacketsToBeValidated.eraseIdx it
    recorded := s.recorded ++ [⟨probe, result, answer⟩] }

/-- Drops what comes after the first result of the target. -/
def cutAfterTarget (target : SocketAddress) (results : List TracerouteResult) : List TracerouteResult :=
  results.take (results.findIdx (fun tr => tr.probeResults.any (·.sentBy target)) + 1)

/-- What `receiveAndValidate` makes of `ttlToProbeResults` once its loop has ended. -/
def collectResults (target : SocketAddress) (ttlToProbeResults : OrderedMap UInt32 (List ProbeResult)) :
    List TracerouteResult :=
  cutAfterTarget target
    ((ttlToProbeResults.entries.map fun kv => (⟨kv.1, kv.2⟩ : TracerouteResult)).insertionSort
      fun a b => a.ttl ≤ b.ttl)

/-- The loop goes on: results are missing, and the time for all of them is not over. -/
def State.goesOn (c : Call) (s : State) (beginAt : Int) : Bool :=
  s.getCurrentSize.toNat < c.expectedSize && getTimeLeft s.now beginAt c.expectedMaxTimeTaken > 0

inductive ReceiverAction where
  | readBeginAt
  | testLoop
  | tryReceivingReturns (outcome : Except Exception (Option ResponseInfo)) (buffer : Bytes)
  | lock
  | matchResponse
  | sweep
  | expire
  | postprocess (outcome : Except Exception Unit)

def receiverStep (packets : Nat → Packet) (c : Call) (s : State) : ReceiverAction → Option State
  | .readBeginAt =>
    match s.receiver with
    | .entering => some { s with receiver := .loopHead s.now }
    | _ => none
  | .testLoop =>
    match s.receiver with
    | .loopHead beginAt =>
      some { s with receiver := if s.goesOn c beginAt then .receiving beginAt s.now else .postprocessing }
    | _ => none
  | .tryReceivingReturns outcome buffer =>
    match s.receiver with
    | .receiving beginAt _ =>
      match outcome with
      | .ok respInfo => some { s with mBuffer := buffer, receiver := .locking beginAt respInfo }
      | .error e => some { s with mBuffer := buffer, receiver := .threw e }
    | _ => none
  | .lock =>
    match s.receiver with
    | .locking beginAt respInfo => some { s with receiver := .matching beginAt respInfo }
    | _ => none
  | .matchResponse =>
    match s.receiver with
    | .matching beginAt none => some { s with receiver := .sweeping beginAt 0 }
    | .matching beginAt (some respInfo) =>
      match findValid packets respInfo s.mBuffer s.mPacketsToBeValidated with
      | .error e => some { s with receiver := .threw e }
      | .ok none => some { s with receiver := .sweeping beginAt 0 }
      | .ok (some it) =>
        match s.mPacketsToBeValidated[it]? with
        | some probe =>
          let result := successProbe (getTimePassedTillNow s.now probe.sentAt) respInfo.client
          some { s.record it probe result (some (respInfo, s.mBuffer)) with receiver := .sweeping beginAt 0 }
        | none => none
    | _ => none
  | .sweep =>
    match s.receiver with
    | .sweeping beginAt it =>
      match s.mPacketsToBeValidated[it]? with
      | some probe =>
        some { s with receiver := if getTimeLeft s.now probe.sentAt c.timeout < MinTimeWaitForResponse
          then .expiring beginAt it else .sweeping beginAt (it + 1) }
      | none => some { s with receiver := .loopHead beginAt }
    | _ => none
  | .expire =>
    match s.receiver with
    | .expiring beginAt it =>
      match s.mPacketsToBeValidated[it]? with
      | some probe =>
        let result := failedProbe (getTimePassedTillNow s.now probe.sentAt)
        some { s.record it probe result none with receiver := .sweeping beginAt it }
      | none => none
    | _ => none
  | .postprocess outcome =>
    match s.receiver with
    | .postprocessing =>
      match outcome with
      | .ok () =>
        let target := (packets s.created).getDestinationAddress
        some { s with created := s.created + 1, receiver := .returned (collectResults target s.ttlToProbeResults) }
      | .error e => some { s with receiver := .threw e }
    | _ => none

/-! ### `beginProbing` -/

/-- `tick d`: `d` nanoseconds pass. -/
inductive Action where
  | tick (d : Nat)
  | sender (a : SenderAction)
  | receiver (a : ReceiverAction)

/-- `packets` are the packets of the factory, in the order in which it creates them. -/
def machine (packets : Nat → Packet) (c : Call) : Machine State Action where
  step s
    | .tick d => some { s with now := s.now + d }
    | .sender a => senderStep c s a
    | .receiver a => receiverStep packets c s a

def Sender.done : Sender → Bool
  | .finished | .threw _ => true
  | _ => false

def Receiver.done : Receiver → Bool
  | .returned _ | .threw _ => true
  | _ => false

/-- `beginProbing` has been left: by what `receiveAndValidate` returned or threw, and only once the
    destructor of the future has waited for `sendPackets`. -/
def State.left (s : State) : Bool := s.sender.done && s.receiver.done

end Fast
end Traceroute
