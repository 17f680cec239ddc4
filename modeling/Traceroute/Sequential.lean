import Traceroute.Lib.Machine
import Traceroute.Probe

/-! # `SequentialTraceroute.cpp`

`beginProbing` works in one thread, on one probe at a time. A step reads the clock at most once; what the
packet factory, the data sender and `isValid` do is part of the action. Time passes between any two steps. -/

namespace Traceroute.Sequential

/-- A probe that has been sent. `packet` is a `unique_ptr`: the number of the `createPacket` call that returned
    it. -/
structure Attempt where
  ttl : UInt32
  i : UInt32
  packet : Nat
  sentAt : Int
  deriving DecidableEq

/-- Where `beginProbing` stands; `calledAt` is when `tryReceiving` was called. -/
inductive Position where
  | ttlLoop (ttl : UInt32)
  | retryLoop (ttl i : UInt32)
  | created (ttl i : UInt32) (packet : Nat)
  | sending (ttl i : UInt32) (packet : Nat)
  | sent (ttl i : UInt32) (packet : Nat)
  | waiting (a : Attempt) (isResponseValid : Bool) (respInfo : Option ResponseInfo)
  | receiving (a : Attempt) (timeLeft calledAt : Int)
  | validating (a : Attempt) (respInfo : ResponseInfo)
  | waited (a : Attempt) (isResponseValid : Bool) (respInfo : Option ResponseInfo)
  | returned (probes : List TracerouteResult)
  | threw (e : Exception)
  deriving DecidableEq

/-- A result as it was recorded: its probe, and the datagram that answered it. -/
structure Record where
  attempt : Attempt
  result : ProbeResult
  answer : Option (ResponseInfo × Bytes)

/-- `now` is the clock and `created` the number of `createPacket` calls so far. `sent` and `recorded` are history
    that no step reads: the ttl and the packet of each `trySending` call, and the results recorded. -/
structure State where
  now : Int
  created : Nat
  mBuffer : Bytes
  destinationReached : Bool
  probes : List TracerouteResult
  probeResults : List ProbeResult
  position : Position
  sent : List (UInt32 × Nat)
  recorded : List Record

/-- `beginProbing` is entered. -/
def enter (c : Call) (now : Int) (created : Nat) (buffer : Bytes) : State where
  now := now
  created := created
  mBuffer := buffer
  destinationReached := false
  probes := []
  probeResults := []
  position := .ttlLoop c.ttlBegin
  sent := []
  recorded := []

inductive Action where
  | tick (d : Nat)
  | testTtl
  | createPacket (outcome : Except Exception Unit)
  | trySending
  | trySendingReturns (outcome : Except Exception Bool)
  | readSentAt
  | testLoop
  | tryReceivingReturns (outcome : Except Exception (Option ResponseInfo)) (buffer : Bytes)
  | isValid (outcome : Except Exception Bool)
  | pushProbeResult
  | pushProbe

/-- `probeResults.push_back(result);` and on to the next retry. -/
def State.record (s : State) (a : Attempt) (result : ProbeResult) (answer : Option (ResponseInfo × Bytes)) : State :=
  { s with
    probeResults := s.probeResults ++ [result]
    position := .retryLoop a.ttl (a.i + 1)
    recorded := s.recorded ++ [⟨a, result, answer⟩] }

/-- `destination` is what `getDestinationAddress` returns for each packet. -/
def step (destination : Nat → SocketAddress) (c : Call) (s : State) : Action → Option State
  | .tick d => some { s with now := s.now + d }
  | .testTtl =>
    match s.position with
    | .ttlLoop ttl =>
      if ttl ≤ c.ttlEnd then some { s with probeResults := [], position := .retryLoop ttl 0 }
      else some { s with position := .returned s.probes }
    | _ => none
  | .createPacket outcome =>
    match s.position with
    | .retryLoop ttl i =>
      if i < c.retries then
        match outcome with
        | .ok () => some { s with created := s.created + 1, position := .created ttl i s.created }
        | .error e => some { s with position := .threw e }
      else none
    | _ => none
  | .trySending =>
    match s.position with
    | .created ttl i packet =>
      some { s with position := .sending ttl i packet, sent := s.sent ++ [(ttl, packet)] }
    | _ => none
  | .trySendingReturns outcome =>
    match s.position with
    | .sending ttl i packet =>
      match outcome with
      | .ok true => some { s with position := .sent ttl i packet }
      | .ok false => some { s with position := .threw (.runtime_error "Failed to send a packet") }
      | .error e => some { s with position := .threw e }
    | _ => none
  | .readSentAt =>
    match s.position with
    | .sent ttl i packet => some { s with position := .waiting ⟨ttl, i, packet, s.now⟩ false none }
    | _ => none
  | .testLoop =>
    match s.position with
    | .waiting a isResponseValid respInfo =>
      let timeLeft := getTimeLeft s.now a.sentAt c.timeout
      if isResponseValid || timeLeft < MinTimeWaitForResponse then
        some { s with position := .waited a isResponseValid respInfo }
      else
        some { s with position := .receiving a timeLeft s.now }
    | _ => none
  | .tryReceivingReturns outcome buffer =>
    match s.position with
    | .receiving a _ _ =>
      match outcome with
      | .ok none => some { s with mBuffer := buffer, position := .waiting a false none }
      | .ok (some respInfo) => some { s with mBuffer := buffer, position := .validating a respInfo }
      | .error e => some { s with mBuffer := buffer, position := .threw e }
    | _ => none
  | .isValid outcome =>
    match s.position with
    | .validating a respInfo =>
      match outcome with
      | .ok isResponseValid => some { s with position := .waiting a isResponseValid (some respInfo) }
      | .error e => some { s with position := .threw e }
    | _ => none
  | .pushProbeResult =>
    match s.position with
    | .waited a true (some respInfo) =>
      let result := successProbe (getTimePassedTillNow s.now a.sentAt) respInfo.client
      some { s.record a result (some (respInfo, s.mBuffer)) with
        destinationReached := s.destinationReached || respInfo.client.operatorEq (destination a.packet) }
    | .waited a false _ => some (s.record a (failedProbe c.timeout) none)
    | _ => none
  | .pushProbe =>
    match s.position with
    | .retryLoop ttl i =>
      if i < c.retries then none
      else
        let probes := s.probes ++ [⟨ttl, s.probeResults⟩]
        some { s with
          probes := probes
          probeResults := []
          position := if s.destinationReached then .returned probes else .ttlLoop (ttl + 1) }
    | _ => none

/-- What `isValid` does is what the packet that is validated against does. -/
def asksPacket (packets : Nat → Packet) (s : State) : Action → Prop
  | .isValid outcome =>
    match s.position with
    | .validating a respInfo => outcome = (packets a.packet).isValid respInfo s.mBuffer
    | _ => True
  | _ => True

def machine (destination : Nat → SocketAddress) (c : Call) : Machine State Action := ⟨step destination c⟩

end Traceroute.Sequential
