import Traceroute.Fast
import Traceroute.Sending
import Traceroute.Sequential

/-! The two engines on a `DataSender`: `trySending` and `tryReceiving` are carried out system call by system call, and
    the calls of the two threads of `FastTraceroute` interleave. -/

namespace Traceroute

/-- What `beginProbing` works with: the packets of the factory, in the order in which it creates them, and the
    `DataSender`. -/
structure Setup where
  probes : Nat → ProbePacket
  sender : DataSender
  strerror : Int → String

def Setup.packets (setup : Setup) (n : Nat) : Packet := (setup.probes n).toPacket

/-- An `unsigned` that is passed as an `int`. -/
def asInt (x : UInt32) : Int := Int.bmod x.toNat (2 ^ 32)

/-- `mDataSender.trySending(packet, ttl, seconds(5))`. -/
def Setup.send (setup : Setup) (packet : Nat) (ttl : UInt32) : SocketScript (Except Exception Bool) :=
  (setup.sender.trySending setup.strerror (setup.probes packet) (asInt ttl) 5000).run

/-- `mDataSender.tryReceiving(mBuffer, BufferSize, duration_cast<milliseconds>(timeout))`. -/
def Setup.receive (setup : Setup) (mBuffer : Bytes) (timeout : Int) :
    SocketScript (Except Exception (Option ResponseInfo) × Bytes) :=
  setup.sender.receiving setup.strerror mBuffer BufferSize (millisecondsCast timeout)

namespace Fast

inductive Thread where
  | sendPackets
  | receiveAndValidate
  deriving DecidableEq

/-- The calls at which the threads stand. -/
def calls (setup : Setup) (c : Call) (s : State) : Thread → Option (SocketScript Action)
  | .sendPackets =>
    match s.sender with
    | .sending ttl _ packet => some do return .sender (.trySendingReturns (← setup.send packet ttl))
    | _ => none
  | .receiveAndValidate =>
    match s.receiver with
    | .receiving _ _ => some do
      let (outcome, buffer) ← setup.receive s.mBuffer c.timeout
      return .receiver (.tryReceivingReturns outcome buffer)
    | _ => none

def returnsTo : Action → Option Thread
  | .sender (.trySendingReturns _) => some .sendPackets
  | .receiver (.tryReceivingReturns _ _) => some .receiveAndValidate
  | _ => none

theorem ends_calls {setup : Setup} {c : Call} {s : State} {t : Thread} {p : SocketScript Action} (h : calls setup c s t = some p) :
    p.Ends (returnsTo · = some t) := by
  cases t with
  | sendPackets =>
    simp only [calls] at h
    split at h
    · cases h
      exact Script.ends_bind fun r => rfl
    · cases h
  | receiveAndValidate =>
    simp only [calls] at h
    split at h
    · cases h
      exact Script.ends_bind fun r => rfl
    · cases h

def wired (setup : Setup) (c : Call) : Threaded State Action Thread SocketCall SocketCall.Reply :=
  ⟨machine setup.packets c, calls setup c, returnsTo, ends_calls⟩

end Fast

namespace Sequential

/-- The call at which `beginProbing` stands. `isValid` makes no system calls. -/
def calls (setup : Setup) (s : State) : Unit → Option (SocketScript Action)
  | () =>
    match s.position with
    | .sending ttl _ packet => some do return .trySendingReturns (← setup.send packet ttl)
    | .receiving _ timeLeft _ => some do
      let (outcome, buffer) ← setup.receive s.mBuffer timeLeft
      return .tryReceivingReturns outcome buffer
    | .validating a respInfo => some (return .isValid ((setup.packets a.packet).isValid respInfo s.mBuffer))
    | _ => none

def returnsTo : Action → Option Unit
  | .trySendingReturns _ | .tryReceivingReturns _ _ | .isValid _ => some ()
  | _ => none

theorem ends_calls {setup : Setup} {s : State} {t : Unit} {p : SocketScript Action} (h : calls setup s t = some p) :
    p.Ends (returnsTo · = some t) := by
  simp only [calls] at h
  split at h
  · cases h
    exact Script.ends_bind fun r => rfl
  · cases h
    exact Script.ends_bind fun r => rfl
  · cases h
    exact rfl
  · cases h

def wired (setup : Setup) (c : Call) : Threaded State Action Unit SocketCall SocketCall.Reply :=
  ⟨machine (fun n => (setup.probes n).getDestinationAddress) c, calls setup, returnsTo, ends_calls⟩

end Sequential
end Traceroute
