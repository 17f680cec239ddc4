import Traceroute.SocketAddress

/-! `Probe.cpp`, `ResponseInfo.cpp` and `Traceroute.cpp`: what is received, what is reported, and the time
    that has passed since a probe was sent. -/

namespace Traceroute

/-- What `tryReceiving` reports of a datagram: its sender, the socket's protocol and its size. -/
structure ResponseInfo where
  client : SocketAddress
  protocol : Int
  size : UInt64
  deriving DecidableEq

/-- The functions of a `Packet` that probing calls; `isValid` may throw. -/
structure Packet where
  getDestinationAddress : SocketAddress
  isValid : ResponseInfo → Bytes → Except Exception Bool

structure ProbeResult where
  success : Bool
  waitedFor : Int
  responseSender : Option SocketAddress
  deriving DecidableEq

structure TracerouteResult where
  ttl : UInt32
  probeResults : List ProbeResult
  deriving DecidableEq

/-- The arguments of a `beginProbing` call, `timeout` in microseconds. -/
structure Call where
  ttlBegin : UInt32
  ttlEnd : UInt32
  retries : UInt32
  timeout : Int
  deriving DecidableEq

def failedProbe (waitedFor : Int) : ProbeResult := ⟨false, waitedFor, none⟩

def successProbe (waitedFor : Int) (responseSender : SocketAddress) : ProbeResult :=
  ⟨true, waitedFor, some responseSender⟩

/-- The result has `target` as its sender. -/
def ProbeResult.sentBy (target : SocketAddress) (r : ProbeResult) : Bool :=
  match r.responseSender with
  | some sender => sender.operatorEq target
  | none => false

/-! ### Time

A `steady_clock::time_point` counts nanoseconds, a `microseconds` value microseconds and a `milliseconds`
value milliseconds; `duration_cast` to a coarser unit rounds towards zero. -/

/-- `duration_cast<microseconds>` of a difference of time points. -/
def microsecondsCast (nanoseconds : Int) : Int := nanoseconds.tdiv 1000

/-- `duration_cast<milliseconds>` of a duration in microseconds. -/
def millisecondsCast (microseconds : Int) : Int := microseconds.tdiv 1000

def BufferSize : Nat := 4096

/-- `MinTimeWaitForResponse`, in microseconds. -/
def MinTimeWaitForResponse : Int := 10

/-- Microseconds from `earlier` to the clock reading `now`. -/
def getTimePassedTillNow (now earlier : Int) : Int := microsecondsCast (now - earlier)

/-- Microseconds that the clock reading `now` leaves of a window of `timeout` opened at `earlier`. -/
def getTimeLeft (now earlier timeout : Int) : Int :=
  if getTimePassedTillNow now earlier > timeout then 0 else timeout - getTimePassedTillNow now earlier

end Traceroute
