import Traceroute.Probe

/-! `utils/Poll.cpp`: waiting for any of several descriptors. -/

namespace Traceroute

/-! ### The operating system -/

def POLLIN : UInt16 := 0x01
def POLLERR : UInt16 := 0x08
def POLLHUP : UInt16 := 0x10
def POLLNVAL : UInt16 := 0x20

/-- `pollfd`; its `short` fields are bit masks. -/
structure Pollfd where
  fd : Int
  events : UInt16
  revents : UInt16
  deriving DecidableEq

/-- The system calls that a `DataSender` makes; a call that fails has an `errno`. `poll` answers with its result and what
    it makes of the array. `recvfrom` is given a descriptor, the buffer and its size; it answers with the size of the
    datagram, its sender and the buffer. -/
structure System where
  poll : List Pollfd → Int → Except Int (Int × List Pollfd)
  recvfrom : Int → Bytes → Nat → Except Int (UInt64 × SocketAddress × Bytes)
  strerror : Int → String

/-! ### `Poll` -/

/-- The array that is given to `poll`. `std::vector<pollfd> pollfds{n}` makes `n` entries with zeros, and `back_inserter`
    appends to them. -/
def pollfdsOf (fds : List Int) (events : UInt16) : List Pollfd :=
  List.replicate fds.length ⟨0, 0, 0⟩ ++ fds.map fun fd => ⟨fd, events, 0⟩

/-- `poll` takes the timeout as an `int`. -/
def Poll (sys : System) (fds : List Int) (events : UInt16) (timeout : Int) : Except Exception (Option Int) :=
  match sys.poll (pollfdsOf fds events) (Int.bmod timeout (2 ^ 32)) with
  | .error errno => .error (.runtime_error ("Exception occurred while polling " ++ sys.strerror errno))
  | .ok (result, pollfds) =>
    if result > 0 then .ok ((pollfds.find? (·.revents != 0)).map (·.fd)) else .ok none

end Traceroute
