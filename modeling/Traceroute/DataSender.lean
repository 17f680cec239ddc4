import Traceroute.Lib.OrderedMap
import Traceroute.Poll

/-! `Socket.hpp` and `DataSender.cpp`: the sockets of a `DataSender`, and how it receives. -/

namespace Traceroute

structure Socket where
  fd : Int
  protocol : Int
  deriving DecidableEq

/-- `Role`, a bit mask in a `uint8_t`. -/
structure Role where
  bits : UInt8
  deriving DecidableEq

def Role.Receive : Role := ⟨1⟩
def Role.Send : Role := ⟨2⟩

/-- `operator|` and `operator&`. -/
def Role.or (lhs rhs : Role) : Role := ⟨lhs.bits ||| rhs.bits⟩
def Role.and (lhs rhs : Role) : Bool := lhs.bits &&& rhs.bits != 0

structure SocketExt where
  socket : Socket
  role : Role
  deriving DecidableEq

/-- Every receiving socket has a protocol. -/
structure DataSender where
  fdToProtocol : OrderedMap Int Int
  mReceivingSockets : List Int
  mSendingSocket : Int
  mFamily : Int
  known : ∀ fd ∈ mReceivingSockets, fdToProtocol.get? fd ≠ none

namespace DataSender

/-- The body of the constructor's loop. -/
def addSocket (sender : DataSender) (socExt : SocketExt) : Except Exception DataSender :=
  if socExt.role.and .Send && sender.mSendingSocket != 0 then
    .error (.invalid_argument "There can only be one sending socket in DataSender")
  else .ok {
    fdToProtocol := sender.fdToProtocol.alter socExt.socket.fd fun _ => socExt.socket.protocol
    mReceivingSockets := if socExt.role.and .Receive then sender.mReceivingSockets ++ [socExt.socket.fd]
      else sender.mReceivingSockets
    mSendingSocket := if socExt.role.and .Send then socExt.socket.fd else sender.mSendingSocket
    mFamily := sender.mFamily
    known := fun fd hfd => by
      by_cases hnew : fd = socExt.socket.fd
      · rw [hnew, OrderedMap.get?_alter_self]
        exact nofun
      · rw [OrderedMap.get?_alter_of_ne hnew]
        split at hfd
        · exact sender.known fd ((List.mem_append.mp hfd).resolve_right fun h => hnew (List.mem_singleton.mp h))
        · exact sender.known fd hfd }

/-- The constructor. -/
def create (socketsExt : List SocketExt) (family : Int) : Except Exception DataSender :=
  socketsExt.foldlM addSocket ⟨.empty, [], 0, family, nofun⟩

def getAnySocketReadyToReceive (sender : DataSender) (sys : System) (timeout : Int) : Except Exception (Option Int) :=
  Poll sys sender.mReceivingSockets POLLIN timeout

/-- `fdToProtocol.at(fd)`. -/
def protocolOf (sender : DataSender) (fd : Int) : Except Exception Int :=
  match sender.fdToProtocol.get? fd with
  | some protocol => .ok protocol
  | none => .error (.out_of_range "map::at")

/-- A `tryReceiving` call: the descriptor that it has called `recvfrom` on, if it has, what it returns or throws, and the
    buffer that it leaves. -/
structure Receipt where
  recvfrom : Option Int
  outcome : Except Exception (Option ResponseInfo)
  buffer : Bytes

def tryReceiving (sender : DataSender) (sys : System) (buffer : Bytes) (bufferSize : Nat) (timeout : Int) : Receipt :=
  match sender.getAnySocketReadyToReceive sys timeout with
  | .error e => ⟨none, .error e, buffer⟩
  | .ok none => ⟨none, .ok none, buffer⟩
  | .ok (some fd) =>
    match sys.recvfrom fd buffer bufferSize with
    | .error errno =>
      ⟨some fd, .error (.runtime_error ("Error occured on recvfrom: " ++ sys.strerror errno)), buffer⟩
    | .ok (size, sockaddrStorage, received) =>
      ⟨some fd, (sender.protocolOf fd).map fun protocol => some ⟨sockaddrStorage, protocol, size⟩, received⟩

end DataSender
end Traceroute
