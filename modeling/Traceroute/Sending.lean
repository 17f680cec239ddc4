import Traceroute.Lib.Script
import Traceroute.Sockets

/-! `DataSender.cpp` and `Poll.cpp` system call by system call: `trySending` and `tryReceiving` as scripts, and the host
    that answers their calls. -/

namespace Traceroute

/-! ### The operating system -/

def IPPROTO_IP : Int := 0
def IPPROTO_IPV6 : Int := 41
def IP_TTL : Int := 2
def IPV6_UNICAST_HOPS : Int := 16
def POLLOUT : UInt16 := 0x04

/-- The system calls of a `DataSender`; the buffer of `recvfrom` is given with what it holds. -/
inductive SocketCall where
  | setsockopt (fd level option value : Int)
  | poll (pollfds : List Pollfd) (timeout : Int)
  | sendto (fd : Int) (data : List UInt8) (address : SocketAddress) (size : UInt32)
  | recvfrom (fd : Int) (buffer : Bytes) (bufferSize : Nat)

/-- What a call is answered with; one that fails has an `errno`. -/
def SocketCall.Reply : SocketCall → Type
  | .setsockopt .. => Except Int Unit
  | .poll .. => Except Int (Int × List Pollfd)
  | .sendto .. => Except Int Nat
  | .recvfrom .. => Except Int (UInt64 × SocketAddress × Bytes)

abbrev SocketScript := Script SocketCall SocketCall.Reply

/-- Code that makes system calls and may throw. -/
abbrev Calls := ExceptT Exception SocketScript

namespace Calls

def request (call : SocketCall) : Calls call.Reply := ExceptT.lift (Script.request call)

def setsockopt (fd level option value : Int) : Calls (Except Int Unit) := request (.setsockopt fd level option value)

/-- `poll` takes the timeout as an `int`. -/
def poll (pollfds : List Pollfd) (timeout : Int) : Calls (Except Int (Int × List Pollfd)) :=
  request (.poll pollfds (Int.bmod timeout (2 ^ 32)))

def sendto (fd : Int) (data : List UInt8) (address : SocketAddress) (size : UInt32) : Calls (Except Int Nat) :=
  request (.sendto fd data address size)

def recvfrom (fd : Int) (buffer : Bytes) (bufferSize : Nat) : Calls (Except Int (UInt64 × SocketAddress × Bytes)) :=
  request (.recvfrom fd buffer bufferSize)

end Calls

/-! ### `Poll.cpp` -/

/-- `Poll` of several descriptors. -/
def PollAny (strerror : Int → String) (fds : List Int) (events : UInt16) (timeout : Int) : Calls (Option Int) := do
  match ← Calls.poll (pollfdsOf fds events) timeout with
  | .error errno => throw (.runtime_error ("Exception occurred while polling " ++ strerror errno))
  | .ok (result, pollfds) =>
    if result > 0 then return (pollfds.find? (·.revents != 0)).map (·.fd) else return none

/-- `Poll` of one descriptor. -/
def PollOne (strerror : Int → String) (fd : Int) (events : UInt16) (timeout : Int) : Calls Bool := do
  match ← Calls.poll [⟨fd, events, 0⟩] timeout with
  | .error errno => throw (.runtime_error ("Exception occurred while polling " ++ strerror errno))
  | .ok (result, _) => return result != 0

/-! ### `DataSender.cpp` -/

def ProbePacket.serialize : ProbePacket → List UInt8
  | .icmp packet => packet.serialize
  | .tcp packet => packet.serialize
  | .udp packet => packet.serialize

/-- Where the checksum stands in the header of a packet. -/
def ProbePacket.checksumField : ProbePacket → Nat
  | .icmp _ => 2
  | .tcp _ => 16
  | .udp _ => 6

/-- The first `n` bytes of the packet as they are on their way: what stands in the field of the checksum may have been put
    there after the packet was sent. -/
def ProbePacket.OnWire (packet : ProbePacket) (q : Bytes) (n : Nat) : Prop :=
  ∀ i < n, i < packet.checksumField ∨ packet.checksumField + 2 ≤ i → q i = packet.serialize.getD i 0

theorem ProbePacket.OnWire.byte {packet : ProbePacket} {q pod : Bytes} {n i : Nat} {size : UInt64} (h : packet.OnWire q n)
    (hserialize : packet.serialize = utils.serialize pod size) (hi : i < n) (hsize : i < size.toNat)
    (hfield : i < packet.checksumField ∨ packet.checksumField + 2 ≤ i) : q i = pod i := by
  rw [h i hi hfield, hserialize, getD_serialize _ _ hsize]

def ProbePacket.getDestinationAddress (packet : ProbePacket) : SocketAddress := packet.toPacket.getDestinationAddress

namespace DataSender

def setTtl (sender : DataSender) (strerror : Int → String) (ttl : Int) : Calls Unit := do
  let level := if sender.mFamily = AF_INET then IPPROTO_IP else IPPROTO_IPV6
  let option := if sender.mFamily = AF_INET then IP_TTL else IPV6_UNICAST_HOPS
  match ← Calls.setsockopt sender.mSendingSocket level option ttl with
  | .error errno => throw (.runtime_error ("Could not set ttl:" ++ strerror errno))
  | .ok () => return ()

def trySending (sender : DataSender) (strerror : Int → String) (packet : ProbePacket) (ttl timeout : Int) : Calls Bool := do
  sender.setTtl strerror ttl
  let address := packet.getDestinationAddress
  if sender.mFamily ≠ address.family then
    throw (.invalid_argument "Provided address's family doesn't match family of source address")
  if ← PollOne strerror sender.mSendingSocket POLLOUT timeout then
    match ← Calls.sendto sender.mSendingSocket packet.serialize address address.size with
    | .error errno => throw (.runtime_error ("Error occured while sending data " ++ strerror errno))
    | .ok result => return result != 0
  else return false

/-- `tryReceiving`: what it returns or throws, and the buffer that it leaves. -/
def receiving (sender : DataSender) (strerror : Int → String) (buffer : Bytes) (bufferSize : Nat) (timeout : Int) :
    SocketScript (Except Exception (Option ResponseInfo) × Bytes) := do
  match ← (PollAny strerror sender.mReceivingSockets POLLIN timeout).run with
  | .error e => return (.error e, buffer)
  | .ok none => return (.ok none, buffer)
  | .ok (some fd) =>
    match ← (Calls.recvfrom fd buffer bufferSize).run with
    | .error e => return (.error e, buffer)
    | .ok (.error errno) => return (.error (.runtime_error ("Error occured on recvfrom: " ++ strerror errno)), buffer)
    | .ok (.ok (size, sockaddrStorage, received)) =>
      return ((sender.protocolOf fd).map fun protocol => some ⟨sockaddrStorage, protocol, size⟩, received)

end DataSender

/-! ### The host -/

/-- A datagram that has left the host: the socket that it was sent on, its hop limit, its bytes and its destination. -/
structure Outgoing where
  fd : Int
  hops : Int
  data : List UInt8
  address : SocketAddress
  deriving DecidableEq

/-- The options of the sockets, by level and option, and the datagrams that have left. -/
structure Host where
  options : Int → Int × Int → Option Int
  datagrams : List Outgoing

/-- The family that each socket was made with, and the hop limit of a socket for which none is set. -/
structure Stack where
  domain : Int → Int
  defaultHops : Int

/-- The option of a socket that holds its hop limit. -/
def Stack.hopOption (stack : Stack) (fd : Int) : Int × Int :=
  if stack.domain fd = AF_INET then (IPPROTO_IP, IP_TTL) else (IPPROTO_IPV6, IPV6_UNICAST_HOPS)

/-- -1 asks for the default. -/
def Stack.hopsOf (stack : Stack) (value : Int) : Int := if value = -1 then stack.defaultHops else value

def Stack.hopLimit (stack : Stack) (host : Host) (fd : Int) : Int :=
  stack.hopsOf ((host.options fd (stack.hopOption fd)).getD (-1))

def Host.setOption (host : Host) (fd : Int) (option : Int × Int) (value : Int) : Host :=
  { host with
    options := fun fd' option' => if fd' = fd ∧ option' = option then some value else host.options fd' option' }

/-- What the host may answer to a call, and what becomes of it. A hop limit is -1 to 255; `sendto` sends all bytes in one
    datagram or nothing. -/
inductive Stack.Effect (stack : Stack) : Host → (call : SocketCall) → call.Reply → Host → Prop where
  | setsockopt {host : Host} {fd level option value : Int} (accepted : -1 ≤ value ∧ value ≤ 255) :
      Effect stack host (.setsockopt fd level option value) (.ok ()) (host.setOption fd (level, option) value)
  | setsockoptFails {host : Host} {fd level option value errno : Int} :
      Effect stack host (.setsockopt fd level option value) (.error errno) host
  | poll {host : Host} {pollfds : List Pollfd} {timeout : Int} {reply : Except Int (Int × List Pollfd)} :
      Effect stack host (.poll pollfds timeout) reply host
  | sendto {host : Host} {fd : Int} {data : List UInt8} {address : SocketAddress} {size : UInt32} :
      Effect stack host (.sendto fd data address size) (.ok data.length)
        { host with datagrams := host.datagrams ++ [⟨fd, stack.hopLimit host fd, data, address⟩] }
  | sendtoFails {host : Host} {fd errno : Int} {data : List UInt8} {address : SocketAddress} {size : UInt32} :
      Effect stack host (.sendto fd data address size) (.error errno) host
  | recvfrom {host : Host} {fd : Int} {buffer : Bytes} {bufferSize : Nat}
      {reply : Except Int (UInt64 × SocketAddress × Bytes)} : Effect stack host (.recvfrom fd buffer bufferSize) reply host

/-- The calls that only read. -/
def SocketCall.reads : SocketCall → Bool
  | .poll .. | .recvfrom .. => true
  | .setsockopt .. | .sendto .. => false

/-- A datagram that `recvfrom` has delivered: on which descriptor, and what it returned and wrote. -/
structure Delivery where
  fd : Int
  size : UInt64
  client : SocketAddress
  received : Bytes

def SocketCall.receives : SocketCall → Bool
  | .recvfrom .. => true
  | _ => false

/-- The datagrams that have been delivered, whatever the host answers to the calls. -/
inductive Delivers : List Delivery → (call : SocketCall) → call.Reply → List Delivery → Prop where
  | recvfrom {log : List Delivery} {fd : Int} {buffer : Bytes} {bufferSize : Nat} {size : UInt64} {client : SocketAddress}
      {received : Bytes} : Delivers log (.recvfrom fd buffer bufferSize) (.ok (size, client, received))
        (log ++ [⟨fd, size, client, received⟩])
  | recvfromFails {log : List Delivery} {fd errno : Int} {buffer : Bytes} {bufferSize : Nat} :
      Delivers log (.recvfrom fd buffer bufferSize) (.error errno) log
  | other {log : List Delivery} {call : SocketCall} {reply : call.Reply} (h : call.receives = false) : Delivers log call reply log

end Traceroute
