import Traceroute.DataSender
import Traceroute.ResponseValidators

/-! `Bind.cpp`, `CreateSocket.cpp`, the socket providers and `ResolveSourceAddress.cpp`: the system calls that make
    sockets, and what is left of them when one fails. -/

namespace Traceroute

/-! ### The operating system -/

def SOCK_DGRAM : Nat := 2
def SOCK_RAW : Nat := 3
def SOCK_NONBLOCK : Nat := 2048
def EBADF : Int := 9

/-- What `setsockopt` is asked for: SO_BINDTODEVICE, ICMP6_FILTER with the types that pass, and IPV6_CHECKSUM. -/
inductive SocketOption where
  | bindToDevice (ifaceName : String)
  | icmp6Filter (pass : List UInt8)
  | ipv6Checksum (offset : Int)
  deriving DecidableEq

inductive SystemCall where
  | socket (domain : Int) (type : Nat) (protocol : Int)
  | setsockopt (fd : Int) (option : SocketOption)
  | bind (fd : Int) (address : SocketAddress) (size : UInt32)
  | connect (fd : Int) (address : SocketAddress) (size : UInt32)
  | getsockname (fd : Int) (len : UInt32)
  | close (fd : Int)
  deriving DecidableEq

/-- The system calls so far, the open descriptors of the process, and `errno`. -/
structure World where
  calls : List SystemCall
  descriptors : List Int
  errno : Int
  nonneg : ∀ fd ∈ descriptors, 0 ≤ fd

/-- `outcome n` is the `errno` of the call with number `n`, if it fails. `socket` hands out a descriptor that is not
    open. `localAddress n` is the address that `getsockname` has for the socket when it is the call with number `n`. -/
structure Kernel where
  outcome : Nat → Option Int
  newDescriptor : List Int → Int
  new_nonneg : ∀ fds, 0 ≤ newDescriptor fds
  new_notMem : ∀ fds, newDescriptor fds ∉ fds
  localAddress : Nat → SocketAddress
  strerror : Int → String
  inet_ntop : Int → Bytes → String

/-- What is thrown leaves the world as it is then. -/
abbrev Sys := ExceptT Exception (StateM World)

/-- `size()`. -/
def SocketAddress.size (a : SocketAddress) : UInt32 := if a.isV4 then 16 else 28

def SocketAddress.toString (inet_ntop : Int → Bytes → String) (a : SocketAddress) : String :=
  if a.isV4 then inet_ntop AF_INET (a.sockaddrP.advance 4) else inet_ntop AF_INET6 (a.sockaddrP.advance 8)

namespace Kernel

/-- The descriptor, or -1. -/
def socket (kernel : Kernel) (domain : Int) (type : Nat) (protocol : Int) : Sys Int := fun w =>
  let calls := w.calls ++ [.socket domain type protocol]
  match kernel.outcome w.calls.length with
  | some errno => (.ok (-1), { w with calls, errno })
  | none =>
    (.ok (kernel.newDescriptor w.descriptors), {
      calls
      descriptors := kernel.newDescriptor w.descriptors :: w.descriptors
      errno := w.errno
      nonneg := fun fd hfd => by
        rcases List.mem_cons.mp hfd with rfl | hfd
        · exact kernel.new_nonneg _
        · exact w.nonneg fd hfd })

/-- A call on a descriptor: whether it succeeds. On one that is not open it does not. -/
def onDescriptor (kernel : Kernel) (fd : Int) (call : SystemCall) : Sys Bool := fun w =>
  let calls := w.calls ++ [call]
  match if fd ∈ w.descriptors then kernel.outcome w.calls.length else some EBADF with
  | none => (.ok true, { w with calls })
  | some errno => (.ok false, { w with calls, errno })

def setsockopt (kernel : Kernel) (fd : Int) (option : SocketOption) : Sys Bool :=
  kernel.onDescriptor fd (.setsockopt fd option)

def bind (kernel : Kernel) (fd : Int) (address : SocketAddress) : Sys Bool :=
  kernel.onDescriptor fd (.bind fd address address.size)

def connect (kernel : Kernel) (fd : Int) (address : SocketAddress) : Sys Bool :=
  kernel.onDescriptor fd (.connect fd address address.size)

/-- Copies the local address over `memory`, at most `len` bytes. -/
def copied (localAddress : SocketAddress) (memory : Vector UInt8 128) (len : UInt32) : Vector UInt8 128 :=
  .ofFn fun i => if i.val < min len.toNat localAddress.size.toNat then localAddress.mAddress.get i else memory.get i

def getsockname (kernel : Kernel) (fd : Int) (memory : Vector UInt8 128) (len : UInt32) :
    Sys (Option (Vector UInt8 128)) := do
  let calls := (← get).calls
  if ← kernel.onDescriptor fd (.getsockname fd len) then
    return some (copied (kernel.localAddress calls.length) memory len)
  else return none

def close (fd : Int) : Sys Unit := fun w => (.ok (), {
  calls := w.calls ++ [.close fd]
  descriptors := w.descriptors.filter (· ≠ fd)
  errno := w.errno
  nonneg := fun fd hfd => w.nonneg fd (List.mem_of_mem_filter hfd) })

end Kernel

/-! ### `Bind.cpp` and `CreateSocket.cpp` -/

def bindInterface (kernel : Kernel) (sfd : Int) (ifaceName : String) : Sys Unit := do
  if !(← kernel.setsockopt sfd (.bindToDevice ifaceName)) then
    throw (.runtime_error ("Could not bind to an interface: " ++ ifaceName))

def bindIpAddress (kernel : Kernel) (sfd : Int) (address : SocketAddress) : Sys Unit := do
  if !(← kernel.bind sfd address) then
    throw (.runtime_error ("Could not bind address: " ++ address.toString kernel.inet_ntop))

/-- Where an interface is named, the socket is bound to it. -/
def bindNamedInterface (kernel : Kernel) (fd : Int) : Option String → Sys Unit
  | some ifaceName => bindInterface kernel fd ifaceName
  | none => return ()

def bindToIpAddressAndInterface (kernel : Kernel) (fd : Int) (addressToBind : SocketAddress) (ifaceName : Option String) :
    Sys Unit := do
  bindNamedInterface kernel fd ifaceName
  bindIpAddress kernel fd addressToBind

/-- The functions differ in the protocol, the option of an IPv6 socket, and what is thrown when it cannot be set. -/
def setupRawSocket (kernel : Kernel) (protocol : Int) (option : SocketOption) (what : Int → String)
    (addressToBind : SocketAddress) (ifaceName : Option String) : Sys Socket := do
  let fd ← kernel.socket addressToBind.family (SOCK_RAW ||| SOCK_NONBLOCK) protocol
  bindToIpAddressAndInterface kernel fd addressToBind ifaceName
  if addressToBind.isV6 then
    if !(← kernel.setsockopt fd option) then
      throw (.runtime_error (what (← get).errno))
  return ⟨fd, protocol⟩

def setupIcmpRawSocket (kernel : Kernel) (addressToBind : SocketAddress) (ifaceName : Option String) : Sys Socket :=
  setupRawSocket kernel (if addressToBind.isV4 then IPPROTO_ICMP else IPPROTO_ICMPV6)
    (.icmp6Filter [ICMP6_ECHO_REPLY, ICMP6_TIME_EXCEEDED, ICMP6_DST_UNREACH])
    (fun errno => "Error occured while setting icmpv6 filter: " ++ kernel.strerror errno) addressToBind ifaceName

def setupTcpRawSocket (kernel : Kernel) (addressToBind : SocketAddress) (ifaceName : Option String) : Sys Socket :=
  setupRawSocket kernel IPPROTO_TCP (.ipv6Checksum 16) (fun _ => "Could not set IPV6_CHECKSUM flag") addressToBind ifaceName

def setupUdpRawSocket (kernel : Kernel) (addressToBind : SocketAddress) (ifaceName : Option String) : Sys Socket :=
  setupRawSocket kernel IPPROTO_UDP (.ipv6Checksum 6) (fun _ => "Could not set IPV6_CHECKSUM flag") addressToBind ifaceName

/-! ### The socket providers -/

def IcmpSocketProvider.createSockets (kernel : Kernel) (addressToBind : SocketAddress) (ifaceNameToBind : Option String) :
    Sys (List SocketExt) := do
  let icmp ← setupIcmpRawSocket kernel addressToBind ifaceNameToBind
  return [⟨icmp, Role.Receive.or .Send⟩]

def TcpSocketProvider.createSockets (kernel : Kernel) (addressToBind : SocketAddress) (ifaceNameToBind : Option String) :
    Sys (List SocketExt) := do
  let icmp ← setupIcmpRawSocket kernel addressToBind ifaceNameToBind
  let tcp ← setupTcpRawSocket kernel addressToBind ifaceNameToBind
  return [⟨icmp, .Receive⟩, ⟨tcp, Role.Receive.or .Send⟩]

def UdpSocketProvider.createSockets (kernel : Kernel) (addressToBind : SocketAddress) (ifaceNameToBind : Option String) :
    Sys (List SocketExt) := do
  let icmp ← setupIcmpRawSocket kernel addressToBind ifaceNameToBind
  let udp ← setupUdpRawSocket kernel addressToBind ifaceNameToBind
  return [⟨icmp, .Receive⟩, ⟨udp, .Send⟩]

/-! ### `ResolveSourceAddress.cpp` -/

/-- `memory` and `len` are what the two local variables held before: they are not initialised. -/
def resolveSourceAddress (kernel : Kernel) (memory : Vector UInt8 128) (len : UInt32) (destination : SocketAddress)
    (ifaceName : Option String) : Sys SocketAddress := do
  let sfd ← kernel.socket destination.family SOCK_DGRAM IPPROTO_UDP
  bindNamedInterface kernel sfd ifaceName
  if !(← kernel.connect sfd destination) then
    throw (.runtime_error "Failed to resolve source address. Error: connect() failed")
  match ← kernel.getsockname sfd memory len with
  | none =>
    throw (.runtime_error ("Failed to resolve source address. Error: getsockname() failed: " ++ toString (← get).errno))
  | some sockaddrStorage =>
    Kernel.close sfd
    return ⟨sockaddrStorage⟩

end Traceroute
