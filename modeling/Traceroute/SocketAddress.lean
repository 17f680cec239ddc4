import Traceroute.Bytes

/-! `SocketAddress.cpp`: a `sockaddr_storage`, how it is built, and the comparison of the addresses in it. -/

namespace Traceroute

/-- The exceptions that the library throws, or the standard library in it. -/
inductive Exception where
  | runtime_error (what : String)
  | invalid_argument (what : String)
  | out_of_range (what : String)
  deriving DecidableEq

def AF_INET : Int := 2
def AF_INET6 : Int := 10

/-- A `sockaddr_storage`: the family, then the fields of a `sockaddr_in` or a `sockaddr_in6`, then padding. -/
structure SocketAddress where
  mAddress : Vector UInt8 128
  deriving DecidableEq

namespace SocketAddress

def sockaddrP (a : SocketAddress) : Bytes := fun i => if h : i < 128 then a.mAddress[i] else 0

/-- `ss_family`, the first field of every socket address. -/
def family (a : SocketAddress) : Int := (a.sockaddrP.u16 0).toNat

def isV4 (a : SocketAddress) : Bool := a.family == AF_INET

def isV6 (a : SocketAddress) : Bool := !a.isV4

/-- `((sockaddr_in *)p)->sin_addr.s_addr`. -/
def s_addr (a : SocketAddress) : UInt32 := a.sockaddrP.u32 4

/-- `((sockaddr_in6 *)p)->sin6_addr.__in6_u.__u6_addr32[i]`. -/
def u6_addr32 (a : SocketAddress) (i : Nat) : UInt32 := a.sockaddrP.u32 (8 + 4 * i)

/-! ### Constructors -/

/-- What the constructor asks of the C library: the family of the first result of `getaddrinfo`, if there is one, and
    what `inet_pton` writes, if it succeeds. -/
structure Resolver where
  getaddrinfo : String → Option Int
  inet_pton : Int → String → Option Bytes

/-- The assignments to the family, the port and the address, at its offset. -/
def store (memory : Vector UInt8 128) (family : UInt16) (offset width : Nat) (temp : Bytes) : Vector UInt8 128 :=
  .ofFn fun i =>
    if i.val < 2 then Bytes.ofU16 family i.val
    else if i.val < 4 then 0
    else if offset ≤ i.val ∧ i.val < offset + width then temp (i.val - offset)
    else memory[i]

/-- `memory` is what the object's place in memory held before. -/
def ofString (resolver : Resolver) (memory : Vector UInt8 128) (address : String) : Except Exception SocketAddress :=
  match resolver.getaddrinfo address with
  | none => .error (.invalid_argument ("Invalid address: " ++ address))
  | some ai_family =>
    if ai_family = AF_INET then
      match resolver.inet_pton AF_INET address with
      | none => .error (.runtime_error "Error occurred while converting ipv4 adress.")
      | some temp => .ok ⟨store memory 2 4 4 temp⟩
    else if ai_family = AF_INET6 then
      match resolver.inet_pton AF_INET6 address with
      | none => .error (.runtime_error "Error occurred while converting ipv6 adress.")
      | some temp => .ok ⟨store memory 10 8 16 temp⟩
    else .error (.invalid_argument ("Invalid address: " ++ address))

/-! ### Comparison -/

/-- `operator==`: the left address decides which layout both are read with. -/
def operatorEq (a rhs : SocketAddress) : Bool :=
  if a.isV4 then a.s_addr == rhs.s_addr
  else (List.range 4).all fun i => a.u6_addr32 i == rhs.u6_addr32 i

/-- `operator!=`. -/
def operatorNe (a rhs : SocketAddress) : Bool := !a.operatorEq rhs

/-- A `sockaddr_storage` that begins with the bytes and has zeros behind them. -/
def ofBytes (l : List UInt8) : SocketAddress := ⟨Vector.ofFn fun i => l.getD i 0⟩

theorem operatorEq_self {a : SocketAddress} : a.operatorEq a = true := by
  rw [operatorEq]
  split <;> simp

theorem operatorEq_of_isV4 {a b : SocketAddress} (h : a.isV4 = true) : a.operatorEq b = true ↔ a.s_addr = b.s_addr := by
  rw [operatorEq, if_pos h, beq_iff_eq]

end SocketAddress
end Traceroute
