import Traceroute.Theorems.Descriptors
import Traceroute.Theorems.Serialized

/-! What `resolveSourceAddress` returns when every system call succeeds: the bytes of the local address that
    `getsockname` has copied, as many as `len` happened to allow, and what the stack held behind them. -/

namespace Traceroute

variable {kernel : Kernel} {w : World} {memory : Vector UInt8 128} {len : UInt32} {a b localAddress : SocketAddress}

theorem SocketAddress.sockaddrP_eq {i : Nat} (hi : i < 128) : a.sockaddrP i = a.mAddress[i] := dif_pos hi

theorem SocketAddress.size_le : a.size.toNat ≤ 28 ∧ 16 ≤ a.size.toNat := by
  rw [SocketAddress.size]
  split <;> decide

/-- The bytes that the kernel's copy reaches are the local address's, the others are as they were. -/
theorem sockaddrP_copied {i : Nat} (hi : i < 128) : (SocketAddress.mk (Kernel.copied localAddress memory len)).sockaddrP i =
    if i < min len.toNat localAddress.size.toNat then localAddress.sockaddrP i else (SocketAddress.mk memory).sockaddrP i := by
  rw [SocketAddress.sockaddrP_eq hi, SocketAddress.sockaddrP_eq hi, SocketAddress.sockaddrP_eq hi, Kernel.copied,
    Vector.getElem_ofFn]
  rfl

/-- The address holds all bytes of the local one. -/
def InFull (localAddress a : SocketAddress) : Prop :=
  ∀ i < localAddress.size.toNat, a.sockaddrP i = localAddress.sockaddrP i

theorem InFull.family (h : InFull localAddress a) : a.family = localAddress.family := by
  have hsize := (@SocketAddress.size_le localAddress).2
  have hfield : a.sockaddrP.u16 0 = localAddress.sockaddrP.u16 0 := Bytes.u16_eq_iff.mpr fun i hi => by
    rw [Nat.zero_add]
    exact h i (by omega)
  rw [SocketAddress.family, SocketAddress.family, hfield]

theorem inFull_copied_iff : InFull localAddress (SocketAddress.mk (Kernel.copied localAddress memory len)) ↔
    ∀ i, len.toNat ≤ i → i < localAddress.size.toNat → (SocketAddress.mk memory).sockaddrP i = localAddress.sockaddrP i := by
  have hsize := (@SocketAddress.size_le localAddress).1
  constructor
  · intro h i hlen hi
    have hbyte := h i hi
    rwa [sockaddrP_copied (by omega), if_neg (by omega)] at hbyte
  · intro h i hi
    rw [sockaddrP_copied (by omega)]
    split
    · rfl
    · exact h i (by omega) hi

/-- The address that `getsockname` has when the interface is bound, or none is named. -/
def localAddressOf (kernel : Kernel) (w : World) (ifaceName : Option String) : SocketAddress :=
  kernel.localAddress (w.calls.length + 1 + interfaceCalls ifaceName + 1)

/-- When every call succeeds, the source address is the kernel's copy over the stack. -/
theorem resolveSourceAddress_ok (memory : Vector UInt8 128) (len : UInt32) (destination : SocketAddress)
    (ifaceName : Option String)
    (hcalls : ∀ i < interfaceCalls ifaceName + 3, kernel.outcome (w.calls.length + i) = none) :
    ∃ w', resolveSourceAddress kernel memory len destination ifaceName w =
      (.ok ⟨Kernel.copied (localAddressOf kernel w ifaceName) memory len⟩, w') := by
  obtain ⟨w₁, hsocket, hfd₁, hlength₁⟩ := @Kernel.socket_ok kernel w destination.family IPPROTO_UDP SOCK_DGRAM
    (hcalls 0 (by omega))
  have hopen : kernel.newDescriptor w.descriptors ∈ w₁.descriptors := hfd₁ ▸ List.mem_cons_self
  have hgrants : ∀ i < interfaceCalls ifaceName + 2, kernel.Grants (kernel.newDescriptor w.descriptors) w₁ i := by
    intro i hi
    refine ⟨hopen, ?_⟩
    rw [hlength₁, Nat.add_assoc]
    exact hcalls (1 + i) (by omega)
  have hbind := @bindNamedInterface_attempts kernel (kernel.newDescriptor w.descriptors) ifaceName
  obtain ⟨u, w₂, hinterface⟩ := hbind.done w₁ fun i hi => hgrants i (by omega)
  obtain ⟨hfd₂, hlength₂⟩ := hbind.stays w₁ u w₂ hinterface
  have hgrants₂ : ∀ i < 2, kernel.Grants (kernel.newDescriptor w.descriptors) w₂ i := fun i hi =>
    (Kernel.Grants.shift hfd₂ hlength₂).mpr (hgrants _ (Nat.add_lt_add_left hi _))
  let call := SystemCall.connect (kernel.newDescriptor w.descriptors) destination destination.size
  have hconnect := Kernel.onDescriptor_true call (hgrants₂ 0 (by decide))
  have hname := Kernel.getsockname_some memory len ((Kernel.grants_next call).mpr (hgrants₂ (1 + 0) (by decide)))
  have hindex : (w₂.calls ++ [call]).length = w.calls.length + 1 + interfaceCalls ifaceName + 1 := by
    rw [List.length_append, List.length_singleton, hlength₂, hlength₁]
  rw [hindex] at hname
  exact ⟨_, (Sys.bind_ok hsocket).trans ((Sys.bind_ok hinterface).trans ((Sys.bind_ok hconnect).trans
    (Sys.bind_ok hname)))⟩

/-- The source address is the local address in full, it has the destination's family, and no probe between the two
    throws when it is built. -/
structure Usable (localAddress destination source : SocketAddress) : Prop where
  inFull : InFull localAddress source
  family : source.family = destination.family
  icmp4 : ∀ memory rand, ∃ packet, IcmpPacket.CreateIcmp4Packet memory rand source destination = .ok packet
  icmp6 : ∀ memory rand, ∃ packet, IcmpPacket.CreateIcmp6Packet memory rand source destination = .ok packet
  tcp : ∀ memory rand₁ rand₂ dport, ∃ packet, TcpPacket.create memory rand₁ rand₂ source destination dport = .ok packet
  udp : ∀ memory rand dport, ∃ packet, UdpPacket.create memory rand source destination dport = .ok packet

theorem Usable.of_inFull {destination source : SocketAddress} (hfamily : localAddress.family = destination.family)
    (h : InFull localAddress source) : Usable localAddress destination source := by
  have hsource : source.family = destination.family := h.family.trans hfamily
  have hbase := PacketBase.create_of_family hsource.symm
  refine ⟨h, hsource, fun memory rand => ?_, fun memory rand => ?_, fun memory rand₁ rand₂ dport => ?_,
    fun memory rand dport => ?_⟩
  · rw [IcmpPacket.CreateIcmp4Packet, hbase]
    exact ⟨_, rfl⟩
  · rw [IcmpPacket.CreateIcmp6Packet, hbase]
    exact ⟨_, rfl⟩
  · obtain ⟨check, hcreate⟩ := TcpPacket.create_eq hbase memory rand₁ rand₂ dport
    exact ⟨_, hcreate⟩
  · obtain ⟨check, hcreate⟩ := UdpPacket.create_eq hbase memory rand dport
    exact ⟨_, hcreate⟩

/-- When every system call succeeds, the source address can be used exactly when the stack already held what of the
    local address `getsockname` was not allowed to copy. -/
theorem source_address_usable_iff (kernel : Kernel) (w : World) (memory : Vector UInt8 128) (len : UInt32)
    (destination : SocketAddress) (ifaceName : Option String)
    (hcalls : ∀ i < interfaceCalls ifaceName + 3, kernel.outcome (w.calls.length + i) = none)
    (hfamily : (localAddressOf kernel w ifaceName).family = destination.family) :
    ∃ source w', resolveSourceAddress kernel memory len destination ifaceName w = (.ok source, w') ∧
      (Usable (localAddressOf kernel w ifaceName) destination source ↔
        ∀ i, len.toNat ≤ i → i < (localAddressOf kernel w ifaceName).size.toNat →
          (SocketAddress.mk memory).sockaddrP i = (localAddressOf kernel w ifaceName).sockaddrP i) := by
  obtain ⟨w', hrun⟩ := resolveSourceAddress_ok memory len destination ifaceName hcalls
  refine ⟨_, w', hrun, Iff.trans ?_ inFull_copied_iff⟩
  exact ⟨Usable.inFull, Usable.of_inFull hfamily⟩

/-- A length of 128, the size of the storage. -/
theorem source_address_usable_iff_resolver : ∃ source w',
    resolveSourceAddress (someKernel fun _ => none) (.replicate 128 0) 128 resolver none someWorld = (.ok source, w') ∧
      Usable privateHost resolver source := by
  obtain ⟨source, w', hrun, hiff⟩ := source_address_usable_iff (someKernel fun _ => none) someWorld (.replicate 128 0) 128
    resolver none (fun _ _ => rfl) (by decide)
  have hsize : (localAddressOf (someKernel fun _ => none) someWorld none).size.toNat = 16 := by decide
  refine ⟨source, w', hrun, hiff.mpr fun i hlen hi => ?_⟩
  rw [hsize] at hi
  exact absurd (Nat.le_trans hlen (Nat.le_of_lt hi)) (by decide)

/-- A length of 0 and zeros on the stack: an address without a family, between which and the destination no probe can be
    built. -/
theorem source_address_not_copied : ∃ source w',
    resolveSourceAddress (someKernel fun _ => none) (.replicate 128 0) 0 resolver none someWorld = (.ok source, w') ∧
      source.family = 0 ∧ ¬Usable privateHost resolver source ∧
      UdpPacket.create ⟨0, 0, 0, 0⟩ 0 source resolver 53 =
        .error (.runtime_error "source address family doesnt match destination") := by
  obtain ⟨w', hrun⟩ := @resolveSourceAddress_ok (someKernel fun _ => none) someWorld (.replicate 128 0) 0 resolver none
    (fun _ _ => rfl)
  have hfamily : (SocketAddress.mk (Kernel.copied (localAddressOf (someKernel fun _ => none) someWorld none)
      (.replicate 128 0) 0)).family = 0 := by decide
  refine ⟨_, w', hrun, hfamily, fun husable => ?_, ?_⟩
  · have hsame := husable.family
    rw [hfamily] at hsame
    exact absurd hsame (by decide)
  · have hne : ¬resolver.family = 0 := by decide
    rw [UdpPacket.create, PacketBase.create, dif_neg (by rwa [hfamily])]
    rfl

end Traceroute
