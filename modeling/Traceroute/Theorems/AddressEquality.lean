import Mathlib.Data.Set.Defs
import Traceroute.Wire

/-! When the comparison of addresses is the equality of family and address. Addresses of one family are compared right.
    The bytes of an address of the other family are read in the layout of the left one. -/

namespace Traceroute

namespace SocketAddress

/-! ### The addresses that there are -/

/-- The address is one that a constructor has built: from any `sockaddr_storage` of either family, or from a string. -/
inductive Built : SocketAddress → Prop where
  | storage (a : SocketAddress) (family : a.family = AF_INET ∨ a.family = AF_INET6) : Built a
  | string {resolver : Resolver} {memory : Vector UInt8 128} {address : String} {a : SocketAddress}
      (built : ofString resolver memory address = .ok a) : Built a

variable {a b : SocketAddress} {memory : Vector UInt8 128} {offset width : Nat} {temp : Bytes}

theorem family_store (family : UInt16) : (SocketAddress.mk (store memory family offset width temp)).family = family.toNat := by
  have hbytes : ∀ i < 2, (SocketAddress.mk (store memory family offset width temp)).sockaddrP i = Bytes.ofU16 family i := by
    intro i hi
    have hlt : i < 128 := Nat.lt_trans hi (by decide)
    simp only [sockaddrP, store, Vector.getElem_ofFn, dif_pos hlt, if_pos hi]
  have hfield : (SocketAddress.mk (store memory family offset width temp)).sockaddrP.u16 0 = family :=
    Bytes.u16_eq_iff_ofU16.mpr fun i hi => by rw [Nat.zero_add, hbytes i hi]
  rw [SocketAddress.family, hfield]

theorem Built.family (h : Built a) : a.family = AF_INET ∨ a.family = AF_INET6 := by
  cases h with
  | storage _ family => exact family
  | string built =>
    unfold ofString at built
    split at built
    · cases built
    · split at built
      · split at built
        · cases built
        · obtain rfl := Except.ok.inj built
          exact .inl (family_store 2)
      · split at built
        · split at built
          · cases built
          · obtain rfl := Except.ok.inj built
            exact .inr (family_store 10)
        · cases built

/-! ### Which fields are compared -/

/-- Where an IPv4 address has its address, an IPv6 address has `sin6_flowinfo`. -/
def sin6_flowinfo (a : SocketAddress) : List UInt8 := (List.range 4).map fun i => a.sockaddrP (4 + i)

/-- Where an IPv6 address has its address, an IPv4 address has `sin_zero` and the first bytes behind it. -/
def sin_zero (a : SocketAddress) : List UInt8 := (List.range 16).map fun i => a.sockaddrP (8 + i)

/-- The field of the IPv6 address or the padding of the IPv4 address is the address of the other. -/
def Misreads (a b : SocketAddress) : Prop :=
  a.family = AF_INET ∧ b.family = AF_INET6 ∧ b.sin6_flowinfo = a.in_addr ∨
    a.family = AF_INET6 ∧ b.family = AF_INET ∧ b.sin_zero = a.in6_addr

instance decidableMisreads (a b : SocketAddress) : Decidable (Misreads a b) := inferInstanceAs (Decidable (_ ∨ _))

/-- What an address is, whatever its port and the rest of its bytes are. -/
def SameAddress (a b : SocketAddress) : Prop :=
  a.family = b.family ∧ if a.isV4 then a.in_addr = b.in_addr else a.in6_addr = b.in6_addr

theorem range_map_eq_iff {n : Nat} {f g : Nat → UInt8} : (List.range n).map f = (List.range n).map g ↔ ∀ i < n, f i = g i := by
  simp [List.map_inj_left]

theorem s_addr_eq_iff : a.s_addr = b.s_addr ↔ a.in_addr = b.in_addr := by
  rw [s_addr, s_addr, Bytes.u32_eq_iff, in_addr, in_addr, range_map_eq_iff]

theorem u6_addr32_eq_iff : (∀ i < 4, a.u6_addr32 i = b.u6_addr32 i) ↔ a.in6_addr = b.in6_addr := by
  rw [in6_addr, in6_addr, range_map_eq_iff]
  constructor
  · intro h i hi
    have hword := Bytes.u32_eq_iff.mp (h (i / 4) (by omega)) (i % 4) (Nat.mod_lt i (by decide))
    rwa [Nat.add_assoc, Nat.div_add_mod] at hword
  · intro h i hi
    refine Bytes.u32_eq_iff.mpr fun j hj => ?_
    rw [Nat.add_assoc]
    exact h (4 * i + j) (by omega)

theorem operatorEq_iff : a.operatorEq b = true ↔ if a.isV4 then a.in_addr = b.in_addr else a.in6_addr = b.in6_addr := by
  rw [operatorEq]
  by_cases hV4 : a.isV4 = true
  · rw [if_pos hV4, if_pos hV4, beq_iff_eq, s_addr_eq_iff]
  · rw [if_neg hV4, if_neg hV4, ← u6_addr32_eq_iff, List.all_eq_true]
    simp only [List.mem_range, beq_iff_eq]

theorem isV4_eq_true_iff : a.isV4 = true ↔ a.family = AF_INET := beq_iff_eq

theorem AF_INET_ne_AF_INET6 : AF_INET ≠ AF_INET6 := by decide

/-- Of one family, the comparison is right. -/
theorem operatorEq_iff_of_family (h : a.family = b.family) : a.operatorEq b = true ↔ a.SameAddress b := by
  rw [operatorEq_iff, SameAddress, and_iff_right h]

/-- Of two families, the addresses are equal when one is misread. -/
theorem operatorEq_iff_misreads (ha : a.family = AF_INET ∨ a.family = AF_INET6)
    (hb : b.family = AF_INET ∨ b.family = AF_INET6) (h : a.family ≠ b.family) : a.operatorEq b = true ↔ a.Misreads b := by
  rw [operatorEq_iff, Misreads]
  rcases ha with ha | ha <;> rcases hb with hb | hb
  · exact absurd (ha.trans hb.symm) h
  · have hne : ¬a.family = AF_INET6 := fun h6 => AF_INET_ne_AF_INET6 (ha.symm.trans h6)
    rw [if_pos (isV4_eq_true_iff.mpr ha)]
    constructor
    · intro heq
      exact .inl ⟨ha, hb, heq.symm⟩
    · rintro (⟨-, -, heq⟩ | ⟨h6, -, -⟩)
      · exact heq.symm
      · exact absurd h6 hne
  · have hne : ¬a.family = AF_INET := fun h4 => AF_INET_ne_AF_INET6 (h4.symm.trans ha)
    rw [if_neg (mt isV4_eq_true_iff.mp hne)]
    constructor
    · intro heq
      exact .inr ⟨ha, hb, heq.symm⟩
    · rintro (⟨h4, -, -⟩ | ⟨-, -, heq⟩)
      · exact absurd h4 hne
      · exact heq.symm
  · exact absurd (ha.trans hb.symm) h

theorem Misreads.family_ne (h : a.Misreads b) : a.family ≠ b.family := by
  rcases h with ⟨ha, hb, -⟩ | ⟨ha, hb, -⟩
  · rw [ha, hb]
    exact AF_INET_ne_AF_INET6
  · rw [ha, hb]
    exact AF_INET_ne_AF_INET6.symm

/-- The comparison of two addresses is right exactly when the left one is not misread in the right one. -/
theorem operatorEq_right_iff (ha : a.family = AF_INET ∨ a.family = AF_INET6)
    (hb : b.family = AF_INET ∨ b.family = AF_INET6) :
    (a.operatorEq b = true ↔ a.SameAddress b) ↔ ¬a.Misreads b := by
  by_cases h : a.family = b.family
  · exact iff_of_true (operatorEq_iff_of_family h) fun hmisreads => hmisreads.family_ne h
  · have hsame : ¬a.SameAddress b := fun hsame => h hsame.1
    rw [operatorEq_iff_misreads ha hb h, iff_false_right hsame]

/-! ### An equivalence -/

theorem SameAddress.refl (a : SocketAddress) : a.SameAddress a := ⟨rfl, by split <;> rfl⟩

theorem SameAddress.isV4_eq (h : a.SameAddress b) : a.isV4 = b.isV4 := by rw [isV4, isV4, h.1]

theorem SameAddress.symm (h : a.SameAddress b) : b.SameAddress a := by
  refine ⟨h.1.symm, ?_⟩
  have haddress := h.2
  rw [h.isV4_eq] at haddress
  split at haddress
  · rw [if_pos ‹_›, haddress]
  · rw [if_neg ‹_›, haddress]

theorem SameAddress.trans {c : SocketAddress} (h : a.SameAddress b) (h' : b.SameAddress c) : a.SameAddress c := by
  refine ⟨h.1.trans h'.1, ?_⟩
  have haddress := h.2
  have haddress' := h'.2
  rw [h.isV4_eq] at haddress ⊢
  split at haddress
  · rw [if_pos ‹_›] at haddress' ⊢
    exact haddress.trans haddress'
  · rw [if_neg ‹_›] at haddress' ⊢
    exact haddress.trans haddress'

/-- On these addresses the two operators are an equivalence, the equality of family and address, and its negation. -/
structure AddressEquality (S : Set SocketAddress) : Prop where
  refl : ∀ a ∈ S, a.operatorEq a = true
  symm : ∀ a ∈ S, ∀ b ∈ S, a.operatorEq b = true → b.operatorEq a = true
  trans : ∀ a ∈ S, ∀ b ∈ S, ∀ c ∈ S, a.operatorEq b = true → b.operatorEq c = true → a.operatorEq c = true
  sameAddress : ∀ a ∈ S, ∀ b ∈ S, a.operatorEq b = true ↔ a.SameAddress b
  negation : ∀ a ∈ S, ∀ b ∈ S, a.operatorNe b = true ↔ ¬a.operatorEq b = true

theorem AddressEquality.of_sameAddress {S : Set SocketAddress}
    (h : ∀ a ∈ S, ∀ b ∈ S, a.operatorEq b = true ↔ a.SameAddress b) : AddressEquality S where
  refl a ha := (h a ha a ha).mpr (.refl a)
  symm a ha b hb heq := (h b hb a ha).mpr ((h a ha b hb).mp heq).symm
  trans a ha b hb c hc heq heq' := (h a ha c hc).mpr (((h a ha b hb).mp heq).trans ((h b hb c hc).mp heq'))
  sameAddress := h
  negation a _ b _ := by
    rw [operatorNe, Bool.not_eq_true']
    exact (Bool.not_eq_true _).symm.to_iff

end SocketAddress

/-- The comparison is the equivalence exactly where no address is misread in another. -/
theorem address_equality_iff (S : Set SocketAddress) (hS : ∀ a ∈ S, a.Built) :
    SocketAddress.AddressEquality S ↔ ∀ a ∈ S, ∀ b ∈ S, ¬a.Misreads b := by
  constructor
  · intro h a ha b hb
    exact (SocketAddress.operatorEq_right_iff (hS a ha).family (hS b hb).family).mp (h.sameAddress a ha b hb)
  · intro h
    refine .of_sameAddress fun a ha b hb => ?_
    exact (SocketAddress.operatorEq_right_iff (hS a ha).family (hS b hb).family).mpr (h a ha b hb)

/-- An IPv4 address in memory that held zeros. -/
def ipv4Address (a b c d : UInt8) : SocketAddress := .ofBytes [2, 0, 0, 0, a, b, c, d]

/-- The IPv6 address whose first 15 bytes are zero, without flow information. -/
def ipv6Address (x : UInt8) : SocketAddress :=
  .ofBytes [10, 0, 0, 0, 0, 0, 0, 0, 0, 0, 0, 0, 0, 0, 0, 0, 0, 0, 0, 0, 0, 0, 0, x]

theorem SocketAddress.family_ofBytes (x y : UInt8) (l : List UInt8) :
    (SocketAddress.ofBytes (x :: y :: l)).family = x.toNat + 256 * y.toNat := by
  rw [SocketAddress.family, Bytes.toNat_u16]
  simp [SocketAddress.sockaddrP, SocketAddress.ofBytes]

theorem built_ipv4Address (a b c d : UInt8) : (ipv4Address a b c d).Built :=
  .storage _ (.inl (SocketAddress.family_ofBytes 2 0 _))

theorem built_ipv6Address (x : UInt8) : (ipv6Address x).Built := .storage _ (.inr (SocketAddress.family_ofBytes 10 0 _))

/-- 127.0.0.1 and ::1 -/
theorem address_equality_iff_loopback :
    SocketAddress.AddressEquality {a | a = ipv4Address 127 0 0 1 ∨ a = ipv6Address 1} := by
  refine (address_equality_iff _ ?_).mpr ?_
  · rintro a (rfl | rfl)
    · exact built_ipv4Address 127 0 0 1
    · exact built_ipv6Address 1
  · rintro a (rfl | rfl) b (rfl | rfl) <;> decide

/-- 0.0.0.0 is equal to ::1, but ::1 not to 0.0.0.0; and :: is equal to 0.0.0.0, but not to ::1. -/
theorem unspecified_not_equality :
    (ipv4Address 0 0 0 0).operatorEq (ipv6Address 1) = true ∧ (ipv6Address 1).operatorEq (ipv4Address 0 0 0 0) = false ∧
    (ipv6Address 0).operatorEq (ipv4Address 0 0 0 0) = true ∧ (ipv6Address 0).operatorEq (ipv6Address 1) = false ∧
    ¬SocketAddress.AddressEquality {a | a.Built} := by
  refine ⟨by decide, by decide, by decide, by decide, fun h => ?_⟩
  have hsymm := h.symm _ (built_ipv4Address 0 0 0 0) _ (built_ipv6Address 1) (by decide)
  exact absurd hsymm (by decide)

end Traceroute
