import Traceroute.Packets
import Traceroute.Wire

/-! What the checksum calculator computes: it sums the words in host byte order, and the complement of the folded sum
    is what a receiver, who sums them in network byte order, needs. -/

namespace Traceroute

open OnesComplement (Folds)

/-- The sum of the 16-bit words of the bytes, as a little-endian host reads them. -/
def hostSum (l : List UInt8) : Nat := (OnesComplement.littleEndian 256 (l.map UInt8.toNat)).sum

theorem hostSum_cons_cons (x y : UInt8) (l : List UInt8) :
    hostSum (x :: y :: l) = x.toNat + 256 * y.toNat + hostSum l := rfl

@[simp] theorem hostSum_nil : hostSum [] = 0 := rfl

theorem hostSum_le : ∀ l : List UInt8, hostSum l ≤ 65535 * l.length
  | [] => Nat.le_refl 0
  | [x] => by
    have hx := x.toNat_lt
    rw [show hostSum [x] = x.toNat from rfl, List.length_singleton]
    omega
  | x :: y :: l => by
    have hl := hostSum_le l
    have hx := x.toNat_lt
    have hy := y.toNat_lt
    rw [hostSum_cons_cons, List.length_cons, List.length_cons]
    omega

theorem toNat_lt_of_mem {l : List UInt8} : ∀ x ∈ l.map UInt8.toNat, x < 256 := by
  intro x hx
  obtain ⟨y, -, rfl⟩ := List.mem_map.mp hx
  exact y.toNat_lt

theorem hostSum_append {l k : List UInt8} (h : l.length % 2 = 0) : hostSum (l ++ k) = hostSum l + hostSum k := by
  rw [hostSum, List.map_append, OnesComplement.littleEndian_append (by rwa [List.length_map]), List.sum_append]
  rfl

theorem Wire.words_append {l k : List UInt8} (h : l.length % 2 = 0) : Wire.words (l ++ k) = Wire.words l ++ Wire.words k := by
  rw [Wire.words, List.map_append, OnesComplement.bigEndian_append (by rwa [List.length_map])]
  rfl

/-- The order of the bytes in the words makes no difference. -/
theorem Wire.verifies_iff {l : List UInt8} : Wire.Verifies l ↔ hostSum l ≠ 0 ∧ 65535 ∣ hostSum l :=
  OnesComplement.sum_bigEndian_eq_max_iff (by decide) toNat_lt_of_mem

theorem Wire.words_modEq_iff {l k : List UInt8} :
    (Wire.words l).sum ≡ (Wire.words k).sum [MOD 65535] ↔ hostSum l ≡ hostSum k [MOD 65535] :=
  OnesComplement.bigEndian_modEq_iff (by decide)

theorem Wire.dvd_words_iff {l : List UInt8} : 65535 ∣ (Wire.words l).sum ↔ 65535 ∣ hostSum l := by
  rw [← Nat.modEq_zero_iff_dvd, ← Nat.modEq_zero_iff_dvd]
  exact Wire.words_modEq_iff (k := [])

/-! ### The loops -/

namespace ChecksumCalculator

theorem toNat_lowByte (p : Bytes) : ((p.u16 0) &&& htons 0xFF00).toNat = (p 0).toNat := by
  have hand : ((p.u16 0) &&& htons 0xFF00).toNat = (p.u16 0).toNat % 256 := by
    rw [UInt16.toNat_and]
    exact Nat.and_two_pow_sub_one_eq_mod _ 8
  have hlt := (p 0).toNat_lt
  rw [hand, Bytes.toNat_u16]
  omega

theorem serialize_advance (p : Bytes) (size : Nat) :
    (List.range (size + 2)).map p = p 0 :: p 1 :: (List.range size).map (p.advance 2) := by
  rw [List.range_succ_eq_map, List.range_succ_eq_map]
  simp [Function.comp_def, Bytes.advance, Nat.add_comm 2]

theorem hostSum_range_add_two (p : Bytes) (size : Nat) : hostSum ((List.range (size + 2)).map p) =
    (p.u16 0).toNat + hostSum ((List.range size).map (p.advance 2)) := by
  rw [serialize_advance, Bytes.toNat_u16]
  rfl

/-- The word loop adds the words to the sum. -/
theorem sumWords_toNat (p : Bytes) (size : Nat) (sum : UInt64) :
    (sumWords p size sum).toNat = (sum.toNat + hostSum ((List.range size).map p)) % 2 ^ 64 := by
  fun_induction sumWords p size sum with
  | case1 p sum => exact (Nat.mod_eq_of_lt sum.toNat_lt).symm
  | case2 p sum =>
    rw [UInt64.toNat_add, UInt16.toNat_toUInt64, toNat_lowByte]
    rfl
  | case3 p size sum ih =>
    rw [ih, UInt64.toNat_add, UInt16.toNat_toUInt64, hostSum_range_add_two, ← Nat.add_assoc, Nat.mod_add_mod]

/-- The fold loop ends in the word that stands for the sum. -/
theorem fold_folds (sum : UInt64) : Folds 65536 sum.toNat (fold sum).toNat := by
  fun_induction fold sum with
  | case1 sum h =>
    refine .self ?_
    have hdiv := congrArg UInt64.toNat h
    rw [toNat_high] at hdiv
    exact Nat.lt_of_div_eq_zero (by decide) hdiv
  | case2 sum h ih =>
    rw [toNat_low_add_high] at ih
    exact ih.of_carry

/-- The 64-bit complement, cut to 16 bits, is the complement of the folded sum. -/
theorem toNat_complement {x : UInt64} (h : x.toNat < 65536) : (~~~x).toUInt16.toNat = 65535 - x.toNat := by
  rw [UInt64.toNat_toUInt16, UInt64.toNat_not, UInt64.size]
  omega

/-- What `computeChecksum` returns, when no addition overflows. -/
theorem computeChecksum_folds (p : Bytes) (size : UInt32) (prevSum : UInt64)
    (h : prevSum.toNat + hostSum ((List.range size.toNat).map p) < 2 ^ 64) :
    ∃ r, Folds 65536 (prevSum.toNat + hostSum ((List.range size.toNat).map p)) r ∧
      (computeChecksum p size prevSum).toUInt16.toNat = 65535 - r := by
  have hfolds := fold_folds (sumWords p size.toNat prevSum)
  have hsum := sumWords_toNat p size.toNat prevSum
  rw [Nat.mod_eq_of_lt (b := 2 ^ 64) h] at hsum
  refine ⟨_, hsum ▸ hfolds, ?_⟩
  rw [computeChecksum, toNat_complement hfolds.lt]

theorem toNat_add_of_lt {a b : UInt64} (h : a.toNat + b.toNat < 2 ^ 64) : (a + b).toNat = a.toNat + b.toNat :=
  (UInt64.toNat_add a b).trans (Nat.mod_eq_of_lt h)

/-- The two halves of a 32-bit word of an address are the words that a receiver reads there. -/
theorem addHalves_toNat {sum : UInt64} {x : UInt32} (h : sum.toNat + 131070 < 2 ^ 64) :
    (addHalves sum x).toNat = sum.toNat + (x.toNat / 65536 + x.toNat % 65536) := by
  have hx := x.toNat_lt
  have hhigh : ((x >>> 16) &&& 0xFFFF).toNat = x.toNat / 65536 := by
    rw [UInt32.toNat_and, UInt32.toNat_shiftRight]
    refine (Nat.and_two_pow_sub_one_eq_mod _ 16).trans ?_
    rw [Nat.shiftRight_eq_div_pow]
    exact Nat.mod_eq_of_lt (Nat.div_lt_of_lt_mul hx)
  have hlow : (x &&& 0xFFFF).toNat = x.toNat % 65536 := by
    rw [UInt32.toNat_and]
    exact Nat.and_two_pow_sub_one_eq_mod _ 16
  have hfirst : (sum + ((x >>> 16) &&& 0xFFFF).toUInt64).toNat = sum.toNat + x.toNat / 65536 := by
    rw [toNat_add_of_lt, UInt32.toNat_toUInt64, hhigh]
    rw [UInt32.toNat_toUInt64, hhigh]
    omega
  rw [addHalves, toNat_add_of_lt, hfirst, UInt32.toNat_toUInt64, hlow, Nat.add_assoc]
  rw [hfirst, UInt32.toNat_toUInt64, hlow]
  omega

/-- The bytes of a 32-bit word. -/
theorem hostSum_u32 (p : Bytes) (o : Nat) :
    hostSum [p o, p (o + 1), p (o + 2), p (o + 3)] = (p.u32 o).toNat / 65536 + (p.u32 o).toNat % 65536 := by
  have h0 := (p o).toNat_lt
  have h1 := (p (o + 1)).toNat_lt
  have h2 := (p (o + 2)).toNat_lt
  have h3 := (p (o + 3)).toNat_lt
  have hsum : hostSum [p o, p (o + 1), p (o + 2), p (o + 3)] =
      (p o).toNat + 256 * (p (o + 1)).toNat + ((p (o + 2)).toNat + 256 * (p (o + 3)).toNat + 0) := rfl
  rw [hsum, Bytes.toNat_u32]
  omega

theorem hostSum_in_addr (a : SocketAddress) : hostSum a.in_addr = a.s_addr.toNat / 65536 + a.s_addr.toNat % 65536 := by
  have hbytes : a.in_addr = [a.sockaddrP 4, a.sockaddrP (4 + 1), a.sockaddrP (4 + 2), a.sockaddrP (4 + 3)] := rfl
  rw [hbytes, hostSum_u32, SocketAddress.s_addr]

/-- The loop over the 32-bit words of an address. -/
theorem foldl_addHalves (p : Bytes) (o : Nat) (l : List Nat) {sum : UInt64} (h : sum.toNat + l.length * 262140 < 2 ^ 64) :
    (l.foldl (fun sum i => addHalves sum (p.u32 (o + 4 * i))) sum).toNat = sum.toNat +
      (l.map fun i => hostSum [p (o + 4 * i), p (o + 4 * i + 1), p (o + 4 * i + 2), p (o + 4 * i + 3)]).sum := by
  induction l generalizing sum with
  | nil => rfl
  | cons i l ih =>
    have hword : hostSum [p (o + 4 * i), p (o + 4 * i + 1), p (o + 4 * i + 2), p (o + 4 * i + 3)] ≤ 262140 :=
      hostSum_le _
    rw [List.length_cons] at h
    have hlt : sum.toNat + 131070 < 2 ^ 64 := by omega
    have hadd : (addHalves sum (p.u32 (o + 4 * i))).toNat = sum.toNat +
        hostSum [p (o + 4 * i), p (o + 4 * i + 1), p (o + 4 * i + 2), p (o + 4 * i + 3)] := by
      rw [addHalves_toNat hlt, hostSum_u32]
    rw [List.foldl_cons, ih (by omega), hadd, List.map_cons, List.sum_cons, Nat.add_assoc]

theorem hostSum_in6_addr (a : SocketAddress) : hostSum a.in6_addr = ((List.range 4).map fun i =>
    hostSum [a.sockaddrP (8 + 4 * i), a.sockaddrP (8 + 4 * i + 1), a.sockaddrP (8 + 4 * i + 2),
      a.sockaddrP (8 + 4 * i + 3)]).sum := by
  simp [SocketAddress.in6_addr, List.range_succ, hostSum_cons_cons, Nat.add_assoc]

theorem addAddress6_toNat {sum : UInt64} (a : SocketAddress) (h : sum.toNat + 4 * 262140 < 2 ^ 64) :
    ((List.range 4).foldl (fun sum i => addHalves sum (a.u6_addr32 i)) sum).toNat = sum.toNat + hostSum a.in6_addr := by
  rw [hostSum_in6_addr]
  exact foldl_addHalves a.sockaddrP 8 (List.range 4) h

theorem hostSum_u16 (x : UInt16) : hostSum [Bytes.ofU16 x 0, Bytes.ofU16 x 1] = x.toNat := by
  have h := Bytes.toNat_u16 (p := Bytes.ofU16 x) (a := 0)
  rw [Bytes.u16_ofU16] at h
  rw [h]
  rfl

/-- The words of the addresses that the calculator adds. The IPv6 branch reads the source address twice. -/
def addressSum (source destination : SocketAddress) : Nat :=
  if source.isV4 then hostSum source.in_addr + hostSum destination.in_addr
  else hostSum source.in6_addr + hostSum source.in6_addr

theorem addressSum_le (source destination : SocketAddress) : addressSum source destination ≤ 2097120 := by
  have hs : hostSum source.in_addr ≤ 262140 := hostSum_le _
  have hd : hostSum destination.in_addr ≤ 262140 := hostSum_le _
  have hs6 : hostSum source.in6_addr ≤ 1048560 := hostSum_le _
  rw [addressSum]
  split <;> omega

theorem computePseudoheaderChecksum_toNat (protocol headerlen : UInt16) (source destination : SocketAddress) :
    (computePseudoheaderChecksum protocol headerlen source destination).toNat =
      addressSum source destination + (htons protocol).toNat + (htons headerlen).toNat := by
  have hprotocol := (htons protocol).toNat_lt
  have hheaderlen := (htons headerlen).toNat_lt
  have hle := addressSum_le source destination
  have haddresses : (if source.isV4 then addHalves (addHalves 0 source.s_addr) destination.s_addr
      else (List.range 4).foldl (fun sum i => addHalves sum (source.u6_addr32 i))
        ((List.range 4).foldl (fun sum i => addHalves sum (source.u6_addr32 i)) 0)).toNat =
      addressSum source destination := by
    rw [addressSum]
    split
    · have hsource : (addHalves 0 source.s_addr).toNat = hostSum source.in_addr := by
        rw [addHalves_toNat (by decide), hostSum_in_addr]
        exact Nat.zero_add _
      have hbound : hostSum source.in_addr ≤ 262140 := hostSum_le _
      have hlt : (addHalves 0 source.s_addr).toNat + 131070 < 2 ^ 64 := by
        rw [hsource]
        omega
      rw [addHalves_toNat hlt, hsource, ← hostSum_in_addr]
    · have hsource : ((List.range 4).foldl (fun sum i => addHalves sum (source.u6_addr32 i)) 0).toNat =
          hostSum source.in6_addr := by
        rw [addAddress6_toNat source (by decide)]
        exact Nat.zero_add _
      have hbound : hostSum source.in6_addr ≤ 1048560 := hostSum_le _
      rw [addAddress6_toNat source, hsource]
      rw [hsource]
      omega
  rw [computePseudoheaderChecksum, toNat_add_of_lt, toNat_add_of_lt, haddresses, UInt16.toNat_toUInt64,
    UInt16.toNat_toUInt64]
  · rw [haddresses, UInt16.toNat_toUInt64]
    omega
  · rw [toNat_add_of_lt, haddresses, UInt16.toNat_toUInt64, UInt16.toNat_toUInt64]
    · omega
    · rw [haddresses, UInt16.toNat_toUInt64]
      omega

/-- What the calculator returns for a header, with the pseudo-header that it adds. -/
theorem computeChecksum_header (pod : Bytes) (size : UInt64) (hsize : size.toNat < 65536) (protocol headerlen : UInt16)
    (source destination : SocketAddress) :
    ∃ r, Folds 65536 (addressSum source destination + (htons protocol).toNat + (htons headerlen).toNat +
        hostSum (utils.serialize pod size)) r ∧
      (computeChecksum pod size.toUInt32 (computePseudoheaderChecksum protocol headerlen source destination)).toUInt16.toNat =
        65535 - r := by
  have hprotocol := (htons protocol).toNat_lt
  have hheaderlen := (htons headerlen).toNat_lt
  have hle := addressSum_le source destination
  have hsum := computePseudoheaderChecksum_toNat protocol headerlen source destination
  have hrange : size.toUInt32.toNat = size.toNat := by
    rw [UInt64.toNat_toUInt32, Nat.mod_eq_of_lt (Nat.lt_trans hsize (by decide))]
  have hbytes : hostSum ((List.range size.toNat).map pod) ≤ 65535 * 65535 := by
    refine (hostSum_le _).trans (Nat.mul_le_mul_left _ ?_)
    rw [List.length_map, List.length_range]
    omega
  have h := computeChecksum_folds pod size.toUInt32 (computePseudoheaderChecksum protocol headerlen source destination) (by
    rw [hsum, hrange]
    omega)
  rwa [hsum, hrange] at h


end ChecksumCalculator

/-! ### The field in the header -/

theorem IcmpHeader.hostSum_checksum (header : IcmpHeader) :
    hostSum (utils.serialize header.toBytes IcmpHeader.size) =
      hostSum (utils.serialize { header with checksum := 0 }.toBytes IcmpHeader.size) + header.checksum.toNat := by
  have hfield := ChecksumCalculator.hostSum_u16 header.checksum
  simp [utils.serialize, IcmpHeader.size, List.range_succ, hostSum_cons_cons, IcmpHeader.toBytes, Bytes.ofU16] at hfield ⊢
  omega

theorem TcpHeader.hostSum_check (header : TcpHeader) :
    hostSum (utils.serialize header.toBytes TcpHeader.size) =
      hostSum (utils.serialize { header with check := 0 }.toBytes TcpHeader.size) + header.check.toNat := by
  have hfield := ChecksumCalculator.hostSum_u16 header.check
  simp [utils.serialize, TcpHeader.size, List.range_succ, hostSum_cons_cons, TcpHeader.toBytes, Bytes.ofU16] at hfield ⊢
  omega

theorem UdpHeader.hostSum_check (header : UdpHeader) :
    hostSum (utils.serialize header.toBytes UdpHeader.size) =
      hostSum (utils.serialize { header with check := 0 }.toBytes UdpHeader.size) + header.check.toNat := by
  have hfield := ChecksumCalculator.hostSum_u16 header.check
  simp [utils.serialize, UdpHeader.size, List.range_succ, hostSum_cons_cons, UdpHeader.toBytes, Bytes.ofU16] at hfield ⊢
  omega

end Traceroute
