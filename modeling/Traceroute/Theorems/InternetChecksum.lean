import Traceroute.Theorems.Checksum

/-! `computeChecksum` of any buffer: its loops end, no addition of theirs overflows, and what it returns is the
    complement of the end-around-carry sum of the words. -/

namespace Traceroute
namespace ChecksumCalculator

open OnesComplement (Folds)

/-- The 16-bit words of a buffer of so many bytes, as a little-endian host reads them. A trailing odd byte is a word
    with a zero byte after it. -/
def hostWords (addr : Bytes) (size : Nat) : List Nat :=
  OnesComplement.littleEndian 256 ((List.range size).map fun i => (addr i).toNat)

/-! ### The loops with checked additions -/

/-- Fails where the addition wraps around. -/
def checkedAdd (a b : UInt64) : Option UInt64 := if a.toNat + b.toNat < 2 ^ 64 then some (a + b) else none

def checkedSumWords (addr : Bytes) : Nat → UInt64 → Option UInt64
  | 0, sum => some sum
  | 1, sum => checkedAdd sum ((addr.u16 0) &&& htons 0xFF00).toUInt64
  | size + 2, sum => do
    let sum ← checkedAdd sum (addr.u16 0).toUInt64
    checkedSumWords (addr.advance 2) size sum

/-- Fails also where the loop has not ended after so many rounds. -/
def checkedFold (rounds : Nat) (sum : UInt64) : Option UInt64 :=
  if sum >>> 16 = 0 then some sum else
    match rounds with
    | 0 => none
    | rounds + 1 => do
      let sum ← checkedAdd (sum &&& (0xffff : UInt64)) (sum >>> 16)
      checkedFold rounds sum

def checkedComputeChecksum (rounds : Nat) (addr : Bytes) (size : UInt32) (prevSum : UInt64) : Option UInt64 := do
  let sum ← checkedSumWords addr size.toNat prevSum
  let sum ← checkedFold rounds sum
  return ~~~sum

variable {addr addr' : Bytes} {size : Nat} {a b sum prevSum : UInt64}

theorem checkedAdd_of_lt (h : a.toNat + b.toNat < 2 ^ 64) : checkedAdd a b = some (a + b) := if_pos h

theorem checkedSumWords_eq (h : sum.toNat + hostSum ((List.range size).map addr) < 2 ^ 64) :
    checkedSumWords addr size sum = some (sumWords addr size sum) := by
  fun_induction sumWords addr size sum with
  | case1 addr sum => rfl
  | case2 addr sum =>
    refine checkedAdd_of_lt ?_
    rw [UInt16.toNat_toUInt64, toNat_lowByte]
    exact h
  | case3 addr size sum ih =>
    rw [hostSum_range_add_two, ← Nat.add_assoc] at h
    have hadd : sum.toNat + (addr.u16 0).toUInt64.toNat < 2 ^ 64 := by
      rw [UInt16.toNat_toUInt64]
      omega
    rw [checkedSumWords, checkedAdd_of_lt hadd]
    refine ih ?_
    rwa [toNat_add_of_lt hadd, UInt16.toNat_toUInt64]

/-- Each round makes the sum smaller, so the loop ends; and the sum of the two parts is far from 2^64. -/
theorem exists_checkedFold (sum : UInt64) : ∃ rounds, checkedFold rounds sum = some (fold sum) := by
  fun_induction fold sum with
  | case1 sum h => exact ⟨0, if_pos h⟩
  | case2 sum h ih =>
    obtain ⟨rounds, hrounds⟩ := ih
    refine ⟨rounds + 1, ?_⟩
    have hadd : (sum &&& (0xffff : UInt64)).toNat + (sum >>> 16).toNat < 2 ^ 64 := by
      have hlt := sum.toNat_lt
      rw [toNat_low, toNat_high]
      omega
    rw [checkedFold, if_neg h]
    simp only [checkedAdd_of_lt hadd]
    exact hrounds

/-! ### The words of a buffer -/

theorem sum_hostWords (addr : Bytes) (size : Nat) : (hostWords addr size).sum = hostSum ((List.range size).map addr) := by
  rw [hostSum, List.map_map]
  rfl

theorem hostWords_lt : ∀ w ∈ hostWords addr size, w < 65536 := by
  refine OnesComplement.littleEndian_lt (b := 256) fun x hx => ?_
  obtain ⟨i, -, rfl⟩ := List.mem_map.mp hx
  exact (addr i).toNat_lt

theorem sumWords_congr (h : ∀ i < size, addr' i = addr i) (sum : UInt64) :
    sumWords addr' size sum = sumWords addr size sum := by
  have hbytes : (List.range size).map addr' = (List.range size).map addr :=
    List.map_congr_left fun i hi => h i (List.mem_range.mp hi)
  rw [← UInt64.toNat_inj, sumWords_toNat, sumWords_toNat, hbytes]

/-- The words of the rest are added to the sum of the words before it. -/
theorem sumWords_split {k : Nat} (hk : k ≤ size) (heven : k % 2 = 0) (sum : UInt64) :
    sumWords (addr.advance k) (size - k) (.ofNat (sum.toNat + (hostWords addr k).sum)) = sumWords addr size sum := by
  have hbytes : (List.range size).map addr =
      (List.range k).map addr ++ (List.range (size - k)).map (addr.advance k) := by
    conv_lhs => rw [← Nat.add_sub_cancel' hk, List.range_add, List.map_append, List.map_map]
    rfl
  rw [← UInt64.toNat_inj, sumWords_toNat, sumWords_toNat, hbytes, hostSum_append (by simpa using heven),
    sum_hostWords, UInt64.toNat_ofNat', Nat.mod_add_mod, Nat.add_assoc]

/-! ### The checksum -/

/-- What RFC 1071 says of the checksum of a buffer. `prevSum`, the unfolded sum of what comes before the buffer, counts
    as the 16-bit words that it is made of. -/
structure IsInternetChecksum (addr : Bytes) (size : UInt32) (prevSum : UInt64) : Prop where
  /-- The loops end without an overflow. -/
  returns : ∃ rounds, checkedComputeChecksum rounds addr size prevSum = some (computeChecksum addr size prevSum)
  complement : (computeChecksum addr size prevSum).toUInt16 =
    ~~~UInt16.ofNat (OnesComplement.sum 65536 (Nat.digits 65536 prevSum.toNat ++ hostWords addr size.toNat))
  /-- What is in memory after the buffer makes no difference. -/
  buffer : ∀ addr' : Bytes, (∀ i < size.toNat, addr' i = addr i) →
    computeChecksum addr' size prevSum = computeChecksum addr size prevSum
  /-- The words at the start of the buffer can be summed before. -/
  split : ∀ k ≤ size, k.toNat % 2 = 0 →
    computeChecksum (addr.advance k.toNat) (size - k) (.ofNat (prevSum.toNat + (hostWords addr k.toNat).sum)) =
      computeChecksum addr size prevSum

theorem computeChecksum_complement (addr : Bytes) (size : UInt32) (prevSum : UInt64)
    (h : prevSum.toNat + hostSum ((List.range size.toNat).map addr) < 2 ^ 64) :
    (computeChecksum addr size prevSum).toUInt16 =
      ~~~UInt16.ofNat (OnesComplement.sum 65536 (Nat.digits 65536 prevSum.toNat ++ hostWords addr size.toNat)) := by
  obtain ⟨r, hfolds, hcheck⟩ := computeChecksum_folds addr size prevSum h
  have hsum : Folds 65536 (prevSum.toNat + hostSum ((List.range size.toNat).map addr))
      (OnesComplement.sum 65536 (Nat.digits 65536 prevSum.toNat ++ hostWords addr size.toNat)) := by
    rw [← sum_hostWords]
    exact OnesComplement.sum_digits_folds (by decide) hostWords_lt
  rw [← UInt16.toNat_inj, hcheck, hfolds.unique hsum, UInt16.toNat_not, UInt16.toNat_ofNat', Nat.mod_eq_of_lt hsum.lt]
  rfl

/-- `computeChecksum` is right for every buffer, and for every sum that 2^48 bounds. -/
theorem computeChecksum_isInternetChecksum (addr : Bytes) (size : UInt32) (prevSum : UInt64)
    (h : prevSum.toNat < 2 ^ 48) : IsInternetChecksum addr size prevSum := by
  have hlt : prevSum.toNat + hostSum ((List.range size.toNat).map addr) < 2 ^ 64 := by
    have hsize := size.toNat_lt
    have hle := hostSum_le ((List.range size.toNat).map addr)
    rw [List.length_map, List.length_range] at hle
    omega
  refine ⟨?_, computeChecksum_complement addr size prevSum hlt, fun addr' hbytes => ?_, fun k hk heven => ?_⟩
  · obtain ⟨rounds, hrounds⟩ := exists_checkedFold (sumWords addr size.toNat prevSum)
    refine ⟨rounds, ?_⟩
    simp only [checkedComputeChecksum, checkedSumWords_eq hlt]
    simp only [Option.bind_eq_bind, Option.bind_some, hrounds]
    rfl
  · rw [computeChecksum, sumWords_congr hbytes, computeChecksum]
  · rw [computeChecksum, UInt32.toNat_sub_of_le _ _ hk, sumWords_split (UInt32.le_iff_toNat_le.mp hk) heven,
      computeChecksum]

/-- Seven bytes, and an eighth one in memory after them; the sum before has a carry that is not folded yet. -/
theorem computeChecksum_isInternetChecksum_seven :
    (computeChecksum (fun i => [0x00, 0x01, 0xf2, 0x03, 0xf4, 0xf5, 0xf6, 0xf7].getD i 0) 7 0x10000).toUInt16 = 0x0422 :=
  (computeChecksum_isInternetChecksum _ 7 0x10000 (by decide)).complement.trans (by decide)

end ChecksumCalculator
end Traceroute
