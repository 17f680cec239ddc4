import Mathlib.Data.UInt

/-! Memory as the validators and the address comparison read it: bytes behind a pointer, and the 16-bit
    and 32-bit fields that a little-endian host reads there. -/

namespace Traceroute

/-- What a `const char *` points at: the byte at each offset from it. -/
abbrev Bytes := Nat → UInt8

namespace Bytes

/-- `p + n`. -/
def advance (p : Bytes) (n : Nat) : Bytes := fun i => p (n + i)

/-- The `uint16_t` at an offset. -/
def u16 (p : Bytes) (o : Nat) : UInt16 := UInt16.ofNat ((p o).toNat + 256 * (p (o + 1)).toNat)

/-- The `uint32_t` at an offset. -/
def u32 (p : Bytes) (o : Nat) : UInt32 :=
  UInt32.ofNat ((p o).toNat + 256 * (p (o + 1)).toNat + 65536 * (p (o + 2)).toNat + 16777216 * (p (o + 3)).toNat)

variable {p q : Bytes} {m n a b : Nat}

@[simp] theorem advance_apply (i : Nat) : p.advance n i = p (n + i) := rfl

@[simp] theorem advance_zero : p.advance 0 = p := by
  funext i
  rw [advance_apply, Nat.zero_add]

theorem advance_advance : (p.advance m).advance n = p.advance (m + n) := by
  funext i
  simp [Nat.add_assoc]

theorem u16_advance : (p.advance n).u16 a = p.u16 (n + a) := rfl

theorem toNat_u16 : (p.u16 a).toNat = (p a).toNat + 256 * (p (a + 1)).toNat := by
  have h0 := (p a).toNat_lt
  have h1 := (p (a + 1)).toNat_lt
  rw [u16, UInt16.toNat_ofNat', Nat.mod_eq_of_lt (by omega)]

theorem toNat_u32 : (p.u32 a).toNat = (p a).toNat + 256 * (p (a + 1)).toNat + 65536 * (p (a + 2)).toNat +
    16777216 * (p (a + 3)).toNat := by
  have h0 := (p a).toNat_lt
  have h1 := (p (a + 1)).toNat_lt
  have h2 := (p (a + 2)).toNat_lt
  have h3 := (p (a + 3)).toNat_lt
  rw [u32, UInt32.toNat_ofNat', Nat.mod_eq_of_lt (by omega)]

/-- Two 16-bit fields are equal when their bytes are. -/
theorem u16_eq_iff : p.u16 a = q.u16 b ↔ ∀ i < 2, p (a + i) = q (b + i) := by
  constructor
  · intro h
    have h' := congrArg UInt16.toNat h
    simp only [toNat_u16] at h'
    have p0 := (p a).toNat_lt
    have q0 := (q b).toNat_lt
    intro i hi
    obtain rfl | rfl : i = 0 ∨ i = 1 := by omega
    · exact UInt8.toNat_inj.mp (by simp only [Nat.add_zero]; omega)
    · exact UInt8.toNat_inj.mp (by omega)
  · intro h
    simp only [u16, h 1 (by decide), show p a = q b from h 0 (by decide)]

/-- Two 32-bit fields are equal when their bytes are. -/
theorem u32_eq_iff : p.u32 a = q.u32 b ↔ ∀ i < 4, p (a + i) = q (b + i) := by
  constructor
  · intro h
    have h' := congrArg UInt32.toNat h
    simp only [toNat_u32] at h'
    have p0 := (p a).toNat_lt
    have q0 := (q b).toNat_lt
    have p1 := (p (a + 1)).toNat_lt
    have q1 := (q (b + 1)).toNat_lt
    have p2 := (p (a + 2)).toNat_lt
    have q2 := (q (b + 2)).toNat_lt
    intro i hi
    obtain rfl | rfl | rfl | rfl : i = 0 ∨ i = 1 ∨ i = 2 ∨ i = 3 := by omega
    · exact UInt8.toNat_inj.mp (by simp only [Nat.add_zero]; omega)
    all_goals exact UInt8.toNat_inj.mp (by omega)
  · intro h
    simp only [u32, h 1 (by decide), h 2 (by decide), h 3 (by decide), show p a = q b from h 0 (by decide)]

/-- The bytes of a 16-bit field, as a little-endian host stores them. -/
def ofU16 (x : UInt16) : Bytes := fun i => UInt8.ofNat (x.toNat / 256 ^ i)

/-- The bytes of a 32-bit field, as a little-endian host stores them. -/
def ofU32 (x : UInt32) : Bytes := fun i => UInt8.ofNat (x.toNat / 256 ^ i)

theorem u16_ofU16 (x : UInt16) : (ofU16 x).u16 0 = x := by
  apply UInt16.toNat_inj.mp
  have hx := x.toNat_lt
  rw [toNat_u16]
  simp only [ofU16, UInt8.toNat_ofNat', Nat.pow_zero, Nat.zero_add, Nat.pow_one]
  omega

theorem u32_ofU32 (x : UInt32) : (ofU32 x).u32 0 = x := by
  apply UInt32.toNat_inj.mp
  have hx := x.toNat_lt
  rw [toNat_u32]
  simp only [ofU32, UInt8.toNat_ofNat', Nat.pow_zero, Nat.zero_add, Nat.pow_one]
  omega

/-- A 16-bit field holds `x` when its bytes are those of `x`. -/
theorem u16_eq_iff_ofU16 {x : UInt16} : p.u16 a = x ↔ ∀ i < 2, p (a + i) = ofU16 x i := by
  have h := u16_eq_iff (p := p) (q := ofU16 x) (a := a) (b := 0)
  rw [u16_ofU16] at h
  simpa using h

/-- A 32-bit field holds `x` when its bytes are those of `x`. -/
theorem u32_eq_iff_ofU32 {x : UInt32} : p.u32 a = x ↔ ∀ i < 4, p (a + i) = ofU32 x i := by
  have h := u32_eq_iff (p := p) (q := ofU32 x) (a := a) (b := 0)
  rw [u32_ofU32] at h
  simpa using h

end Bytes

/-- `htons` of a little-endian host: the two bytes in the opposite order. -/
def htons (x : UInt16) : UInt16 := Bytes.u16 (fun i => Bytes.ofU16 x (1 - i)) 0

/-- `ntohl` of a little-endian host: the four bytes in the opposite order. -/
def ntohl (x : UInt32) : UInt32 := Bytes.u32 (fun i => Bytes.ofU32 x (3 - i)) 0

def htonl (x : UInt32) : UInt32 := ntohl x

theorem ofU16_htons (x : UInt16) {i : Nat} (hi : i < 2) : Bytes.ofU16 (htons x) i = Bytes.ofU16 x (1 - i) := by
  have h : Bytes.u16 (fun i => Bytes.ofU16 x (1 - i)) 0 = htons x := rfl
  simpa using (Bytes.u16_eq_iff_ofU16.mp h i hi).symm

theorem htons_htons (x : UInt16) : htons (htons x) = x := by
  refine Bytes.u16_eq_iff_ofU16.mpr fun i hi => ?_
  rw [Nat.zero_add, ofU16_htons x (by omega), show 1 - (1 - i) = i by omega]

theorem htons_inj {x y : UInt16} (h : htons x = htons y) : x = y := by
  rw [← htons_htons x, h, htons_htons]

theorem ofU32_ntohl (x : UInt32) {i : Nat} (hi : i < 4) : Bytes.ofU32 (ntohl x) i = Bytes.ofU32 x (3 - i) := by
  have h : Bytes.u32 (fun i => Bytes.ofU32 x (3 - i)) 0 = ntohl x := rfl
  simpa using (Bytes.u32_eq_iff_ofU32.mp h i hi).symm

/-- Swapping the bytes twice restores them. -/
theorem ntohl_ntohl (x : UInt32) : ntohl (ntohl x) = x := by
  refine Bytes.u32_eq_iff_ofU32.mpr fun i hi => ?_
  rw [Nat.zero_add, ofU32_ntohl x (by omega), show 3 - (3 - i) = i by omega]

theorem ntohl_inj {x y : UInt32} (h : ntohl x = ntohl y) : x = y := by
  rw [← ntohl_ntohl x, h, ntohl_ntohl]

end Traceroute
