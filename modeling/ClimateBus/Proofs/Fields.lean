import ClimateBus.Proofs.Bits
import Mathlib

/-!
Reading back what was written to a field, and what a write leaves alone.

A signed field keeps the sign of the number written to it and as much of its magnitude as there are
digits for. So a number that was read from a field fits a field of the same length, and only the
second zero, the negative one, comes back as another run of bits.
-/
namespace ClimateBus

/-- The bit belongs to the field. -/
def Field.Covers (f : Field) (i : Nat) : Prop := f.start ≤ i ∧ i < f.start + f.length

instance (f : Field) (i : Nat) : Decidable (f.Covers i) := by
  unfold Field.Covers
  infer_instance

/-- The field lies inside images of `n` words. -/
def Field.Inside (f : Field) (n : Nat) : Prop := f.start + f.length ≤ 16 * n

/-- The fields have no bit in common. -/
def Field.Apart (f g : Field) : Prop :=
  f.start + f.length ≤ g.start ∨ g.start + g.length ≤ f.start

instance (f g : Field) : Decidable (f.Apart g) := by
  unfold Field.Apart
  infer_instance

/-- The number that a signed field with `digits` binary digits takes over from a number. -/
def signedPart (digits : Nat) (v : Int) : Int := v.sign * ((v.natAbs % 2 ^ digits : Nat) : Int)

theorem signedPart_of_lt {digits : Nat} {v : Int} (h : v.natAbs < 2 ^ digits) :
    signedPart digits v = v := by
  rw [signedPart, Nat.mod_eq_of_lt h, Int.sign_mul_natAbs]

namespace Image

variable {n n' : Nat}

section Unsigned

theorem toNat_unsigned (m : Image n) (f : Field) :
    (m.unsigned f).toNat = m.bits f.start (min f.length maxFieldBits) := by
  have hlt := m.bits_lt f.start (min f.length maxFieldBits)
  have hpow : 2 ^ min f.length maxFieldBits ≤ 2 ^ 32 :=
    Nat.pow_le_pow_right (by decide) (Nat.min_le_right _ _)
  exact UInt32.toNat_ofNat_of_lt' (hlt.trans_le hpow)

theorem unsigned_lt (m : Image n) (f : Field) : (m.unsigned f).toNat < 2 ^ f.length := by
  rw [toNat_unsigned]
  exact (m.bits_lt _ _).trans_le (Nat.pow_le_pow_right (by decide) (Nat.min_le_left _ _))

theorem unsigned_congr {m : Image n} {m' : Image n'} {f : Field}
    (h : ∀ i, f.Covers i → m.bit i = m'.bit i) : m.unsigned f = m'.unsigned f := by
  rw [← UInt32.toNat_inj, toNat_unsigned, toNat_unsigned]
  apply bits_congr
  intro k hk
  have hlength : k < f.length := hk.trans_le (Nat.min_le_left _ _)
  exact h _ ⟨by omega, by omega⟩

theorem bit_setUnsigned (m : Image n) (f : Field) (v : UInt32) (j : Nat) :
    (m.setUnsigned f v).image.bit j =
      if f.start ≤ j ∧ j < f.start + min f.length maxFieldBits ∧ j < 16 * n then
        v.toNat.testBit (j - f.start)
      else m.bit j :=
  bit_setBits m f.start _ _ j

theorem bit_setUnsigned_of_not_covers (m : Image n) {f : Field} (v : UInt32) {j : Nat}
    (h : ¬ f.Covers j) : (m.setUnsigned f v).image.bit j = m.bit j := by
  rw [bit_setUnsigned, if_neg]
  rintro ⟨hlow, hhigh, _⟩
  exact h ⟨hlow, hhigh.trans_le (by omega)⟩

theorem changed_setUnsigned_of_eq {m : Image n} {f : Field} {v : UInt32}
    (h : m.unsigned f = v) : (m.setUnsigned f v).changed = false := by
  apply changed_setBits_of_testBit
  intro k hk
  rw [← h, toNat_unsigned, testBit_bits]
  simp [hk]

/-- A field inside the image gives back a number that fits it. -/
theorem unsigned_setUnsigned (m : Image n) {f : Field} {v : UInt32} (hin : f.Inside n)
    (hlength : f.length ≤ maxFieldBits) (hv : v.toNat < 2 ^ f.length) :
    (m.setUnsigned f v).image.unsigned f = v := by
  rw [← UInt32.toNat_inj, toNat_unsigned, Nat.min_eq_left hlength]
  apply Nat.eq_of_testBit_eq
  intro k
  rw [testBit_bits]
  by_cases hk : k < f.length
  · unfold Field.Inside at hin
    rw [bit_setUnsigned, Nat.min_eq_left hlength, if_pos ⟨by omega, by omega, by omega⟩]
    simp [hk]
  · have hhigh : v.toNat.testBit k = false :=
      Nat.testBit_lt_two_pow (hv.trans_le (Nat.pow_le_pow_right (by decide) (by omega)))
    simp [hk, hhigh]

end Unsigned

section Signed

variable {f : Field}

theorem signed_congr {m : Image n} {m' : Image n'}
    (h : ∀ i, f.Covers i → m.bit i = m'.bit i) : m.signed f = m'.signed f := by
  unfold signed
  by_cases hshort : f.length < 2
  · simp [hshort]
  · have hmagnitude : m.unsigned ⟨f.start, f.length - 1⟩ = m'.unsigned ⟨f.start, f.length - 1⟩ :=
      unsigned_congr fun i hi => h i ⟨hi.1, hi.2.trans_le (Nat.add_le_add_left (Nat.sub_le _ _) _)⟩
    have hsign : m.bit (f.start + f.length - 1) = m'.bit (f.start + f.length - 1) :=
      h _ ⟨by omega, by omega⟩
    simp [hshort, hmagnitude, hsign]

/-- The sign is one bit, the digits below it are the magnitude. -/
theorem toInt_signed (m : Image n) (htwo : 2 ≤ f.length) (hlength : f.length ≤ maxFieldBits) :
    (m.signed f).toInt =
      if m.bit (f.start + f.length - 1) then -(m.bits f.start (f.length - 1) : Int)
      else m.bits f.start (f.length - 1) := by
  have hmin : min (f.length - 1) maxFieldBits = f.length - 1 := Nat.min_eq_left (by omega)
  have hbits := m.bits_lt f.start (f.length - 1)
  have hpow : 2 ^ (f.length - 1) ≤ 2 ^ 31 :=
    Nat.pow_le_pow_right (by decide) (by unfold maxFieldBits at hlength; omega)
  have hmagnitude : (m.unsigned ⟨f.start, f.length - 1⟩).toInt32.toInt =
      m.bits f.start (f.length - 1) := by
    have hnat : (m.unsigned ⟨f.start, f.length - 1⟩).toNat = m.bits f.start (f.length - 1) := by
      rw [toNat_unsigned, hmin]
    change ((m.unsigned ⟨f.start, f.length - 1⟩).toBitVec).toInt = _
    rw [BitVec.toInt_eq_toNat_of_lt] <;> rw [UInt32.toNat_toBitVec, hnat]
    omega
  rw [signed, if_neg (by omega)]
  dsimp only
  split_ifs
  · rw [Int32.toInt_neg, hmagnitude, Int.bmod_eq_of_le] <;> omega
  · exact hmagnitude

theorem natAbs_signed (m : Image n) (htwo : 2 ≤ f.length) (hlength : f.length ≤ maxFieldBits) :
    (m.signed f).toInt.natAbs = m.bits f.start (f.length - 1) := by
  rw [m.toInt_signed htwo hlength]
  split_ifs
  · simp
  · simp

theorem natAbs_signed_lt (m : Image n) (htwo : 2 ≤ f.length) (hlength : f.length ≤ maxFieldBits) :
    (m.signed f).toInt.natAbs < 2 ^ (f.length - 1) := by
  rw [m.natAbs_signed htwo hlength]
  exact m.bits_lt _ _

theorem bit_setSigned (m : Image n) (v : Int32) (htwo : 2 ≤ f.length)
    (hlength : f.length ≤ maxFieldBits) (j : Nat) :
    (m.setSigned f v).image.bit j =
      if j = f.start + f.length - 1 ∧ j < 16 * n then decide (v < 0)
      else if f.start ≤ j ∧ j < f.start + f.length - 1 ∧ j < 16 * n then
        v.toInt.natAbs.testBit (j - f.start)
      else m.bit j := by
  have hmin : min (f.length - 1) maxFieldBits = f.length - 1 := Nat.min_eq_left (by omega)
  have hshort : ¬ f.length < 2 := by omega
  have hlast : f.start + (f.length - 1) = f.start + f.length - 1 := by omega
  simp only [setSigned, hshort, if_false, bit_setBit, bit_setBits, hmin, hlast]
  by_cases hj : j = f.start + f.length - 1
  · simp [hj]
  · simp [hj]

theorem bit_setSigned_of_not_covers (m : Image n) (v : Int32) (htwo : 2 ≤ f.length)
    (hlength : f.length ≤ maxFieldBits) {j : Nat} (h : ¬ f.Covers j) :
    (m.setSigned f v).image.bit j = m.bit j := by
  unfold Field.Covers at h
  rw [m.bit_setSigned v htwo hlength, if_neg (by omega), if_neg (by omega)]

/-- A signed field inside the image keeps the sign and the low digits of the magnitude. -/
theorem signed_setSigned (m : Image n) (v : Int32) (hin : f.Inside n) (htwo : 2 ≤ f.length)
    (hlength : f.length ≤ maxFieldBits) :
    ((m.setSigned f v).image.signed f).toInt = signedPart (f.length - 1) v.toInt := by
  unfold Field.Inside at hin
  have hdigits : (m.setSigned f v).image.bits f.start (f.length - 1) =
      v.toInt.natAbs % 2 ^ (f.length - 1) := by
    apply Nat.eq_of_testBit_eq
    intro k
    rw [testBit_bits, Nat.testBit_mod_two_pow]
    by_cases hk : k < f.length - 1
    · rw [m.bit_setSigned v htwo hlength, if_neg (by omega), if_pos (by omega)]
      simp
    · simp [hk]
  have hsign : (m.setSigned f v).image.bit (f.start + f.length - 1) = decide (v < 0) := by
    rw [m.bit_setSigned v htwo hlength, if_pos ⟨rfl, by omega⟩]
  rw [toInt_signed _ htwo hlength, hsign, hdigits, signedPart]
  have hneg : v < 0 ↔ v.toInt < 0 := Int32.lt_iff_toInt_lt
  rcases lt_trichotomy v.toInt 0 with h | h | h
  · simp [hneg, h, Int.sign_eq_neg_one_of_neg h]
  · simp [hneg, h]
  · simp [hneg, not_lt.mpr h.le, Int.sign_eq_one_of_pos h]

end Signed

/-- The images differ in a field at most. -/
def SameOff (f : Field) (m m' : Image n) : Prop := ∀ i, ¬ f.Covers i → m'.bit i = m.bit i

theorem sameOff_setBit (m : Image n) (i : Nat) (on : Bool) :
    SameOff ⟨i, 1⟩ m (m.setBit i on).image := by
  intro j hj
  rw [bit_setBit, if_neg]
  rintro ⟨rfl, _⟩
  exact hj ⟨le_rfl, Nat.lt_succ_self _⟩

theorem sameOff_setUnsigned (m : Image n) (f : Field) (v : UInt32) :
    SameOff f m (m.setUnsigned f v).image :=
  fun _ hj => m.bit_setUnsigned_of_not_covers v hj

theorem sameOff_setSigned (m : Image n) {f : Field} (v : Int32) (htwo : 2 ≤ f.length)
    (hlength : f.length ≤ maxFieldBits) : SameOff f m (m.setSigned f v).image :=
  fun _ hj => m.bit_setSigned_of_not_covers v htwo hlength hj

namespace SameOff

variable {f g : Field} {m m' : Image n}

theorem bit (h : SameOff f m m') {i : Nat} (hapart : f.Apart ⟨i, 1⟩) : m'.bit i = m.bit i := by
  apply h
  simp only [Field.Apart] at hapart
  unfold Field.Covers
  omega

theorem unsigned (h : SameOff f m m') (hapart : f.Apart g) : m'.unsigned g = m.unsigned g := by
  apply unsigned_congr
  intro i hi
  apply h
  unfold Field.Apart at hapart
  unfold Field.Covers at hi ⊢
  omega

theorem signed (h : SameOff f m m') (hapart : f.Apart g) : m'.signed g = m.signed g := by
  apply signed_congr
  intro i hi
  apply h
  unfold Field.Apart at hapart
  unfold Field.Covers at hi ⊢
  omega

end SameOff

end Image

end ClimateBus
