import ClimateBus.Proofs.ChangeReports
import Mathlib

/-!
An image as one number.

Read with its words as digits, the lowest first, an image is a number whose binary digits are the
bits of the image. An unsigned field is a slice of that number wherever it starts, however many
words it crosses and also where it runs past the end. A write puts its digits in place of those of
the slice, as far as there are words to hold them, and keeps every other digit.
-/
namespace ClimateBus

namespace Image

variable {n : Nat}

/-- The number an image spells in words, the lowest word first. -/
def number (m : Image n) : Nat := (m.words.mapIdx fun k w => w.toNat * 2 ^ (16 * k)).sum

theorem number_eq_ofDigits (m : Image n) :
    m.number = Nat.ofDigits (2 ^ 16) (m.words.map UInt16.toNat) := by
  simp only [number, Nat.ofDigits_eq_sum_mapIdx, List.mapIdx_eq_zipIdx_map, List.zipIdx_map,
    List.map_map, Function.comp_def, Prod.map, id_eq, ← pow_mul]

theorem testBit_ofDigits (ws : Words) (i : Nat) :
    (Nat.ofDigits (2 ^ 16) (ws.map UInt16.toNat)).testBit i = (ofList ws).bit i := by
  induction ws generalizing i with
  | nil => simp [ofList, bit]
  | cons w ws ih =>
    rw [List.map_cons, Nat.ofDigits_cons, Nat.add_comm,
      Nat.testBit_two_pow_mul_add _ w.toNat_lt]
    by_cases hlow : i < 16
    · simp only [hlow, if_true, ofList, bit, Nat.div_eq_of_lt hlow, Nat.mod_eq_of_lt hlow,
        List.getElem?_cons_zero, Word.testBit]
    · have hdiv : i / 16 = (i - 16) / 16 + 1 := by omega
      have hmod : i % 16 = (i - 16) % 16 := by omega
      simp only [hlow, if_false, ih, ofList, bit, hdiv, hmod, List.getElem?_cons_succ]

/-- The digits of the number are the bits of the image. -/
@[simp] theorem testBit_number (m : Image n) (i : Nat) : m.number.testBit i = m.bit i := by
  rw [number_eq_ofDigits, testBit_ofDigits]
  rfl

/-- A run of bits is a slice of the number. -/
theorem bits_eq_slice (m : Image n) (start length : Nat) :
    m.bits start length = m.number / 2 ^ start % 2 ^ length := by
  apply Nat.eq_of_testBit_eq
  intro k
  rw [testBit_bits, Nat.testBit_mod_two_pow, Nat.testBit_div_two_pow, testBit_number, Nat.add_comm]

/-- An unsigned field is read and written as a slice of the number, and a write reports a change
just when it makes one. -/
theorem unsigned_is_slice (m : Image n) (f : Field) (v : UInt32) :
    (m.unsigned f).toNat = m.number / 2 ^ f.start % 2 ^ min f.length 32 ∧
      (∀ i, (m.setUnsigned f v).image.number.testBit i =
        if f.start ≤ i ∧ i < f.start + min f.length 32 ∧ i < 16 * m.words.length then
          v.toNat.testBit (i - f.start)
        else m.number.testBit i) ∧
      (m.setUnsigned f v).image.words.length = m.words.length ∧
      ((m.setUnsigned f v).changed = true ↔ (m.setUnsigned f v).image.words ≠ m.words) := by
  refine ⟨?_, ?_, ?_, ?_⟩
  · rw [toNat_unsigned, bits_eq_slice]
    rfl
  · intro i
    rw [testBit_number, testBit_number, bit_setUnsigned, m.length_eq]
    rfl
  · rw [m.length_eq, (m.setUnsigned f v).image.length_eq]
  · have hexact := m.exact_setUnsigned f v
    rwa [Edit.Exact, ne_eq, Image.ext_iff] at hexact

end Image

end ClimateBus
