import ClimateBus.Proofs.ChangeReports
import ClimateBus.Proofs.Rounding
import Mathlib

/-!
Reading a number from a field and writing it back.

A signed field has two zeros, and only one of them is ever written. So a number that is read from a
field and written to one arrives bit for bit, unless it is the negative zero, which loses its sign
bit (`Image.bit_setSigned_signed`). Temperatures are written back in the same way, because the
tenths of a degree survive the roundings of the way to degrees and back.
-/
namespace ClimateBus

namespace Image

variable {n n' : Nat} {f : Field}

/-- The field holds the second zero: its sign bit and no digit. -/
def HoldsNegativeZero (m : Image n) (f : Field) : Prop :=
  m.bit (f.start + f.length - 1) = true ∧ m.bits f.start (f.length - 1) = 0

instance (m : Image n) (f : Field) : Decidable (m.HoldsNegativeZero f) := by
  unfold HoldsNegativeZero
  infer_instance

/-- The sign of a zero is not read. -/
theorem signed_neg_iff (m : Image n) (htwo : 2 ≤ f.length) (hlength : f.length ≤ maxFieldBits) :
    m.signed f < 0 ↔ m.bit (f.start + f.length - 1) = true ∧ ¬ m.HoldsNegativeZero f := by
  have hneg : m.signed f < 0 ↔ (m.signed f).toInt < 0 := Int32.lt_iff_toInt_lt
  rw [hneg, m.toInt_signed htwo hlength, HoldsNegativeZero]
  cases m.bit (f.start + f.length - 1)
  · simp
  · simp [Nat.pos_iff_ne_zero]

/-- A signed number that is read from one image and written to another arrives bit for bit, except
for the sign of a zero. -/
theorem bit_setSigned_signed (m : Image n) (m' : Image n') (htwo : 2 ≤ f.length)
    (hlength : f.length ≤ maxFieldBits) {j : Nat} (hj : f.Covers j) (hin : j < 16 * n) :
    (m.setSigned f (m'.signed f)).image.bit j =
      if j = f.start + f.length - 1 ∧ m'.HoldsNegativeZero f then false else m'.bit j := by
  unfold Field.Covers at hj
  rw [m.bit_setSigned _ htwo hlength]
  by_cases hsign : j = f.start + f.length - 1
  · rw [if_pos ⟨hsign, hin⟩, Bool.eq_iff_iff, decide_eq_true_iff, m'.signed_neg_iff htwo hlength,
      ← hsign]
    by_cases hzero : m'.HoldsNegativeZero f <;> simp [hzero]
  · rw [if_neg (by omega), if_pos (by omega), m'.natAbs_signed htwo hlength, testBit_bits,
      Nat.add_sub_cancel' hj.1]
    have hdigit : j - f.start < f.length - 1 := by omega
    simp [hsign, hdigit]

section WriteBack

variable (m : Image n) (htwo : 2 ≤ f.length) (hlength : f.length ≤ maxFieldBits)
include htwo hlength

/-- What was read from a field is written back as it was, except for the sign of a zero. -/
theorem bit_setSigned_self (hin : f.Inside n) (j : Nat) :
    (m.setSigned f (m.signed f)).image.bit j =
      if j = f.start + f.length - 1 ∧ m.HoldsNegativeZero f then false else m.bit j := by
  by_cases hj : f.Covers j
  · have hlt : j < 16 * n := by
      unfold Field.Covers at hj
      unfold Field.Inside at hin
      omega
    exact m.bit_setSigned_signed m htwo hlength hj hlt
  · have hsign : j ≠ f.start + f.length - 1 := by
      rintro rfl
      exact hj ⟨by omega, by omega⟩
    rw [m.bit_setSigned_of_not_covers _ htwo hlength hj, if_neg (fun h => hsign h.1)]

theorem setSigned_self_of_not_negativeZero (hin : f.Inside n) (hzero : ¬ m.HoldsNegativeZero f) :
    m.setSigned f (m.signed f) = ⟨m, false⟩ := by
  refine (m.exact_setSigned f _).eq_unchanged (ext_bit fun j => ?_)
  rw [m.bit_setSigned_self htwo hlength hin, if_neg (fun h => hzero h.2)]

theorem changed_setSigned_self (hin : f.Inside n) (hzero : m.HoldsNegativeZero f) :
    (m.setSigned f (m.signed f)).changed = true := by
  refine (m.exact_setSigned f _).mpr fun himage => ?_
  have hbit := m.bit_setSigned_self htwo hlength hin (f.start + f.length - 1)
  rw [himage, if_pos ⟨rfl, hzero⟩, hzero.1] at hbit
  exact Bool.false_ne_true hbit.symm

end WriteBack

/-- What is written to a signed field is read again, as much of it as the field holds. What is read
from it is written back without a change, unless it is the negative zero, of which the sign bit is
cleared. No write changes a bit outside the field. -/
theorem signed_round_trips (m : Image n) (hin : f.Inside n) (htwo : 2 ≤ f.length)
    (hlength : f.length ≤ 32) :
    (∀ v : Int32,
      ((m.setSigned f v).image.signed f).toInt =
          v.toInt.sign * ((v.toInt.natAbs % 2 ^ (f.length - 1) : Nat) : Int) ∧
        (v.toInt.natAbs < 2 ^ (f.length - 1) → (m.setSigned f v).image.signed f = v) ∧
        ∀ i, ¬ f.Covers i → (m.setSigned f v).image.bit i = m.bit i) ∧
      (¬ m.HoldsNegativeZero f → m.setSigned f (m.signed f) = ⟨m, false⟩) ∧
      (m.HoldsNegativeZero f → (m.setSigned f (m.signed f)).changed = true ∧
        ∀ i, (m.setSigned f (m.signed f)).image.bit i =
          if i = f.start + f.length - 1 then false else m.bit i) := by
  refine ⟨fun v => ⟨m.signed_setSigned v hin htwo hlength, fun hfits => ?_, fun i hi => ?_⟩,
    m.setSigned_self_of_not_negativeZero htwo hlength hin,
    fun hzero => ⟨m.changed_setSigned_self htwo hlength hin hzero, fun i => ?_⟩⟩
  · rw [← Int32.toInt_inj, m.signed_setSigned v hin htwo hlength, signedPart_of_lt hfits]
  · exact m.bit_setSigned_of_not_covers v htwo hlength hi
  · rw [m.bit_setSigned_self htwo hlength hin]
    simp [hzero]

/-- Three words with a negative zero in the field of 20 bits that starts in the first of them. -/
def crossing : Image 3 := ⟨[0x0abc, 0x8000, 0xffff], rfl⟩

theorem signed_round_trips_crossing :
    (crossing.setSigned ⟨12, 20⟩ (-70000)).image.signed ⟨12, 20⟩ = -70000 ∧
      ((crossing.setSigned ⟨12, 20⟩ Int32.minValue).image.signed ⟨12, 20⟩).toInt = 0 ∧
      (crossing.setSigned ⟨12, 20⟩ (crossing.signed ⟨12, 20⟩)).changed = true := by
  have hin : Field.Inside ⟨12, 20⟩ 3 := by
    unfold Field.Inside
    decide
  obtain ⟨hread, -, hzero⟩ := signed_round_trips crossing hin (by decide) (by decide)
  exact ⟨(hread (-70000)).2.1 (by decide), (hread Int32.minValue).1, (hzero (by decide)).1⟩

/-- A temperature that was read from a field of at most 16 bits is written back as it was: the
field has the same tenths of a degree, and no bit is changed but the sign of a zero. -/
theorem temperature_round_trip (m : Image n) (hin : f.Inside n) (htwo : 2 ≤ f.length)
    (hlength : f.length ≤ 16) :
    (m.setTemperature f (m.temperature f)).image.signed f = m.signed f ∧
      (¬ m.HoldsNegativeZero f → m.setTemperature f (m.temperature f) = ⟨m, false⟩) := by
  have hbits : f.length ≤ maxFieldBits := hlength.trans (by decide)
  rw [setTemperature, m.tenths_temperature htwo hlength]
  refine ⟨?_, m.setSigned_self_of_not_negativeZero htwo hbits hin⟩
  rw [← Int32.toInt_inj, m.signed_setSigned _ hin htwo hbits,
    signedPart_of_lt (m.natAbs_signed_lt htwo hbits)]

/-- The setpoint of a holding block that asks for 23.5 degrees below zero. -/
theorem temperature_round_trip_freezing :
    let m : Image 3 := ⟨[0x0061, 0x0001, 0x80eb], rfl⟩
    m.setTemperature ⟨32, 16⟩ (m.temperature ⟨32, 16⟩) = ⟨m, false⟩ := by
  intro m
  have hin : Field.Inside ⟨32, 16⟩ 3 := by
    unfold Field.Inside
    decide
  exact (temperature_round_trip m hin (by decide) (by decide)).2 (by decide)

end Image

end ClimateBus
