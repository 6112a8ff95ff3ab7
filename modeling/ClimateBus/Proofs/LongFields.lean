import ClimateBus.Proofs.Fields
import Mathlib

/-!
Signed fields of any length, and where the negation of a magnitude goes wrong.

The magnitude of a signed field is read as a word of 32 bits and then taken for a signed word, which
has room for 31. The digits of a field of up to 32 bits, its sign among them, leave that room. In a
longer field the sign is still the last bit, but the word has a digit 31, and if it is set the
reinterpretation is off by 2 to the 32 (`Image.negated_exactly_iff`). Of these words one has no
negative of the other sign: the one whose other digits are all clear.
-/
namespace ClimateBus

theorem toInt_toInt32 (w : UInt32) : w.toInt32.toInt = (w.toNat : Int).bmod (2 ^ 32) := by
  rw [← Int32.toInt_toBitVec, UInt32.toBitVec_toInt32, BitVec.toInt_eq_toNat_bmod,
    UInt32.toNat_toBitVec]

/-- As a signed word it is the same number, or that number less 2 to the 32. -/
theorem toInt_toInt32_eq_ite (w : UInt32) :
    w.toInt32.toInt = if w.toNat < 2 ^ 31 then (w.toNat : Int) else w.toNat - 2 ^ 32 := by
  have hlt := w.toNat_lt
  rw [toInt_toInt32, Int.bmod_def]
  split_ifs <;> omega

/-- Only the least signed word has no negative. -/
theorem negOverflow_toInt32 (w : UInt32) :
    w.toInt32.toBitVec.negOverflow = true ↔ w.toNat = 2 ^ 31 := by
  have hlt := w.toNat_lt
  rw [BitVec.negOverflow, beq_iff_eq, Int32.toInt_toBitVec, toInt_toInt32_eq_ite]
  split_ifs <;> omega

/-- That one is its own negative in arithmetic that wraps around, and those above it have one that
is off by 2 to the 32. -/
theorem toInt_neg_toInt32 (w : UInt32) : (-w.toInt32).toInt =
    if 2 ^ 31 < w.toNat then 2 ^ 32 - (w.toNat : Int) else -(w.toNat : Int) := by
  have hlt := w.toNat_lt
  rw [Int32.toInt_neg, toInt_toInt32_eq_ite, Int.bmod_def]
  split_ifs <;> omega

namespace Image

variable {n : Nat} {f : Field}

/-- The word that the magnitude of a signed field is read as. -/
def magnitude (m : Image n) (f : Field) : UInt32 := m.unsigned ⟨f.start, f.length - 1⟩

/-- What is read from the field is the negative of its magnitude. -/
def Negates (m : Image n) (f : Field) : Prop :=
  2 ≤ f.length ∧ m.bit (f.start + f.length - 1) = true

/-- The magnitude has a digit that a signed word has no room for. -/
def Overlong (m : Image n) (f : Field) : Prop :=
  maxFieldBits < f.length ∧ m.bit (f.start + 31) = true

instance (m : Image n) (f : Field) : Decidable (m.Negates f) := by
  unfold Negates
  infer_instance

instance (m : Image n) (f : Field) : Decidable (m.Overlong f) := by
  unfold Overlong
  infer_instance

theorem Negates.signed_eq {m : Image n} (h : m.Negates f) :
    m.signed f = -(m.magnitude f).toInt32 := by
  have hshort : ¬ f.length < 2 := by
    have := h.1
    omega
  rw [signed, if_neg hshort, if_pos h.2]
  rfl

theorem testBit_magnitude (m : Image n) (f : Field) (k : Nat) : (m.magnitude f).toNat.testBit k =
    (decide (k < min (f.length - 1) maxFieldBits) && m.bit (f.start + k)) := by
  rw [magnitude, toNat_unsigned, testBit_bits]

/-- The digits below the one that may be too many. -/
theorem magnitude_mod (m : Image n) (hlong : maxFieldBits < f.length) :
    (m.magnitude f).toNat % 2 ^ 31 = m.bits f.start 31 := by
  apply Nat.eq_of_testBit_eq
  intro k
  rw [Nat.testBit_mod_two_pow, testBit_magnitude, testBit_bits]
  by_cases hk : k < 31
  · have hin : k < min (f.length - 1) maxFieldBits := by
      unfold maxFieldBits at hlong ⊢
      omega
    simp [hk, hin]
  · simp [hk]

theorem two_pow_le_magnitude_iff (m : Image n) (f : Field) :
    2 ^ 31 ≤ (m.magnitude f).toNat ↔ m.Overlong f := by
  have hlt : (m.magnitude f).toNat < 2 ^ 32 := (m.magnitude f).toNat_lt
  have hdigit : 31 < min (f.length - 1) maxFieldBits ↔ maxFieldBits < f.length := by
    unfold maxFieldBits
    omega
  have htest : (m.magnitude f).toNat.testBit 31 = true ↔ m.Overlong f := by
    rw [testBit_magnitude, Bool.and_eq_true, decide_eq_true_iff, hdigit, Overlong]
  rw [← htest]
  exact ⟨fun hle => Nat.testBit_of_two_pow_le_and_two_pow_add_one_gt hle hlt,
    Nat.ge_two_pow_of_testBit⟩

theorem magnitude_eq_two_pow_iff (m : Image n) (f : Field) :
    (m.magnitude f).toNat = 2 ^ 31 ↔ m.Overlong f ∧ m.bits f.start 31 = 0 := by
  have hlt : (m.magnitude f).toNat < 2 ^ 32 := (m.magnitude f).toNat_lt
  rw [← two_pow_le_magnitude_iff]
  constructor
  · intro heq
    have hover := (m.two_pow_le_magnitude_iff f).mp heq.ge
    refine ⟨heq.ge, ?_⟩
    rw [← m.magnitude_mod hover.1, heq, Nat.mod_self]
  · rintro ⟨hle, hzero⟩
    rw [← m.magnitude_mod ((m.two_pow_le_magnitude_iff f).mp hle).1] at hzero
    omega

theorem two_pow_lt_magnitude_iff (m : Image n) (f : Field) :
    2 ^ 31 < (m.magnitude f).toNat ↔ m.Overlong f ∧ m.bits f.start 31 ≠ 0 := by
  constructor
  · intro hbeyond
    have hlong := (m.two_pow_le_magnitude_iff f).mp hbeyond.le
    exact ⟨hlong, fun hdigits => hbeyond.ne' ((m.magnitude_eq_two_pow_iff f).mpr ⟨hlong, hdigits⟩)⟩
  · rintro ⟨hlong, hdigits⟩
    have hle := (m.two_pow_le_magnitude_iff f).mpr hlong
    exact hle.lt_of_ne' fun heq => hdigits ((m.magnitude_eq_two_pow_iff f).mp heq).2

/-- Where a signed field is read as a negative, the word read for its magnitude fits a signed word,
and is the same number as one, just if the field is not longer than 32 bits or its digit 31 is
clear; and then the negative of the magnitude is read. In every other case the number read is off by
2 to the 32, with the wrong sign, or it is the least number there is, whose negation overflows: that
is so just if all digits below are clear. -/
theorem negated_exactly_iff (m : Image n) (f : Field) (h : m.Negates f) :
    let word := m.magnitude f
    m.signed f = -word.toInt32 ∧
    (word.toNat ≤ 2 ^ 31 - 1 ↔ f.length ≤ 32 ∨ m.bit (f.start + 31) = false) ∧
    (word.toInt32.toInt = word.toNat ↔ f.length ≤ 32 ∨ m.bit (f.start + 31) = false) ∧
    (word.toInt32.toBitVec.negOverflow = true ↔ m.Overlong f ∧ m.bits f.start 31 = 0) ∧
    (m.signed f).toInt =
      if m.Overlong f ∧ m.bits f.start 31 ≠ 0 then 2 ^ 32 - (word.toNat : Int)
      else -(word.toNat : Int) := by
  intro word
  have hlt : word.toNat < 2 ^ 32 := word.toNat_lt
  have hfits : word.toNat < 2 ^ 31 ↔ f.length ≤ 32 ∨ m.bit (f.start + 31) = false := by
    rw [← Nat.not_le, m.two_pow_le_magnitude_iff, Overlong, not_and_or, Nat.not_lt,
      Bool.not_eq_true]
    rfl
  refine ⟨h.signed_eq, ?fits, ?same, ?overflows, ?value⟩
  case fits =>
    rw [← hfits]
    omega
  case same =>
    rw [← hfits, toInt_toInt32_eq_ite]
    split_ifs <;> omega
  case overflows => exact (negOverflow_toInt32 word).trans (m.magnitude_eq_two_pow_iff f)
  case value =>
    rw [h.signed_eq, toInt_neg_toInt32]
    simp only [two_pow_lt_magnitude_iff]
    rfl

/-- Three words of which a field of 33 bits has its sign in the last. All ones is read as one, and
the digit that is too many alone as its own negative. In 32 bits all ones is read as it should be. -/
theorem negated_exactly_iff_ones :
    let ones : Image 3 := ⟨[0xffff, 0xffff, 1], rfl⟩
    let lone : Image 3 := ⟨[0, 0x8000, 1], rfl⟩
    ones.Negates ⟨0, 33⟩ ∧ ones.signed ⟨0, 33⟩ = 1 ∧
      ¬ (ones.magnitude ⟨0, 33⟩).toNat ≤ 2 ^ 31 - 1 ∧
      lone.signed ⟨0, 33⟩ = Int32.minValue ∧
      (lone.magnitude ⟨0, 33⟩).toInt32.toBitVec.negOverflow = true ∧
      (ones.signed ⟨0, 32⟩).toInt = -(2 ^ 31 - 1) := by
  intro ones lone
  have hones : ones.Negates ⟨0, 33⟩ := by decide
  have hlone : lone.Negates ⟨0, 33⟩ := by decide
  have hshort : ones.Negates ⟨0, 32⟩ := by decide
  obtain ⟨-, hfits, -, -, hvalue⟩ := negated_exactly_iff ones ⟨0, 33⟩ hones
  obtain ⟨hleast, -, -, hoverflows, -⟩ := negated_exactly_iff lone ⟨0, 33⟩ hlone
  obtain ⟨-, -, -, -, hvalue'⟩ := negated_exactly_iff ones ⟨0, 32⟩ hshort
  exact ⟨hones, by decide, by rw [hfits]; decide, hleast.trans (by decide),
    hoverflows.mpr (by decide), hvalue'.trans (by decide)⟩

end Image

end ClimateBus
