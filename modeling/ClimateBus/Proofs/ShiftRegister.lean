import ClimateBus.Frame.Request
import Mathlib

/-!
The check register as a linear map.

A shift of the register is linear in exclusive or and loses nothing (`shift_xor`,
`shift_injective`), so two runs over frames of one length differ by what their difference becomes
under shifts alone (`foldl_step_xor`). A frame whose check bytes are taken into the register too
comes out as zero exactly if it carries its own check (`matches_iff`).
-/
namespace ClimateBus

namespace Checksum

/-- The frame carries the check of its own body. -/
def Matches (frame : Bytes) : Prop := ∃ check, split frame = some (check, check)

section Shift

/-- What the low bit adds when it is shifted out. -/
def feedback (c : UInt16) : UInt16 := if c.toNat % 2 = 1 then polynomial else 0

theorem low_bit_iff (c : UInt16) : c &&& 1 = 1 ↔ c.toNat % 2 = 1 := by
  rw [← UInt16.toNat_inj, UInt16.toNat_and]
  show c.toNat &&& 1 = 1 ↔ c.toNat % 2 = 1
  rw [Nat.and_one_is_mod]

theorem shift_eq (c : UInt16) : shift c = c >>> 1 ^^^ feedback c := by
  unfold shift feedback
  by_cases h : c.toNat % 2 = 1
  · rw [if_pos ((low_bit_iff c).mpr h), if_pos h]
  · rw [if_neg (mt (low_bit_iff c).mp h), if_neg h, UInt16.xor_zero]

theorem toNat_shiftRight_one (c : UInt16) : (c >>> 1).toNat = c.toNat / 2 := by
  rw [UInt16.toNat_shiftRight]
  show c.toNat >>> 1 = c.toNat / 2
  rw [Nat.shiftRight_one]

theorem feedback_xor (a b : UInt16) : feedback (a ^^^ b) = feedback a ^^^ feedback b := by
  unfold feedback
  rw [UInt16.toNat_xor, Nat.xor_mod_two_eq]
  rcases Nat.mod_two_eq_zero_or_one a.toNat with ha | ha <;>
    rcases Nat.mod_two_eq_zero_or_one b.toNat with hb | hb <;>
    simp [Nat.add_mod, ha, hb]

theorem shift_xor (a b : UInt16) : shift (a ^^^ b) = shift a ^^^ shift b := by
  rw [shift_eq, shift_eq, shift_eq, feedback_xor, UInt16.shiftRight_xor]
  ac_rfl

theorem shift_zero : shift 0 = 0 := rfl

theorem shift_eq_zero {c : UInt16} (h : shift c = 0) : c = 0 := by
  rw [shift_eq, UInt16.xor_eq_zero_iff] at h
  have hc := c.toNat_lt
  have hhalf := congrArg UInt16.toNat h
  rw [toNat_shiftRight_one] at hhalf
  rw [← UInt16.toNat_inj]
  unfold feedback at hhalf
  split_ifs at hhalf with hodd
  · -- The polynomial has the highest bit, which no shifted register has.
    have hpolynomial : polynomial.toNat = 0xA001 := rfl
    omega
  · have hzero : (0 : UInt16).toNat = 0 := rfl
    omega

theorem shift_injective : Function.Injective shift := by
  intro a b h
  rw [← UInt16.xor_eq_zero_iff]
  apply shift_eq_zero
  rw [shift_xor, h, UInt16.xor_self]

theorem iterate_shift_zero (n : Nat) : shift^[n] 0 = 0 :=
  Function.iterate_fixed shift_zero n

theorem iterate_shift_xor (n : Nat) (a b : UInt16) :
    shift^[n] (a ^^^ b) = shift^[n] a ^^^ shift^[n] b := by
  induction n with
  | zero => rfl
  | succ n ih => rw [Function.iterate_succ_apply', ih, shift_xor, Function.iterate_succ_apply',
      Function.iterate_succ_apply']

theorem iterate_shift_eq_zero_iff {n : Nat} {c : UInt16} : shift^[n] c = 0 ↔ c = 0 := by
  constructor
  · intro h
    rw [← iterate_shift_zero n] at h
    exact shift_injective.iterate n h
  · rintro rfl
    exact iterate_shift_zero n

/-- A word whose low bits are clear only moves down. -/
theorem iterate_shift_shiftLeft {k w : Nat} (h : w <<< k < 2 ^ 16) :
    shift^[k] (UInt16.ofNat (w <<< k)) = UInt16.ofNat w := by
  induction k with
  | zero => rfl
  | succ k ih =>
    have hdouble : w <<< (k + 1) = 2 * (w <<< k) := by
      rw [Nat.shiftLeft_succ]
    rw [hdouble] at h ⊢
    have hnat : (UInt16.ofNat (2 * (w <<< k))).toNat = 2 * (w <<< k) := UInt16.toNat_ofNat_of_lt' h
    have hhalf : (UInt16.ofNat (w <<< k)).toNat = w <<< k :=
      UInt16.toNat_ofNat_of_lt' (by simp only [UInt16.size]; omega)
    have hstep : shift (UInt16.ofNat (2 * (w <<< k))) = UInt16.ofNat (w <<< k) := by
      have heven : feedback (UInt16.ofNat (2 * (w <<< k))) = 0 := by
        unfold feedback
        rw [if_neg (by omega)]
      rw [shift_eq, heven, UInt16.xor_zero, ← UInt16.toNat_inj, toNat_shiftRight_one, hnat, hhalf]
      omega
    rw [Function.iterate_succ_apply, hstep]
    exact ih (by omega)

end Shift

section Frames

/-- A byte is added to the register, which then is shifted once for each of its bits. -/
theorem step_eq (c : UInt16) (byte : UInt8) : step c byte = shift^[8] (c ^^^ byte.toUInt16) := by
  rw [step, List.foldl_const, List.length_range]

/-- What is added to the register before some bytes is shifted along while they are taken in. -/
theorem foldl_step_xor (c d : UInt16) (bytes : Bytes) :
    bytes.foldl step (c ^^^ d) = bytes.foldl step c ^^^ shift^[8 * bytes.length] d := by
  induction bytes generalizing c d with
  | nil => rfl
  | cons byte rest ih =>
    have hstep : step (c ^^^ d) byte = step c byte ^^^ shift^[8] d := by
      rw [step_eq, step_eq, ← iterate_shift_xor]
      congr 1
      ac_rfl
    rw [List.foldl_cons, hstep, ih, List.foldl_cons, ← Function.iterate_add_apply,
      List.length_cons, Nat.mul_succ]

/-- The check bytes make one word, the low byte first. -/
theorem wordOf_eq (high low : UInt8) :
    wordOf high low = low.toUInt16 ^^^ UInt16.ofNat (high.toNat <<< 8) := by
  have hhigh := high.toNat_lt
  have hlow := low.toNat_lt
  have hshifted : high.toNat <<< 8 < 2 ^ 16 := by
    rw [Nat.shiftLeft_eq]
    omega
  have hnat : (UInt16.ofNat (high.toNat <<< 8)).toNat = high.toNat <<< 8 :=
    UInt16.toNat_ofNat_of_lt' hshifted
  rw [← UInt16.toNat_inj, UInt16.toNat_xor, hnat, wordOf, UInt16.toNat_or,
    UInt16.toNat_shiftLeft, UInt8.toNat_toUInt16, UInt8.toNat_toUInt16]
  show high.toNat <<< 8 % 2 ^ 16 ||| low.toNat = low.toNat ^^^ high.toNat <<< 8
  rw [Nat.mod_eq_of_lt hshifted]
  apply Nat.eq_of_testBit_eq
  intro i
  rw [Nat.testBit_or, Nat.testBit_xor, Nat.testBit_shiftLeft]
  by_cases hi : 8 ≤ i
  · have hnone : low.toNat.testBit i = false :=
      Nat.testBit_lt_two_pow (hlow.trans_le (Nat.pow_le_pow_right (by decide) hi))
    simp [hnone]
  · simp [hi]

theorem step_step (c : UInt16) (low high : UInt8) :
    step (step c low) high = shift^[16] (c ^^^ wordOf high low) := by
  have hhigh : shift^[8] (UInt16.ofNat (high.toNat <<< 8)) = high.toUInt16 := by
    have hlt := high.toNat_lt
    rw [iterate_shift_shiftLeft (by rw [Nat.shiftLeft_eq]; omega)]
    exact UInt16.ofNat_uInt8ToNat high
  calc step (step c low) high
      = shift^[8] (shift^[8] (c ^^^ low.toUInt16) ^^^ high.toUInt16) := by rw [step_eq, step_eq]
    _ = shift^[8] (shift^[8] (c ^^^ low.toUInt16 ^^^ UInt16.ofNat (high.toNat <<< 8))) := by
      rw [iterate_shift_xor 8 (c ^^^ low.toUInt16), hhigh]
    _ = shift^[16] (c ^^^ wordOf high low) := by
      rw [← Function.iterate_add_apply, wordOf_eq, UInt16.xor_assoc]

theorem split_append (body : Bytes) (low high : UInt8) :
    split (body ++ [low, high]) = some (crc body, wordOf high low) := by
  simp [split]

theorem eq_append_of_two_le {frame : Bytes} (h : 2 ≤ frame.length) :
    ∃ body low high, frame = body ++ [low, high] := by
  obtain ⟨low, high, htail⟩ : ∃ low high, frame.drop (frame.length - 2) = [low, high] := by
    rw [← List.length_eq_two, List.length_drop]
    omega
  exact ⟨_, low, high, by rw [← htail, List.take_append_drop]⟩

theorem split_of_lt {frame : Bytes} (h : frame.length < 2) : split frame = none := by
  unfold split
  split
  next low high htail =>
    have hlength := congrArg List.length htail
    rw [List.length_drop] at hlength
    simp only [List.length_cons, List.length_nil] at hlength
    omega
  next => rfl

theorem crc_append (body : Bytes) (low high : UInt8) :
    crc (body ++ [low, high]) = shift^[16] (crc body ^^^ wordOf high low) := by
  rw [← step_step, crc, List.foldl_append]
  rfl

/-- A frame carries its own check exactly if the register is zero once all of it is taken in. -/
theorem matches_iff (frame : Bytes) : Matches frame ↔ 2 ≤ frame.length ∧ crc frame = 0 := by
  by_cases hlength : 2 ≤ frame.length
  · obtain ⟨body, low, high, rfl⟩ := eq_append_of_two_le hlength
    rw [crc_append, iterate_shift_eq_zero_iff, UInt16.xor_eq_zero_iff]
    simp only [Matches, split_append, Option.some.injEq, Prod.mk.injEq, hlength, true_and]
    constructor
    · rintro ⟨check, rfl, hcheck⟩
      exact hcheck.symm
    · intro h
      exact ⟨_, rfl, h.symm⟩
  · simp [Matches, split_of_lt (not_le.mp hlength), hlength]

end Frames

end Checksum

end ClimateBus
