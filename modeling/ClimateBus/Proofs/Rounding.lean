import ClimateBus.Register.Image
import ClimateBus.Proofs.Fields
import Mathlib

/-!
Error bounds for binary floating point, and tenths of a degree.

A quotient in the normal range is rounded to a significand times a power of two that differs from
it by at most the 24th binary digit of the result. A temperature in tenths passes three roundings
on its way to degrees and back, so it comes back with an error far below one half and the last
rounding restores it. Overflow is excluded by hypothesis, nothing is said about it here.
-/
namespace ClimateBus

/-- A quotient is its whole part and a fraction below one. -/
theorem cast_div_eq (num : Nat) {den : Nat} (hden : 0 < den) :
    (num : ℚ) / den = (num / den : Nat) + (num % den : Nat) / den := by
  have hd : (den : ℚ) ≠ 0 := by exact_mod_cast hden.ne'
  rw [div_eq_iff hd, add_mul, div_mul_cancel₀ _ hd]
  exact_mod_cast (Nat.div_add_mod' num den).symm

/-- Off the middle of two neighbours a quotient is rounded to the nearer one. -/
theorem roundDiv_error_lt (tie : Tie) {num den : Nat} (hden : 0 < den)
    (hmid : 2 * (num % den) ≠ den) : |(roundDiv tie num den : ℚ) - num / den| < 1 / 2 := by
  have hd : (0 : ℚ) < den := by exact_mod_cast hden
  have hlt : ((num % den : Nat) : ℚ) / den < 1 := by
    rw [div_lt_one hd]
    exact_mod_cast Nat.mod_lt num hden
  have hnonneg : 0 ≤ ((num % den : Nat) : ℚ) / den := by positivity
  rcases lt_or_gt_of_ne hmid with hlow | hhigh
  · have hhalf : ((num % den : Nat) : ℚ) / den < 1 / 2 := by
      rw [div_lt_iff₀ hd]
      have : (2 : ℚ) * (num % den : Nat) < den := by exact_mod_cast hlow
      linarith
    simp only [roundDiv, hlow, if_true]
    rw [cast_div_eq num hden, abs_lt]
    constructor <;> linarith
  · have hhalf : 1 / 2 < ((num % den : Nat) : ℚ) / den := by
      rw [lt_div_iff₀ hd]
      have : (den : ℚ) < 2 * (num % den : Nat) := by exact_mod_cast hhigh
      linarith
    simp only [roundDiv, hhigh, hhigh.le.not_gt, if_true, if_false]
    rw [cast_div_eq num hden, abs_lt]
    push_cast
    constructor <;> linarith

/-- At the middle of two neighbours a quotient is rounded to one of them. -/
theorem roundDiv_error_eq (tie : Tie) {num den : Nat} (hden : 0 < den)
    (hmid : 2 * (num % den) = den) : |(roundDiv tie num den : ℚ) - num / den| = 1 / 2 := by
  have hd : (den : ℚ) ≠ 0 := by exact_mod_cast hden.ne'
  have hhalf : ((num % den : Nat) : ℚ) / den = 1 / 2 := by
    rw [div_eq_iff hd]
    have : (2 : ℚ) * (num % den : Nat) = den := by exact_mod_cast hmid
    linarith
  have hnext : roundDiv tie num den = num / den ∨ roundDiv tie num den = num / den + 1 := by
    simp only [roundDiv, hmid, lt_irrefl, if_false]
    cases tie with
    | up => exact .inr rfl
    | even => rcases Nat.mod_two_eq_zero_or_one (num / den) with h | h <;> simp [h]
  rw [cast_div_eq num hden, hhalf]
  rcases hnext with h | h
  · rw [h, sub_add_cancel_left, abs_neg, abs_of_pos (by norm_num)]
  · rw [h, Nat.cast_succ, add_sub_add_left_eq_sub]
    norm_num

/-- A quotient is rounded to a neighbour, at a distance of at most one half. -/
theorem roundDiv_error (tie : Tie) (num : Nat) {den : Nat} (hden : 0 < den) :
    |(roundDiv tie num den : ℚ) - num / den| ≤ 1 / 2 := by
  by_cases hmid : 2 * (num % den) = den
  · exact (roundDiv_error_eq tie hden hmid).le
  · exact (roundDiv_error_lt tie hden hmid).le

theorem le_roundDiv {tie : Tie} {num den k : Nat} (hden : 0 < den) (h : (k : ℚ) ≤ num / den) :
    k ≤ roundDiv tie num den := by
  obtain ⟨hlow, -⟩ := abs_le.mp (roundDiv_error tie num hden)
  have hlt : (k : ℚ) < roundDiv tie num den + 1 := by linarith
  exact Nat.lt_succ_iff.mp (by exact_mod_cast hlt)

theorem roundDiv_le {tie : Tie} {num den k : Nat} (hden : 0 < den) (h : (num : ℚ) / den ≤ k) :
    roundDiv tie num den ≤ k := by
  obtain ⟨-, hhigh⟩ := abs_le.mp (roundDiv_error tie num hden)
  have hlt : (roundDiv tie num den : ℚ) < k + 1 := by linarith
  exact Nat.lt_succ_iff.mp (by exact_mod_cast hlt)

namespace Ratio

/-- A quotient of positive numbers. -/
structure Positive (x : Ratio) : Prop where
  num : 0 < x.num
  den : 0 < x.den

def toRat (x : Ratio) : ℚ := x.num / x.den

theorem toRat_pos {x : Ratio} (hnum : 0 < x.num) (hden : 0 < x.den) : 0 < x.toRat := by
  unfold toRat
  positivity

theorem two_zpow_of_nonneg {e : ℤ} (he : 0 ≤ e) : (2 : ℚ) ^ e = (2 ^ e.toNat : Nat) := by
  conv_lhs => rw [← Int.toNat_of_nonneg he, zpow_natCast]
  push_cast
  rfl

theorem Positive.shift {x : Ratio} (h : x.Positive) (e : ℤ) : (x.shift e).Positive := by
  have hn := h.num
  have hd := h.den
  unfold Ratio.shift
  simp only [Nat.shiftLeft_eq]
  split_ifs
  · exact ⟨hn, by positivity⟩
  · exact ⟨by positivity, hd⟩

theorem toRat_shift (x : Ratio) (e : ℤ) : (x.shift e).toRat = x.toRat / 2 ^ e := by
  unfold Ratio.shift toRat
  simp only [Nat.shiftLeft_eq]
  split_ifs with he
  · rw [two_zpow_of_nonneg he, div_div]
    push_cast
    rfl
  · have hneg : (2 : ℚ) ^ e = ((2 ^ (-e).toNat : Nat) : ℚ)⁻¹ := by
      rw [← two_zpow_of_nonneg (by omega), zpow_neg, inv_inv]
    rw [hneg, div_inv_eq_mul]
    push_cast
    ring

theorem positive_ofScaled {m : Nat} (hm : 0 < m) (e : ℤ) : (ofScaled m e).Positive :=
  Positive.shift ⟨hm, Nat.one_pos⟩ _

theorem toRat_ofScaled (m : Nat) (e : ℤ) : (ofScaled m e).toRat = m * 2 ^ e := by
  rw [ofScaled, toRat_shift, zpow_neg, div_inv_eq_mul]
  simp [toRat]

/-- The binary logarithm of a positive quotient is exact. -/
theorem log2_spec {x : Ratio} (h : x.Positive) :
    (2 : ℚ) ^ x.log2 ≤ x.toRat ∧ x.toRat < 2 ^ (x.log2 + 1) := by
  have two_pos : (0 : ℚ) < 2 := by norm_num
  have hn : (0 : ℚ) < x.num := by exact_mod_cast h.num
  have hd : (0 : ℚ) < x.den := by exact_mod_cast h.den
  have hnlow : (2 : ℚ) ^ (x.num.log2 : ℤ) ≤ x.num := by
    rw [zpow_natCast]
    exact_mod_cast Nat.log2_self_le h.num.ne'
  have hnhigh : (x.num : ℚ) < 2 ^ ((x.num.log2 : ℤ) + 1) := by
    exact_mod_cast (Nat.lt_log2_self : x.num < _)
  have hdlow : (2 : ℚ) ^ (x.den.log2 : ℤ) ≤ x.den := by
    rw [zpow_natCast]
    exact_mod_cast Nat.log2_self_le h.den.ne'
  have hdhigh : (x.den : ℚ) < 2 ^ ((x.den.log2 : ℤ) + 1) := by
    exact_mod_cast (Nat.lt_log2_self : x.den < _)
  -- The difference of the two logarithms is the answer or one too large.
  set guess : ℤ := (x.num.log2 : ℤ) - (x.den.log2 : ℤ) with hguess
  have hlow : (2 : ℚ) ^ (guess - 1) ≤ x.toRat := by
    rw [toRat, le_div_iff₀ hd]
    calc (2 : ℚ) ^ (guess - 1) * x.den ≤ 2 ^ (guess - 1) * 2 ^ ((x.den.log2 : ℤ) + 1) := by gcongr
      _ = 2 ^ (x.num.log2 : ℤ) := by rw [← zpow_add₀ two_pos.ne', hguess]; congr 1; ring
      _ ≤ x.num := hnlow
  have hhigh : x.toRat < 2 ^ (guess + 1) := by
    rw [toRat, div_lt_iff₀ hd]
    calc (x.num : ℚ) < 2 ^ ((x.num.log2 : ℤ) + 1) := hnhigh
      _ = 2 ^ (guess + 1) * 2 ^ (x.den.log2 : ℤ) := by
        rw [← zpow_add₀ two_pos.ne', hguess]; congr 1; ring
      _ ≤ 2 ^ (guess + 1) * x.den := by gcongr
  have hcompare : (x.shift guess).den ≤ (x.shift guess).num ↔ (2 : ℚ) ^ guess ≤ x.toRat := by
    have hshift := h.shift guess
    have hden : (0 : ℚ) < (x.shift guess).den := by exact_mod_cast hshift.den
    have hrat := x.toRat_shift guess
    rw [← one_le_div₀ (zpow_pos two_pos _), ← hrat, toRat, one_le_div₀ hden, Nat.cast_le]
  have hlog : x.log2 = if (x.shift guess).den ≤ (x.shift guess).num then guess else guess - 1 := rfl
  rw [hlog]
  split_ifs with hle
  · exact ⟨hcompare.mp hle, hhigh⟩
  · rw [sub_add_cancel]
    exact ⟨hlow, not_le.mp (mt hcompare.mpr hle)⟩

/-- Measured in steps that leave it `k` binary digits and one before them, a quotient is rounded to
a number of that many digits, or to the next power of two. -/
theorem Positive.roundDiv_bounds {x : Ratio} (h : x.Positive) (tie : Tie) (k : Nat) :
    2 ^ k ≤ roundDiv tie (x.shift (x.log2 - k)).num (x.shift (x.log2 - k)).den ∧
      roundDiv tie (x.shift (x.log2 - k)).num (x.shift (x.log2 - k)).den ≤ 2 * 2 ^ k := by
  have two_pos : (0 : ℚ) < 2 := by norm_num
  obtain ⟨hlog, hlog'⟩ := log2_spec h
  have hden := (h.shift (x.log2 - k)).den
  have hpow : (0 : ℚ) < 2 ^ (x.log2 - k) := zpow_pos two_pos _
  have hlow : (2 : ℚ) ^ k ≤ (x.shift (x.log2 - k)).toRat := by
    rwa [x.toRat_shift, le_div_iff₀ hpow, ← zpow_natCast, ← zpow_add₀ two_pos.ne',
      add_sub_cancel]
  have hhigh : (x.shift (x.log2 - k)).toRat < 2 ^ (k + 1) := by
    have hexp : ((k + 1 : Nat) : ℤ) + (x.log2 - k) = x.log2 + 1 := by omega
    rwa [x.toRat_shift, div_lt_iff₀ hpow, ← zpow_natCast, ← zpow_add₀ two_pos.ne', hexp]
  rw [pow_succ'] at hhigh
  refine ⟨le_roundDiv hden ?_, roundDiv_le hden ?_⟩
  · exact_mod_cast hlow
  · exact_mod_cast hhigh.le

end Ratio

/-- The same number with another sign. -/
def BinaryValue.withSign (negative : Bool) : BinaryValue → BinaryValue
  | .nan => .nan
  | .infinite _ => .infinite negative
  | .finite _ m e => .finite negative m e

namespace BinaryFormat

variable (f : BinaryFormat)

theorem signWeight_eq (hdigits : 0 < f.digits) :
    f.signWeight = 2 ^ f.exponentBits * 2 ^ (f.digits - 1) := by
  rw [signWeight, Nat.one_shiftLeft, ← Nat.pow_add]
  congr 1
  omega

theorem infinity_lt_signWeight (hdigits : 0 < f.digits) : f.infinity < f.signWeight := by
  rw [f.signWeight_eq hdigits, infinity, Nat.shiftLeft_eq, Nat.one_shiftLeft]
  have hbits : 0 < 2 ^ f.exponentBits := by positivity
  exact Nat.mul_lt_mul_of_pos_right (by omega) (by positivity)

theorem nearest_le_infinity (x : Ratio) : f.nearest x ≤ f.infinity := by
  unfold nearest
  split_ifs
  · exact Nat.zero_le _
  · exact Nat.min_le_left _ _

/-- The sign bit is apart from the rest of an encoding. -/
theorem decode_add_sign {magnitude : Nat} (h : magnitude < f.signWeight) (negative : Bool) :
    f.decode (magnitude + if negative then f.signWeight else 0) =
      (f.decode magnitude).withSign negative := by
  cases negative with
  | true =>
    have hneg : f.signWeight ≤ magnitude + f.signWeight := Nat.le_add_left _ _
    unfold decode
    simp only [if_true, hneg, decide_true]
    rw [Nat.add_mod_right, Nat.mod_eq_of_lt h]
    split_ifs <;> rfl
  | false =>
    simp only [Bool.false_eq_true, if_false, Nat.add_zero]
    unfold decode
    simp only [h.not_ge, decide_false]
    split_ifs <;> rfl

/-- Exponent and significand are laid side by side; a significand that reaches the next power of
two has moved on to the next exponent. -/
theorem decode_scaled (hdigits : 0 < f.digits) {k r : Nat} (hr : r ≤ 2 * 2 ^ (f.digits - 1))
    (hnormal : 2 ^ (f.digits - 1) ≤ r ∨ k = 0) (hfit : k * 2 ^ (f.digits - 1) + r < f.infinity) :
    ∃ m e, f.decode (k * 2 ^ (f.digits - 1) + r) = .finite false m e ∧
      (m : ℚ) * 2 ^ e = r * 2 ^ (f.lowest + k) := by
  have hweight := hfit.trans (f.infinity_lt_signWeight hdigits)
  have hneg : ¬ f.signWeight ≤ k * 2 ^ (f.digits - 1) + r := hweight.not_ge
  unfold decode
  rw [Nat.mod_eq_of_lt hweight, Nat.one_shiftLeft]
  simp only [hneg, hfit.ne, hfit.le.not_gt, decide_false, if_false]
  generalize hp : 2 ^ (f.digits - 1) = p at *
  have hpos : 0 < p := hp ▸ by positivity
  by_cases hsmall : r < p
  · obtain rfl : k = 0 := hnormal.resolve_left (by omega)
    simp only [Nat.zero_mul, Nat.zero_add, Nat.div_eq_of_lt hsmall, Nat.mod_eq_of_lt hsmall,
      if_true]
    exact ⟨r, f.lowest, rfl, by simp⟩
  by_cases hcarry : r < 2 * p
  · have hdiv : (k * p + r) / p = k + 1 := by
      rw [Nat.div_eq_of_lt_le] <;> nlinarith
    have hmod : (k * p + r) % p + p = r := by
      have hsplit := Nat.div_add_mod (k * p + r) p
      rw [hdiv] at hsplit
      linarith
    simp only [hdiv, hmod, Nat.add_one_ne_zero, if_false]
    exact ⟨r, _, rfl, by simp⟩
  · obtain rfl : r = 2 * p := by omega
    have hdiv : (k * p + 2 * p) / p = k + 2 := by
      rw [← Nat.add_mul, Nat.mul_div_cancel _ hpos]
    have hmod : (k * p + 2 * p) % p = 0 := by
      rw [← Nat.add_mul, Nat.mul_mod_left]
    simp only [hdiv, hmod, Nat.zero_add, show k + 2 ≠ 0 by omega, if_false]
    refine ⟨p, _, rfl, ?_⟩
    have hexp : f.lowest + ((k + 2 - 1 : Nat) : ℤ) = f.lowest + k + 1 := by omega
    rw [hexp, zpow_add_one₀ two_ne_zero]
    push_cast
    ring

end BinaryFormat

namespace Binary32

/-- The sign bit stands above the encoding of the magnitude. -/
theorem toNat_bits_ofRatio (negative : Bool) (x : Ratio) : (ofRatio negative x).bits.toNat =
    BinaryFormat.single.nearest x + if negative then BinaryFormat.single.signWeight else 0 := by
  have hle : BinaryFormat.single.nearest x ≤ 0x7f800000 := BinaryFormat.single.nearest_le_infinity x
  have hmagnitude : (UInt32.ofNat (BinaryFormat.single.nearest x)).toNat =
      BinaryFormat.single.nearest x := UInt32.toNat_ofNat_of_lt' (by simp only [UInt32.size]; omega)
  have hsign : (0x80000000 : UInt32).toNat = 2 ^ 31 := rfl
  have hweight : BinaryFormat.single.signWeight = 2 ^ 31 := rfl
  cases negative with
  | true =>
    simp only [ofRatio, if_true, UInt32.toNat_add, hmagnitude, hsign, hweight]
    omega
  | false => simp only [ofRatio, Bool.false_eq_true, if_false, hmagnitude, Nat.add_zero]

theorem value_ofRatio (negative : Bool) (x : Ratio) :
    (ofRatio negative x).value =
      (BinaryFormat.single.decode (BinaryFormat.single.nearest x)).withSign negative := by
  have hlt : BinaryFormat.single.nearest x < BinaryFormat.single.signWeight :=
    (BinaryFormat.single.nearest_le_infinity x).trans_lt
      (BinaryFormat.single.infinity_lt_signWeight (by decide))
  rw [value, toNat_bits_ofRatio, BinaryFormat.single.decode_add_sign hlt]

/-- The significand of a quotient, in steps that give it 24 digits. -/
def significand (x : Ratio) : Nat :=
  roundDiv .even (x.shift (x.log2 - 23)).num (x.shift (x.log2 - 23)).den

theorem significand_error {x : Ratio} (h : x.Positive) :
    |(significand x : ℚ) - x.toRat / 2 ^ (x.log2 - 23)| ≤ 1 / 2 := by
  rw [← x.toRat_shift]
  exact roundDiv_error .even _ (h.shift _).den

theorem significand_bounds {x : Ratio} (h : x.Positive) :
    2 ^ 23 ≤ significand x ∧ significand x ≤ 2 * 2 ^ 23 := h.roundDiv_bounds .even 23

/-- In the normal range exponent and significand are laid side by side. -/
theorem nearest_normal {x : Ratio} (h : x.Positive) (hmin : -126 ≤ x.log2) (hmax : x.log2 < 127) :
    BinaryFormat.single.nearest x = (x.log2 + 126).toNat * 2 ^ 23 + significand x := by
  have hstep : max BinaryFormat.single.lowest
      (x.log2 - ((BinaryFormat.single.digits : ℤ) - 1)) = x.log2 - 23 := by
    change max (-149 : ℤ) (x.log2 - (24 - 1)) = x.log2 - 23
    omega
  have hexponent : x.log2 - 23 - BinaryFormat.single.lowest = x.log2 + 126 := by
    change x.log2 - 23 - (-149) = x.log2 + 126
    omega
  have hunfold : BinaryFormat.single.nearest x =
      min 0x7f800000 ((x.log2 + 126).toNat * 2 ^ 23 + significand x) := by
    unfold BinaryFormat.nearest
    rw [if_neg h.num.ne']
    simp only [hstep, hexponent, Nat.shiftLeft_eq]
    rfl
  obtain ⟨-, hhigh⟩ := significand_bounds h
  rw [hunfold]
  omega

theorem significand_pos {m : Nat} {e : ℤ} (h : (0 : ℚ) < m * 2 ^ e) : 0 < m :=
  Nat.cast_pos.mp (pos_of_mul_pos_left h (zpow_pos two_pos e).le)

/-- In the normal range the rounded quotient is a finite number with the asked sign, and off by at
most one part in 2 ^ 24. -/
theorem ofRatio_error (negative : Bool) {x : Ratio} (h : x.Positive)
    (hlow : (2 : ℚ) ^ (-126 : ℤ) ≤ x.toRat) (hhigh : x.toRat < 2 ^ (127 : ℤ)) :
    ∃ m e, 0 < m ∧ (ofRatio negative x).value = .finite negative m e ∧
      |(m : ℚ) * 2 ^ e - x.toRat| ≤ m * 2 ^ e / 2 ^ 24 := by
  have two_pos : (0 : ℚ) < 2 := by norm_num
  have two_gt : (1 : ℚ) < 2 := by norm_num
  obtain ⟨hlog, hlog'⟩ := Ratio.log2_spec h
  have hmin : -126 ≤ x.log2 := by
    have := (zpow_lt_zpow_iff_right₀ two_gt).mp (hlow.trans_lt hlog')
    omega
  have hmax : x.log2 < 127 := (zpow_lt_zpow_iff_right₀ two_gt).mp (hlog.trans_lt hhigh)
  obtain ⟨hrlow, hrhigh⟩ := significand_bounds h
  have herror := significand_error h
  have hnearest := nearest_normal h hmin hmax
  generalize significand x = r at *
  obtain ⟨m, e, hdecode, hvalue⟩ := BinaryFormat.single.decode_scaled (by decide) hrhigh
    (.inl hrlow) (show (x.log2 + 126).toNat * 2 ^ 23 + r < 0x7f800000 by omega)
  have hexp : BinaryFormat.single.lowest + ((x.log2 + 126).toNat : ℤ) = x.log2 - 23 := by
    change -149 + ((x.log2 + 126).toNat : ℤ) = x.log2 - 23
    omega
  rw [hexp] at hvalue
  have hpow : (0 : ℚ) < 2 ^ (x.log2 - 23) := zpow_pos two_pos _
  have hrq : (2 : ℚ) ^ 23 ≤ r := by exact_mod_cast hrlow
  refine ⟨m, e, ?_, ?_, ?_⟩
  · refine significand_pos (e := e) ?_
    rw [hvalue]
    exact mul_pos (by linarith) hpow
  · rw [value_ofRatio, hnearest]
    exact congrArg (BinaryValue.withSign negative) hdecode
  · have hdist : (r : ℚ) * 2 ^ (x.log2 - 23) - x.toRat =
        (r - x.toRat / 2 ^ (x.log2 - 23)) * 2 ^ (x.log2 - 23) := by
      rw [sub_mul, div_mul_cancel₀ _ hpow.ne']
    rw [hvalue, hdist, abs_mul, abs_of_pos hpow]
    calc |(r : ℚ) - x.toRat / 2 ^ (x.log2 - 23)| * 2 ^ (x.log2 - 23)
        ≤ 1 / 2 * 2 ^ (x.log2 - 23) := by gcongr
      _ ≤ r * 2 ^ (x.log2 - 23) / 2 ^ 24 := by
        rw [le_div_iff₀ (by norm_num)]
        nlinarith

/-- A product with a quotient is the exact product, rounded. -/
theorem scale_eq_ofRatio {c : Binary32} {negative : Bool} {m : Nat} {e : ℤ}
    (hc : c.value = .finite negative m e) (hm : 0 < m) {num den : Nat} (hnum : 0 < num)
    (hden : 0 < den) : ∃ x : Ratio, x.Positive ∧ x.toRat = m * 2 ^ e * (num / den) ∧
      c.scale num den = ofRatio negative x := by
  have hpos := Ratio.positive_ofScaled hm e
  refine ⟨⟨(Ratio.ofScaled m e).num * num, (Ratio.ofScaled m e).den * den⟩,
    ⟨Nat.mul_pos hpos.num hnum, Nat.mul_pos hpos.den hden⟩, ?_, ?_⟩
  · rw [← Ratio.toRat_ofScaled, Ratio.toRat, Ratio.toRat]
    push_cast
    rw [mul_div_mul_comm]
  · unfold scale
    rw [hc]

/-- One product with a quotient adds one rounding. -/
theorem scale_error {c : Binary32} {negative : Bool} {m : Nat} {e : ℤ}
    (hc : c.value = .finite negative m e) (hm : 0 < m) {num den : Nat} (hnum : 0 < num)
    (hden : 0 < den) (hlow : (2 : ℚ) ^ (-126 : ℤ) ≤ m * 2 ^ e * (num / den))
    (hhigh : (m : ℚ) * 2 ^ e * (num / den) < 2 ^ (127 : ℤ)) :
    ∃ m' e', 0 < m' ∧ (c.scale num den).value = .finite negative m' e' ∧
      |(m' : ℚ) * 2 ^ e' - m * 2 ^ e * (num / den)| ≤ m' * 2 ^ e' / 2 ^ 24 := by
  obtain ⟨x, hpos, hrat, hscale⟩ := scale_eq_ofRatio hc hm hnum hden
  rw [hscale, ← hrat]
  exact ofRatio_error negative hpos (hrat ▸ hlow) (hrat ▸ hhigh)

/-- A number nearer to an integer than one half is rounded to it. -/
theorem roundToInt_of_near {c : Binary32} {negative : Bool} {m : Nat} {e : ℤ}
    (hc : c.value = .finite negative m e) (hm : 0 < m) {k : Nat} (hk : k < 2 ^ 31)
    (hnear : |(m : ℚ) * 2 ^ e - k| < 1 / 2) :
    c.roundToInt = Int32.ofInt (if negative then -(k : ℤ) else k) := by
  have herror := roundDiv_error .up (Ratio.ofScaled m e).num (Ratio.positive_ofScaled hm e).den
  have hrat : ((Ratio.ofScaled m e).num : ℚ) / (Ratio.ofScaled m e).den = m * 2 ^ e :=
    Ratio.toRat_ofScaled m e
  rw [hrat] at herror
  set r := roundDiv .up (Ratio.ofScaled m e).num (Ratio.ofScaled m e).den
  obtain ⟨hlow, hhigh⟩ := abs_le.mp herror
  obtain ⟨hlow', hhigh'⟩ := abs_lt.mp hnear
  have hrk : r = k := by
    have h1 : (r : ℚ) < k + 1 := by linarith
    have h2 : (k : ℚ) < r + 1 := by linarith
    have h1 : r < k + 1 := by exact_mod_cast h1
    have h2 : k < r + 1 := by exact_mod_cast h2
    omega
  have hmax : Int32.maxValue.toInt = 2 ^ 31 - 1 := rfl
  have hmin : Int32.minValue.toInt = -2 ^ 31 := rfl
  have hunfold : c.roundToInt = Int32.ofInt (max Int32.minValue.toInt
      (min Int32.maxValue.toInt (if negative then -(r : ℤ) else r))) := by
    unfold roundToInt
    rw [hc]
  rw [hunfold, hrk, hmax, hmin]
  congr 1
  split_ifs <;> omega

end Binary32

/-- Tenths of a degree that fit a signed field of 16 bits survive the way to degrees and back. -/
theorem Celsius.tenths_ofTenths {t : Int32} (ht : t.toInt.natAbs < 2 ^ 15) :
    (Celsius.ofTenths t).tenths = t := by
  rcases Nat.eq_zero_or_pos t.toInt.natAbs with hzero | hpos
  · have : t = 0 := Int32.toInt_inj.mp (by simpa using hzero)
    subst this
    rfl
  obtain ⟨k, hk⟩ : ∃ k, k = t.toInt.natAbs := ⟨_, rfl⟩
  rw [← hk] at ht hpos
  have hk1 : (1 : ℚ) ≤ k := by exact_mod_cast hpos
  have hk2 : (k : ℚ) < 2 ^ 15 := by exact_mod_cast ht
  -- All numbers on the way are of moderate size, far inside the normal range.
  have htiny {q : ℚ} (hq : 1 / 100 ≤ q) : (2 : ℚ) ^ (-126 : ℤ) ≤ q :=
    (show (2 : ℚ) ^ (-126 : ℤ) ≤ 1 / 100 by norm_num).trans hq
  have hhuge {q : ℚ} (hq : q < 2 ^ 30) : q < (2 : ℚ) ^ (127 : ℤ) :=
    hq.trans (show (2 : ℚ) ^ 30 < 2 ^ (127 : ℤ) by norm_num)
  -- The three roundings in turn: the whole number, the division by ten, the product with ten.
  have hrat : (⟨t.toInt.natAbs, 1⟩ : Ratio).toRat = k := by simp [Ratio.toRat, hk]
  obtain ⟨m₁, e₁, hm₁, hv₁, herr₁⟩ := Binary32.ofRatio_error (decide (t.toInt < 0))
    (⟨hk ▸ hpos, Nat.one_pos⟩ : (⟨t.toInt.natAbs, 1⟩ : Ratio).Positive)
    (htiny (by rw [hrat]; linarith)) (hhuge (by rw [hrat]; linarith))
  rw [hrat] at herr₁
  obtain ⟨hlow₁, hhigh₁⟩ := abs_le.mp herr₁
  obtain ⟨m₂, e₂, hm₂, hv₂, herr₂⟩ := Binary32.scale_error hv₁ hm₁ Nat.one_pos (Nat.succ_pos 9)
    (htiny (by push_cast; linarith)) (hhuge (by push_cast; linarith))
  push_cast at herr₂
  obtain ⟨hlow₂, hhigh₂⟩ := abs_le.mp herr₂
  obtain ⟨m₃, e₃, hm₃, hv₃, herr₃⟩ := Binary32.scale_error hv₂ hm₂ (Nat.succ_pos 9) Nat.one_pos
    (htiny (by push_cast; linarith)) (hhuge (by push_cast; linarith))
  push_cast at herr₃
  obtain ⟨hlow₃, hhigh₃⟩ := abs_le.mp herr₃
  have hround := Binary32.roundToInt_of_near hv₃ hm₃ (ht.trans (by norm_num))
    (by rw [abs_lt]; constructor <;> linarith)
  have hsign : (if decide (t.toInt < 0) then -(k : ℤ) else k) = t.toInt := by
    by_cases hneg : t.toInt < 0
    · simp only [hneg, decide_true, if_true]
      omega
    · simp only [hneg, decide_false, Bool.false_eq_true, if_false]
      omega
  rw [hsign, Int32.ofInt_toInt] at hround
  exact hround

/-- What a field of at most 16 bits holds is read as degrees and written as tenths again. -/
theorem Image.tenths_temperature {n : Nat} (m : Image n) {f : Field} (htwo : 2 ≤ f.length)
    (hlength : f.length ≤ 16) : (m.temperature f).tenths = m.signed f := by
  have hbits : f.length ≤ maxFieldBits := hlength.trans (by decide)
  have hpow : 2 ^ (f.length - 1) ≤ 2 ^ 15 := Nat.pow_le_pow_right (by decide) (by omega)
  exact Celsius.tenths_ofTenths ((m.natAbs_signed_lt htwo hbits).trans_le hpow)

end ClimateBus
