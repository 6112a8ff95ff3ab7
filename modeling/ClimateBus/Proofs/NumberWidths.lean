import ClimateBus.Proofs.CommandRequests
import ClimateBus.Proofs.NearestNumber
import Mathlib

/-!
Numbers of two widths.

A quotient is rounded to infinity from half a step above the largest number on: the tie there goes
to infinity, because the largest number is odd (`BinaryFormat.nearest_lt_infinity_iff`). A quotient
that is a number of the format is rounded to its own encoding (`BinaryFormat.nearest_of_value`).

So a single-precision number is written in double precision exactly and read back bit by bit, the
sign of a zero included. The other way round a double-precision number is rounded once. It may be
finite and still become infinite, and `Binary32.IsRounded.finite_iff` says when.
-/
namespace ClimateBus

/-- An even number is reached from the middle below it on. -/
theorem le_roundDiv_even_iff {num den k : Nat} (hden : 0 < den) (hk : k % 2 = 0) :
    k ≤ roundDiv .even num den ↔ (k : ℚ) - 1 / 2 ≤ num / den := by
  have herror := abs_le.mp (roundDiv_error .even num hden)
  constructor
  · intro hle
    have hle : (k : ℚ) ≤ roundDiv .even num den := by exact_mod_cast hle
    linarith
  · intro hmiddle
    by_contra hlt
    have hbelow : roundDiv .even num den + 1 ≤ k := not_le.mp hlt
    have hbelow' : (roundDiv .even num den : ℚ) + 1 ≤ k := by exact_mod_cast hbelow
    -- Only the tie between `k - 1` and `k` is left, and it goes to the even one.
    have hquotient : (num : ℚ) / den = roundDiv .even num den + 1 / 2 := by linarith
    have hk' : (k : ℚ) = roundDiv .even num den + 1 := by linarith
    have hnext : roundDiv .even num den + 1 = k := by exact_mod_cast hk'.symm
    have hne : roundDiv .even num den ≠ k := by omega
    have heven := roundDiv_even_of_tie hden hne (by
      rw [hquotient, hk', sub_add_cancel_left, add_sub_add_left_eq_sub, abs_neg]
      norm_num)
    omega

/-- The logarithm of a number is bounded by its digits and its exponent. -/
theorem Ratio.Positive.log2_lt {x : Ratio} (h : x.Positive) {m k : Nat} {e : ℤ}
    (hx : x.toRat = m * 2 ^ e) (hm : m < 2 ^ k) : x.log2 < k + e := by
  obtain ⟨hlog, -⟩ := Ratio.log2_spec h
  have hpow : (0 : ℚ) < 2 ^ e := zpow_pos two_pos _
  have hm : (m : ℚ) < 2 ^ k := by exact_mod_cast hm
  rw [← zpow_lt_zpow_iff_right₀ (one_lt_two (α := ℚ)), zpow_add₀ two_ne_zero, zpow_natCast]
  exact (hlog.trans_eq hx).trans_lt (by gcongr)

namespace BinaryFormat

variable (f : BinaryFormat) {x : Ratio}

/-- The exponent of the steps in which the largest numbers lie apart. -/
def top : ℤ := f.lowest + (2 ^ f.exponentBits - 3)

/-- Half a step above the largest number. -/
def overflow : ℚ := (2 ^ f.digits - 1 / 2) * 2 ^ f.top

theorem overflow_single : single.overflow = 2 ^ 128 - 2 ^ 103 := by
  have htop : single.top = 104 := rfl
  rw [overflow, htop]
  norm_num [single]

theorem overflow_single_lt_double : single.overflow < double.overflow := by
  have htop : double.top = 971 := rfl
  have hdigits : double.digits = 53 := rfl
  have hlarge : (2 : ℚ) ^ (128 : ℤ) ≤ 2 ^ (971 : ℤ) :=
    zpow_le_zpow_right₀ one_le_two (by decide)
  rw [overflow_single, overflow, htop, hdigits]
  generalize (2 : ℚ) ^ (971 : ℤ) = w at *
  norm_num at hlarge ⊢
  linarith

theorem infinity_eq : f.infinity = (2 ^ f.exponentBits - 1) * 2 ^ (f.digits - 1) := by
  rw [infinity, Nat.one_shiftLeft, Nat.shiftLeft_eq]

theorem top_eq {t : Nat} (ht : 2 ^ f.exponentBits = t + 3) : f.top = f.lowest + t := by
  have hbits : (2 : ℤ) ^ f.exponentBits = t + 3 := by exact_mod_cast ht
  rw [top, hbits, add_sub_cancel_right]

theorem two_pow_digits (hdigits : 0 < f.digits) :
    (2 : ℚ) ^ f.digits = 2 * (2 ^ (f.digits - 1) : Nat) := by
  push_cast
  rw [← pow_succ', Nat.sub_add_cancel hdigits]

section Overflow

variable (h : x.Positive)
include h

/-- A quotient whose steps are smaller than the largest ones is far from overflow. -/
theorem lt_overflow (hdigits : 0 < f.digits) (hstep : f.stepExponent x < f.top) :
    x.toRat < f.overflow := by
  obtain ⟨-, hlog⟩ := Ratio.log2_spec h
  have hexponent : x.log2 + 1 ≤ (f.digits - 1 : Nat) + f.top := by
    unfold stepExponent at hstep
    omega
  have hone : (1 : ℚ) ≤ (2 ^ (f.digits - 1) : Nat) := by exact_mod_cast Nat.one_le_two_pow
  calc x.toRat < 2 ^ (x.log2 + 1) := hlog
    _ ≤ 2 ^ ((f.digits - 1 : Nat) + f.top) := zpow_le_zpow_right₀ one_le_two hexponent
    _ = (2 ^ (f.digits - 1) : Nat) * 2 ^ f.top := by
      rw [zpow_add₀ two_ne_zero, zpow_natCast]
      push_cast
      rfl
    _ ≤ f.overflow := by
      rw [overflow, f.two_pow_digits hdigits]
      gcongr
      linarith

/-- A quotient whose steps are larger than the largest ones of the format is beyond all of it. -/
theorem overflow_le (hstep : f.top < f.stepExponent x) (hlowest : f.lowest ≤ f.top) :
    f.overflow ≤ x.toRat := by
  obtain ⟨hlog, -⟩ := Ratio.log2_spec h
  have hexponent : f.digits + f.top ≤ x.log2 := by
    unfold stepExponent at hstep
    omega
  calc f.overflow ≤ 2 ^ f.digits * 2 ^ f.top := by
        rw [overflow]
        gcongr
        linarith
    _ = 2 ^ (f.digits + f.top) := by rw [zpow_add₀ two_ne_zero, zpow_natCast]
    _ ≤ 2 ^ x.log2 := zpow_le_zpow_right₀ one_le_two hexponent
    _ ≤ x.toRat := hlog

/-- Among the largest steps a quotient overflows when it is rounded to a significand too long. -/
theorem steps_lt_iff (hdigits : 0 < f.digits) (hstep : f.stepExponent x = f.top) :
    f.steps x < 2 * 2 ^ (f.digits - 1) ↔ x.toRat < f.overflow := by
  have hpow : (0 : ℚ) < 2 ^ f.top := zpow_pos two_pos _
  have hquotient : (x.shift f.top).toRat = x.toRat / 2 ^ f.top := x.toRat_shift f.top
  have hreached : 2 * 2 ^ (f.digits - 1) ≤ roundDiv .even (x.shift f.top).num _ ↔ _ :=
    le_roundDiv_even_iff (h.shift f.top).den (Nat.mul_mod_right 2 (2 ^ (f.digits - 1)))
  rw [Ratio.toRat] at hquotient
  rw [hquotient, Nat.cast_mul, Nat.cast_two, ← f.two_pow_digits hdigits] at hreached
  rw [← not_le, ← not_le, steps, hstep, hreached, overflow, le_div_iff₀ hpow]

/-- A quotient is rounded to a finite number just if it is less than half a step above the largest
one. -/
theorem nearest_lt_infinity_iff (hdigits : 0 < f.digits) (hbits : 2 ≤ f.exponentBits) :
    f.nearest x < f.infinity ↔ x.toRat < f.overflow := by
  obtain ⟨t, ht⟩ : ∃ t, 2 ^ f.exponentBits = t + 3 := by
    have hfour : 2 ^ 2 ≤ 2 ^ f.exponentBits := Nat.pow_le_pow_right (by decide) hbits
    exact ⟨2 ^ f.exponentBits - 3, by omega⟩
  obtain ⟨k, hk⟩ : ∃ k : Nat, f.stepExponent x = f.lowest + k := by
    have hlowest : f.lowest ≤ f.stepExponent x := le_max_left _ _
    exact ⟨(f.stepExponent x - f.lowest).toNat, by omega⟩
  have htop := f.top_eq ht
  obtain ⟨hhigh, hlow⟩ := f.steps_bounds hdigits h
  have hlast : t + 3 - 1 = t + 2 := by omega
  rw [f.nearest_eq h, min_lt_iff, lt_self_iff_false, false_or, infinity_eq, ht, hk,
    add_sub_cancel_left, Int.toNat_natCast, hlast]
  generalize hp : 2 ^ (f.digits - 1) = p at *
  rcases lt_trichotomy k t with hlt | rfl | hgt
  · refine iff_of_true ?_ (f.lt_overflow h hdigits (by omega))
    have hpos : 0 < p := hp ▸ by positivity
    calc k * p + f.steps x ≤ (k + 2) * p := by linarith
      _ < (t + 2) * p := Nat.mul_lt_mul_of_pos_right (by omega) hpos
  · rw [← f.steps_lt_iff h hdigits (by omega), hp, Nat.add_mul, Nat.add_lt_add_iff_left]
  · refine iff_of_false ?_ (not_lt.mpr (f.overflow_le h (by omega) (by omega)))
    have hnormal : p ≤ f.steps x := hlow.resolve_right (by omega)
    have hmul : (t + 1) * p ≤ k * p := Nat.mul_le_mul_right p hgt
    linarith

end Overflow

section Exact

/-- An encoding lays exponent and significand side by side, below the sign. -/
theorem of_decode_eq_finite {b m : Nat} {negative : Bool} {e : ℤ}
    (hb : f.decode b = .finite negative m e) :
    negative = decide (f.signWeight ≤ b) ∧
      b % f.signWeight = (e - f.lowest).toNat * 2 ^ (f.digits - 1) + m ∧
      b % f.signWeight < f.infinity ∧ (2 ^ (f.digits - 1) ≤ m ∨ e = f.lowest) := by
  have hsplit := Nat.div_add_mod' (b % f.signWeight) (2 ^ (f.digits - 1))
  unfold decode at hb
  simp only [Nat.one_shiftLeft] at hb
  generalize b % f.signWeight / 2 ^ (f.digits - 1) = biased at *
  generalize b % f.signWeight % 2 ^ (f.digits - 1) = fraction at *
  split_ifs at hb with hinfinite hnan hsmall
  · injection hb with hnegative hm he
    subst hm he hsmall
    refine ⟨hnegative.symm, ?_, by omega, .inr rfl⟩
    rw [sub_self, Int.toNat_zero, hsplit]
  · injection hb with hnegative hm he
    have hexponent : (e - f.lowest).toNat + 1 = biased := by omega
    refine ⟨hnegative.symm, ?_, by omega, .inl (by omega)⟩
    rw [← hsplit, ← hm, ← hexponent]
    ring

/-- A quotient that is a number of the format is measured in the steps of that number. -/
theorem stepExponent_of_value (hdigits : 0 < f.digits) (h : x.Positive) {m : Nat} {e : ℤ}
    (hx : x.toRat = m * 2 ^ e) (hm : m < 2 * 2 ^ (f.digits - 1)) (hlowest : f.lowest ≤ e)
    (hnormal : 2 ^ (f.digits - 1) ≤ m ∨ e = f.lowest) : f.stepExponent x = e := by
  have hdouble : 2 * 2 ^ (f.digits - 1) = 2 ^ f.digits := by
    rw [← pow_succ', Nat.sub_add_cancel hdigits]
  have hexponent : x.log2 < f.digits + e := h.log2_lt hx (hdouble ▸ hm)
  unfold stepExponent
  rcases hnormal with hnormal | rfl
  · have hlow : (f.digits - 1 : Nat) + e < x.log2 + 1 := by
      obtain ⟨-, hlog⟩ := Ratio.log2_spec h
      have hpow : (0 : ℚ) < 2 ^ e := zpow_pos two_pos _
      have hnormal : (2 : ℚ) ^ (f.digits - 1) ≤ m := by exact_mod_cast hnormal
      rw [← zpow_lt_zpow_iff_right₀ (one_lt_two (α := ℚ)), zpow_add₀ two_ne_zero, zpow_natCast]
      exact lt_of_le_of_lt (by gcongr) (hx ▸ hlog)
    omega
  · omega

/-- A number of the format is rounded to its own encoding. -/
theorem nearest_of_value (hdigits : 0 < f.digits) {b m : Nat} {negative : Bool} {e : ℤ}
    (hb : f.decode b = .finite negative m e) (hden : 0 < x.den) (hx : x.toRat = m * 2 ^ e) :
    f.nearest x = b % f.signWeight := by
  obtain ⟨-, hlayout, hfinite, hnormal⟩ := f.of_decode_eq_finite hb
  obtain ⟨hm, hlowest⟩ := f.decode_bounds hb
  have hpow : (2 : ℚ) ^ e ≠ 0 := (zpow_pos two_pos e).ne'
  rcases Nat.eq_zero_or_pos x.num with hzero | hnum
  · -- Zero has no significand, so it lies among the smallest steps.
    have hm0 : m = 0 := by
      rw [Ratio.toRat, hzero, Nat.cast_zero, zero_div, zero_eq_mul] at hx
      exact Nat.cast_eq_zero.mp (hx.resolve_right hpow)
    subst hm0
    have he : e = f.lowest := hnormal.resolve_left (by simp)
    rw [nearest, if_pos hzero, hlayout, he]
    simp
  · have h : x.Positive := ⟨hnum, hden⟩
    have hstep := f.stepExponent_of_value hdigits h hx hm hlowest hnormal
    have hsteps : f.steps x = m := by
      have hexact := f.steps_exact h (k := m) (by rw [hstep, hx])
      rw [hstep, hx] at hexact
      exact_mod_cast mul_right_cancel₀ hpow hexact
    rw [f.nearest_eq h, hstep, hsteps, ← hlayout, min_eq_right hfinite.le]

theorem value_lt_overflow (hdigits : 0 < f.digits) (hbits : 2 ≤ f.exponentBits) {b m : Nat}
    {negative : Bool} {e : ℤ} (hb : f.decode b = .finite negative m e) (hm : 0 < m) :
    (m : ℚ) * 2 ^ e < f.overflow := by
  have h := Ratio.positive_ofScaled hm e
  obtain ⟨-, -, hfinite, -⟩ := f.of_decode_eq_finite hb
  rw [← f.nearest_of_value hdigits hb h.den (Ratio.toRat_ofScaled m e),
    f.nearest_lt_infinity_iff h hdigits hbits, Ratio.toRat_ofScaled] at hfinite
  exact hfinite

/-- A quotient with a significand of few enough digits is not rounded. -/
theorem decode_nearest_exact (hdigits : 0 < f.digits) (h : x.Positive)
    (hfinite : f.nearest x < f.infinity) {k : Nat} {e : ℤ} (hx : x.toRat = k * 2 ^ e)
    (hstep : f.stepExponent x ≤ e) :
    ∃ m' e', f.decode (f.nearest x) = .finite false m' e' ∧ (m' : ℚ) * 2 ^ e' = x.toRat := by
  obtain ⟨m', e', hdecode, hvalue⟩ := f.decode_nearest hdigits h hfinite
  refine ⟨m', e', hdecode, ?_⟩
  rw [hvalue]
  apply f.steps_exact h (k := k * 2 ^ (e - f.stepExponent x).toNat)
  rw [hx, Nat.cast_mul, ← Ratio.two_zpow_of_nonneg (by omega), mul_assoc,
    ← zpow_add₀ two_ne_zero, sub_add_cancel]

end Exact

end BinaryFormat

namespace Binary64

theorem toNat_bits_ofRatio (negative : Bool) (x : Ratio) : (ofRatio negative x).bits.toNat =
    BinaryFormat.double.nearest x + if negative then BinaryFormat.double.signWeight else 0 := by
  have hle : BinaryFormat.double.nearest x ≤ 0x7ff0000000000000 :=
    BinaryFormat.double.nearest_le_infinity x
  have hmagnitude : (UInt64.ofNat (BinaryFormat.double.nearest x)).toNat =
      BinaryFormat.double.nearest x := UInt64.toNat_ofNat_of_lt' (by simp only [UInt64.size]; omega)
  have hsign : (0x8000000000000000 : UInt64).toNat = 2 ^ 63 := rfl
  have hweight : BinaryFormat.double.signWeight = 2 ^ 63 := rfl
  cases negative with
  | true =>
    simp only [ofRatio, if_true, UInt64.toNat_add, hmagnitude, hsign, hweight]
    omega
  | false => simp only [ofRatio, Bool.false_eq_true, if_false, hmagnitude, Nat.add_zero]

theorem value_ofRatio (negative : Bool) (x : Ratio) :
    (ofRatio negative x).value =
      (BinaryFormat.double.decode (BinaryFormat.double.nearest x)).withSign negative := by
  have hlt : BinaryFormat.double.nearest x < BinaryFormat.double.signWeight :=
    (BinaryFormat.double.nearest_le_infinity x).trans_lt
      (BinaryFormat.double.infinity_lt_signWeight (by decide))
  rw [value, toNat_bits_ofRatio, BinaryFormat.double.decode_add_sign hlt]

/-- A natural number in double precision. -/
def ofNat (n : Nat) : Binary64 := .ofRatio false ⟨n, 1⟩

end Binary64

/-- The same number in double precision. -/
def Binary32.toBinary64 (c : Binary32) : Binary64 :=
  match c.value with
  | .nan => ⟨0x7ff8000000000000⟩
  | .infinite negative => ⟨if negative then 0xfff0000000000000 else 0x7ff0000000000000⟩
  | .finite negative m e => .ofRatio negative (.ofScaled m e)

theorem Ratio.num_ofScaled_zero (e : ℤ) : (ofScaled 0 e).num = 0 := by
  unfold ofScaled shift
  split_ifs
  · rfl
  · exact Nat.zero_shiftLeft _

theorem BinaryFormat.nearest_of_num_eq_zero (f : BinaryFormat) {x : Ratio} (h : x.num = 0) :
    f.nearest x = 0 := by
  rw [nearest, if_pos h]

theorem abs_signed (negative : Bool) (q : ℚ) : |signed negative q| = |q| := by
  cases negative <;> simp [signed]

namespace Binary32

variable {c : Binary32} {negative : Bool} {m : Nat} {e : ℤ}

/-- In double precision there are digits and exponents enough. -/
theorem value_toBinary64 (hc : c.value = .finite negative m e) :
    ∃ m' e', c.toBinary64.value = .finite negative m' e' ∧ (m' : ℚ) * 2 ^ e' = m * 2 ^ e := by
  obtain ⟨hm, hlowest⟩ := BinaryFormat.single.decode_bounds hc
  have hm : m < 2 ^ 24 := hm
  have hlowest : -149 ≤ e := hlowest
  unfold toBinary64
  rw [hc]
  dsimp only
  rw [Binary64.value_ofRatio]
  rcases Nat.eq_zero_or_pos m with rfl | hpos
  · rw [BinaryFormat.double.nearest_of_num_eq_zero (Ratio.num_ofScaled_zero e)]
    exact ⟨0, -1074, rfl, by simp⟩
  · have h := Ratio.positive_ofScaled hpos e
    have hx := Ratio.toRat_ofScaled m e
    have hlog : (Ratio.ofScaled m e).log2 < (24 : Nat) + e := h.log2_lt hx hm
    have hstep : BinaryFormat.double.stepExponent (Ratio.ofScaled m e) ≤ e := by
      change max (-1074 : ℤ) ((Ratio.ofScaled m e).log2 - (53 - 1)) ≤ e
      omega
    have hfinite : BinaryFormat.double.nearest (Ratio.ofScaled m e) <
        BinaryFormat.double.infinity := by
      rw [BinaryFormat.double.nearest_lt_infinity_iff h (by decide) (by decide), hx]
      refine (BinaryFormat.single.value_lt_overflow (by decide) (by decide) hc hpos).trans ?_
      exact BinaryFormat.overflow_single_lt_double
    obtain ⟨m', e', hdecode, hvalue⟩ :=
      BinaryFormat.double.decode_nearest_exact (by decide) h hfinite hx hstep
    exact ⟨m', e', by rw [hdecode, BinaryValue.withSign], hvalue.trans hx⟩

/-- A single-precision number survives the way to double precision and back. -/
theorem toBinary32_toBinary64 (hc : c.value = .finite negative m e) :
    c.toBinary64.toBinary32 = c := by
  obtain ⟨m', e', hwide, hvalue⟩ := value_toBinary64 hc
  obtain ⟨hnegative, -⟩ := BinaryFormat.single.of_decode_eq_finite hc
  have hden : 0 < (Ratio.ofScaled m' e').den := Ratio.den_shift_pos Nat.one_pos _
  have hnearest := BinaryFormat.single.nearest_of_value (by decide) hc hden
    ((Ratio.toRat_ofScaled m' e').trans hvalue)
  have hweight : BinaryFormat.single.signWeight = 2 ^ 31 := rfl
  have hbits := c.bits.toNat_lt
  unfold Binary64.toBinary32
  rw [hwide]
  ext1
  rw [← UInt32.toNat_inj, toNat_bits_ofRatio, hnearest, hnegative, hweight]
  by_cases hsign : 2 ^ 31 ≤ c.bits.toNat
  · simp only [hsign, decide_true, if_true]
    omega
  · simp only [hsign, decide_false, Bool.false_eq_true, if_false]
    omega

theorem isNearest_of_exact {q : ℚ} (h : c.toRat? = some q) : c.IsNearest q := by
  refine ⟨q, h, fun c' v' _ => ?_⟩
  rw [sub_self, abs_zero]
  rcases (abs_nonneg (v' - q)).lt_or_eq with hlt | heq
  · exact .inl hlt
  · exact .inr ⟨heq, .inl (sub_eq_zero.mp (abs_eq_zero.mp heq.symm)).symm⟩

theorem toRat?_ofRatio_zero (negative : Bool) {x : Ratio} (hx : x.num = 0) :
    (ofRatio negative x).toRat? = some 0 := by
  have hvalue : (ofRatio negative x).value = .finite negative 0 (-149) := by
    rw [value_ofRatio, BinaryFormat.single.nearest_of_num_eq_zero hx]
    rfl
  rw [toRat?, hvalue]
  simp [signed]

theorem ofRatio_of_nearest_eq_infinity (negative : Bool) {x : Ratio}
    (hx : BinaryFormat.single.nearest x = BinaryFormat.single.infinity) :
    ofRatio negative x = infinite negative := by
  unfold ofRatio
  rw [hx]
  cases negative <;> rfl

theorem toRat?_infinite (negative : Bool) : (infinite negative).toRat? = none := by
  cases negative <;> rfl

/-- `c` is the number `q` rounded to single precision: the nearest number, a tie going to the even
encoding, but infinity from half a step above the largest number on. The sign is kept, that of a
zero as well. -/
structure IsRounded (c : Binary32) (negative : Bool) (q : ℚ) : Prop where
  sign : decide (2 ^ 31 ≤ c.bits.toNat) = negative
  nearest : |q| < 2 ^ 128 - 2 ^ 103 → c.IsNearest q
  infinite : 2 ^ 128 - 2 ^ 103 ≤ |q| → c = .infinite negative

theorem IsRounded.finite_iff {q : ℚ} (h : c.IsRounded negative q) :
    c.toRat? ≠ none ↔ |q| < 2 ^ 128 - 2 ^ 103 := by
  constructor
  · intro hfinite
    by_contra hlarge
    rw [h.infinite (not_lt.mp hlarge), toRat?_infinite] at hfinite
    exact hfinite rfl
  · intro hsmall
    obtain ⟨v, hv, -⟩ := h.nearest hsmall
    rw [hv]
    exact Option.some_ne_none v

theorem sign_ofRatio (negative : Bool) (x : Ratio) :
    decide (2 ^ 31 ≤ (ofRatio negative x).bits.toNat) = negative := by
  have hle : BinaryFormat.single.nearest x ≤ 255 * 2 ^ 23 :=
    BinaryFormat.single.nearest_le_infinity _
  have hweight : BinaryFormat.single.signWeight = 2 ^ 31 := rfl
  rw [toNat_bits_ofRatio, hweight]
  cases negative with
  | true => simp
  | false =>
    simp only [Bool.false_eq_true, if_false, decide_eq_false_iff_not]
    omega

section OfRatio

variable (negative : Bool) {x : Ratio} (hden : 0 < x.den)
include hden

theorem isNearest_ofRatio_of_lt (hsmall : x.toRat < BinaryFormat.single.overflow) :
    (ofRatio negative x).IsNearest (signed negative x.toRat) := by
  rcases Nat.eq_zero_or_pos x.num with hzero | hnum
  · apply isNearest_of_exact
    rw [toRat?_ofRatio_zero _ hzero]
    simp [signed, Ratio.toRat, hzero]
  · exact isNearest_ofRatio _ ⟨hnum, hden⟩
      ((BinaryFormat.single.nearest_lt_infinity_iff ⟨hnum, hden⟩ (by decide) (by decide)).mpr
        hsmall)

theorem ofRatio_of_overflow_le (hlarge : BinaryFormat.single.overflow ≤ x.toRat) :
    ofRatio negative x = infinite negative := by
  have hnum : 0 < x.num := by
    refine Nat.pos_of_ne_zero fun hzero => ?_
    rw [BinaryFormat.overflow_single, Ratio.toRat, hzero] at hlarge
    norm_num at hlarge
  apply ofRatio_of_nearest_eq_infinity
  refine (BinaryFormat.single.nearest_le_infinity _).eq_of_not_lt ?_
  rw [BinaryFormat.single.nearest_lt_infinity_iff ⟨hnum, hden⟩ (by decide) (by decide)]
  exact not_lt.mpr hlarge

theorem isRounded_ofRatio : (ofRatio negative x).IsRounded negative (signed negative x.toRat) := by
  have hmagnitude : |signed negative x.toRat| = x.toRat := by
    rw [abs_signed, abs_of_nonneg]
    unfold Ratio.toRat
    positivity
  refine ⟨sign_ofRatio negative x, ?_, ?_⟩
  · rw [hmagnitude, ← BinaryFormat.overflow_single]
    exact isNearest_ofRatio_of_lt negative hden
  · rw [hmagnitude, ← BinaryFormat.overflow_single]
    exact ofRatio_of_overflow_le negative hden

end OfRatio

end Binary32

namespace Binary64

/-- The sign bit is set. -/
def negative (v : Binary64) : Bool := decide (2 ^ 63 ≤ v.bits.toNat)

theorem toRat?_eq_some {v : Binary64} {q : ℚ} (h : v.toRat? = some q) :
    ∃ m e, v.value = .finite v.negative m e ∧ q = signed v.negative (m * 2 ^ e) := by
  unfold toRat? at h
  split at h
  next negative m e hvalue =>
    obtain ⟨hnegative, -⟩ := BinaryFormat.double.of_decode_eq_finite hvalue
    obtain rfl : negative = v.negative := hnegative
    exact ⟨m, e, hvalue, (Option.some_inj.mp h).symm⟩
  next => cases h

/-- A finite number is rounded once on its way to single precision. -/
theorem isRounded_toBinary32 {v : Binary64} {q : ℚ} (h : v.toRat? = some q) :
    v.toBinary32.IsRounded v.negative q := by
  obtain ⟨m, e, hvalue, rfl⟩ := toRat?_eq_some h
  have hconvert : v.toBinary32 = .ofRatio v.negative (.ofScaled m e) := by
    unfold toBinary32
    rw [hvalue]
  rw [hconvert, ← Ratio.toRat_ofScaled]
  exact Binary32.isRounded_ofRatio v.negative (Ratio.den_shift_pos Nat.one_pos _)

/-- Natural numbers of at most 53 binary digits are exact. -/
theorem toRat?_ofNat {n : Nat} (hn : n < 2 ^ 53) : (ofNat n).toRat? = some (n : ℚ) := by
  rcases Nat.eq_zero_or_pos n with rfl | hpos
  · have hvalue : (ofNat 0).value = .finite false 0 (-1074) := rfl
    rw [toRat?, hvalue]
    simp
  · have h : (⟨n, 1⟩ : Ratio).Positive := ⟨hpos, Nat.one_pos⟩
    have hrat : (⟨n, 1⟩ : Ratio).toRat = n := by rw [Ratio.toRat, Nat.cast_one, div_one]
    have hx : (⟨n, 1⟩ : Ratio).toRat = n * 2 ^ (0 : ℤ) := by rw [hrat, zpow_zero, mul_one]
    have hlog : (⟨n, 1⟩ : Ratio).log2 < (53 : Nat) + 0 := h.log2_lt hx hn
    have hstep : BinaryFormat.double.stepExponent ⟨n, 1⟩ ≤ 0 := by
      change max (-1074 : ℤ) ((⟨n, 1⟩ : Ratio).log2 - (53 - 1)) ≤ 0
      omega
    have hfinite : BinaryFormat.double.nearest ⟨n, 1⟩ < BinaryFormat.double.infinity := by
      have hn : (n : ℚ) < 2 ^ 53 := by exact_mod_cast hn
      have hlarge := BinaryFormat.overflow_single_lt_double
      rw [BinaryFormat.overflow_single] at hlarge
      rw [BinaryFormat.double.nearest_lt_infinity_iff h (by decide) (by decide), hrat]
      linarith
    obtain ⟨m, e, hdecode, hvalue⟩ :=
      BinaryFormat.double.decode_nearest_exact (by decide) h hfinite hx hstep
    have hwithSign : (ofNat n).value = .finite false m e := by
      rw [ofNat, value_ofRatio, hdecode, BinaryValue.withSign]
    rw [toRat?, hwithSign, ← hrat, ← hvalue]
    simp

end Binary64

end ClimateBus
