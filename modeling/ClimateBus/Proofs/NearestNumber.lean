import ClimateBus.Proofs.Rounding
import Mathlib

/-!
The number of a binary format that lies nearest to a quotient.

A quotient is measured in the steps that the numbers of its size lie apart. Every number of the
format is a whole number of these steps, or it is less than the smallest number of that size, which
is not above the quotient. So the whole number of steps nearest to the quotient gives the number of
the format nearest to it, and of two that are equally near the one with the even encoding is taken
(`BinaryFormat.nearest_closest`). Overflow is excluded by hypothesis.

A sign does not disturb this (`Binary32.isNearest_ofRatio`). Whole numbers of at most 24 binary
digits are exact, so a temperature is the single-precision number nearest to its tenths of a degree.
-/
namespace ClimateBus

section RoundDiv

variable {tie : Tie} {num den : Nat}

/-- Different whole numbers are at least one apart, and at most the sum of their distances to a
quotient. -/
theorem one_le_distances {k : Nat} (hk : roundDiv tie num den ≠ k) :
    1 ≤ |(roundDiv tie num den : ℚ) - num / den| + |(k : ℚ) - num / den| := by
  have hapart : (1 : ℤ) ≤ |(roundDiv tie num den : ℤ) - k| :=
    Int.one_le_abs (sub_ne_zero.mpr (by exact_mod_cast hk))
  have hapart : (1 : ℚ) ≤ |(roundDiv tie num den : ℚ) - k| := by exact_mod_cast hapart
  have htriangle := abs_sub_le (roundDiv tie num den : ℚ) (num / den) k
  rw [abs_sub_comm (num / den : ℚ) k] at htriangle
  linarith

/-- No whole number is nearer to a quotient than the one it is rounded to. -/
theorem roundDiv_closest (hden : 0 < den) (k : Nat) :
    |(roundDiv tie num den : ℚ) - num / den| ≤ |(k : ℚ) - num / den| := by
  have herror := roundDiv_error tie num hden
  by_cases hk : roundDiv tie num den = k
  · rw [hk]
  · have hdistances := one_le_distances hk
    linarith

/-- Of two whole numbers that are equally near the even one is taken. -/
theorem roundDiv_even_of_tie (hden : 0 < den) {k : Nat} (hk : roundDiv .even num den ≠ k)
    (htie : |(roundDiv .even num den : ℚ) - num / den| = |(k : ℚ) - num / den|) :
    roundDiv .even num den % 2 = 0 := by
  have hmid : 2 * (num % den) = den := by
    by_contra hmid
    have herror := roundDiv_error_lt .even hden hmid
    have hdistances := one_le_distances hk
    linarith
  simp only [roundDiv, hmid, lt_irrefl, if_false]
  omega

end RoundDiv

namespace BinaryFormat

variable (f : BinaryFormat) {x : Ratio}

/-- The exponent of the steps in which a quotient is measured. -/
def stepExponent (x : Ratio) : ℤ := max f.lowest (x.log2 - ((f.digits : ℤ) - 1))

/-- The whole number of steps nearest to a quotient. -/
def steps (x : Ratio) : Nat :=
  roundDiv .even (x.shift (f.stepExponent x)).num (x.shift (f.stepExponent x)).den

theorem nearest_eq (h : x.Positive) : f.nearest x = min f.infinity
    ((f.stepExponent x - f.lowest).toNat * 2 ^ (f.digits - 1) + f.steps x) := by
  unfold nearest
  rw [if_neg h.num.ne']
  simp only [Nat.shiftLeft_eq]
  rfl

theorem distance_in_steps (x : Ratio) (q : ℚ) : |q * 2 ^ f.stepExponent x - x.toRat| =
    |q - (x.shift (f.stepExponent x)).toRat| * 2 ^ f.stepExponent x := by
  have hpow : (0 : ℚ) < 2 ^ f.stepExponent x := zpow_pos two_pos _
  rw [x.toRat_shift, ← abs_of_pos hpow, ← abs_mul, abs_of_pos hpow, sub_mul,
    div_mul_cancel₀ _ hpow.ne']

section Steps

variable (h : x.Positive)
include h

theorem steps_closest (k : Nat) : |(f.steps x : ℚ) * 2 ^ f.stepExponent x - x.toRat| ≤
    |(k : ℚ) * 2 ^ f.stepExponent x - x.toRat| := by
  rw [f.distance_in_steps, f.distance_in_steps]
  have hclosest : |(f.steps x : ℚ) - (x.shift (f.stepExponent x)).toRat| ≤
      |(k : ℚ) - (x.shift (f.stepExponent x)).toRat| :=
    roundDiv_closest (h.shift (f.stepExponent x)).den k
  exact mul_le_mul_of_nonneg_right hclosest (zpow_pos two_pos _).le

theorem steps_even_of_tie {k : Nat} (hk : f.steps x ≠ k)
    (htie : |(f.steps x : ℚ) * 2 ^ f.stepExponent x - x.toRat| =
      |(k : ℚ) * 2 ^ f.stepExponent x - x.toRat|) : f.steps x % 2 = 0 := by
  rw [f.distance_in_steps, f.distance_in_steps] at htie
  exact roundDiv_even_of_tie (h.shift (f.stepExponent x)).den hk
    (mul_right_cancel₀ (zpow_pos two_pos _).ne' htie)

/-- A whole number of steps is not rounded. -/
theorem steps_exact {k : Nat} (hk : x.toRat = k * 2 ^ f.stepExponent x) :
    (f.steps x : ℚ) * 2 ^ f.stepExponent x = x.toRat := by
  have hclosest := f.steps_closest h k
  rw [← hk, sub_self, abs_zero] at hclosest
  exact sub_eq_zero.mp (abs_nonpos_iff.mp hclosest)

end Steps

section Finite

variable (hdigits : 0 < f.digits) (h : x.Positive)
include hdigits h

theorem steps_bounds : f.steps x ≤ 2 * 2 ^ (f.digits - 1) ∧
    (2 ^ (f.digits - 1) ≤ f.steps x ∨ f.stepExponent x = f.lowest) := by
  have hcast : (f.digits : ℤ) - 1 = (f.digits - 1 : Nat) := by omega
  unfold steps
  rcases le_total f.lowest (x.log2 - (f.digits - 1 : Nat)) with hnormal | hsmall
  · have hexponent : f.stepExponent x = x.log2 - (f.digits - 1 : Nat) := by
      rw [stepExponent, hcast, max_eq_right hnormal]
    obtain ⟨hlow, hhigh⟩ := h.roundDiv_bounds .even (f.digits - 1)
    rw [hexponent]
    exact ⟨hhigh, .inl hlow⟩
  · have hexponent : f.stepExponent x = f.lowest := by
      rw [stepExponent, hcast, max_eq_left hsmall]
    refine ⟨roundDiv_le (h.shift _).den ?_, .inr hexponent⟩
    have hquotient : (x.shift f.lowest).toRat ≤ 2 ^ (f.digits - 1 + 1) := by
      obtain ⟨-, hlog⟩ := Ratio.log2_spec h
      rw [x.toRat_shift, div_le_iff₀ (zpow_pos two_pos _), ← zpow_natCast,
        ← zpow_add₀ two_ne_zero]
      exact hlog.le.trans (zpow_le_zpow_right₀ one_le_two (by omega))
    rw [hexponent, ← pow_succ']
    exact_mod_cast hquotient

/-- Short of infinity the encoding is that of the whole number of steps. -/
theorem decode_nearest (hfinite : f.nearest x < f.infinity) :
    ∃ m e, f.decode (f.nearest x) = .finite false m e ∧
      (m : ℚ) * 2 ^ e = f.steps x * 2 ^ f.stepExponent x := by
  obtain ⟨hhigh, hlow⟩ := f.steps_bounds hdigits h
  have hlowest : f.lowest ≤ f.stepExponent x := le_max_left _ _
  have hexponent : f.lowest + ((f.stepExponent x - f.lowest).toNat : ℤ) = f.stepExponent x := by
    omega
  have hnearest := f.nearest_eq h
  have hnormal : 2 ^ (f.digits - 1) ≤ f.steps x ∨ (f.stepExponent x - f.lowest).toNat = 0 :=
    hlow.imp_right fun heq => by omega
  rw [hnearest, min_lt_iff, lt_self_iff_false, false_or] at hfinite
  have hdecode := f.decode_scaled hdigits hhigh hnormal hfinite
  rwa [hexponent, ← min_eq_right hfinite.le, ← hnearest] at hdecode

end Finite

/-- A finite number has no more digits than the format, and no smaller steps. -/
theorem decode_bounds {b m : Nat} {negative : Bool} {e : ℤ}
    (hb : f.decode b = .finite negative m e) :
    m < 2 * 2 ^ (f.digits - 1) ∧ f.lowest ≤ e := by
  have hfraction : b % f.signWeight % 2 ^ (f.digits - 1) < 2 ^ (f.digits - 1) :=
    Nat.mod_lt _ (by positivity)
  unfold decode at hb
  simp only [Nat.one_shiftLeft] at hb
  split_ifs at hb
  · injection hb with _ hm he
    omega
  · injection hb with _ hm he
    omega

/-- Every number of the format is a whole number of the steps in which a quotient is measured, or it
is smaller than the power of two below the quotient, which is such a number. -/
theorem multiple_or_smaller (hdigits : 0 < f.digits) (x : Ratio) {b m : Nat} {negative : Bool}
    {e : ℤ} (hb : f.decode b = .finite negative m e) :
    (∃ k : Nat, (m : ℚ) * 2 ^ e = k * 2 ^ f.stepExponent x) ∨
      (m : ℚ) * 2 ^ e < 2 ^ x.log2 ∧ ∃ k : Nat, (2 : ℚ) ^ x.log2 = k * 2 ^ f.stepExponent x := by
  obtain ⟨hm, hlowest⟩ := f.decode_bounds hb
  by_cases he : f.stepExponent x ≤ e
  · refine .inl ⟨m * 2 ^ (e - f.stepExponent x).toNat, ?_⟩
    push_cast
    rw [mul_assoc, ← zpow_natCast, ← zpow_add₀ two_ne_zero]
    congr 2
    omega
  · have hexponent : f.stepExponent x = x.log2 - (f.digits - 1 : Nat) := by
      unfold stepExponent at he ⊢
      omega
    have hpower : (2 : ℚ) ^ x.log2 = (2 ^ (f.digits - 1) : Nat) * 2 ^ f.stepExponent x := by
      push_cast
      rw [hexponent, ← zpow_natCast, ← zpow_add₀ two_ne_zero, add_sub_cancel]
    refine .inr ⟨?_, _, hpower⟩
    have hm : (m : ℚ) < 2 * (2 ^ (f.digits - 1) : Nat) := by exact_mod_cast hm
    calc (m : ℚ) * 2 ^ e < 2 * (2 ^ (f.digits - 1) : Nat) * 2 ^ e := by gcongr
      _ = (2 ^ (f.digits - 1) : Nat) * 2 ^ (e + 1) := by
        rw [zpow_add_one₀ two_ne_zero]
        ring
      _ ≤ (2 ^ (f.digits - 1) : Nat) * 2 ^ f.stepExponent x := by
        gcongr
        · exact one_le_two
        · omega
      _ = 2 ^ x.log2 := hpower.symm

/-- Short of infinity the encoding and the whole number of steps are even or odd together. -/
theorem nearest_mod_two (hdigits : 2 ≤ f.digits) (h : x.Positive)
    (hfinite : f.nearest x < f.infinity) : f.nearest x % 2 = f.steps x % 2 := by
  rw [f.nearest_eq h, min_lt_iff, lt_self_iff_false, false_or] at hfinite
  have hweight : 2 ^ (f.digits - 1) = 2 * 2 ^ (f.digits - 2) := by
    rw [← pow_succ']
    congr 1
    omega
  rw [f.nearest_eq h, min_eq_right hfinite.le, hweight, Nat.mul_left_comm]
  omega

/-- Short of infinity a quotient is rounded to the nearest number of the format. Another one that is
equally near is the same number, or the encoding it is rounded to is the even one. -/
theorem nearest_closest (hdigits : 2 ≤ f.digits) (h : x.Positive)
    (hfinite : f.nearest x < f.infinity) :
    ∃ m e, f.decode (f.nearest x) = .finite false m e ∧
      ∀ {b m' : Nat} {negative : Bool} {e' : ℤ}, f.decode b = .finite negative m' e' →
        |(m : ℚ) * 2 ^ e - x.toRat| < |(m' : ℚ) * 2 ^ e' - x.toRat| ∨
          |(m : ℚ) * 2 ^ e - x.toRat| = |(m' : ℚ) * 2 ^ e' - x.toRat| ∧
            ((m : ℚ) * 2 ^ e = m' * 2 ^ e' ∨ f.nearest x % 2 = 0) := by
  obtain ⟨m, e, hdecode, hvalue⟩ := f.decode_nearest (by omega) h hfinite
  refine ⟨m, e, hdecode, fun {b m' negative e'} hb => ?_⟩
  rw [hvalue]
  obtain ⟨hlog, -⟩ := Ratio.log2_spec h
  rcases f.multiple_or_smaller (by omega) x hb with ⟨k, hk⟩ | ⟨hsmall, k, hk⟩
  · rw [hk]
    rcases (f.steps_closest h k).lt_or_eq with hlt | htie
    · exact .inl hlt
    · refine .inr ⟨htie, ?_⟩
      by_cases hsame : f.steps x = k
      · exact .inl (by rw [hsame])
      · refine .inr ?_
        rw [f.nearest_mod_two hdigits h hfinite]
        exact f.steps_even_of_tie h hsame htie
  · have hpower : |(2 : ℚ) ^ x.log2 - x.toRat| = x.toRat - 2 ^ x.log2 := by
      rw [abs_sub_comm, abs_of_nonneg (sub_nonneg.mpr hlog)]
    have hbelow : |(m' : ℚ) * 2 ^ e' - x.toRat| = x.toRat - m' * 2 ^ e' := by
      rw [abs_sub_comm, abs_of_pos (sub_pos.mpr (hsmall.trans_le hlog))]
    have hclosest := f.steps_closest h k
    rw [← hk, hpower] at hclosest
    exact .inl (by linarith)

end BinaryFormat

/-- A magnitude with its sign. -/
def signed (negative : Bool) (q : ℚ) : ℚ := if negative then -q else q

theorem signed_mul (negative : Bool) (a b : ℚ) :
    signed negative (a * b) = signed negative a * b := by
  cases negative <;> simp [signed]

theorem signed_natAbs (i : ℤ) : signed (decide (i < 0)) i.natAbs = i := by
  rw [Nat.cast_natAbs, Int.cast_abs]
  by_cases hneg : i < 0
  · have hneg' : (i : ℚ) < 0 := by exact_mod_cast hneg
    simp only [signed, hneg, decide_true, if_true, abs_of_neg hneg', neg_neg]
  · have hnonneg : (0 : ℚ) ≤ i := by exact_mod_cast not_lt.mp hneg
    simp only [signed, hneg, decide_false, Bool.false_eq_true, if_false, abs_of_nonneg hnonneg]

theorem distance_signed (negative : Bool) (a b : ℚ) :
    |signed negative a - signed negative b| = |a - b| := by
  cases negative with
  | true => simp only [signed, if_true, neg_sub_neg, abs_sub_comm]
  | false => simp only [signed, Bool.false_eq_true, if_false]

/-- With the sign of a quotient a magnitude is nearer to it than with the other sign. -/
theorem signed_nearer (negative negative' : Bool) {a b : ℚ} (ha : 0 ≤ a) (hb : 0 < b) :
    |a - b| < |signed negative' a - signed negative b| ∨
      signed negative' a = signed negative a := by
  by_cases hsame : negative' = negative
  · exact .inr (by rw [hsame])
  rcases ha.eq_or_lt with rfl | ha
  · exact .inr (by simp [signed])
  have hsum : |signed negative' a - signed negative b| = a + b := by
    have hflip : signed negative' a = -signed negative a := by
      cases negative <;> cases negative' <;> simp_all [signed]
    rw [hflip, ← neg_add', abs_neg]
    cases negative with
    | true => simp only [signed, if_true, ← neg_add, abs_neg, abs_of_pos (add_pos ha hb)]
    | false => simp only [signed, Bool.false_eq_true, if_false, abs_of_pos (add_pos ha hb)]
  rw [hsum, abs_lt]
  exact .inl ⟨by linarith, by linarith⟩

namespace Binary32

variable {x : Ratio} {negative : Bool}

/-- The exact value of a finite number. -/
def toRat? (c : Binary32) : Option ℚ :=
  match c.value with
  | .finite negative m e => some (signed negative (m * 2 ^ e))
  | _ => none

/-- No single-precision number is nearer to `q`, and another one that is equally near is the same
number, or the encoding is the even one. -/
def IsNearest (c : Binary32) (q : ℚ) : Prop :=
  ∃ v, c.toRat? = some v ∧ ∀ (c' : Binary32) (v' : ℚ), c'.toRat? = some v' →
    |v - q| < |v' - q| ∨ |v - q| = |v' - q| ∧ (v = v' ∨ c.bits.toNat % 2 = 0)

theorem exists_of_toRat? {c : Binary32} {v : ℚ} (h : c.toRat? = some v) :
    ∃ (negative : Bool) (m : Nat) (e : ℤ), c.value = .finite negative m e ∧
      v = signed negative (m * 2 ^ e) := by
  unfold toRat? at h
  split at h
  next negative m e hvalue => exact ⟨negative, m, e, hvalue, (Option.some_inj.mp h).symm⟩
  next => cases h

theorem isNearest_zero : (⟨0⟩ : Binary32).IsNearest 0 := by
  refine ⟨0, ?_, fun c' v' _ => ?_⟩
  · have hvalue : (⟨0⟩ : Binary32).value = .finite false 0 (-149) := rfl
    simp [toRat?, hvalue, signed]
  · rcases (abs_nonneg (v' - 0)).lt_or_eq with hlt | heq
    · exact .inl (by simpa using hlt)
    · exact .inr ⟨by simpa using heq, .inr rfl⟩

/-- A quotient with a sign is rounded to the nearest single-precision number, ties to even. -/
theorem isNearest_ofRatio (negative : Bool) (h : x.Positive)
    (hfinite : BinaryFormat.single.nearest x < BinaryFormat.single.infinity) :
    (ofRatio negative x).IsNearest (signed negative x.toRat) := by
  obtain ⟨m, e, hdecode, hclosest⟩ := BinaryFormat.single.nearest_closest (by decide) h hfinite
  have hvalue : (ofRatio negative x).value = .finite negative m e := by
    rw [value_ofRatio, hdecode, BinaryValue.withSign]
  refine ⟨signed negative (m * 2 ^ e), by rw [toRat?, hvalue], ?_⟩
  intro c' v' hv'
  obtain ⟨negative', m', e', hdecode', rfl⟩ := exists_of_toRat? hv'
  rw [distance_signed]
  have hnearer := signed_nearer negative negative' (show 0 ≤ (m' : ℚ) * 2 ^ e' by positivity)
    (Ratio.toRat_pos h.num h.den)
  rcases hnearer with hnearer | hsame
  · refine .inl (lt_of_le_of_lt ?_ hnearer)
    exact (hclosest hdecode').elim le_of_lt fun htie => htie.1.le
  · rw [hsame, distance_signed]
    refine (hclosest hdecode').imp_right fun ⟨htie, hcase⟩ => ⟨htie, ?_⟩
    refine hcase.imp (fun hequal => by rw [hequal]) fun heven => ?_
    have hweight : BinaryFormat.single.signWeight = 2 * 2 ^ 30 := rfl
    rw [toNat_bits_ofRatio, hweight]
    split_ifs <;> omega

theorem nearest_lt_infinity (h : x.Positive) (hhigh : x.toRat < 2 ^ (127 : ℤ)) :
    BinaryFormat.single.nearest x < BinaryFormat.single.infinity := by
  obtain ⟨hlog, -⟩ := Ratio.log2_spec h
  have hmax : x.log2 < 127 := (zpow_lt_zpow_iff_right₀ one_lt_two).mp (hlog.trans_lt hhigh)
  obtain ⟨hsteps, -⟩ := BinaryFormat.single.steps_bounds (by decide) h
  have hexponent :
      (BinaryFormat.single.stepExponent x - BinaryFormat.single.lowest).toNat ≤ 252 := by
    change (max (-149 : ℤ) (x.log2 - (24 - 1)) - (-149)).toNat ≤ 252
    omega
  have hdigits : 2 ^ (BinaryFormat.single.digits - 1) = 2 ^ 23 := rfl
  have hinfinity : BinaryFormat.single.infinity = 255 * 2 ^ 23 := rfl
  rw [BinaryFormat.single.nearest_eq h, hdigits, hinfinity]
  rw [hdigits] at hsteps
  omega

/-- A quotient that is a whole number of steps is not rounded. -/
theorem value_ofRatio_of_multiple (negative : Bool) (h : x.Positive)
    (hfinite : BinaryFormat.single.nearest x < BinaryFormat.single.infinity) {k : Nat}
    (hk : x.toRat = k * 2 ^ BinaryFormat.single.stepExponent x) :
    ∃ m e, (ofRatio negative x).value = .finite negative m e ∧ (m : ℚ) * 2 ^ e = x.toRat := by
  obtain ⟨m, e, hdecode, hvalue⟩ := BinaryFormat.single.decode_nearest (by decide) h hfinite
  refine ⟨m, e, ?_, by rw [hvalue, BinaryFormat.single.steps_exact h hk]⟩
  rw [value_ofRatio, hdecode, BinaryValue.withSign]

/-- An integer of at most 24 binary digits is a single-precision number. -/
theorem value_ofInt {i : ℤ} (hi : i ≠ 0) (hdigits : i.natAbs < 2 ^ 24) :
    ∃ m e, (ofInt i).value = .finite (decide (i < 0)) m e ∧ (m : ℚ) * 2 ^ e = i.natAbs := by
  have hpos : (⟨i.natAbs, 1⟩ : Ratio).Positive := ⟨Int.natAbs_pos.mpr hi, Nat.one_pos⟩
  have hrat : (⟨i.natAbs, 1⟩ : Ratio).toRat = i.natAbs := by
    rw [Ratio.toRat, Nat.cast_one, div_one]
  have hlt : (⟨i.natAbs, 1⟩ : Ratio).toRat < (2 : ℚ) ^ (24 : ℤ) := by
    rw [hrat]
    exact_mod_cast hdigits
  obtain ⟨hlog, -⟩ := Ratio.log2_spec hpos
  have hlog : (⟨i.natAbs, 1⟩ : Ratio).log2 < 24 :=
    (zpow_lt_zpow_iff_right₀ one_lt_two).mp (hlog.trans_lt hlt)
  have hfinite := nearest_lt_infinity hpos (hlt.trans (by norm_num))
  set step := BinaryFormat.single.stepExponent ⟨i.natAbs, 1⟩
  have hwhole : step ≤ 0 := by
    change max (-149 : ℤ) ((⟨i.natAbs, 1⟩ : Ratio).log2 - (24 - 1)) ≤ 0
    omega
  have hmultiple : (⟨i.natAbs, 1⟩ : Ratio).toRat =
      (i.natAbs * 2 ^ (-step).toNat : Nat) * 2 ^ step := by
    rw [Nat.cast_mul, ← Ratio.two_zpow_of_nonneg (by omega), mul_assoc, ← zpow_add₀ two_ne_zero,
      neg_add_cancel, zpow_zero, mul_one, hrat]
  have hexact := value_ofRatio_of_multiple (decide (i < 0)) hpos hfinite hmultiple
  rwa [hrat] at hexact

end Binary32

/-- Tenths of at most 24 binary digits are read as the single-precision number nearest to their
tenth part, ties to even. -/
theorem Celsius.isNearest_ofTenths {t : Int32} (ht : t.toInt.natAbs < 2 ^ 24) :
    (Celsius.ofTenths t).IsNearest (t.toInt / 10) := by
  by_cases hzero : t = 0
  · subst hzero
    have hofTenths : Celsius.ofTenths 0 = ⟨0⟩ := rfl
    rw [hofTenths]
    simpa using Binary32.isNearest_zero
  have hzero : t.toInt ≠ 0 := fun h => hzero (Int32.toInt_inj.mp h)
  obtain ⟨m, e, hvalue, hexact⟩ := Binary32.value_ofInt hzero ht
  have hm : 0 < m := Binary32.significand_pos (e := e) (by
    rw [hexact]
    exact_mod_cast Int.natAbs_pos.mpr hzero)
  obtain ⟨x, hpos, hrat, hscale⟩ :=
    Binary32.scale_eq_ofRatio hvalue hm Nat.one_pos (Nat.succ_pos 9)
  rw [hexact] at hrat
  have hquotient : signed (decide (t.toInt < 0)) x.toRat = t.toInt / 10 := by
    rw [hrat, signed_mul, signed_natAbs]
    push_cast
    ring
  rw [Celsius.ofTenths, hscale, ← hquotient]
  refine Binary32.isNearest_ofRatio _ hpos (Binary32.nearest_lt_infinity hpos ?_)
  have hlt : (t.toInt.natAbs : ℚ) < 2 ^ 24 := by exact_mod_cast ht
  rw [hrat]
  push_cast
  linarith [show (2 : ℚ) ^ 24 < 2 ^ (127 : ℤ) by norm_num]

/-- A temperature that is read from a signed field is the single-precision number nearest to its
tenths of a degree. -/
theorem Image.isNearest_temperature {n : Nat} (m : Image n) {f : Field} (htwo : 2 ≤ f.length)
    (hlength : f.length ≤ 25) : (m.temperature f).IsNearest ((m.signed f).toInt / 10) := by
  have hpow : 2 ^ (f.length - 1) ≤ 2 ^ 24 := Nat.pow_le_pow_right (by decide) (by omega)
  have hbits : f.length ≤ maxFieldBits := hlength.trans (by decide)
  exact Celsius.isNearest_ofTenths ((m.natAbs_signed_lt htwo hbits).trans_le hpow)

end ClimateBus
