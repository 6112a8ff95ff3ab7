import ClimateBus.Register.Image
import Mathlib

/-!
Bit by bit laws of register images.

A write is described by what every bit is afterwards, and a field is read through its bits alone.
So the laws for whole fields follow by comparing bits, also between images of different length that
share a layout.
-/
namespace ClimateBus

namespace Word

theorem testBit_withBit (w : UInt16) {k : Nat} (hk : k < 16) (on : Bool) (j : Nat) :
    testBit (withBit w k on) j = if j = k then on else testBit w j := by
  have hpow : 2 ^ k < 2 ^ 16 := Nat.pow_lt_pow_right (by decide) hk
  have hmask : (UInt16.ofNat (2 ^ k)).toNat = 2 ^ k := UInt16.toNat_ofNat_of_lt' hpow
  cases on with
  | true =>
    simp only [testBit, withBit, Nat.one_shiftLeft, if_true, UInt16.toNat_or, hmask,
      Nat.testBit_or, Nat.testBit_two_pow]
    by_cases h : j = k
    · simp [h]
    · simp [h, Ne.symm h]
  | false =>
    have hnot : (~~~UInt16.ofNat (2 ^ k)).toNat = 2 ^ 16 - (2 ^ k + 1) := by
      rw [UInt16.toNat_not, hmask]
      simp only [UInt16.size]
      omega
    have hw : w.toNat < 2 ^ 16 := w.toNat_lt
    simp only [testBit, withBit, Nat.one_shiftLeft, Bool.false_eq_true, if_false,
      UInt16.toNat_and, hnot, Nat.testBit_and, Nat.testBit_two_pow_sub_succ hpow,
      Nat.testBit_two_pow]
    by_cases h : j = k
    · simp [h]
    · by_cases hj : j < 16
      · simp [h, hj, Ne.symm h]
      · have hhigh : w.toNat.testBit j = false :=
          Nat.testBit_lt_two_pow (hw.trans_le (Nat.pow_le_pow_right (by decide) (by omega)))
        simp [h, hhigh]

end Word

namespace Image

variable {n n' : Nat}

theorem getElem?_words_isSome (m : Image n) (k : Nat) :
    (∃ w, m.words[k]? = some w) ↔ k < n := by
  have hlength := m.length_eq
  constructor
  · rintro ⟨w, hw⟩
    exact hlength ▸ (List.getElem?_eq_some_iff.mp hw).1
  · intro hk
    exact ⟨_, List.getElem?_eq_getElem (hlength.symm ▸ hk)⟩

theorem bit_word {m : Image n} {k : Nat} {w : UInt16} (hw : m.words[k]? = some w) {j : Nat}
    (hj : j < 16) : m.bit (16 * k + j) = Word.testBit w j := by
  have hdiv : (16 * k + j) / 16 = k := by omega
  have hmod : (16 * k + j) % 16 = j := by omega
  simp only [bit, hdiv, hmod, hw]

theorem bit_of_le (m : Image n) {k : Nat} (hk : 16 * n ≤ k) : m.bit k = false := by
  have hnone : m.words[k / 16]? = none := by
    rw [List.getElem?_eq_none_iff, m.length_eq]
    omega
  unfold bit
  rw [hnone]

theorem bit_setBit (m : Image n) (i : Nat) (on : Bool) (j : Nat) :
    (m.setBit i on).image.bit j = if j = i ∧ i < 16 * n then on else m.bit j := by
  unfold setBit
  split
  next hnone =>
    rw [List.getElem?_eq_none_iff, m.length_eq] at hnone
    rw [if_neg (by omega)]
  next w hw =>
    have hi : i / 16 < n := (m.getElem?_words_isSome _).mp ⟨w, hw⟩
    split
    next hsame =>
      have hon : m.bit i = on := by simpa [bit, hw] using hsame
      split_ifs with h
      · rw [h.1, hon]
      · rfl
    next hdiff =>
      by_cases hword : j / 16 = i / 16
      · have hset : (m.words.set (i / 16) (Word.withBit w (i % 16) on))[j / 16]? =
            some (Word.withBit w (i % 16) on) := by
          rw [hword, List.getElem?_set_self (by rw [m.length_eq]; exact hi)]
        have hj : m.bit j = Word.testBit w (j % 16) := by simp [bit, hword, hw]
        have hiff : j % 16 = i % 16 ↔ j = i ∧ i < 16 * n := by omega
        simp only [bit, hset, Word.testBit_withBit w (Nat.mod_lt i (by decide)), hiff]
        split_ifs with h
        · rfl
        · simpa [bit] using hj.symm
      · have hset : (m.words.set (i / 16) (Word.withBit w (i % 16) on))[j / 16]? =
            m.words[j / 16]? := List.getElem?_set_ne (Ne.symm hword)
        rw [if_neg (by omega)]
        simp only [bit, hset]

theorem setBit_of_unchanged {m : Image n} {i : Nat} {on : Bool}
    (h : (m.setBit i on).changed = false) : (m.setBit i on).image = m := by
  revert h
  unfold setBit
  split
  · simp
  · split <;> simp

theorem changed_setBit_of_eq {m : Image n} {i : Nat} {on : Bool} (h : m.bit i = on) :
    (m.setBit i on).changed = false := by
  unfold setBit
  split
  next => rfl
  next w hw =>
    have hsame : (Word.testBit w (i % 16) == on) = true := by simpa [bit, hw] using h
    rw [if_pos hsame]

theorem bit_setBits (m : Image n) (start length value j : Nat) :
    (m.setBits start length value).image.bit j =
      if start ≤ j ∧ j < start + length ∧ j < 16 * n then value.testBit (j - start)
      else m.bit j := by
  induction length generalizing m start value with
  | zero => simp [setBits, show ¬ (start ≤ j ∧ j < start ∧ j < 16 * n) by omega]
  | succ length ih =>
    have hlow : value.testBit 0 = (value % 2 == 1) := Nat.testBit_zero value
    simp only [setBits, ih, bit_setBit]
    by_cases hj : j = start
    · subst hj
      rw [if_neg (by omega)]
      by_cases hn : j < 16 * n
      · simp [hn, hlow]
      · simp [hn]
    · simp only [hj, false_and, if_false]
      by_cases hin : start + 1 ≤ j ∧ j < start + 1 + length ∧ j < 16 * n
      · rw [if_pos hin, if_pos (by omega), ← Nat.testBit_succ]
        congr 1
        omega
      · rw [if_neg hin, if_neg (by omega)]

/-- Writing the digits that are there already is no change. -/
theorem changed_setBits_of_testBit {m : Image n} {start length value : Nat}
    (h : ∀ k < length, m.bit (start + k) = value.testBit k) :
    (m.setBits start length value).changed = false := by
  induction length generalizing m start value with
  | zero => rfl
  | succ length ih =>
    have hlow : m.bit start = (value % 2 == 1) := by
      have hzero := h 0 (Nat.succ_pos _)
      rwa [Nat.add_zero, Nat.testBit_zero] at hzero
    have hkept := changed_setBit_of_eq hlow
    have hrest : ∀ k < length, m.bit (start + 1 + k) = (value / 2).testBit k := by
      intro k hk
      rw [← Nat.testBit_succ, ← h (k + 1) (by omega)]
      congr 1
      omega
    simp only [setBits, hkept, setBit_of_unchanged hkept, ih hrest, Bool.or_self]

theorem testBit_bits (m : Image n) (start length k : Nat) :
    (m.bits start length).testBit k = (decide (k < length) && m.bit (start + k)) := by
  induction length generalizing start k with
  | zero => simp [bits]
  | succ length ih =>
    cases k with
    | zero =>
      rw [bits, Nat.testBit_zero]
      cases m.bit start <;> simp
    | succ k =>
      have hhalf : ((m.bit start).toNat + 2 * m.bits (start + 1) length) / 2 =
          m.bits (start + 1) length := by
        cases m.bit start
        · simp
        · simp
          omega
      rw [bits, Nat.testBit_succ, hhalf, ih, Nat.add_right_comm, Nat.add_assoc]
      simp

theorem bits_lt (m : Image n) (start length : Nat) : m.bits start length < 2 ^ length := by
  apply Nat.lt_pow_two_of_testBit
  intro k hk
  simp [testBit_bits, Nat.not_lt.mpr hk]

/-- The digits of a run depend on its bits alone. -/
theorem bits_congr {m : Image n} {m' : Image n'} {start length : Nat}
    (h : ∀ k < length, m.bit (start + k) = m'.bit (start + k)) :
    m.bits start length = m'.bits start length := by
  apply Nat.eq_of_testBit_eq
  intro k
  by_cases hk : k < length
  · simp [testBit_bits, hk, h k hk]
  · simp [testBit_bits, hk]

theorem bits_word {m : Image n} {k : Nat} {w : UInt16} (hw : m.words[k]? = some w) {length : Nat}
    (hlength : length ≤ 16) : m.bits (16 * k) length = w.toNat % 2 ^ length := by
  apply Nat.eq_of_testBit_eq
  intro j
  rw [testBit_bits, Nat.testBit_mod_two_pow]
  by_cases hj : j < length
  · rw [bit_word hw (hj.trans_le hlength), Word.testBit]
  · simp [hj]

/-- An image is made of its bits. -/
theorem ext_bit {m m' : Image n} (h : ∀ k, m.bit k = m'.bit k) : m = m' := by
  ext1
  apply List.ext_getElem
  · rw [m.length_eq, m'.length_eq]
  · intro j hj hj'
    have hbits : m.bits (16 * j) 16 = m'.bits (16 * j) 16 := bits_congr fun k _ => h _
    rw [bits_word (List.getElem?_eq_getElem hj) le_rfl,
      bits_word (List.getElem?_eq_getElem hj') le_rfl, Nat.mod_eq_of_lt (UInt16.toNat_lt _),
      Nat.mod_eq_of_lt (UInt16.toNat_lt _)] at hbits
    exact UInt16.toNat_inj.mp hbits

end Image

end ClimateBus
