import ClimateBus.Proofs.ShiftRegister
import ClimateBus.Proofs.Transfers
import Mathlib

/-!
Bit errors that the check of a frame catches.

Flipping a bit adds a word to the check register that depends only on how far the bit is from the
end of the frame (`foldl_step_flipBit`), so an error pattern adds one such word for each of its bits
(`disturbance`). These do not cancel out for a burst, since its bits form a word before the shifts
that follow (`burst_detected`), for an odd number of bits, since a shift keeps the parity of the
register, and for two bits that are not too far apart, since the register does not come round to the
same word before (`scattered_errors_detected`).
-/
namespace ClimateBus

namespace Checksum

/-- A frame with one bit flipped. Bits are counted as they go over the wire: byte after byte, the
low bit of each first. -/
def flipBit (frame : Bytes) (place : Nat) : Bytes :=
  frame.modify (place / 8) (· ^^^ UInt8.ofNat (1 <<< (place % 8)))

def flipBits (frame : Bytes) (places : List Nat) : Bytes := places.foldl flipBit frame

/-- Different bits of a frame of so many bytes. -/
structure ErrorPattern (length : Nat) where
  places : List Nat
  nodup : places.Nodup
  inside : ∀ p ∈ places, p < 8 * length

/-- A frame with all bits of a pattern flipped. -/
def ErrorPattern.corrupt {length : Nat} (e : ErrorPattern length) (frame : Bytes) : Bytes :=
  flipBits frame e.places

variable {frame : Bytes} {places : List Nat} {n start : Nat}

section Flips

@[simp] theorem length_flipBit (frame : Bytes) (place : Nat) :
    (flipBit frame place).length = frame.length := by
  rw [flipBit, List.length_modify]

@[simp] theorem length_flipBits (frame : Bytes) (places : List Nat) :
    (flipBits frame places).length = frame.length := by
  induction places generalizing frame with
  | nil => rfl
  | cons p rest ih => exact (ih (flipBit frame p)).trans (length_flipBit frame p)

theorem take_flipBit {place : Nat} (h : place < 8 * n) :
    (flipBit frame place).take n = flipBit (frame.take n) place := by
  apply List.ext_getElem?
  intro i
  simp only [flipBit, List.getElem?_take, List.getElem?_modify]
  split_ifs with hi hplace
  · rfl
  · rfl
  · omega
  · rfl

theorem take_flipBits (h : ∀ p ∈ places, p < 8 * n) :
    (flipBits frame places).take n = flipBits (frame.take n) places := by
  induction places generalizing frame with
  | nil => rfl
  | cons p rest ih =>
    have hrest : (flipBits (flipBit frame p) rest).take n =
        flipBits ((flipBit frame p).take n) rest := ih fun q hq => h q (List.mem_cons_of_mem _ hq)
    rw [take_flipBit (h p List.mem_cons_self)] at hrest
    exact hrest

theorem one_shiftLeft_lt {i w : Nat} (h : i < w) : 1 <<< i < 2 ^ w := by
  rw [Nat.one_shiftLeft]
  exact Nat.pow_lt_pow_right (by decide) h

/-- A single bit of the register comes to its low end before the polynomial is met. -/
theorem iterate_shift_bit {i : Nat} (hi : i < 16) (k : Nat) :
    shift^[k + i] (UInt16.ofNat (1 <<< i)) = shift^[k] 1 := by
  rw [Function.iterate_add_apply, iterate_shift_shiftLeft (one_shiftLeft_lt hi)]
  rfl

/-- A bit that is flipped on its way into the register. -/
theorem step_flip (c : UInt16) (byte : UInt8) {i : Nat} (hi : i < 8) :
    step c (byte ^^^ UInt8.ofNat (1 <<< i)) = step c byte ^^^ shift^[8 - i] 1 := by
  have hword : (UInt8.ofNat (1 <<< i)).toUInt16 = UInt16.ofNat (1 <<< i) := by
    rw [← UInt16.toNat_inj, UInt8.toNat_toUInt16, UInt8.toNat_ofNat_of_lt' (one_shiftLeft_lt hi),
      UInt16.toNat_ofNat_of_lt' (one_shiftLeft_lt (show i < 16 by omega))]
  have hbit := iterate_shift_bit (show i < 16 by omega) (8 - i)
  rw [Nat.sub_add_cancel hi.le] at hbit
  rw [step_eq, step_eq, UInt8.toUInt16_xor, hword, ← UInt16.xor_assoc, iterate_shift_xor, hbit]

theorem foldl_step_flipBit (c : UInt16) {place : Nat} (h : place < 8 * frame.length) :
    (flipBit frame place).foldl step c =
      frame.foldl step c ^^^ shift^[8 * frame.length - place] 1 := by
  induction frame generalizing c place with
  | nil => simp at h
  | cons byte rest ih =>
    rw [List.length_cons] at h ⊢
    -- The bit is in the first byte, or as far from the end of the rest as it was before.
    by_cases hfirst : place < 8
    · have hzero : place / 8 = 0 := by omega
      have hflip : flipBit (byte :: rest) place =
          (byte ^^^ UInt8.ofNat (1 <<< place)) :: rest := by
        rw [flipBit, hzero, Nat.mod_eq_of_lt hfirst]
        rfl
      have hdistance : 8 * (rest.length + 1) - place = 8 * rest.length + (8 - place) := by omega
      rw [hflip, List.foldl_cons, step_flip c byte hfirst, foldl_step_xor,
        ← Function.iterate_add_apply, hdistance, List.foldl_cons]
    · have hflip : flipBit (byte :: rest) place = byte :: flipBit rest (place - 8) := by
        have hnext : place / 8 = (place - 8) / 8 + 1 := by omega
        have hsame : place % 8 = (place - 8) % 8 := by omega
        rw [flipBit, flipBit, hnext, hsame, List.modify_succ_cons]
      have hdistance : 8 * (rest.length + 1) - place = 8 * rest.length - (place - 8) := by omega
      rw [hflip, List.foldl_cons, ih (step c byte) (by omega), hdistance, List.foldl_cons]

/-- What flipped bits add to the register at the end of a frame of `n` bits. -/
def disturbance (n : Nat) (places : List Nat) : UInt16 :=
  places.foldr (fun p c => shift^[n - p] 1 ^^^ c) 0

theorem crc_flipBits (h : ∀ p ∈ places, p < 8 * frame.length) :
    crc (flipBits frame places) = crc frame ^^^ disturbance (8 * frame.length) places := by
  induction places generalizing frame with
  | nil => exact UInt16.xor_zero.symm
  | cons p rest ih =>
    have hrest : ∀ q ∈ rest, q < 8 * (flipBit frame p).length := by
      intro q hq
      rw [length_flipBit]
      exact h q (List.mem_cons_of_mem _ hq)
    have hfirst : crc (flipBit frame p) = crc frame ^^^ shift^[8 * frame.length - p] 1 :=
      foldl_step_flipBit _ (h p List.mem_cons_self)
    show crc (flipBits (flipBit frame p) rest) = _
    rw [ih hrest, hfirst, length_flipBit, UInt16.xor_assoc]
    rfl

/-- A corrupted frame passes only if what was flipped cancels out. -/
theorem matches_corrupt_iff (h : Matches frame) (e : ErrorPattern frame.length) :
    Matches (e.corrupt frame) ↔ disturbance (8 * frame.length) e.places = 0 := by
  obtain ⟨hlength, hcrc⟩ := (matches_iff frame).mp h
  rw [matches_iff, ErrorPattern.corrupt, length_flipBits, crc_flipBits e.inside, hcrc,
    UInt16.zero_xor]
  simp [hlength]

end Flips

section Bursts

/-- Places counted from a start, as the bits of a word. -/
def window (start : Nat) (places : List Nat) : UInt16 :=
  places.foldr (fun p c => UInt16.ofNat (1 <<< (p - start)) ^^^ c) 0

/-- The bits of a burst go through the register as one word. -/
theorem disturbance_burst (hstart : ∀ p ∈ places, start ≤ p ∧ p < start + 16)
    (hinside : ∀ p ∈ places, p < n) :
    disturbance n places = shift^[n - start] (window start places) := by
  induction places with
  | nil => exact (iterate_shift_zero _).symm
  | cons p rest ih =>
    obtain ⟨hle, hlt⟩ := hstart p List.mem_cons_self
    have hp := hinside p List.mem_cons_self
    have hbit : shift^[n - start] (UInt16.ofNat (1 <<< (p - start))) = shift^[n - p] 1 := by
      have hdistance : n - start = n - p + (p - start) := by omega
      rw [hdistance]
      exact iterate_shift_bit (by omega) (n - p)
    show shift^[n - p] 1 ^^^ disturbance n rest =
      shift^[n - start] (UInt16.ofNat (1 <<< (p - start)) ^^^ window start rest)
    rw [iterate_shift_xor, hbit,
      ih (fun q hq => hstart q (List.mem_cons_of_mem _ hq))
        fun q hq => hinside q (List.mem_cons_of_mem _ hq)]

theorem testBit_window (hnodup : places.Nodup)
    (hstart : ∀ p ∈ places, start ≤ p ∧ p < start + 16) {i : Nat} (hi : i < 16) :
    (window start places).toNat.testBit i = decide (start + i ∈ places) := by
  induction places with
  | nil => simp [window]
  | cons p rest ih =>
    obtain ⟨hle, hlt⟩ := hstart p List.mem_cons_self
    have hrest := ih hnodup.of_cons fun q hq => hstart q (List.mem_cons_of_mem _ hq)
    have hpow : 1 <<< (p - start) < UInt16.size := one_shiftLeft_lt (w := 16) (by omega)
    have hhead : (window start (p :: rest)).toNat.testBit i =
        (decide (p - start = i) ^^ (window start rest).toNat.testBit i) := by
      show (UInt16.ofNat (1 <<< (p - start)) ^^^ window start rest).toNat.testBit i = _
      rw [UInt16.toNat_xor, UInt16.toNat_ofNat_of_lt' hpow, Nat.testBit_xor, Nat.one_shiftLeft,
        Nat.testBit_two_pow]
    rw [hhead, hrest]
    by_cases hp : start + i = p
    · have hfirst : p ∉ rest := hnodup.notMem
      have hsame : p - start = i := by omega
      simp [hp, hfirst, hsame]
    · have hother : p - start ≠ i := by omega
      simp [hp, hother]

/-- No burst of up to 16 bits is overlooked, wherever in the frame it strikes. -/
theorem burst_detected (h : Matches frame) (e : ErrorPattern frame.length) (hsome : e.places ≠ [])
    (hburst : ∀ p ∈ e.places, start ≤ p ∧ p < start + 16) : ¬ Matches (e.corrupt frame) := by
  rw [matches_corrupt_iff h e, disturbance_burst hburst e.inside, iterate_shift_eq_zero_iff]
  intro hzero
  -- A window that is zero has none of the flipped bits.
  obtain ⟨p, hp⟩ := List.exists_mem_of_ne_nil _ hsome
  obtain ⟨hle, hlt⟩ := hburst p hp
  have hbit := testBit_window e.nodup hburst (i := p - start) (by omega)
  rw [hzero, Nat.add_sub_cancel' hle] at hbit
  simp [hp] at hbit

/-- A reply to a read of two registers. -/
def sampleReply : Bytes := [0x01, 0x04, 0x04, 0x00, 0x03, 0x80, 0x01, 0xab, 0x84]

theorem matches_sampleReply : Matches sampleReply := ⟨0x84ab, by decide +kernel⟩

/-- A burst across the border between the registers and the check. -/
theorem burst_detected_demo :
    Matches sampleReply ∧ ¬ Matches (flipBits sampleReply [50, 56, 57, 65]) := by
  let e : ErrorPattern sampleReply.length := ⟨[50, 56, 57, 65], by decide, by decide⟩
  have hburst : ∀ p ∈ e.places, 50 ≤ p ∧ p < 50 + 16 := by decide
  exact ⟨matches_sampleReply, burst_detected matches_sampleReply e (by decide) hburst⟩

end Bursts

section Parity

/-- Whether the number of bits that are set is odd. -/
def parity (c : UInt16) : ZMod 2 := ∑ i ∈ Finset.range 16, ((c.toNat.testBit i).toNat : ZMod 2)

theorem parity_zero : parity 0 = 0 := rfl

theorem parity_one : parity 1 = 1 := by decide

theorem parity_xor (a b : UInt16) : parity (a ^^^ b) = parity a + parity b := by
  unfold parity
  rw [← Finset.sum_add_distrib]
  apply Finset.sum_congr rfl
  intro i _
  rw [UInt16.toNat_xor, Nat.testBit_xor]
  cases a.toNat.testBit i <;> cases b.toNat.testBit i <;> decide

theorem parity_shiftRight_one (c : UInt16) :
    parity (c >>> 1) + ((c.toNat.testBit 0).toNat : ZMod 2) = parity c := by
  have hhigh : c.toNat.testBit 16 = false := Nat.testBit_lt_two_pow c.toNat_lt
  let bit (i : Nat) : ZMod 2 := (c.toNat.testBit i).toNat
  have hmoved : parity (c >>> 1) = ∑ i ∈ Finset.range 16, bit (i + 1) := by
    simp only [parity, toNat_shiftRight_one, Nat.testBit_div_two, bit]
  calc parity (c >>> 1) + bit 0 = ∑ i ∈ Finset.range 17, bit i := by
        rw [hmoved, Finset.sum_range_succ' bit 16]
    _ = parity c + bit 16 := Finset.sum_range_succ bit 16
    _ = parity c := by simp [bit, hhigh]

/-- The polynomial has an odd number of bits, so it makes up for the bit shifted out. -/
theorem parity_feedback (c : UInt16) :
    parity (feedback c) = ((c.toNat.testBit 0).toNat : ZMod 2) := by
  unfold feedback
  rw [Nat.testBit_zero]
  split_ifs with hodd
  · rw [hodd]
    decide
  · simp [hodd, parity_zero]

theorem parity_shift (c : UInt16) : parity (shift c) = parity c := by
  rw [shift_eq, parity_xor, parity_feedback, parity_shiftRight_one]

theorem parity_iterate_shift (n : Nat) (c : UInt16) : parity (shift^[n] c) = parity c := by
  induction n with
  | zero => rfl
  | succ n ih => rw [Function.iterate_succ_apply', parity_shift, ih]

theorem parity_disturbance (n : Nat) (places : List Nat) :
    parity (disturbance n places) = places.length := by
  induction places with
  | nil => exact parity_zero.trans Nat.cast_zero.symm
  | cons p rest ih =>
    show parity (shift^[n - p] 1 ^^^ disturbance n rest) = _
    rw [parity_xor, parity_iterate_shift, parity_one, ih, List.length_cons, Nat.cast_succ, add_comm]

end Parity

section Period

/-- None of the first registers from `c` on is the lone low bit. -/
def avoidsOne (c : UInt16) : Nat → Bool
  | 0 => true
  | n + 1 => c != 1 && avoidsOne (shift c) n

theorem ne_one_of_avoidsOne {c : UInt16} (h : avoidsOne c n = true) {k : Nat} (hk : k < n) :
    shift^[k] c ≠ 1 := by
  induction n generalizing c k with
  | zero => omega
  | succ n ih =>
    simp only [avoidsOne, Bool.and_eq_true, bne_iff_ne] at h
    cases k with
    | zero => exact h.1
    | succ k => exact ih h.2 (by omega)

/-- In as many shifts as a reply has bits the register does not come round. -/
theorem iterate_shift_one_ne {k : Nat} (hpos : 0 < k) (hk : k < 8 * Frame.maxReadReply) :
    shift^[k] 1 ≠ 1 := by
  have hwalk : avoidsOne (shift 1) (8 * Frame.maxReadReply - 1) = true := by decide +kernel
  obtain ⟨k, rfl⟩ : ∃ j, k = j + 1 := ⟨k - 1, by omega⟩
  exact ne_one_of_avoidsOne hwalk (by omega)

/-- Bits of a frame that is no longer than a reply never cancel out in pairs. -/
theorem iterate_shift_ne {p q : Nat} (hne : p ≠ q) (hp : p < n) (hq : q < n)
    (hn : n ≤ 8 * Frame.maxReadReply) : shift^[n - p] 1 ≠ shift^[n - q] 1 := by
  wlog hlt : p < q generalizing p q
  · exact (this hne.symm hq hp (by omega)).symm
  intro heq
  -- The shifts that both bits go through lose nothing, so only their distance counts.
  have hdistance : n - p = n - q + (q - p) := by omega
  rw [hdistance, Function.iterate_add_apply] at heq
  exact iterate_shift_one_ne (by omega) (by omega) (shift_injective.iterate _ heq)

end Period

section Scattered

theorem odd_detected (h : Matches frame) (e : ErrorPattern frame.length)
    (hodd : Odd e.places.length) : ¬ Matches (e.corrupt frame) := by
  rw [matches_corrupt_iff h e]
  intro hzero
  have hparity := parity_disturbance (8 * frame.length) e.places
  rw [hzero, parity_zero, ZMod.natCast_eq_one_iff_odd.mpr hodd] at hparity
  exact absurd hparity (by decide)

theorem pair_detected (h : Matches frame) (hlength : frame.length ≤ Frame.maxReadReply)
    (e : ErrorPattern frame.length) (htwo : e.places.length = 2) :
    ¬ Matches (e.corrupt frame) := by
  rw [matches_corrupt_iff h e]
  obtain ⟨p, q, hplaces⟩ := List.length_eq_two.mp htwo
  have hne : p ≠ q := by
    have hnodup := e.nodup
    rw [hplaces] at hnodup
    simpa using hnodup
  have hp := e.inside p (by simp [hplaces])
  have hq := e.inside q (by simp [hplaces])
  rw [hplaces]
  show shift^[8 * frame.length - p] 1 ^^^ (shift^[8 * frame.length - q] 1 ^^^ 0) ≠ 0
  rw [UInt16.xor_zero, Ne, UInt16.xor_eq_zero_iff]
  exact iterate_shift_ne hne hp hq (by omega)

theorem few_detected (h : Matches frame) (hlength : frame.length ≤ Frame.maxReadReply)
    (e : ErrorPattern frame.length) (hsome : e.places ≠ []) (hfew : e.places.length ≤ 3) :
    ¬ Matches (e.corrupt frame) := by
  have hpos := List.length_pos_iff.mpr hsome
  by_cases htwo : e.places.length = 2
  · exact pair_detected h hlength e htwo
  · have hodd : e.places.length % 2 = 1 := by omega
    exact odd_detected h e (Nat.odd_iff.mpr hodd)

/-- An odd number of flipped bits is never overlooked, and two are not in a frame that is no longer
than a reply, so a reply that passes does not pass with up to three of its bits flipped. -/
theorem scattered_errors_detected :
    (∀ (frame : Bytes) (e : ErrorPattern frame.length), Matches frame →
      (Odd e.places.length → ¬ Matches (e.corrupt frame)) ∧
        (e.places.length = 2 → frame.length ≤ Frame.maxReadReply →
          ¬ Matches (e.corrupt frame))) ∧
      ∀ (x : Transfer) (slave : UInt8) (reply : Bytes) (ws : Words) (e : ErrorPattern x.expected),
        x.Admissible → x.verdict slave reply = .ok ws → e.places ≠ [] → e.places.length ≤ 3 →
          ∀ ws', x.verdict slave (e.corrupt reply) ≠ .ok ws' := by
  constructor
  · intro frame e h
    constructor
    · exact odd_detected h e
    · intro htwo hlength
      exact pair_detected h hlength e htwo
  · intro x slave reply ws e hx hpassed hsome hfew ws' hpassed'
    obtain ⟨hlong, hmatches⟩ := Transfer.matches_of_verdict hx hpassed
    obtain ⟨-, hmatches'⟩ := Transfer.matches_of_verdict hx hpassed'
    -- Only the expected bytes are judged, and all flipped bits are among them.
    rw [ErrorPattern.corrupt, take_flipBits e.inside] at hmatches'
    have hlength : (reply.take x.expected).length = x.expected := by
      rw [List.length_take, min_eq_left hlong]
    have hshort : (reply.take x.expected).length ≤ Frame.maxReadReply := by
      rw [hlength]
      exact Transfer.expected_le hx
    have hinside : ∀ p ∈ e.places, p < 8 * (reply.take x.expected).length := by
      rw [hlength]
      exact e.inside
    exact few_detected hmatches hshort ⟨e.places, e.nodup, hinside⟩ hsome hfew hmatches'

theorem scattered_errors_detected_demo :
    let x := Transfer.read .input 2000 (Image.filled 2 0)
    ¬ Matches (flipBits sampleReply [3, 40, 71]) ∧ ¬ Matches (flipBits sampleReply [0, 71]) ∧
      x.verdict 1 sampleReply = .ok [3, 0x8001] ∧
      ∀ ws, x.verdict 1 (flipBits sampleReply [25, 40, 71]) ≠ .ok ws := by
  intro x
  have hx : x.Admissible := by
    constructor <;> decide
  have hpassed : x.verdict 1 sampleReply = .ok [3, 0x8001] := by decide +kernel
  obtain ⟨hframes, hreplies⟩ := scattered_errors_detected
  refine ⟨?odd, ?pair, hpassed, ?reply⟩
  case odd =>
    exact (hframes _ ⟨[3, 40, 71], by decide, by decide⟩ matches_sampleReply).1 (by decide)
  case pair =>
    exact (hframes _ ⟨[0, 71], by decide, by decide⟩ matches_sampleReply).2 rfl (by decide)
  case reply =>
    exact hreplies x 1 sampleReply _ ⟨[25, 40, 71], by decide, by decide⟩ hx hpassed (by decide)
      (by decide)

end Scattered

end Checksum

end ClimateBus
