import ClimateBus.Proofs.Repetition
import ClimateBus.Proofs.WriteBack
import Mathlib

/-!
What a sync makes of a holding block.

A sync overwrites the fields that a command can set, and the fan control with them, whatever codes
stand in the status image. A setpoint travels as a number of tenths. There are two zeros among the
words it can be read from, so the negative one is the only word that does not arrive as it was
(`Image.getElem?_setSigned_signed`). A sync writes no field to one value and then to another. That
is why the image is marked as edited only if some word has changed, and why a second sync finds
nothing to do (`HoldingCache.syncFrom_syncFrom`).
-/
namespace ClimateBus

namespace Word

/-- A word is its sign and the magnitude below it. -/
theorem eq_iff_sign_magnitude {v w : UInt16} :
    v = w ↔ testBit v 15 = testBit w 15 ∧ v.toNat % 2 ^ 15 = w.toNat % 2 ^ 15 := by
  have hv := v.toNat_lt
  have hw := w.toNat_lt
  rw [← UInt16.toNat_inj, testBit, testBit, Nat.testBit_eq_decide_div_mod_eq,
    Nat.testBit_eq_decide_div_mod_eq, decide_eq_decide]
  omega

/-- The second zero has its sign bit set and no other. -/
theorem eq_negativeZero_iff {w : UInt16} :
    w = 0x8000 ↔ testBit w 15 = true ∧ w.toNat % 2 ^ 15 = 0 :=
  eq_iff_sign_magnitude

end Word

namespace Image

variable {n n' : Nat}

/-- A signed word arrives as it was, unless it is the negative zero, which becomes the other one. -/
theorem getElem?_setSigned_signed (m : Image n) (m' : Image n') {k : Nat} (hk : k < n)
    (hk' : k < n') :
    (m.setSigned ⟨16 * k, 16⟩ (m'.signed ⟨16 * k, 16⟩)).image.words[k]? =
      m'.words[k]?.map fun w => if w = 0x8000 then 0 else w := by
  obtain ⟨w, hw⟩ := (m'.getElem?_words_isSome k).mpr hk'
  obtain ⟨v, hv⟩ :=
    ((m.setSigned ⟨16 * k, 16⟩ (m'.signed ⟨16 * k, 16⟩)).image.getElem?_words_isSome k).mpr hk
  have htwo : 2 ≤ 16 := by decide
  have hlength : 16 ≤ maxFieldBits := by decide
  have hzero : m'.HoldsNegativeZero ⟨16 * k, 16⟩ ↔ w = 0x8000 := by
    rw [Word.eq_negativeZero_iff, ← bits_word hw (Nat.le_succ 15),
      ← bit_word hw (Nat.lt_succ_self 15)]
    rfl
  have hbit {j : Nat} (hj : j < 16) :
      (m.setSigned ⟨16 * k, 16⟩ (m'.signed ⟨16 * k, 16⟩)).image.bit (16 * k + j) =
        if j = 15 ∧ w = 0x8000 then false else m'.bit (16 * k + j) := by
    have hlast : 16 * k + j = 16 * k + 16 - 1 ↔ j = 15 := by omega
    have hcovers : Field.Covers ⟨16 * k, 16⟩ (16 * k + j) :=
      ⟨Nat.le_add_right _ _, Nat.add_lt_add_left hj _⟩
    have harrives := m.bit_setSigned_signed m' htwo hlength hcovers (by omega)
    simpa only [hlast, hzero] using harrives
  have hmagnitude : v.toNat % 2 ^ 15 = w.toNat % 2 ^ 15 := by
    rw [← bits_word hv (Nat.le_succ 15), ← bits_word hw (Nat.le_succ 15)]
    exact bits_congr fun j hj => by rw [hbit (by omega), if_neg (by omega)]
  have hsign := hbit (Nat.lt_succ_self 15)
  rw [bit_word hv (Nat.lt_succ_self 15), bit_word hw (Nat.lt_succ_self 15)] at hsign
  rw [hv, hw, Option.map_some, Option.some_inj]
  split_ifs with hword
  · rw [if_pos ⟨rfl, hword⟩] at hsign
    rw [Word.eq_iff_sign_magnitude, hmagnitude]
    exact ⟨hsign, (Word.eq_negativeZero_iff.mp hword).2⟩
  · rw [if_neg (fun h => hword h.2)] at hsign
    exact Word.eq_iff_sign_magnitude.mpr ⟨hsign, hmagnitude⟩

end Image

/-- Images that agree in all but one field, and in the number that is read there. -/
theorem Image.AgreeOff.eq_of_unsigned {n : Nat} {m m' : Image n} {f : Field}
    (h : AgreeOff [f] m m') (hlength : f.length ≤ maxFieldBits)
    (hcode : m.unsigned f = m'.unsigned f) : m = m' := by
  have hrewrite (m : Image n) : (m.setUnsigned f (m.unsigned f)).image = m := by
    rw [m.setUnsigned_of_eq rfl]
  rw [← hrewrite m, ← hrewrite m', hcode]
  exact (h.setUnsigned _ hlength).eq

/-- The fields that a sync writes. -/
def Layout.synced : List Field :=
  [⟨power, 1⟩, fanControl, fanDirection, fanSpeed, mode, setpoint]

namespace HoldingCache

open Image

variable (h : HoldingCache) (s : StatusImage)

theorem setpoint_syncFrom :
    (h.syncFrom s).image.words[2]? =
      s.image.words[2]?.map fun w => if w = 0x8000 then 0 else w := by
  have htenths : s.setpoint.tenths = s.image.signed Layout.setpoint :=
    s.image.tenths_temperature (by decide) (by decide)
  have hword : Layout.setpoint = ⟨16 * 2, 16⟩ := rfl
  rw [syncFrom, setSetpoint, image_edit, setTemperature, htenths, hword,
    getElem?_setSigned_signed _ s.image (by decide) (by decide)]

/-- A sync touches no bit outside the fields it writes. -/
theorem agreeOff_synced : AgreeOff Layout.synced (h.syncFrom s).image h.image := by
  have hcode {h' : HoldingCache} (hagree : AgreeOff Layout.synced h'.image h.image) {f : Field}
      (hf : f ∈ Layout.synced) (code : UInt32) :
      AgreeOff Layout.synced (h'.setCode f code).image h.image :=
    hagree.of_sameOff hf (h'.image.sameOff_setUnsigned f code)
  have hremote : Layout.fanControl ∈ Layout.synced := by decide
  have hpower : AgreeOff Layout.synced (h.setPower s.power).image h.image :=
    (AgreeOff.refl _ _).of_sameOff (by decide) (h.image.sameOff_setBit Layout.power s.power)
  have hdirection := hcode (hcode hpower (f := Layout.fanDirection) (by decide)
    s.fanDirectionCode) hremote Layout.fanControlRemote
  have hspeed := hcode (hcode hdirection (f := Layout.fanSpeed) (by decide) s.fanSpeedCode)
    hremote Layout.fanControlRemote
  have hmode := hcode hspeed (f := Layout.mode) (by decide) s.modeCode
  rw [syncFrom, setSetpoint, image_edit]
  exact hmode.of_sameOff (by decide) (sameOff_setTemperature_setpoint _ s.setpoint)

/-- Bits that are written back as they were do not count as an edit. -/
theorem dirty_syncFrom :
    (h.syncFrom s).dirty = (h.dirty || decide ((h.syncFrom s).image ≠ h.image)) := by
  have hedited := h.edited_syncFrom s
  by_cases himage : (h.syncFrom s).image = h.image
  · rw [syncFrom_of_image_eq himage]
    simp
  · have hdirty : (h.syncFrom s).dirty = true :=
      Bool.eq_true_of_not_eq_false (mt hedited.unchanged himage)
    simp [hdirty, himage]

theorem syncFrom_syncFrom : (h.syncFrom s).syncFrom s = h.syncFrom s := by
  apply syncFrom_of_image_eq
  have hreserved := (h.edited_syncFrom s).reserved
  refine (agreeOff_syncFrom hreserved s).eq_of_unsigned (by decide) ?_
  exact (h.syncFrom s).unsigned_filter_syncFrom s

/-- `h'` is `h` with the fields of a status image written over its own, and nothing else. -/
structure Overwrites (h : HoldingCache) (s : StatusImage) (h' : HoldingCache) : Prop where
  power : h'.image.bit Layout.power = s.image.bit Layout.power
  fanDirection : h'.image.unsigned Layout.fanDirection = s.image.unsigned Layout.fanDirection
  fanSpeed : h'.image.unsigned Layout.fanSpeed = s.image.unsigned Layout.fanSpeed
  mode : h'.image.unsigned Layout.mode = s.image.unsigned Layout.mode
  fanControl : h'.image.unsigned Layout.fanControl = 6
  setpoint : h'.image.words[2]? = s.image.words[2]?.map fun w => if w = 0x8000 then 0 else w
  others : AgreeOff Layout.synced h'.image h.image
  lastRead : h'.lastRead = h.lastRead
  lastWrite : h'.lastWrite = h.lastWrite
  dirty : h'.dirty = (h.dirty || decide (h'.image ≠ h.image))

/-- A sync is such an overwrite, whatever codes the status image holds and whatever was edited
before, and a second one with the same status image changes nothing. -/
theorem syncFrom_overwrites :
    h.Overwrites s (h.syncFrom s) ∧ (h.syncFrom s).syncFrom s = h.syncFrom s := by
  have hcontrols := h.controls_syncFrom s
  simp only [Image.controls, Controls.mk.injEq] at hcontrols
  obtain ⟨hpower, hdirection, hspeed, hmode, -⟩ := hcontrols
  refine ⟨?_, h.syncFrom_syncFrom s⟩
  exact {
    power := hpower
    fanDirection := hdirection
    fanSpeed := hspeed
    mode := hmode
    fanControl := h.unsigned_fanControl_syncFrom s
    setpoint := h.setpoint_syncFrom s
    others := h.agreeOff_synced s
    lastRead := (h.edited_syncFrom s).lastRead
    lastWrite := (h.edited_syncFrom s).lastWrite
    dirty := h.dirty_syncFrom s }

end HoldingCache

end ClimateBus
