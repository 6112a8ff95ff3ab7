import ClimateBus.Proofs.Controls
import Mathlib

/-!
Images that agree outside some fields.

Two images that are written the same value in a field agree there afterwards, whatever they held
before (`AgreeOff.setUnsigned` and its like). A sync writes every field of a holding image except
the filter field, so its outcome depends on the status image, on the filter field and on the bits of
no field alone. Once the filter field is cleared too, there is one block only that brings a unit to
what a status image shows (`HoldingCache.target`).
-/
namespace ClimateBus

namespace Image

variable {n : Nat} {m m' : Image n} {f : Field} {fs : List Field}

/-- The images agree in every bit outside some fields. -/
def AgreeOff (fs : List Field) (m m' : Image n) : Prop :=
  ∀ k, (∀ f ∈ fs, ¬ f.Covers k) → m.bit k = m'.bit k

namespace AgreeOff

theorem eq (h : AgreeOff [] m m') : m = m' := by
  apply ext_bit
  intro k
  exact h k (by simp)

theorem refl (fs : List Field) (m : Image n) : AgreeOff fs m m := fun _ _ => rfl

theorem trans {m'' : Image n} (h : AgreeOff fs m m') (h' : AgreeOff fs m' m'') :
    AgreeOff fs m m'' :=
  fun k hk => (h k hk).trans (h' k hk)

/-- An edit of one of the fields does not matter. -/
theorem of_sameOff {e : Image n} (h : AgreeOff fs m m') (hf : f ∈ fs) (hoff : SameOff f m e) :
    AgreeOff fs e m' := by
  intro k hk
  rw [hoff k (hk f hf)]
  exact h k hk

theorem mono {fs' : List Field} (h : AgreeOff fs m m') (hsub : fs ⊆ fs') :
    AgreeOff fs' m m' := by
  intro k hk
  exact h k fun f hf => hk f (hsub hf)

/-- A write that leaves all but its field alone, and the same in both images, makes them agree in
that field. -/
theorem write {e e' : Image n} (h : AgreeOff (f :: fs) m m')
    (hin : ∀ k, f.Covers k → k < 16 * n → e.bit k = e'.bit k) (hoff : SameOff f m e)
    (hoff' : SameOff f m' e') : AgreeOff fs e e' := by
  intro k hk
  by_cases hcovers : f.Covers k
  · by_cases hlt : k < 16 * n
    · exact hin k hcovers hlt
    · rw [bit_of_le e (not_lt.mp hlt), bit_of_le e' (not_lt.mp hlt)]
  · rw [hoff k hcovers, hoff' k hcovers]
    exact h k (List.forall_mem_cons.mpr ⟨hcovers, hk⟩)

theorem setBit {i : Nat} (h : AgreeOff (⟨i, 1⟩ :: fs) m m') (on : Bool) :
    AgreeOff fs (m.setBit i on).image (m'.setBit i on).image := by
  refine h.write ?_ (m.sameOff_setBit i on) (m'.sameOff_setBit i on)
  intro k hcovers hk
  obtain rfl : k = i := by
    simp only [Field.Covers] at hcovers
    omega
  rw [bit_setBit, bit_setBit, if_pos ⟨rfl, hk⟩, if_pos ⟨rfl, hk⟩]

theorem setUnsigned (h : AgreeOff (f :: fs) m m') (v : UInt32) (hlength : f.length ≤ maxFieldBits) :
    AgreeOff fs (m.setUnsigned f v).image (m'.setUnsigned f v).image := by
  refine h.write ?_ (m.sameOff_setUnsigned f v) (m'.sameOff_setUnsigned f v)
  rintro k ⟨hlow, hhigh⟩ hk
  rw [bit_setUnsigned, bit_setUnsigned, Nat.min_eq_left hlength, if_pos ⟨hlow, hhigh, hk⟩,
    if_pos ⟨hlow, hhigh, hk⟩]

theorem setSigned (h : AgreeOff (f :: fs) m m') (v : Int32) (htwo : 2 ≤ f.length)
    (hlength : f.length ≤ maxFieldBits) :
    AgreeOff fs (m.setSigned f v).image (m'.setSigned f v).image := by
  refine h.write ?_ (m.sameOff_setSigned v htwo hlength) (m'.sameOff_setSigned v htwo hlength)
  rintro k ⟨hlow, hhigh⟩ hk
  rw [bit_setSigned _ _ htwo hlength, bit_setSigned _ _ htwo hlength]
  by_cases hsign : k = f.start + f.length - 1
  · rw [if_pos ⟨hsign, hk⟩, if_pos ⟨hsign, hk⟩]
  · have hdigit : f.start ≤ k ∧ k < f.start + f.length - 1 ∧ k < 16 * n := by omega
    have hno : ¬ (k = f.start + f.length - 1 ∧ k < 16 * n) := fun h => hsign h.1
    rw [if_neg hno, if_neg hno, if_pos hdigit, if_pos hdigit]

end AgreeOff

end Image

namespace HoldingCache

open Image

variable {h h' : HoldingCache} {m m' : Image BlockKind.holding.size} {f : Field} {fs : List Field}

theorem agreeOff_setPower (hagree : AgreeOff (⟨Layout.power, 1⟩ :: fs) h.image h'.image)
    (on : Bool) : AgreeOff fs (h.setPower on).image (h'.setPower on).image := by
  rw [setPower, setPower, image_edit, image_edit]
  exact hagree.setBit on

theorem agreeOff_setCode (hagree : AgreeOff (f :: fs) h.image h'.image) (code : UInt32)
    (hlength : f.length ≤ maxFieldBits) :
    AgreeOff fs (h.setCode f code).image (h'.setCode f code).image := by
  rw [setCode, setCode, image_edit, image_edit]
  exact hagree.setUnsigned code hlength

theorem agreeOff_setSetpoint (hagree : AgreeOff (Layout.setpoint :: fs) h.image h'.image)
    (c : Celsius) : AgreeOff fs (h.setSetpoint c).image (h'.setSetpoint c).image := by
  rw [setSetpoint, setSetpoint, image_edit, image_edit]
  exact hagree.setSigned c.tenths (by decide) (by decide)

/-- A code for the fan, which is handed over to remote control with it. -/
theorem agreeOff_setFanCode (hagree : AgreeOff (f :: Layout.fanControl :: fs) h.image h'.image)
    (code : UInt32) (hlength : f.length ≤ maxFieldBits) :
    AgreeOff fs ((h.setCode f code).setFanControl true).image
      ((h'.setCode f code).setFanControl true).image :=
  agreeOff_setCode (agreeOff_setCode hagree code hlength) _ (by decide)

/-- Blocks with the same reserved bits agree, once synced with one status image, in all but the
filter field. -/
theorem agreeOff_syncFrom
    (hreserved : ∀ k, Layout.Reserved k → h.image.bit k = h'.image.bit k) (s : StatusImage) :
    AgreeOff [Layout.filter] (h.syncFrom s).image (h'.syncFrom s).image := by
  have hagree : AgreeOff [⟨Layout.power, 1⟩, Layout.fanDirection, Layout.fanControl,
      Layout.fanSpeed, Layout.mode, Layout.setpoint, Layout.filter] h.image h'.image := by
    intro k hk
    by_cases hlt : k < 48
    · apply hreserved
      simp only [List.forall_mem_cons, Field.Covers, Layout.power, Layout.fanDirection,
        Layout.fanControl, Layout.fanSpeed, Layout.mode, Layout.setpoint, Layout.filter] at hk
      simp only [Layout.Reserved, List.mem_cons, List.not_mem_nil, or_false]
      omega
    · have hout : 16 * BlockKind.holding.size ≤ k := not_lt.mp hlt
      rw [h.image.bit_of_le hout, h'.image.bit_of_le hout]
  have hpower := agreeOff_setPower hagree s.power
  have hdirection := agreeOff_setFanCode hpower s.fanDirectionCode (by decide)
  -- The fan is handed over once more with its speed.
  have hagain := hdirection.mono (List.cons_subset_cons Layout.fanSpeed
    (List.subset_cons_self Layout.fanControl _))
  have hspeed := agreeOff_setFanCode hagain s.fanSpeedCode (by decide)
  have hmode := agreeOff_setCode hspeed s.modeCode (by decide)
  exact agreeOff_setSetpoint hmode s.setpoint

/-- The holding block that brings a unit to what a status image shows. The bits of no field are
those of `m`, and the filter sign is not asked to be cleared. -/
def target (m : Image BlockKind.holding.size) (s : StatusImage) : Image BlockKind.holding.size :=
  (((ofImage m).syncFrom s).setFilterReset false).image

theorem reserved_target (m : Image BlockKind.holding.size) (s : StatusImage) {k : Nat}
    (hk : Layout.Reserved k) : (target m s).bit k = m.bit k := by
  have hedited := ((ofImage m).edited_syncFrom s).trans (edited_setFilterReset _ false)
  exact hedited.reserved k hk

/-- Of the block that the unit had, the reserved bits alone are left. -/
theorem target_congr (hreserved : ∀ k, Layout.Reserved k → m.bit k = m'.bit k) (s : StatusImage) :
    target m s = target m' s := by
  have hsynced : AgreeOff [Layout.filter] ((ofImage m).syncFrom s).image
      ((ofImage m').syncFrom s).image := agreeOff_syncFrom hreserved s
  exact (agreeOff_setCode hsynced _ (by decide)).eq

/-- A synced block is the target as soon as its filter field is clear. -/
theorem eq_target {s : StatusImage}
    (hagree : AgreeOff [Layout.filter] h.image ((ofImage m).syncFrom s).image)
    (hquiet : h.image.unsigned Layout.filter = 0) : h.image = target m s := by
  have hcleared : (h.setFilterReset false).image = h.image := by
    rw [setFilterReset, setCode, image_edit, if_neg Bool.false_ne_true,
      h.image.setUnsigned_of_eq hquiet]
  rw [← hcleared]
  exact (agreeOff_setCode hagree _ (by decide)).eq

end HoldingCache

end ClimateBus
