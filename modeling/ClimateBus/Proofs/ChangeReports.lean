import ClimateBus.Register.Image
import ClimateBus.Proofs.Fields
import Mathlib

/-!
What a write reports.

A write reports whether the image changed, which is more than whether a bit was changed on the way.
A field is written bit by bit, a signed one in two parts, and some setters write two fields. Each
step has a report of its own, and these are joined by "or". The joined report is right because the
steps write different bits, so no step takes back what an earlier one did (`Edit.Exact.andThen`).
All of this holds of fields of any length, wherever they lie.
-/
namespace ClimateBus

open Image

variable {n : Nat} {m m' : Image n} {e e' : Edit n} {f g : Field}

/-- The edit of an image reports a change just when the image is another one. -/
def Edit.Exact (e : Edit n) (m : Image n) : Prop := e.changed = true ↔ e.image ≠ m

/-- What was changed in one field is not taken back in another. -/
theorem Image.SameOff.eq_of_undone (h : SameOff f m m') (hback : SameOff g m' m)
    (hapart : f.Apart g) : m' = m := by
  apply ext_bit
  intro i
  by_cases hf : f.Covers i
  · have hg : ¬ g.Covers i := by
      unfold Field.Covers at hf ⊢
      unfold Field.Apart at hapart
      omega
    exact (hback i hg).symm
  · exact h i hf

namespace Edit.Exact

theorem changed_eq_false_iff (h : e.Exact m) : e.changed = false ↔ e.image = m := by
  unfold Edit.Exact at h
  rw [← Bool.not_eq_true, h, not_not]

theorem eq_unchanged (h : e.Exact m) (himage : e.image = m) : e = ⟨m, false⟩ := by
  have hchanged := h.changed_eq_false_iff.mpr himage
  cases e
  simp only at himage hchanged
  rw [himage, hchanged]

/-- Two writes to different fields report a change together just when they make one together. -/
theorem andThen (h : e.Exact m) (h' : e'.Exact e.image) (hoff : SameOff f m e.image)
    (hoff' : SameOff g e.image e'.image) (hapart : f.Apart g) :
    Edit.Exact ⟨e'.image, e.changed || e'.changed⟩ m := by
  have hkept (heq : e'.image = m) : e.image = m := hoff.eq_of_undone (heq ▸ hoff') hapart
  unfold Edit.Exact at h h' ⊢
  rw [Bool.or_eq_true, h, h']
  constructor
  · rintro (hfirst | hsecond) heq
    · exact hfirst (hkept heq)
    · exact hsecond (heq.trans (hkept heq).symm)
  · intro hne
    by_cases hfirst : e.image = m
    · exact .inr (hfirst ▸ hne)
    · exact .inl hfirst

end Edit.Exact

namespace Image

variable (m : Image n)

theorem exact_setBit (i : Nat) (on : Bool) : (m.setBit i on).Exact m := by
  constructor
  · intro hchanged himage
    have hsame : m.bit i = on ∨ 16 * n ≤ i := by
      have hbit := m.bit_setBit i on i
      rw [himage] at hbit
      by_cases hi : i < 16 * n
      · exact .inl (by simpa [hi] using hbit)
      · exact .inr (not_lt.mp hi)
    rcases hsame with hon | hout
    · rw [changed_setBit_of_eq hon] at hchanged
      exact Bool.false_ne_true hchanged
    · have hnone : m.words[i / 16]? = none := by
        rw [List.getElem?_eq_none_iff, m.length_eq]
        omega
      rw [setBit, hnone] at hchanged
      exact Bool.false_ne_true hchanged
  · intro hne
    by_contra hchanged
    exact hne (setBit_of_unchanged (Bool.eq_false_of_not_eq_true hchanged))

theorem sameOff_setBits (start length value : Nat) :
    SameOff ⟨start, length⟩ m (m.setBits start length value).image := by
  intro j hj
  rw [bit_setBits, if_neg]
  rintro ⟨hlow, hhigh, -⟩
  exact hj ⟨hlow, hhigh⟩

theorem exact_setBits (start length value : Nat) : (m.setBits start length value).Exact m := by
  induction length generalizing m start value with
  | zero => simp [setBits, Edit.Exact]
  | succ length ih =>
    have hapart : Field.Apart ⟨start, 1⟩ ⟨start + 1, length⟩ := .inl le_rfl
    exact (m.exact_setBit start (value % 2 == 1)).andThen (ih _ _ _) (m.sameOff_setBit _ _)
      (sameOff_setBits _ _ _ _) hapart

theorem exact_setUnsigned (f : Field) (v : UInt32) : (m.setUnsigned f v).Exact m :=
  m.exact_setBits _ _ _

/-- A number that the field holds already is no change. -/
theorem setUnsigned_of_eq {f : Field} {v : UInt32} (h : m.unsigned f = v) :
    m.setUnsigned f v = ⟨m, false⟩ := by
  have hexact := m.exact_setUnsigned f v
  exact hexact.eq_unchanged (hexact.changed_eq_false_iff.mp (changed_setUnsigned_of_eq h))

theorem exact_setSigned (f : Field) (v : Int32) : (m.setSigned f v).Exact m := by
  unfold setSigned
  split_ifs with hshort
  · simp [Edit.Exact]
  · have hapart : Field.Apart ⟨f.start, min (f.length - 1) maxFieldBits⟩
        ⟨f.start + f.length - 1, 1⟩ := by
      simp only [Field.Apart]
      omega
    exact (m.exact_setBits _ _ _).andThen (exact_setBit _ _ _) (m.sameOff_setBits _ _ _)
      (sameOff_setBit _ _ _) hapart

theorem exact_setTemperature (f : Field) (c : Celsius) : (m.setTemperature f c).Exact m :=
  m.exact_setSigned f c.tenths

end Image

end ClimateBus
