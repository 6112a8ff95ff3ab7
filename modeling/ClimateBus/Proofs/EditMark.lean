import ClimateBus.Proofs.StatusSync
import Mathlib

/-!
What the mark of an edited holding image tells.

A setter marks the image just when it changes a bit, also one that writes two fields and a sync,
which writes them all (`HoldingCache.dirty_set`). The mark stays until the image is marked as
written. So after any calls it tells whether a setter has changed a bit since then, and an image
without it holds the words that were written last.
-/
namespace ClimateBus

/-- The calls that set fields of a holding image. -/
inductive HoldingSetter where
  | power (on : Bool)
  | mode (m : Mode)
  | setpoint (c : Celsius)
  | fanSpeed (v : FanSpeed)
  | fanDirection (d : FanDirection)
  | fanControl (on : Bool)
  | filterReset (on : Bool)
  | sync (s : StatusImage)
  deriving DecidableEq

/-- The calls on a holding image: its setters, the marks of a read and of a write, and the questions
whether these were recent. -/
inductive HoldingCall where
  | set (s : HoldingSetter)
  | markRead (now : UInt64)
  | markWritten (now : UInt64)
  | readWithin (now : UInt64) (secs : UInt32)
  | writeWithin (now : UInt64) (secs : UInt32)
  deriving DecidableEq

def HoldingCall.MarksWritten (c : HoldingCall) : Prop := ∃ now, c = .markWritten now

theorem Image.ne_iff_bit {n : Nat} {m m' : Image n} : m ≠ m' ↔ ∃ i, m.bit i ≠ m'.bit i := by
  constructor
  · intro hne
    by_contra hsame
    push Not at hsame
    exact hne (ext_bit hsame)
  · rintro ⟨i, hi⟩ rfl
    exact hi rfl

namespace HoldingCache

open Image

variable (h : HoldingCache)

def set (h : HoldingCache) : HoldingSetter → HoldingCache
  | .power on => h.setPower on
  | .mode m => h.setMode m
  | .setpoint c => h.setSetpoint c
  | .fanSpeed v => h.setFanSpeed v
  | .fanDirection d => h.setFanDirection d
  | .fanControl on => h.setFanControl on
  | .filterReset on => h.setFilterReset on
  | .sync s => h.syncFrom s

/-- The answer to a question, and the image after the call. -/
def call (h : HoldingCache) : HoldingCall → Option Bool × HoldingCache
  | .set s => (none, h.set s)
  | .markRead now => (none, h.markRead now)
  | .markWritten now => (none, h.markWritten now)
  | .readWithin now secs => (some (h.readWithin now secs), h)
  | .writeWithin now secs => (some (h.writeWithin now secs), h)

/-- The image after calls in their order. -/
def run (h : HoldingCache) (calls : List HoldingCall) : HoldingCache :=
  calls.foldl (fun h c => (h.call c).2) h

section Setters

theorem dirty_edit {e : Edit BlockKind.holding.size} (he : e.Exact h.image) :
    (h.edit e).dirty = true ↔ h.dirty = true ∨ (h.edit e).image ≠ h.image := by
  unfold Edit.Exact at he
  rw [image_edit, ← he]
  exact Bool.or_eq_true_iff

theorem edit_edit (e e' : Edit BlockKind.holding.size) :
    (h.edit e).edit e' = h.edit ⟨e'.image, e.changed || e'.changed⟩ := by
  simp only [edit, Bool.or_assoc]

theorem dirty_setCode (f : Field) (code : UInt32) :
    (h.setCode f code).dirty = true ↔ h.dirty = true ∨ (h.setCode f code).image ≠ h.image :=
  h.dirty_edit (h.image.exact_setUnsigned f code)

/-- A setter that writes two fields does not lose the change that it made in the first of them. -/
theorem dirty_setCode_setCode {f g : Field} (hapart : f.Apart g) (v w : UInt32) :
    ((h.setCode f v).setCode g w).dirty = true ↔
      h.dirty = true ∨ ((h.setCode f v).setCode g w).image ≠ h.image := by
  have hexact := (h.image.exact_setUnsigned f v).andThen (exact_setUnsigned _ g w)
    (h.image.sameOff_setUnsigned f v) (sameOff_setUnsigned _ g w) hapart
  have hdirty := h.dirty_edit hexact
  rwa [← edit_edit] at hdirty

/-- A setter marks the image just when it changes it. -/
theorem dirty_set (s : HoldingSetter) :
    (h.set s).dirty = true ↔ h.dirty = true ∨ (h.set s).image ≠ h.image := by
  cases s with
  | power on => exact h.dirty_edit (h.image.exact_setBit Layout.power on)
  | mode m => exact h.dirty_setCode Layout.mode _
  | setpoint c => exact h.dirty_edit (h.image.exact_setTemperature Layout.setpoint c)
  | fanSpeed v =>
    have hapart : Layout.fanSpeed.Apart Layout.fanControl := by decide
    exact h.dirty_setCode_setCode hapart _ _
  | fanDirection d =>
    have hapart : Layout.fanDirection.Apart Layout.fanControl := by decide
    exact h.dirty_setCode_setCode hapart _ _
  | fanControl on => exact h.dirty_setCode Layout.fanControl _
  | filterReset on => exact h.dirty_setCode Layout.filter _
  | sync s =>
    have hdirty := h.dirty_syncFrom s
    rw [set, hdirty, Bool.or_eq_true, decide_eq_true_iff]

theorem clean_set_iff {s : HoldingSetter} :
    (h.set s).dirty = false ↔ h.dirty = false ∧ (h.set s).image = h.image := by
  rw [← Bool.not_eq_true, dirty_set, not_or, not_not, Bool.not_eq_true]

end Setters

section Runs

variable {h}

theorem run_append (calls calls' : List HoldingCall) :
    h.run (calls ++ calls') = (h.run calls).run calls' := List.foldl_append

theorem run_snoc (calls : List HoldingCall) (c : HoldingCall) :
    h.run (calls ++ [c]) = ((h.run calls).call c).2 := List.foldl_append

/-- Some setter has changed a bit since the last call that marked the image as written, or since the
first call if none did. -/
def ChangedSinceWritten (h : HoldingCache) (calls : List HoldingCall) : Prop :=
  ∃ before s after, calls = before ++ .set s :: after ∧ (∀ c ∈ after, ¬ c.MarksWritten) ∧
    ∃ i, ((h.run before).set s).image.bit i ≠ (h.run before).image.bit i

theorem changedSinceWritten_snoc {calls : List HoldingCall} {c : HoldingCall} :
    h.ChangedSinceWritten (calls ++ [c]) ↔
      (∃ s, c = .set s ∧ ((h.run calls).set s).image ≠ (h.run calls).image) ∨
        ¬ c.MarksWritten ∧ h.ChangedSinceWritten calls := by
  constructor
  · rintro ⟨before, s, after, hcalls, hafter, hbit⟩
    rcases List.eq_nil_or_concat' after with rfl | ⟨after, d, rfl⟩
    · obtain ⟨rfl, hc⟩ := List.append_inj' hcalls rfl
      exact .inl ⟨s, List.singleton_inj.mp hc, ne_iff_bit.mpr hbit⟩
    · rw [← List.cons_append, ← List.append_assoc] at hcalls
      obtain ⟨rfl, hc⟩ := List.append_inj' hcalls rfl
      rw [List.forall_mem_append, List.forall_mem_singleton, ← List.singleton_inj.mp hc] at hafter
      exact .inr ⟨hafter.2, before, s, after, rfl, hafter.1, hbit⟩
  · rintro (⟨s, rfl, hne⟩ | ⟨hc, before, s, after, rfl, hafter, hbit⟩)
    · exact ⟨calls, s, [], rfl, by simp, ne_iff_bit.mp hne⟩
    · refine ⟨before, s, after ++ [c], by simp, ?_, hbit⟩
      rw [List.forall_mem_append, List.forall_mem_singleton]
      exact ⟨hafter, hc⟩

/-- The mark after a run that began without one. -/
theorem dirty_run_iff (hclean : h.dirty = false) (calls : List HoldingCall) :
    (h.run calls).dirty = true ↔ h.ChangedSinceWritten calls := by
  induction calls using List.reverseRecOn with
  | nil =>
    have hnone : ¬ h.ChangedSinceWritten [] := by
      rintro ⟨before, s, after, hcalls, -⟩
      simp at hcalls
    simp [run, hclean, hnone]
  | append_singleton calls c ih =>
    rw [run_snoc, changedSinceWritten_snoc, ← ih]
    cases c with
    | set s =>
      have hkept : ¬ (HoldingCall.set s).MarksWritten := by simp [HoldingCall.MarksWritten]
      simp [call, dirty_set, hkept, or_comm]
    | markWritten now =>
      have hmarks : (HoldingCall.markWritten now).MarksWritten := ⟨now, rfl⟩
      simp [call, markWritten, hmarks]
    | markRead _ | readWithin _ _ | writeWithin _ _ =>
      simp [call, markRead, HoldingCall.MarksWritten]

/-- As long as nothing marks the image as written, one that is clean in the end was never
changed. -/
theorem image_run_of_clean {calls : List HoldingCall} (hcalls : ∀ c ∈ calls, ¬ c.MarksWritten)
    (hclean : (h.run calls).dirty = false) : (h.run calls).image = h.image := by
  have hunchanged : h.dirty = false ∧ (h.run calls).image = h.image := by
    induction calls using List.reverseRecOn with
    | nil => exact ⟨hclean, rfl⟩
    | append_singleton calls c ih =>
      rw [List.forall_mem_append, List.forall_mem_singleton] at hcalls
      rw [run_snoc] at hclean ⊢
      cases c with
      | set s =>
        obtain ⟨hbefore, himage⟩ := (h.run calls).clean_set_iff.mp hclean
        obtain ⟨hstart, hrun⟩ := ih hcalls.1 hbefore
        exact ⟨hstart, himage.trans hrun⟩
      | markWritten now => exact absurd ⟨now, rfl⟩ hcalls.2
      | markRead _ | readWithin _ _ | writeWithin _ _ => exact ih hcalls.1 hclean
  exact hunchanged.2

end Runs

/-- After any calls on an image of given words the mark tells whether a setter has changed a bit
since the image was last marked as written. Without the mark the words are those of that time, or
the given ones if there was no such time. The mark of a read and the questions change neither the
words nor the mark. -/
theorem clean_words_last_written (m : Image BlockKind.holding.size) (calls : List HoldingCall) :
    (((ofImage m).run calls).dirty = true ↔ (ofImage m).ChangedSinceWritten calls) ∧
      (((ofImage m).run calls).dirty = false →
        ((∀ c ∈ calls, ¬ c.MarksWritten) → ((ofImage m).run calls).image = m) ∧
          ∀ before now after, calls = before ++ .markWritten now :: after →
            (∀ c ∈ after, ¬ c.MarksWritten) →
              ((ofImage m).run calls).image = ((ofImage m).run before).image) ∧
      ∀ (h : HoldingCache) now secs,
        ∀ c ∈ [HoldingCall.markRead now, .readWithin now secs, .writeWithin now secs],
          (h.call c).2.image = h.image ∧ (h.call c).2.dirty = h.dirty := by
  refine ⟨dirty_run_iff rfl calls, fun hclean => ⟨fun hcalls => ?_, ?_⟩, ?_⟩
  · exact image_run_of_clean hcalls hclean
  · rintro before now after rfl hafter
    rw [run_append] at hclean ⊢
    exact image_run_of_clean (h := ((ofImage m).run before).markWritten now) hafter hclean
  · intro h now secs c hc
    simp only [List.mem_cons, List.not_mem_nil, or_false] at hc
    rcases hc with rfl | rfl | rfl <;> exact ⟨rfl, rfl⟩

/-- A fan speed that is set, written, and set once more. -/
def fanSetTwice : List HoldingCall :=
  [.set (.fanSpeed .low), .markRead 100, .markWritten 200, .set (.fanSpeed .low),
    .readWithin 300 1]

theorem clean_words_last_written_fanSetTwice :
    ((ofImage default).run fanSetTwice).dirty = false ∧
      ((ofImage default).run fanSetTwice).image =
        ((ofImage default).run [.set (.fanSpeed .low), .markRead 100]).image ∧
      ¬ (ofImage default).ChangedSinceWritten fanSetTwice := by
  obtain ⟨hmark, hwords, -⟩ := clean_words_last_written default fanSetTwice
  have hclean : ((ofImage default).run fanSetTwice).dirty = false := by decide +kernel
  have hunmarked : ∀ c ∈ [HoldingCall.set (.fanSpeed .low), .readWithin 300 1],
      ¬ c.MarksWritten := by simp [HoldingCall.MarksWritten]
  refine ⟨hclean, (hwords hclean).2 _ 200 _ rfl hunmarked, fun hchanged => ?_⟩
  rw [hmark.mpr hchanged] at hclean
  cases hclean

end HoldingCache

end ClimateBus
