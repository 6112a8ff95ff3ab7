import ClimateBus.Proofs.Controls
import Mathlib

/-!
Setters of a status image, in any order.

A setter leaves digits in its field that depend on its argument alone, and it touches no other bit
(`StatusImage.bit_set`). So after any setters a field holds what the last of its setters wrote, or
its first digits if there was none, and in between it does not matter which of the other fields were
set. The getter of a field then returns what was set last, as much of it as the field can hold.
-/
namespace ClimateBus

/-- The code of a number in a signed field: its sign above the digits of its magnitude. -/
def signedCode (digits : Nat) (v : Int32) : Nat :=
  2 ^ digits * (decide (v < 0)).toNat + v.toInt.natAbs % 2 ^ digits

theorem signedCode_lt (digits : Nat) (v : Int32) : signedCode digits v < 2 ^ (digits + 1) := by
  have hmagnitude : v.toInt.natAbs % 2 ^ digits < 2 ^ digits := Nat.mod_lt _ (by positivity)
  have hsign : 2 ^ digits * (decide (v < 0)).toNat ≤ 2 ^ digits * 1 :=
    Nat.mul_le_mul_left _ (decide (v < 0)).toNat_le
  rw [signedCode, pow_succ]
  omega

namespace Image

variable {n : Nat} (m : Image n) {f : Field}

/-- A field inside the image takes over the digits of a code. -/
theorem bit_setUnsigned_of_inside (v : UInt32) (hin : f.Inside n) (hlength : f.length ≤ maxFieldBits)
    (i : Nat) : (m.setUnsigned f v).image.bit i =
      if f.Covers i then v.toNat.testBit (i - f.start) else m.bit i := by
  unfold Field.Inside at hin
  rw [bit_setUnsigned, Nat.min_eq_left hlength]
  refine if_congr ?_ rfl rfl
  unfold Field.Covers
  omega

theorem bit_setSigned_of_inside (v : Int32) (hin : f.Inside n) (htwo : 2 ≤ f.length)
    (hlength : f.length ≤ maxFieldBits) (i : Nat) : (m.setSigned f v).image.bit i =
      if f.Covers i then (signedCode (f.length - 1) v).testBit (i - f.start) else m.bit i := by
  have hmagnitude : v.toInt.natAbs % 2 ^ (f.length - 1) < 2 ^ (f.length - 1) :=
    Nat.mod_lt _ (by positivity)
  unfold Field.Inside at hin
  by_cases hcovers : f.Covers i
  · rw [if_pos hcovers, m.bit_setSigned v htwo hlength, signedCode,
      Nat.testBit_two_pow_mul_add _ hmagnitude, Nat.testBit_mod_two_pow]
    unfold Field.Covers at hcovers
    by_cases hsign : i = f.start + f.length - 1
    · have hlast : i - f.start = f.length - 1 := by omega
      rw [if_pos ⟨hsign, by omega⟩, hlast, if_neg (lt_irrefl _), Nat.sub_self]
      cases decide (v < 0) <;> rfl
    · have hdigit : i - f.start < f.length - 1 := by omega
      rw [if_neg (fun h => hsign h.1), if_pos (by omega), if_pos hdigit, decide_eq_true hdigit,
        Bool.true_and]
  · rw [if_neg hcovers, m.bit_setSigned_of_not_covers v htwo hlength hcovers]

end Image

/-- The calls that set fields of a status image. -/
inductive StatusSetter where
  | power (on : Bool)
  | mode (m : Mode)
  | fanSpeed (v : FanSpeed)
  | fanDirection (d : FanDirection)
  | setpoint (c : Celsius)
  deriving DecidableEq

/-- The fields that status setters write, one for each kind of setter. -/
def Layout.settable : List Field := [⟨power, 1⟩, mode, fanSpeed, fanDirection, setpoint]

namespace StatusSetter

def field : StatusSetter → Field
  | .power _ => ⟨Layout.power, 1⟩
  | .mode _ => Layout.mode
  | .fanSpeed _ => Layout.fanSpeed
  | .fanDirection _ => Layout.fanDirection
  | .setpoint _ => Layout.setpoint

/-- The code that a setter writes. -/
def code : StatusSetter → Nat
  | .power on => on.toNat
  | .mode m => (Labelled.code m).toNat
  | .fanSpeed v => (Labelled.code v).toNat
  | .fanDirection d => (Labelled.code d).toNat
  | .setpoint c => signedCode (Layout.setpoint.length - 1) c.tenths

/-- The last setter of a field, if there is one. -/
def last (f : Field) (setters : List StatusSetter) : Option StatusSetter :=
  (setters.filter fun c => c.field = f).getLast?

theorem field_mem (c : StatusSetter) : c.field ∈ Layout.settable := by
  cases c <;> simp [field, Layout.settable]

theorem apart_of_ne {f g : Field} (hf : f ∈ Layout.settable) (hg : g ∈ Layout.settable)
    (hne : f ≠ g) : f.Apart g := by
  have hapart : ∀ f ∈ Layout.settable, ∀ g ∈ Layout.settable, f ≠ g → f.Apart g := by decide
  exact hapart f hf g hg hne

theorem inside_of_mem {f : Field} (hf : f ∈ Layout.settable) : f.Inside BlockKind.status.size := by
  have hinside : ∀ f ∈ Layout.settable, f.start + f.length ≤ 16 * BlockKind.status.size := by
    decide
  exact hinside f hf

theorem code_lt (c : StatusSetter) : c.code < 2 ^ c.field.length := by
  cases c with
  | power on => cases on <;> decide
  | mode m => cases m <;> decide
  | fanSpeed v => cases v <;> decide
  | fanDirection d => cases d <;> decide
  | setpoint c => exact signedCode_lt (Layout.setpoint.length - 1) c.tenths

theorem last_snoc (f : Field) (setters : List StatusSetter) (c : StatusSetter) :
    last f (setters ++ [c]) = if c.field = f then some c else last f setters := by
  unfold last
  by_cases hfield : c.field = f
  · simp [hfield]
  · simp [hfield]

theorem field_of_last {f : Field} {setters : List StatusSetter} {c : StatusSetter}
    (h : last f setters = some c) : c.field = f := by
  have hmem := List.mem_of_getLast? h
  simpa using (List.mem_filter.mp hmem).2

end StatusSetter

namespace StatusImage

open Image

variable (s : StatusImage)

def set (s : StatusImage) : StatusSetter → StatusImage
  | .power on => s.setPower on
  | .mode m => s.setMode m
  | .fanSpeed v => s.setFanSpeed v
  | .fanDirection d => s.setFanDirection d
  | .setpoint c => s.setSetpoint c

/-- The image after setters in their order. -/
def run (s : StatusImage) (setters : List StatusSetter) : StatusImage := setters.foldl set s

theorem run_snoc (setters : List StatusSetter) (c : StatusSetter) :
    s.run (setters ++ [c]) = (s.run setters).set c := List.foldl_append

/-- A setter writes its code to its field and touches no other bit. -/
theorem bit_set (c : StatusSetter) (i : Nat) : (s.set c).image.bit i =
    if c.field.Covers i then c.code.testBit (i - c.field.start) else s.image.bit i := by
  have hin := StatusSetter.inside_of_mem c.field_mem
  cases c with
  | power on =>
    have hcovers : (StatusSetter.power on).field.Covers i ↔ i = 0 := by
      simp only [Field.Covers, StatusSetter.field, Layout.power]
      omega
    simp only [set, setPower, bit_setBit, hcovers, Layout.power]
    by_cases hi : i = 0
    · rw [if_pos ⟨hi, by decide⟩, if_pos hi, hi]
      cases on <;> rfl
    · rw [if_neg (fun h => hi h.1), if_neg hi]
  | mode m =>
    exact s.image.bit_setUnsigned_of_inside (f := Layout.mode) (Labelled.code m) hin (by decide) i
  | fanSpeed v =>
    exact s.image.bit_setUnsigned_of_inside (f := Layout.fanSpeed) (Labelled.code v) hin
      (by decide) i
  | fanDirection d =>
    exact s.image.bit_setUnsigned_of_inside (f := Layout.fanDirection) (Labelled.code d) hin
      (by decide) i
  | setpoint c =>
    have hbit := s.image.bit_setSigned_of_inside (f := Layout.setpoint) c.tenths hin (by decide)
      (by decide) i
    rw [set, setSetpoint, setTemperature, hbit]
    rfl

section Runs

variable {s} {f : Field} {setters : List StatusSetter}

/-- A bit of a field is what the last setter of the field wrote there, or what it was. -/
theorem bit_run (hf : f ∈ Layout.settable) {i : Nat} (hi : f.Covers i) :
    (s.run setters).image.bit i =
      match StatusSetter.last f setters with
      | some c => c.code.testBit (i - f.start)
      | none => s.image.bit i := by
  induction setters using List.reverseRecOn with
  | nil => rfl
  | append_singleton setters c ih =>
    rw [run_snoc, bit_set, StatusSetter.last_snoc]
    by_cases hfield : c.field = f
    · rw [if_pos hfield, hfield, if_pos hi]
    · have hapart := StatusSetter.apart_of_ne c.field_mem hf hfield
      rw [if_neg hfield, if_neg, ih]
      unfold Field.Covers at hi ⊢
      unfold Field.Apart at hapart
      omega

theorem bit_run_of_not_covers {i : Nat} (hi : ∀ f ∈ Layout.settable, ¬ f.Covers i) :
    (s.run setters).image.bit i = s.image.bit i := by
  induction setters using List.reverseRecOn with
  | nil => rfl
  | append_singleton setters c ih =>
    rw [run_snoc, bit_set, if_neg (hi _ c.field_mem), ih]

theorem bits_run (hf : f ∈ Layout.settable) :
    (s.run setters).image.bits f.start f.length =
      match StatusSetter.last f setters with
      | some c => c.code
      | none => s.image.bits f.start f.length := by
  apply Nat.eq_of_testBit_eq
  intro k
  rw [testBit_bits]
  by_cases hk : k < f.length
  · have hcovers : f.Covers (f.start + k) := ⟨Nat.le_add_right _ _, Nat.add_lt_add_left hk _⟩
    rw [bit_run hf hcovers]
    split
    · simp [hk]
    · simp [testBit_bits, hk]
  · have hhigh : 2 ^ f.length ≤ 2 ^ k := Nat.pow_le_pow_right (by decide) (not_lt.mp hk)
    split
    next c hlast =>
      have hcode := c.code_lt
      rw [StatusSetter.field_of_last hlast] at hcode
      simp [hk, Nat.testBit_lt_two_pow (hcode.trans_le hhigh)]
    next => simp [testBit_bits, hk]

theorem run_congr {setters' : List StatusSetter} (h : ∀ f ∈ Layout.settable,
    StatusSetter.last f setters = StatusSetter.last f setters') :
    s.run setters = s.run setters' := by
  suffices himage : (s.run setters).image = (s.run setters').image from
    congrArg StatusImage.mk himage
  apply ext_bit
  intro i
  by_cases hi : ∀ f ∈ Layout.settable, ¬ f.Covers i
  · rw [bit_run_of_not_covers hi, bit_run_of_not_covers hi]
  · push Not at hi
    obtain ⟨f, hf, hcovers⟩ := hi
    rw [bit_run hf hcovers, bit_run hf hcovers, h f hf]

/-- To repeat the last setter of a field makes no difference. -/
theorem set_of_last {c : StatusSetter} (h : StatusSetter.last c.field setters = some c) :
    (s.run setters).set c = s.run setters := by
  rw [← run_snoc]
  apply run_congr
  intro f _
  rw [StatusSetter.last_snoc]
  split_ifs with hfield
  · rw [← hfield, h]
  · rfl

end Runs

/-- The getter that belongs to a setter returns what the setter was given. Of a setpoint it returns
as many tenths of a degree as the field holds. -/
def Shows (s : StatusImage) : StatusSetter → Prop
  | .power on => s.power = on
  | .mode m => s.mode = some m
  | .fanSpeed v => s.fanSpeed = some v
  | .fanDirection d => s.fanDirection = some d
  | .setpoint c => s.setpoint = Celsius.ofTenths (.ofInt (signedPart 15 c.tenths.toInt))

theorem shows_set (c : StatusSetter) : (s.set c).Shows c := by
  cases c with
  | power on => exact congrArg Controls.power (s.controls_setPower on)
  | mode m =>
    have hcode : (s.setMode m).modeCode = Labelled.code m :=
      congrArg Controls.mode (s.controls_setMode m)
    rw [Shows, set, mode, hcode, Mode.ofCode?_code]
  | fanSpeed v =>
    have hcode : (s.setFanSpeed v).fanSpeedCode = Labelled.code v :=
      congrArg Controls.fanSpeed (s.controls_setFanSpeed v)
    rw [Shows, set, fanSpeed, hcode, FanSpeed.ofCode?_code]
  | fanDirection d =>
    have hcode : (s.setFanDirection d).fanDirectionCode = Labelled.code d :=
      congrArg Controls.fanDirection (s.controls_setFanDirection d)
    rw [Shows, set, fanDirection, hcode, FanDirection.ofCode?_code]
  | setpoint c =>
    have hcontrols := s.controls_setSetpoint c
    rw [Controls.ext_iff] at hcontrols
    obtain ⟨-, -, -, -, htenths⟩ := hcontrols
    simp only [Image.controls] at htenths
    rw [Shows, set, setpoint, temperature, ← htenths, Int32.ofInt_toInt]

/-- After any setters each field holds the code that the last of its setters wrote, or its first
digits if there was none, and every other bit is what it was. So setters that end alike for each
field make the same image, and each getter returns what was set last. -/
theorem last_setter_wins (s : StatusImage) (setters : List StatusSetter) :
    (∀ f ∈ Layout.settable, (s.run setters).image.bits f.start f.length =
        match StatusSetter.last f setters with
        | some c => c.code
        | none => s.image.bits f.start f.length) ∧
      (∀ i, (∀ f ∈ Layout.settable, ¬ f.Covers i) →
        (s.run setters).image.bit i = s.image.bit i) ∧
      (∀ setters', (∀ f ∈ Layout.settable,
          StatusSetter.last f setters = StatusSetter.last f setters') →
        s.run setters = s.run setters') ∧
      ∀ c, StatusSetter.last c.field setters = some c → (s.run setters).Shows c := by
  refine ⟨fun f hf => bits_run hf, fun i hi => bit_run_of_not_covers hi,
    fun setters' h => run_congr h, fun c hlast => ?_⟩
  rw [← set_of_last hlast]
  exact shows_set _ c

/-- Setters in two orders that end with the same setter of each field, 3.5 degrees below zero among
them, on an image with all bits set. -/
theorem last_setter_wins_interleaved :
    let s : StatusImage := ⟨Image.filled 6 0xffff⟩
    let frost : StatusSetter := .setpoint ⟨0xc0600000⟩
    let once := [.power false, .fanSpeed .low, frost, .mode .dry, .fanDirection .p0]
    let again := [.mode .heat, .fanDirection .swing, frost, .mode .dry, .power true,
      .fanDirection .p0, .fanSpeed .high, .power false, frost, .fanSpeed .low]
    s.run once = s.run again ∧ (s.run again).mode = some .dry ∧ (s.run again).power = false ∧
      (s.run again).image.bits 32 16 = 0x8023 ∧ (s.run again).image.bit 6 = true := by
  intro s frost once again
  obtain ⟨-, -, hsame, -⟩ := last_setter_wins s once
  obtain ⟨hcodes, hothers, -, hshows⟩ := last_setter_wins s again
  refine ⟨hsame again (by decide), hshows (.mode .dry) (by decide), hshows (.power false) (by decide),
    ?_, hothers 6 (by decide)⟩
  exact (hcodes Layout.setpoint (by decide)).trans (by decide +kernel)

end StatusImage

end ClimateBus
