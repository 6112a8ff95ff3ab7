import ClimateBus.Gateway.Basic
import ClimateBus.Proofs.ChangeReports
import ClimateBus.Proofs.Rounding
import ClimateBus.Simulation
import Mathlib

/-!
The five fields a command can set, and what edits do to them.

Status and holding blocks keep these fields in the same places, so both are read as `Controls`. A
holding image takes the controls of a status image over exactly, and a unit takes them over from a
written holding block in the same way; the negative zero is the only word that changes on the way,
and it is the same number of tenths.
-/
namespace ClimateBus

/-- The fields a command can set, the setpoint in tenths of a degree. -/
@[ext]
structure Controls where
  power : Bool
  fanDirection : UInt32
  fanSpeed : UInt32
  mode : UInt32
  setpoint : Int
  deriving DecidableEq

namespace Layout

/-- A bit of the holding block that belongs to no field. -/
def Reserved (i : Nat) : Prop := i ∈ [1, 2, 3, 11, 15] ∨ 24 ≤ i ∧ i < 32

instance (i : Nat) : Decidable (Reserved i) := by
  unfold Reserved
  infer_instance

theorem Reserved.not_covers {i : Nat} (h : Reserved i) {f : Field}
    (hf : f ∈ [⟨power, 1⟩, fanControl, fanDirection, fanSpeed, mode, filter, setpoint]) :
    ¬ f.Covers i := by
  unfold Reserved at h
  unfold Field.Covers
  fin_cases hf <;> simp only [List.mem_cons, List.not_mem_nil, or_false] at h <;>
    simp only [power, fanControl, fanDirection, fanSpeed, mode, filter, setpoint] <;> omega

/-- The fields that hold a code. -/
def codes : List Field := [fanDirection, fanSpeed, mode]

/-- They lie in the first three registers, apart from each other and from the other controls. -/
theorem codes_apart : ∀ f ∈ codes, f.start + f.length ≤ 48 ∧ f.length ≤ maxFieldBits ∧
    f.Apart ⟨power, 1⟩ ∧ f.Apart setpoint ∧ ∀ g ∈ codes, f ≠ g → f.Apart g := by
  decide

end Layout

namespace Controls

/-- The controls with another code in one of the fields. -/
def withCode (k : Controls) (f : Field) (code : UInt32) : Controls :=
  { k with
    fanDirection := if f = Layout.fanDirection then code else k.fanDirection
    fanSpeed := if f = Layout.fanSpeed then code else k.fanSpeed
    mode := if f = Layout.mode then code else k.mode }

end Controls

namespace Image

variable {n : Nat}

def controls (m : Image n) : Controls where
  power := m.bit Layout.power
  fanDirection := m.unsigned Layout.fanDirection
  fanSpeed := m.unsigned Layout.fanSpeed
  mode := m.unsigned Layout.mode
  setpoint := (m.signed Layout.setpoint).toInt

theorem sameOff_setTemperature_setpoint (m : Image n) (c : Celsius) :
    SameOff Layout.setpoint m (m.setTemperature Layout.setpoint c).image :=
  m.sameOff_setSigned c.tenths (by decide) (by decide)

theorem unsigned_setTemperature_setpoint (m : Image n) (c : Celsius) {g : Field}
    (hapart : Layout.setpoint.Apart g) :
    (m.setTemperature Layout.setpoint c).image.unsigned g = m.unsigned g :=
  (m.sameOff_setTemperature_setpoint c).unsigned hapart

/-- An edit of a field that holds no control. -/
theorem SameOff.controls {f : Field} {m m' : Image n} (h : SameOff f m m')
    (hf : f ∈ [Layout.fanControl, Layout.filter, Layout.currentMode]) :
    m'.controls = m.controls := by
  have hapart : f.Apart ⟨Layout.power, 1⟩ ∧ f.Apart Layout.fanDirection ∧
      f.Apart Layout.fanSpeed ∧ f.Apart Layout.mode ∧ f.Apart Layout.setpoint := by
    fin_cases hf <;> decide
  obtain ⟨hpower, hdirection, hspeed, hmode, hsetpoint⟩ := hapart
  simp only [Image.controls, h.bit hpower, h.unsigned hdirection, h.unsigned hspeed,
    h.unsigned hmode, h.signed hsetpoint]

section Edits

variable (m : Image n) (hn : 3 ≤ n)
include hn

theorem controls_setBit_power (on : Bool) :
    (m.setBit Layout.power on).image.controls = { m.controls with power := on } := by
  have hoff := m.sameOff_setBit Layout.power on
  have hset : (m.setBit Layout.power on).image.bit Layout.power = on := by
    rw [bit_setBit, if_pos ⟨rfl, by unfold Layout.power; omega⟩]
  simp only [controls, hset, hoff.unsigned (g := Layout.fanDirection) (by decide),
    hoff.unsigned (g := Layout.fanSpeed) (by decide), hoff.unsigned (g := Layout.mode) (by decide),
    hoff.signed (g := Layout.setpoint) (by decide)]

/-- A code that is written to its field; the other controls stay. -/
theorem controls_setUnsigned {f : Field} (hf : f ∈ Layout.codes) {v : UInt32}
    (hv : v.toNat < 2 ^ f.length) :
    (m.setUnsigned f v).image.controls = m.controls.withCode f v := by
  have hoff := m.sameOff_setUnsigned f v
  obtain ⟨hend, hlength, hpower, hsetpoint, hothers⟩ := Layout.codes_apart f hf
  have hin : f.Inside n := by
    unfold Field.Inside
    omega
  have hcode : ∀ g ∈ Layout.codes,
      (m.setUnsigned f v).image.unsigned g = if f = g then v else m.unsigned g := by
    intro g hg
    split_ifs with heq
    · rw [← heq, m.unsigned_setUnsigned hin hlength hv]
    · exact hoff.unsigned (hothers g hg heq)
  simp only [controls, Controls.withCode, hoff.bit hpower, hoff.signed hsetpoint,
    hcode Layout.fanDirection (by decide), hcode Layout.fanSpeed (by decide),
    hcode Layout.mode (by decide)]

theorem controls_setTemperature_setpoint (c : Celsius) :
    (m.setTemperature Layout.setpoint c).image.controls =
      { m.controls with setpoint := signedPart 15 c.tenths.toInt } := by
  have hoff := m.sameOff_setTemperature_setpoint c
  have hin : Layout.setpoint.Inside n := by
    simp only [Field.Inside, Layout.setpoint]
    omega
  have hset : ((m.setTemperature Layout.setpoint c).image.signed Layout.setpoint).toInt =
      signedPart 15 c.tenths.toInt := m.signed_setSigned c.tenths hin (by decide) (by decide)
  simp only [controls, hset, hoff.bit (i := Layout.power) (by decide),
    hoff.unsigned (g := Layout.fanDirection) (by decide),
    hoff.unsigned (g := Layout.fanSpeed) (by decide), hoff.unsigned (g := Layout.mode) (by decide)]

end Edits

/-- Temperatures of a setpoint field are written back as they were read. -/
theorem controls_setTemperature_temperature {n' : Nat} (m : Image n) (m' : Image n')
    (hn : 3 ≤ n) :
    (m.setTemperature Layout.setpoint (m'.temperature Layout.setpoint)).image.controls =
      { m.controls with setpoint := m'.controls.setpoint } := by
  have hfit : (m'.signed Layout.setpoint).toInt.natAbs < 2 ^ 15 :=
    m'.natAbs_signed_lt (by decide) (by decide)
  rw [m.controls_setTemperature_setpoint hn,
    m'.tenths_temperature (f := Layout.setpoint) (by decide) (by decide), signedPart_of_lt hfit]
  rfl

end Image

namespace StatusImage

variable (s : StatusImage)

theorem fanDirectionCode_lt : s.fanDirectionCode.toNat < 2 ^ 3 :=
  s.image.unsigned_lt Layout.fanDirection

theorem fanSpeedCode_lt : s.fanSpeedCode.toNat < 2 ^ 3 := s.image.unsigned_lt Layout.fanSpeed

theorem modeCode_lt : s.modeCode.toNat < 2 ^ 4 := s.image.unsigned_lt Layout.mode

theorem controls_setPower (on : Bool) :
    (s.setPower on).image.controls = { s.image.controls with power := on } := by
  simp only [setPower, s.image.controls_setBit_power (by decide)]

theorem controls_setMode (m : Mode) :
    (s.setMode m).image.controls = { s.image.controls with mode := Labelled.code m } := by
  have hcode : (Labelled.code m : UInt32).toNat < 2 ^ Layout.mode.length := by
    cases m <;> decide
  rw [setMode, s.image.controls_setUnsigned (by decide) (by decide) hcode]
  rfl

theorem controls_setSetpoint (c : Celsius) :
    (s.setSetpoint c).image.controls =
      { s.image.controls with setpoint := signedPart 15 c.tenths.toInt } := by
  simp only [setSetpoint, s.image.controls_setTemperature_setpoint (by decide)]

theorem controls_setFanSpeed (v : FanSpeed) :
    (s.setFanSpeed v).image.controls = { s.image.controls with fanSpeed := Labelled.code v } := by
  have hcode : (Labelled.code v : UInt32).toNat < 2 ^ Layout.fanSpeed.length := by
    cases v <;> decide
  rw [setFanSpeed, s.image.controls_setUnsigned (by decide) (by decide) hcode]
  rfl

theorem controls_setFanDirection (d : FanDirection) :
    (s.setFanDirection d).image.controls =
      { s.image.controls with fanDirection := Labelled.code d } := by
  have hcode : (Labelled.code d : UInt32).toNat < 2 ^ Layout.fanDirection.length := by
    cases d <;> decide
  rw [setFanDirection, s.image.controls_setUnsigned (by decide) (by decide) hcode]
  rfl

end StatusImage

namespace HoldingCache

/-- What every setter of a holding image respects: stamps stay, an edit is remembered until it is
written, and bits of no field are never touched. -/
structure Edited (h h' : HoldingCache) : Prop where
  lastRead : h'.lastRead = h.lastRead
  lastWrite : h'.lastWrite = h.lastWrite
  sticky : h.dirty = true → h'.dirty = true
  unchanged : h'.dirty = false → h'.image = h.image
  reserved : ∀ i, Layout.Reserved i → h'.image.bit i = h.image.bit i

theorem Edited.refl (h : HoldingCache) : Edited h h :=
  ⟨rfl, rfl, id, fun _ => rfl, fun _ _ => rfl⟩

theorem Edited.clean {a b : HoldingCache} (hab : Edited a b) (hb : b.dirty = false) :
    a.dirty = false := by
  cases hdirty : a.dirty with
  | false => rfl
  | true => rwa [hab.sticky hdirty] at hb

theorem Edited.trans {a b c : HoldingCache} (hab : Edited a b) (hbc : Edited b c) :
    Edited a c where
  lastRead := hbc.lastRead.trans hab.lastRead
  lastWrite := hbc.lastWrite.trans hab.lastWrite
  sticky := hbc.sticky ∘ hab.sticky
  unchanged hc := by rw [hbc.unchanged hc, hab.unchanged (hbc.clean hc)]
  reserved i hi := (hbc.reserved i hi).trans (hab.reserved i hi)

/-- An edit that stays within one field of the layout and reports every change. -/
theorem edited_edit (h : HoldingCache) {e : Edit BlockKind.holding.size} {f : Field}
    (hf : f ∈ [⟨Layout.power, 1⟩, Layout.fanControl, Layout.fanDirection, Layout.fanSpeed,
      Layout.mode, Layout.filter, Layout.setpoint])
    (hoff : Image.SameOff f h.image e.image) (he : e.Exact h.image) : Edited h (h.edit e) where
  lastRead := rfl
  lastWrite := rfl
  sticky hd := by simp [edit, hd]
  unchanged hc := by
    simp only [edit, Bool.or_eq_false_iff] at hc ⊢
    exact he.changed_eq_false_iff.mp hc.2
  reserved i hi := hoff i (hi.not_covers hf)

theorem edited_setPower (h : HoldingCache) (on : Bool) : Edited h (h.setPower on) :=
  h.edited_edit (by simp) (h.image.sameOff_setBit Layout.power on)
    (h.image.exact_setBit Layout.power on)

theorem edited_setCode (h : HoldingCache) {f : Field} (code : UInt32)
    (hf : f ∈ [⟨Layout.power, 1⟩, Layout.fanControl, Layout.fanDirection, Layout.fanSpeed,
      Layout.mode, Layout.filter, Layout.setpoint]) : Edited h (h.setCode f code) :=
  h.edited_edit hf (h.image.sameOff_setUnsigned f code) (h.image.exact_setUnsigned f code)

theorem edited_setSetpoint (h : HoldingCache) (c : Celsius) : Edited h (h.setSetpoint c) :=
  h.edited_edit (by simp) (h.image.sameOff_setTemperature_setpoint c)
    (h.image.exact_setTemperature Layout.setpoint c)

theorem edited_setFanControl (h : HoldingCache) (on : Bool) : Edited h (h.setFanControl on) :=
  h.edited_setCode _ (by simp)

theorem edited_setFilterReset (h : HoldingCache) (on : Bool) : Edited h (h.setFilterReset on) :=
  h.edited_setCode _ (by simp)

theorem edited_syncFrom (h : HoldingCache) (s : StatusImage) : Edited h (h.syncFrom s) := by
  have hpower := h.edited_setPower s.power
  have hdirection := (hpower.trans (edited_setCode _ (f := Layout.fanDirection) s.fanDirectionCode
    (by simp))).trans (edited_setFanControl _ true)
  have hspeed := (hdirection.trans (edited_setCode _ (f := Layout.fanSpeed) s.fanSpeedCode
    (by simp))).trans (edited_setFanControl _ true)
  have hmode := hspeed.trans (edited_setCode _ (f := Layout.mode) s.modeCode (by simp))
  exact hmode.trans (edited_setSetpoint _ s.setpoint)

theorem image_edit (h : HoldingCache) (e : Edit BlockKind.holding.size) :
    (h.edit e).image = e.image := rfl

@[simp] theorem controls_setPower (h : HoldingCache) (on : Bool) :
    (h.setPower on).image.controls = { h.image.controls with power := on } := by
  rw [setPower, image_edit, h.image.controls_setBit_power (by decide)]

@[simp] theorem controls_setFanControl (h : HoldingCache) (on : Bool) :
    (h.setFanControl on).image.controls = h.image.controls := by
  rw [setFanControl, setCode, image_edit]
  exact (h.image.sameOff_setUnsigned Layout.fanControl _).controls (by simp)

@[simp] theorem controls_setFilterReset (h : HoldingCache) (on : Bool) :
    (h.setFilterReset on).image.controls = h.image.controls := by
  rw [setFilterReset, setCode, image_edit]
  exact (h.image.sameOff_setUnsigned Layout.filter _).controls (by simp)

theorem controls_setCode (h : HoldingCache) {f : Field} (hf : f ∈ Layout.codes) {v : UInt32}
    (hv : v.toNat < 2 ^ f.length) :
    (h.setCode f v).image.controls = h.image.controls.withCode f v := by
  rw [setCode, image_edit, h.image.controls_setUnsigned (by decide) hf hv]

/-- After a sync the holding image asks for just what the status image shows. -/
theorem controls_syncFrom (h : HoldingCache) (s : StatusImage) :
    (h.syncFrom s).image.controls = s.image.controls := by
  rw [syncFrom, setSetpoint, image_edit, StatusImage.setpoint,
    Image.controls_setTemperature_temperature _ _ (by decide),
    controls_setCode _ (f := Layout.mode) (by decide) s.modeCode_lt, setFanSpeedCode,
    controls_setFanControl, controls_setCode _ (f := Layout.fanSpeed) (by decide) s.fanSpeedCode_lt,
    setFanDirectionCode, controls_setFanControl,
    controls_setCode _ (f := Layout.fanDirection) (by decide) s.fanDirectionCode_lt,
    controls_setPower]
  rfl

section Apart

variable (h : HoldingCache) {f g : Field}

theorem unsigned_setPower (on : Bool) (hapart : Field.Apart ⟨Layout.power, 1⟩ g) :
    (h.setPower on).image.unsigned g = h.image.unsigned g :=
  (h.image.sameOff_setBit Layout.power on).unsigned hapart

theorem unsigned_setCode (code : UInt32) (hapart : f.Apart g) :
    (h.setCode f code).image.unsigned g = h.image.unsigned g :=
  (h.image.sameOff_setUnsigned f code).unsigned hapart

theorem unsigned_setSetpoint (c : Celsius) (hapart : Layout.setpoint.Apart g) :
    (h.setSetpoint c).image.unsigned g = h.image.unsigned g := by
  rw [setSetpoint, image_edit, h.image.unsigned_setTemperature_setpoint c hapart]

/-- A sync leaves a request to clear the filter sign as it was. -/
theorem unsigned_filter_syncFrom (s : StatusImage) :
    (h.syncFrom s).image.unsigned Layout.filter = h.image.unsigned Layout.filter := by
  rw [syncFrom, unsigned_setSetpoint _ _ (by decide), unsigned_setCode _ _ (by decide),
    setFanSpeedCode, setFanControl, unsigned_setCode _ _ (by decide),
    unsigned_setCode _ _ (by decide), setFanDirectionCode, setFanControl,
    unsigned_setCode _ _ (by decide), unsigned_setCode _ _ (by decide),
    unsigned_setPower _ _ (by decide)]

/-- A sync hands the fan over to remote control. -/
theorem unsigned_fanControl_syncFrom (s : StatusImage) :
    (h.syncFrom s).image.unsigned Layout.fanControl = Layout.fanControlRemote := by
  have hin : Layout.fanControl.Inside BlockKind.holding.size := by
    unfold Field.Inside
    decide
  rw [syncFrom, unsigned_setSetpoint _ _ (by decide), unsigned_setCode _ _ (by decide),
    setFanSpeedCode, setFanControl, if_pos rfl, setCode, image_edit,
    Image.unsigned_setUnsigned _ hin (by decide) (by decide)]

theorem unsigned_filter_setFilterReset (on : Bool) :
    (h.setFilterReset on).image.unsigned Layout.filter = if on then Layout.filterReset else 0 := by
  have hin : Layout.filter.Inside BlockKind.holding.size := by
    unfold Field.Inside
    decide
  have hfits : (if on then Layout.filterReset else 0).toNat < 2 ^ Layout.filter.length := by
    cases on <;> decide
  rw [setFilterReset, setCode, image_edit, Image.unsigned_setUnsigned _ hin (by decide) hfits]

end Apart

theorem Edited.eq_of_clean {h h' : HoldingCache} (he : Edited h h') (hclean : h'.dirty = false) :
    h' = h := by
  obtain ⟨image, dirty, lastRead, lastWrite⟩ := h
  obtain ⟨image', dirty', lastRead', lastWrite'⟩ := h'
  have hdirty : dirty = false := he.clean hclean
  obtain rfl : dirty' = false := hclean
  obtain rfl : image' = image := he.unchanged rfl
  obtain rfl : lastRead' = lastRead := he.lastRead
  obtain rfl : lastWrite' = lastWrite := he.lastWrite
  rw [hdirty]

end HoldingCache

/-- The controls a unit is left with when it has accepted a holding block. -/
theorem Simulation.controls_accepted (holding : Image BlockKind.holding.size)
    (status : Image BlockKind.status.size) :
    (Simulation.accepted holding status).controls = holding.controls := by
  have hpower (m : Image BlockKind.status.size) (on : Bool) :=
    m.controls_setBit_power (by decide) on
  have hcode (m : Image BlockKind.status.size) {f : Field} (hf : f ∈ Layout.codes) :=
    m.controls_setUnsigned (by decide) hf (holding.unsigned_lt f)
  have hcurrent (m : Image BlockKind.status.size) (v : UInt32) :=
    (m.sameOff_setUnsigned Layout.currentMode v).controls (by simp)
  have hfilter (m : Image BlockKind.status.size) (v : UInt32) :=
    (m.sameOff_setUnsigned Layout.filter v).controls (by simp)
  have hsetpoint (m : Image BlockKind.status.size) :=
    m.controls_setTemperature_temperature holding (by decide)
  unfold Simulation.accepted
  split_ifs
  · rw [hsetpoint, hcurrent, hcode _ (by decide), hcode _ (by decide), hcode _ (by decide), hpower]
    rfl
  · rw [hfilter, hsetpoint, hcurrent, hcode _ (by decide), hcode _ (by decide), hcode _ (by decide),
      hpower]
    rfl

namespace Command

/-- The controls after a command has been carried out; a setpoint is cut to what its field holds. -/
def put : Command → Controls → Controls
  | .power on, k => { k with power := on }
  | .mode m, k => { k with power := true, mode := Labelled.code m }
  | .setpoint c, k => { k with setpoint := signedPart 15 c.tenths.toInt }
  | .fanSpeed v, k => { k with fanSpeed := Labelled.code v }
  | .fanDirection d, k => { k with fanDirection := Labelled.code d }
  | .filterReset, k => k

end Command

namespace Slot

theorem controls_edit (u : Slot) (c : Command) :
    (u.edit c).status.image.controls = c.put u.status.image.controls := by
  cases c with
  | power on => exact u.status.controls_setPower on
  | mode m =>
    rw [edit, StatusImage.controls_setMode, StatusImage.controls_setPower]
    rfl
  | setpoint c => exact u.status.controls_setSetpoint c
  | fanSpeed v => exact u.status.controls_setFanSpeed v
  | fanDirection d => exact u.status.controls_setFanDirection d
  | filterReset => rfl

theorem edited_edit_holding (u : Slot) (c : Command) : (u.holding).Edited (u.edit c).holding := by
  cases c with
  | filterReset => exact u.holding.edited_setFilterReset true
  | power _ | mode _ | setpoint _ | fanSpeed _ | fanDirection _ =>
    simp only [edit]
    exact .refl _

theorem controls_edit_holding (u : Slot) (c : Command) :
    (u.edit c).holding.image.controls = u.holding.image.controls := by
  cases c with
  | filterReset => exact u.holding.controls_setFilterReset true
  | power _ | mode _ | setpoint _ | fanSpeed _ | fanDirection _ => simp only [edit]

@[simp] theorem edit_index (u : Slot) (c : Command) : (u.edit c).index = u.index := by
  cases c <;> simp only [edit]

end Slot

end ClimateBus
