import ClimateBus.Proofs.FaultFree
import ClimateBus.Proofs.StatusSync
import Mathlib

/-!
What a write of holding registers does to the simulated adapter.

The words are stored from the address on, around the end of the table if they reach it. A write of
exactly the holding block of a slot also changes the status block of that slot, in seven fields and
in no other bit (`Simulation.reflects_accepted`), whatever codes were written. Every other write, one
word off or one word longer, leaves the input registers alone, and a refused one leaves its entry in
the log and nothing else.
-/
namespace ClimateBus

namespace Layout

/-- The fields of a status block that a written holding block changes. -/
def reflected : List Field :=
  [⟨power, 1⟩, fanDirection, fanSpeed, mode, currentMode, setpoint, filter]

end Layout

/-- `after` is the status block `before` of a unit once it has accepted a holding block. A filter
code in the holding block clears the filter sign, which stays as it was without one. -/
structure Reflects (holding : Image BlockKind.holding.size)
    (before after : Image BlockKind.status.size) : Prop where
  power : after.bit Layout.power = holding.bit Layout.power
  fanDirection : after.unsigned Layout.fanDirection = holding.unsigned Layout.fanDirection
  fanSpeed : after.unsigned Layout.fanSpeed = holding.unsigned Layout.fanSpeed
  mode : after.unsigned Layout.mode = holding.unsigned Layout.mode
  currentMode : after.unsigned Layout.currentMode = holding.unsigned Layout.mode
  setpoint : after.signed Layout.setpoint = holding.signed Layout.setpoint
  filter : after.unsigned Layout.filter =
    if holding.unsigned Layout.filter = 0 then before.unsigned Layout.filter else 0
  others : Image.AgreeOff Layout.reflected after before

namespace Simulation

open Image

section Accepted

variable (holding : Image BlockKind.holding.size) (status : Image BlockKind.status.size)

theorem currentMode_accepted :
    (accepted holding status).unsigned Layout.currentMode = holding.unsigned Layout.mode := by
  have hin : Layout.currentMode.Inside BlockKind.status.size := by
    unfold Field.Inside
    decide
  have hmode (m : Image BlockKind.status.size) :
      (m.setUnsigned Layout.currentMode (holding.unsigned Layout.mode)).image.unsigned
        Layout.currentMode = holding.unsigned Layout.mode :=
    m.unsigned_setUnsigned hin (by decide) (holding.unsigned_lt Layout.mode)
  have hsetpoint : Layout.setpoint.Apart Layout.currentMode := by decide
  have hfilter (m : Image BlockKind.status.size) :
      (m.setUnsigned Layout.filter 0).image.unsigned Layout.currentMode =
        m.unsigned Layout.currentMode :=
    (m.sameOff_setUnsigned Layout.filter 0).unsigned (by decide)
  unfold accepted
  split_ifs
  · rw [unsigned_setTemperature_setpoint _ _ hsetpoint, hmode]
  · rw [hfilter, unsigned_setTemperature_setpoint _ _ hsetpoint, hmode]

theorem filter_accepted : (accepted holding status).unsigned Layout.filter =
    if holding.unsigned Layout.filter = 0 then status.unsigned Layout.filter else 0 := by
  have hin : Layout.filter.Inside BlockKind.status.size := by
    unfold Field.Inside
    decide
  have hpower (m : Image BlockKind.status.size) (on : Bool) :
      (m.setBit Layout.power on).image.unsigned Layout.filter = m.unsigned Layout.filter :=
    (m.sameOff_setBit Layout.power on).unsigned (by decide)
  have hcode {f : Field} (hapart : f.Apart Layout.filter) (m : Image BlockKind.status.size)
      (v : UInt32) : (m.setUnsigned f v).image.unsigned Layout.filter = m.unsigned Layout.filter :=
    (m.sameOff_setUnsigned f v).unsigned hapart
  unfold accepted
  split_ifs
  · rw [unsigned_setTemperature_setpoint _ _ (by decide), hcode (f := Layout.currentMode) (by decide),
      hcode (f := Layout.mode) (by decide), hcode (f := Layout.fanSpeed) (by decide),
      hcode (f := Layout.fanDirection) (by decide), hpower]
  · exact unsigned_setUnsigned _ hin (by decide) (by decide)

theorem agreeOff_accepted : AgreeOff Layout.reflected (accepted holding status) status := by
  have hcode {m : Image BlockKind.status.size} (hagree : AgreeOff Layout.reflected m status)
      {f : Field} (hf : f ∈ Layout.reflected) (v : UInt32) :
      AgreeOff Layout.reflected (m.setUnsigned f v).image status :=
    hagree.of_sameOff hf (m.sameOff_setUnsigned f v)
  have hpower : AgreeOff Layout.reflected
      (status.setBit Layout.power (holding.bit Layout.power)).image status :=
    (AgreeOff.refl _ _).of_sameOff (by decide) (status.sameOff_setBit Layout.power _)
  have hdirection := hcode hpower (f := Layout.fanDirection) (by decide)
    (holding.unsigned Layout.fanDirection)
  have hspeed := hcode hdirection (f := Layout.fanSpeed) (by decide)
    (holding.unsigned Layout.fanSpeed)
  have hmode := hcode hspeed (f := Layout.mode) (by decide) (holding.unsigned Layout.mode)
  have hcurrent := hcode hmode (f := Layout.currentMode) (by decide)
    (holding.unsigned Layout.mode)
  have hsetpoint := hcurrent.of_sameOff (f := Layout.setpoint) (by decide)
    (sameOff_setTemperature_setpoint _ (holding.temperature Layout.setpoint))
  unfold accepted
  split_ifs
  · exact hsetpoint
  · exact hcode hsetpoint (f := Layout.filter) (by decide) 0

theorem reflects_accepted : Reflects holding status (accepted holding status) := by
  have hcontrols := controls_accepted holding status
  simp only [Image.controls, Controls.mk.injEq] at hcontrols
  obtain ⟨hpower, hdirection, hspeed, hmode, hsetpoint⟩ := hcontrols
  exact {
    power := hpower
    fanDirection := hdirection
    fanSpeed := hspeed
    mode := hmode
    currentMode := currentMode_accepted holding status
    setpoint := Int32.toInt_inj.mp hsetpoint
    filter := filter_accepted holding status
    others := agreeOff_accepted holding status }

end Accepted

section Overlay

variable {registers : UInt16 → UInt16} {address a : UInt16} {ws : Words}

/-- The words are found from the address on, also behind the end of the table. -/
theorem overlay_of_lt (hsize : ws.length ≤ UInt16.size) {k : Nat} (hk : k < ws.length) :
    overlay registers address ws (address + UInt16.ofNat k) = ws[k] := by
  have hoffset : address + UInt16.ofNat k - address = UInt16.ofNat k := by grind
  have hnat : (UInt16.ofNat k).toNat = k := UInt16.toNat_ofNat_of_lt' (hk.trans_le hsize)
  rw [overlay, hoffset, hnat, List.getElem?_eq_getElem hk]

theorem overlay_of_outside (h : ∀ k < ws.length, a ≠ address + UInt16.ofNat k) :
    overlay registers address ws a = registers a := by
  have hnone : ws[(a - address).toNat]? = none := by
    rw [List.getElem?_eq_none_iff]
    by_contra hlt
    apply h _ (not_le.mp hlt)
    rw [UInt16.ofNat_toNat]
    grind
  rw [overlay, hnone]

end Overlay

/-- The three words that begin at the address of a slot, and no others, are its holding block. -/
theorem writtenSlot?_eq_some_iff {address : UInt16} {count : Nat} {slot : UInt8} :
    writtenSlot? address count = some slot ↔
      slot.toNat < slotCount ∧ address = BlockKind.holding.address slot ∧ count = 3 := by
  have hslot := slot.toNat_lt
  rw [← UInt16.toNat_inj, BlockKind.toNat_address, writtenSlot?]
  simp only [Option.ite_none_right_eq_some, Option.some_inj]
  rw [← UInt8.toNat_inj, UInt8.toNat_ofNat']
  simp only [BlockKind.base, BlockKind.size, UInt16.reduceToNat, slotCount]
  omega

section Writes

variable (s : Simulation) {address : UInt16} {ws : Words}

/-- A write that is not refused stores its words, and a slot whose block it covers takes them up. -/
theorem writeRegisters_accepted (hwords : ws ≠ []) (hfault : s.writeFault address = none) :
    s.writeRegisters address ws =
      ⟨.ok (), match writtenSlot? address ws.length with
        | some slot => ((s.record (.write address ws)).store .holding address ws).accept slot
        | none => (s.record (.write address ws)).store .holding address ws, 0⟩ := by
  have hlength : ws.length ≠ 0 := mt List.length_eq_zero_iff.mp hwords
  simp only [writeRegisters, record, hfault, hlength, if_false]
  cases writtenSlot? address ws.length <;> rfl

theorem registers_holding_of_accepted (hwords : ws ≠ []) (hfault : s.writeFault address = none)
    (a : UInt16) : (s.writeRegisters address ws).bus.registers .holding a =
      overlay (s.registers .holding) address ws a := by
  rw [s.writeRegisters_accepted hwords hfault]
  cases writtenSlot? address ws.length with
  | some slot =>
    have hkept (s : Simulation) : (s.accept slot).registers .holding a = s.registers .holding a :=
      registers_setBlock_of_not_covers _ (fun h => absurd h.1 (by decide))
    dsimp only
    rw [hkept]
    rfl
  | none => rfl

/-- A write that covers no holding block of a slot has no effect on the input registers. -/
theorem registers_input_of_uncovered (hwords : ws ≠ []) (hfault : s.writeFault address = none)
    (hnone : writtenSlot? address ws.length = none) (a : UInt16) :
    (s.writeRegisters address ws).bus.registers .input a = s.registers .input a := by
  rw [s.writeRegisters_accepted hwords hfault, hnone]
  rfl

/-- `s'` is the adapter `s` after it has carried out a write. -/
structure Carried (s : Simulation) (address : UInt16) (ws : Words) (s' : Simulation) : Prop where
  log : s'.log = s.log ++ [.write address ws]
  faults : SameFaults s s'
  written : ∀ k (hk : k < ws.length), s'.registers .holding (address + UInt16.ofNat k) = ws[k]
  kept : ∀ a, (∀ k < ws.length, a ≠ address + UInt16.ofNat k) →
    s'.registers .holding a = s.registers .holding a
  reflected : ∀ (slot : UInt8) (m : Image BlockKind.holding.size), slot.toNat < slotCount →
    address = BlockKind.holding.address slot → ws = m.words →
      Reflects m (s.block .status slot) (s'.block .status slot) ∧
        ∀ a, ¬ BlockKind.status.Covers slot a → s'.registers .input a = s.registers .input a
  apart : (∀ slot : UInt8, slot.toNat < slotCount → address = BlockKind.holding.address slot →
    ws.length ≠ BlockKind.holding.size) → ∀ a, s'.registers .input a = s.registers .input a

theorem carried_of_accepted (hwords : ws ≠ []) (hfault : s.writeFault address = none)
    (hsize : ws.length ≤ UInt16.size) :
    Carried s address ws (s.writeRegisters address ws).bus where
  log := by
    rw [s.writeRegisters_accepted hwords hfault]
    cases writtenSlot? address ws.length <;> rfl
  faults := s.sameFaults_writeRegisters address ws
  written k hk := by
    rw [s.registers_holding_of_accepted hwords hfault, overlay_of_lt hsize hk]
  kept a ha := by
    rw [s.registers_holding_of_accepted hwords hfault, overlay_of_outside ha]
  reflected := by
    rintro slot m hslot rfl rfl
    rcases s.writeRegisters_holding hslot m with ⟨-, hdevice, hconfined⟩ | ⟨⟨e, herror⟩, -⟩
    · have hstatus := congrArg Device.status hdevice
      refine ⟨?_, fun a ha => hconfined _ _ (fun h => absurd h.1 (by decide)) (fun h => ha h.2)⟩
      change (s.writeRegisters _ _).bus.block .status slot =
        accepted m (s.block .status slot) at hstatus
      rw [hstatus]
      exact reflects_accepted m (s.block .status slot)
    · rw [s.writeRegisters_accepted hwords hfault] at herror
      cases herror
  apart hnone := by
    apply s.registers_input_of_uncovered hwords hfault
    rw [Option.eq_none_iff_forall_ne_some]
    intro slot hslot
    obtain ⟨hlt, haddress, hcount⟩ := writtenSlot?_eq_some_iff.mp hslot
    exact hnone slot hlt haddress hcount

theorem writeRegisters_faulted (hwords : ws ≠ []) {f : Fault}
    (hfault : s.writeFault address = some f) : s.writeRegisters address ws =
      ⟨.error (f.error Frame.writeReplyLength), s.record (.write address ws), 0⟩ := by
  have hlength : ws.length ≠ 0 := mt List.length_eq_zero_iff.mp hwords
  simp only [writeRegisters, record, hfault, hlength, if_false]

end Writes

/-- A write of words that fit the table is carried out, unless there are none or a fault is set at
the address. Then the adapter is what it was, but for the entry in its log. -/
theorem holding_write_reflected (s : Simulation) (address : UInt16) (ws : Words)
    (hsize : ws.length ≤ 65534) :
    (ws ≠ [] → s.writeFault address = none →
      (s.writeRegisters address ws).result = .ok () ∧
        Carried s address ws (s.writeRegisters address ws).bus) ∧
      (∀ f, ws ≠ [] → s.writeFault address = some f → s.writeRegisters address ws =
        ⟨.error (f.error Frame.writeReplyLength),
          { s with log := s.log ++ [.write address ws] }, 0⟩) ∧
      (ws = [] → s.writeRegisters address ws =
        ⟨.error .noRegisters, { s with log := s.log ++ [.write address ws] }, 0⟩) := by
  refine ⟨fun hwords hfault => ⟨?_, ?_⟩, fun f hwords hfault => ?_, ?_⟩
  · exact congrArg BusWrite.result (s.writeRegisters_accepted hwords hfault)
  · exact s.carried_of_accepted hwords hfault (hsize.trans (by decide))
  · exact s.writeRegisters_faulted hwords hfault
  · rintro rfl
    rfl

/-- A holding block for 23.5 degrees below zero at a fan speed that has no name, written in its
place, one register too early, and where a fault is set; and a write around the end of the table. -/
theorem holding_write_reflected_demo :
    let s := demo.failWrites 2018 .timeout
    let asked : Image BlockKind.holding.size := ⟨[0x7261, 0x00f2, 0x80eb], rfl⟩
    let taken := (s.writeRegisters 2015 asked.words).bus
    let early := (s.writeRegisters 2014 asked.words).bus
    Reflects asked (s.block .status 5) (taken.block .status 5) ∧
      (taken.block .status 5).signed Layout.setpoint = -235 ∧
      (∀ a, early.registers .input a = s.registers .input a) ∧
      (s.writeRegisters 2018 asked.words).bus.registers = s.registers ∧
      (s.writeRegisters 0xFFFF [7, 8]).bus.registers .holding 0 = 8 := by
  intro s asked taken early
  have hwords : asked.words ≠ [] := by decide
  have hsize : asked.words.length ≤ 65534 := by decide
  obtain ⟨htaken, -⟩ := s.holding_write_reflected 2015 asked.words hsize
  obtain ⟨hearly, -⟩ := s.holding_write_reflected 2014 asked.words hsize
  obtain ⟨-, hrefused, -⟩ := s.holding_write_reflected 2018 asked.words hsize
  obtain ⟨haround, -⟩ := s.holding_write_reflected 0xFFFF [7, 8] (by decide)
  have hreflects := ((htaken hwords rfl).2.reflected 5 asked (by decide) rfl rfl).1
  refine ⟨hreflects, hreflects.setpoint.trans (by decide), ?_, ?_, ?_⟩
  · refine (hearly hwords rfl).2.apart fun slot hslot haddress => absurd haddress ?_
    rw [← UInt16.toNat_inj, BlockKind.toNat_address]
    simp only [BlockKind.base, BlockKind.size, UInt16.reduceToNat]
    omega
  · exact congrArg (fun w => w.bus.registers) (hrefused .timeout hwords rfl)
  · exact (haround (by decide) rfl).2.written 1 (by decide)

end Simulation

end ClimateBus
