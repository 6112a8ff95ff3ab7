import ClimateBus.Proofs.GatewaySteps
import Mathlib

/-!
The faults of the adapter, and commands where none is set.

An operation of the simulated adapter fails at an address with a fault, and no operation sets or
clears one. A command reads and writes one holding block only, so it succeeds if that block has no
fault, on whichever of its ways, whatever is wrong elsewhere.
-/
namespace ClimateBus

namespace Simulation

section Faults

variable {s s' : Simulation}

/-- The same operations fail, in the same way. -/
structure SameFaults (s s' : Simulation) : Prop where
  read : s'.readFault = s.readFault
  write : s'.writeFault = s.writeFault

namespace SameFaults

theorem trans {t : Simulation} (h : SameFaults s s') (h' : SameFaults s' t) : SameFaults s t :=
  ⟨h'.read.trans h.read, h'.write.trans h.write⟩

theorem result_readRegisters (h : SameFaults s s') {n : Nat} (t : Table) (a : UInt16)
    (buffer : Image n) :
    (s'.readRegisters t a buffer).result = (s.readRegisters t a buffer).result := by
  simp only [readRegisters, record, h.read]
  split_ifs
  · rfl
  · split <;> rfl

theorem buffer_readRegisters (h : SameFaults s s') {k : BlockKind} {i : UInt8}
    (hblock : s'.block k i = s.block k i) (buffer : Image k.size) :
    (s'.readRegisters k.table (k.address i) buffer).buffer =
      (s.readRegisters k.table (k.address i) buffer).buffer := by
  simp only [readRegisters, record, h.read]
  split_ifs
  · rfl
  · split
    · rfl
    · exact hblock

theorem result_writeRegisters (h : SameFaults s s') (a : UInt16) (ws : Words) :
    (s'.writeRegisters a ws).result = (s.writeRegisters a ws).result := by
  simp only [writeRegisters, record, h.write]
  split_ifs
  · rfl
  · split
    · rfl
    · split <;> rfl

end SameFaults

theorem sameFaults_readRegisters {n : Nat} (s : Simulation) (t : Table) (a : UInt16)
    (buffer : Image n) : SameFaults s (s.readRegisters t a buffer).bus := by
  unfold readRegisters
  dsimp only
  split_ifs
  · exact ⟨rfl, rfl⟩
  · split <;> exact ⟨rfl, rfl⟩

theorem sameFaults_writeRegisters (s : Simulation) (a : UInt16) (ws : Words) :
    SameFaults s (s.writeRegisters a ws).bus := by
  unfold writeRegisters
  dsimp only
  split_ifs
  · exact ⟨rfl, rfl⟩
  · split
    · exact ⟨rfl, rfl⟩
    · split <;> exact ⟨rfl, rfl⟩

end Faults

/-- The holding block of a slot can be read and written. -/
structure Serves (s : Simulation) (slot : UInt8) : Prop where
  read : s.readFault .holding (BlockKind.holding.address slot) = none
  write : s.writeFault (BlockKind.holding.address slot) = none

theorem serves_clearFaults (s : Simulation) (slot : UInt8) : s.clearFaults.Serves slot := ⟨rfl, rfl⟩

variable {s : Simulation} {slot : UInt8} (h : s.Serves slot)
include h

theorem Serves.of_sameFaults {s' : Simulation} (hsame : SameFaults s s') : s'.Serves slot where
  read := by rw [hsame.read, h.read]
  write := by rw [hsame.write, h.write]

theorem Serves.readRegisters (buffer : Image BlockKind.holding.size) :
    let r := s.readRegisters .holding (BlockKind.holding.address slot) buffer
    r.result = .ok () ∧ r.bus.Serves slot := by
  have hsize : BlockKind.holding.size ≠ 0 := by decide
  refine ⟨?_, h.of_sameFaults (s.sameFaults_readRegisters _ _ _)⟩
  simp only [Simulation.readRegisters, if_neg hsize, record, h.read]

theorem Serves.writeRegisters (m : Image BlockKind.holding.size) :
    let w := s.writeRegisters (BlockKind.holding.address slot) m.words
    w.result = .ok () ∧ w.bus.Serves slot := by
  have hlength : m.words.length ≠ 0 := by
    rw [m.length_eq]
    decide
  refine ⟨?_, h.of_sameFaults (s.sameFaults_writeRegisters _ _)⟩
  simp only [Simulation.writeRegisters, if_neg hlength, record, h.write]
  split <;> rfl

end Simulation

/-- The step succeeded, and others on its slot still can. -/
structure SlotStep.Served (s : SlotStep Simulation) : Prop where
  ok : s.result = .ok ()
  serves : s.link.bus.Serves s.slot.index

theorem SlotStep.Served.andThen {s : SlotStep Simulation}
    {next : BusLink Simulation → Slot → SlotStep Simulation} (h : s.Served)
    (hnext : ∀ l u, l.bus.Serves u.index → (next l u).Served) : (s.andThen next).Served := by
  obtain ⟨hok, hserves⟩ := h
  have hstep : s.andThen next = next s.link s.slot := by simp only [SlotStep.andThen, hok]
  rw [hstep]
  exact hnext _ _ hserves

namespace Slot

variable {l : BusLink Simulation} {u : Slot} (h : l.bus.Serves u.index)
include h

theorem writeHolding_served (stamp : UInt64) : (writeHolding l u stamp).Served := by
  have hwrite := h.writeRegisters u.holding.image
  change (l.write u.index u.holding.image.words).1 = .ok () ∧
    (l.write u.index u.holding.image.words).2.bus.Serves u.index at hwrite
  unfold writeHolding BusLink.writeIfDirty
  generalize l.write u.index u.holding.image.words = w at *
  obtain ⟨result, link⟩ := w
  obtain ⟨rfl, hserves⟩ := hwrite
  split_ifs
  · exact ⟨rfl, hserves⟩
  · exact ⟨rfl, h⟩

theorem prepare_served (window : UInt32) : (prepare window l u).Served := by
  have hread := h.readRegisters u.holding.image
  change (l.read .holding u.index u.holding.image).result = .ok () ∧
    (l.read .holding u.index u.holding.image).link.bus.Serves u.index at hread
  unfold prepare
  generalize l.read .holding u.index u.holding.image = r at *
  obtain ⟨result, buffer, link⟩ := r
  obtain ⟨rfl, hserves⟩ := hread
  split_ifs
  · exact writeHolding_served (by rwa [sync_index]) l.now
  · exact ⟨rfl, h⟩

theorem endPulse_served (stamp : UInt64) : (endPulse stamp l u).Served := by
  unfold endPulse
  split_ifs
  · exact writeHolding_served (u := u.withdrawn) (by rwa [withdrawn_index]) stamp
  · exact ⟨rfl, h⟩

theorem commit_served : (commit l u).Served := by
  have hwrite : (writeHolding l u.sync l.now).Served :=
    writeHolding_served (by rwa [sync_index]) l.now
  exact hwrite.andThen fun _ _ hserves => endPulse_served hserves l.now

theorem apply_served (window : UInt32) (c : Command) : (apply window c l u).Served := by
  refine (prepare_served h window).andThen fun l' u' hserves => ?_
  exact commit_served (by rwa [edit_index])

end Slot

namespace Gateway

/-- A command to a unit whose holding block has no fault succeeds. -/
theorem apply_ok_of_serves {g : Gateway Simulation} (hg : g.Indexed) {i : UInt8} {u : Slot}
    (hu : g.present? i = .ok u) (hserves : g.link.bus.Serves i) (c : Command) :
    (g.apply i c).1 = .ok () := by
  obtain ⟨-, hindex⟩ := hg.of_present hu
  have hserved := Slot.apply_served (u := u) (by rwa [hindex]) g.settings.cacheWriteS c
  exact onPresent_eq_ok.mpr ⟨u, hu, hserved.ok⟩

end Gateway

end ClimateBus
