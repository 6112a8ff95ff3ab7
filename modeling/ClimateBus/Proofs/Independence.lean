import ClimateBus.Proofs.LinkHistory
import ClimateBus.Proofs.FaultFree
import ClimateBus.Proofs.SlotInvariants
import Mathlib

/-!
Commands to different units.

A command to a unit goes by the clock, the faults of the adapter and the registers of that unit
(`BusLink.Abreast`). Where no operation has to wait it leaves all of that as it was for every other
unit (`BusLink.Turn`). So each of two units gets the same command done in the same way whether it
comes first or second, and only the order of the operations tells which one it was.
-/
namespace ClimateBus

namespace Simulation

/-- Two units that changed one after the other, in either order: where each of them got to tells
all registers. -/
theorem registers_of_confined {s s' t a b : Simulation} {i j : UInt8} (ha : Confined i s a)
    (ha' : Confined j a s') (hb : Confined j s b) (hb' : Confined i b t)
    (hi : t.device i = s'.device i) (hj : t.device j = s'.device j) :
    t.registers = s'.registers := by
  funext table r
  by_cases howns : Owns i table r
  · exact howns.registers_eq hi
  by_cases howns' : Owns j table r
  · exact howns'.registers_eq hj
  rw [hb'.registers_eq howns, hb.registers_eq howns', ha'.registers_eq howns',
    ha.registers_eq howns]

end Simulation

namespace BusLink

variable {i j : UInt8} {l l' : BusLink Simulation}

theorem now_throttle (h : l.throttleMs = 0) : l.throttle.now = l.now := by
  have hpause : l.pause = 0 := by
    have hle := l.toNat_pause_le
    rw [h] at hle
    exact UInt64.toNat_inj.mp (Nat.le_zero.mp hle)
  rw [throttle_now Simulation.instant.punctual, hpause, UInt64.add_zero]

/-- Operations that do not wait all go out at once. -/
theorem Leads.unspaced {p : Issue → Prop} (h : l.Leads p l') (hthrottle : l.throttleMs = 0) :
    l'.now = l.now ∧ ∃ new, l'.issued = l.issued ++ new ∧
      l'.lastOp = if new.isEmpty then l.lastOp else some l.now := by
  induction h with
  | stay => exact ⟨rfl, [], by simp, by simp⟩
  | @issue l₁ _ e hleads hop _ ih =>
    obtain ⟨hnow, new, hissued, -⟩ := ih
    have hended : _ = l.now := (hop.now_eq Simulation.instant).trans
      ((now_throttle (hleads.throttleMs.trans hthrottle)).trans hnow)
    refine ⟨hended, new ++ [e], ?_, ?_⟩
    · rw [hop.issued, hissued, List.append_assoc]
    · rw [hop.lastOp, hended]
      simp
  | idle _ ih => rwa [idle_eq]

theorem Issues.sameFaults {e : Issue} (h : l.Issues e l') : l.bus.SameFaults l'.bus := by
  cases h with
  | read kind slot buffer =>
    exact l.bus.sameFaults_readRegisters kind.table (kind.address slot) buffer
  | write slot ws => exact l.bus.sameFaults_writeRegisters (BlockKind.holding.address slot) ws

theorem Leads.sameFaults {p : Issue → Prop} (h : l.Leads p l') : l.bus.SameFaults l'.bus := by
  induction h with
  | stay => exact ⟨rfl, rfl⟩
  | issue _ hop _ ih => exact ih.trans hop.sameFaults
  | idle _ ih => exact ih

/-- What a unit's turn leaves of a link without pauses: nothing changed but the unit, and the
operations `new` were issued. -/
structure Turn (i : UInt8) (new : List Issue) (l l' : BusLink Simulation) : Prop where
  now : l'.now = l.now
  throttleMs : l'.throttleMs = l.throttleMs
  lastOp : l'.lastOp = if new.isEmpty then l.lastOp else some l.now
  issued : l'.issued = l.issued ++ new
  log : l'.bus.log = l.bus.log ++ new.map Issue.operation
  faults : l.bus.SameFaults l'.bus
  confined : Simulation.Confined i l.bus l'.bus

/-- Two links that a command to a unit takes for the same, and what they issued since they had
`old` and `old'`. -/
structure Abreast (i : UInt8) (old old' : List Issue) (l l' : BusLink Simulation) : Prop where
  now : l'.now = l.now
  unspaced : l.throttleMs = 0
  unspaced' : l'.throttleMs = 0
  faults : l.bus.SameFaults l'.bus
  device : l'.bus.device i = l.bus.device i
  issued : ∃ new, l.issued = old ++ new ∧ l'.issued = old' ++ new

/-- Another unit's turn makes no difference to a unit. -/
theorem Turn.abreast {new : List Issue} (h : l.Turn j new l') (hne : j ≠ i)
    (hthrottle : l.throttleMs = 0) : l.Abreast i l.issued l'.issued l' where
  now := h.now
  unspaced := hthrottle
  unspaced' := h.throttleMs.trans hthrottle
  faults := h.faults
  device := h.confined.device hne
  issued := ⟨[], by simp, by simp⟩

namespace Abreast

variable {old old' : List Issue} {m m' : BusLink Simulation}

theorem now_throttle_eq (h : l.Abreast i old old' l') : l'.throttle.now = l.throttle.now := by
  rw [now_throttle h.unspaced', now_throttle h.unspaced, h.now]

/-- An operation that ends the same on both links. Faults stay as they are. -/
theorem issue (h : l.Abreast i old old' l') {e : Issue} (hop : l.Issues e m)
    (hop' : l'.Issues e m') (hdevice : m'.bus.device i = m.bus.device i) :
    m.Abreast i old old' m' where
  now := by rw [← hop'.endedAt, hop.endedAt]
  unspaced := hop.throttleMs.trans h.unspaced
  unspaced' := hop'.throttleMs.trans h.unspaced'
  faults := ⟨by rw [hop'.sameFaults.read, h.faults.read, hop.sameFaults.read],
    by rw [hop'.sameFaults.write, h.faults.write, hop.sameFaults.write]⟩
  device := hdevice
  issued := by
    obtain ⟨new, hissued, hissued'⟩ := h.issued
    refine ⟨new ++ [e], ?_, ?_⟩
    · rw [hop.issued, hissued, List.append_assoc]
    · rw [hop'.issued, hissued', List.append_assoc]

theorem read (h : l.Abreast i old old' l') (buffer : Image BlockKind.holding.size) :
    let r := l.read .holding i buffer
    let r' := l'.read .holding i buffer
    r'.result = r.result ∧ r'.buffer = r.buffer ∧ r.link.Abreast i old old' r'.link := by
  have hresult : (l'.read .holding i buffer).result = (l.read .holding i buffer).result :=
    h.faults.result_readRegisters _ _ buffer
  have hbuffer : (l'.read .holding i buffer).buffer = (l.read .holding i buffer).buffer :=
    h.faults.buffer_readRegisters (congrArg Device.holding h.device) buffer
  have hended : (l'.read .holding i buffer).link.now = (l.read .holding i buffer).link.now := by
    rw [now_read _ Simulation.instant, now_read _ Simulation.instant, h.now_throttle_eq]
  have hissues : l'.Issues _ _ := .read .holding i buffer
  rw [hresult, hended, readIssue, h.now, h.now_throttle_eq] at hissues
  refine ⟨hresult, hbuffer, h.issue (.read .holding i buffer) hissues ?_⟩
  rw [Simulation.device_of_registers (l'.registers_read .holding i buffer), h.device,
    Simulation.device_of_registers (l.registers_read .holding i buffer)]

theorem write (h : l.Abreast i old old' l') (hi : i.toNat < slotCount)
    (m : Image BlockKind.holding.size) :
    let w := l.write i m.words
    let w' := l'.write i m.words
    w'.1 = w.1 ∧ w.2.Abreast i old old' w'.2 := by
  have hresult : (l'.write i m.words).1 = (l.write i m.words).1 :=
    h.faults.result_writeRegisters _ _
  have hended : (l'.write i m.words).2.now = (l.write i m.words).2.now := by
    rw [now_write _ Simulation.instant, now_write _ Simulation.instant, h.now_throttle_eq]
  have hissues : l'.Issues _ _ := .write i m.words
  rw [hresult, hended, writeIssue, h.now, h.now_throttle_eq] at hissues
  refine ⟨hresult, h.issue (.write i m.words) hissues ?_⟩
  obtain ⟨link, hw⟩ := l.write_spec hi m
  obtain ⟨link', hw'⟩ := l'.write_spec hi m
  rcases hw with ⟨hw, hdevice, -⟩ | ⟨e, hw, hregisters, -⟩ <;>
    rcases hw' with ⟨hw', hdevice', -⟩ | ⟨e', hw', hregisters', -⟩ <;>
    rw [hw, hw'] at hresult ⊢
  · rw [hdevice', hdevice, h.device]
  · cases hresult
  · cases hresult
  · rw [Simulation.device_of_registers hregisters', Simulation.device_of_registers hregisters,
      h.device]

end Abreast

end BusLink

/-- Two steps on a slot that end the same. -/
structure SlotStep.Abreast (i : UInt8) (old old' : List Issue) (s s' : SlotStep Simulation) :
    Prop where
  index : s.slot.index = i
  result : s'.result = s.result
  slot : s'.slot = s.slot
  link : s.link.Abreast i old old' s'.link

theorem SlotStep.Abreast.andThen {i : UInt8} {old old' : List Issue} {s s' : SlotStep Simulation}
    {next : BusLink Simulation → Slot → SlotStep Simulation} (h : s.Abreast i old old' s')
    (hnext : ∀ l l' u, u.index = i → BusLink.Abreast i old old' l l' →
      (next l u).Abreast i old old' (next l' u)) :
    (s.andThen next).Abreast i old old' (s'.andThen next) := by
  unfold SlotStep.andThen
  rw [h.result, h.slot]
  split
  · exact hnext s.link s'.link s.slot h.index h.link
  · exact ⟨h.index, h.result, h.slot, h.link⟩

namespace Slot

variable {i : UInt8} {old old' : List Issue} {l l' : BusLink Simulation} {u : Slot}
  (h : l.Abreast i old old' l') (hindex : u.index = i) (hi : i.toNat < slotCount)
include h hindex hi

theorem writeHolding_abreast (stamp : UInt64) :
    (writeHolding l u stamp).Abreast i old old' (writeHolding l' u stamp) := by
  subst hindex
  obtain ⟨hresult, hlink⟩ := h.write hi u.holding.image
  unfold writeHolding BusLink.writeIfDirty
  generalize l.write u.index u.holding.image.words = w at hresult hlink ⊢
  generalize l'.write u.index u.holding.image.words = w' at hresult hlink ⊢
  obtain ⟨result, m⟩ := w
  obtain ⟨result', m'⟩ := w'
  obtain rfl : result' = result := hresult
  split_ifs
  · cases result' with
    | ok _ => exact ⟨rfl, rfl, rfl, hlink⟩
    | error e => exact ⟨rfl, rfl, rfl, hlink⟩
  · exact ⟨rfl, rfl, rfl, h⟩

theorem prepare_abreast (window : UInt32) :
    (prepare window l u).Abreast i old old' (prepare window l' u) := by
  subst hindex
  obtain ⟨hresult, hbuffer, hlink⟩ := h.read u.holding.image
  unfold prepare
  rw [h.now]
  generalize l.read .holding u.index u.holding.image = r at hresult hbuffer hlink ⊢
  generalize l'.read .holding u.index u.holding.image = r' at hresult hbuffer hlink ⊢
  obtain ⟨result, m, k⟩ := r
  obtain ⟨result', m', k'⟩ := r'
  obtain rfl : result' = result := hresult
  obtain rfl : m' = m := hbuffer
  split_ifs
  · cases result' with
    | error e => exact ⟨rfl, rfl, rfl, hlink⟩
    | ok _ =>
      have hindex : (u.reloaded m' l.now).sync.index = u.index := by simp
      exact writeHolding_abreast hlink hindex hi l.now
  · exact ⟨rfl, rfl, rfl, h⟩

theorem endPulse_abreast (stamp : UInt64) :
    (endPulse stamp l u).Abreast i old old' (endPulse stamp l' u) := by
  unfold endPulse
  split_ifs
  · exact writeHolding_abreast h (u := u.withdrawn) (by simpa using hindex) hi stamp
  · exact ⟨hindex, rfl, rfl, h⟩

theorem commit_abreast : (commit l u).Abreast i old old' (commit l' u) := by
  unfold commit
  rw [h.now]
  have hwrite := writeHolding_abreast h (u := u.sync) (by simpa using hindex) hi l.now
  exact hwrite.andThen fun _ _ _ hindex hlink => endPulse_abreast hlink hindex hi l.now

theorem apply_abreast (window : UInt32) (c : Command) :
    (apply window c l u).Abreast i old old' (apply window c l' u) := by
  refine (prepare_abreast h hindex hi window).andThen fun _ _ u' hindex hlink => ?_
  rw [BusLink.idle_eq, BusLink.idle_eq]
  exact commit_abreast hlink (u := u'.edit c) (by rw [edit_index, hindex]) hi

end Slot

namespace Slot

variable {i j : UInt8} {l l' : BusLink Simulation} {u : Slot} (hindex : u.index = i)
  (hi : i.toNat < slotCount) (hthrottle : l.throttleMs = 0) (window : UInt32) (c : Command)
include hindex hi hthrottle

theorem apply_turn : ∃ new, l.Turn i new (apply window c l u).link := by
  have hleads := apply_leads l u window c
  obtain ⟨hnow, new, hissued, hlastOp⟩ := hleads.unspaced hthrottle
  obtain ⟨new', hissued', hlog⟩ := hleads.tallies Simulation.records_log
  obtain rfl : new = new' := List.append_cancel_left (hissued.symm.trans hissued')
  exact ⟨new, hnow, hleads.throttleMs, hlastOp, hissued, hlog, hleads.sameFaults,
    (apply_staysIn hi window c l u hindex).confined⟩

/-- After another unit's turn a command takes the same turn. -/
theorem apply_turn_after {new new' : List Issue} (hturn : l.Turn i new (apply window c l u).link)
    (hother : l.Turn j new' l') (hne : j ≠ i) :
    l'.Turn i new (apply window c l' u).link ∧
      (apply window c l u).Abreast i l.issued l'.issued (apply window c l' u) := by
  have habreast := apply_abreast (hother.abreast hne hthrottle) hindex hi window c
  obtain ⟨new₁, hturn'⟩ :=
    apply_turn hindex hi (hother.throttleMs.trans hthrottle) window c
  obtain ⟨new₂, hissued, hissued'⟩ := habreast.link.issued
  obtain rfl : new = new₂ := List.append_cancel_left (hturn.issued.symm.trans hissued)
  obtain rfl : new₁ = new := List.append_cancel_left (hturn'.issued.symm.trans hissued')
  exact ⟨hturn', habreast⟩

end Slot

/-- The links differ in the order of the operations at most. -/
structure BusLink.SameButOrder (l l' : BusLink Simulation) : Prop where
  rest : l' = { l with issued := l'.issued, bus := { l.bus with log := l'.bus.log } }
  issued : l'.issued.Perm l.issued
  log : l'.bus.log.Perm l.bus.log

/-- Turns of two units in either order, when each of them gets its unit to the same registers. -/
theorem BusLink.Turn.in_either_order {i j : UInt8} {l a a' b b' : BusLink Simulation}
    {new new' : List Issue} (ha : l.Turn i new a) (ha' : a.Turn j new' a') (hb : l.Turn j new' b)
    (hb' : b.Turn i new b') (hne : i ≠ j) (hi : b'.bus.device i = a.bus.device i)
    (hj : a'.bus.device j = b.bus.device j) : a'.SameButOrder b' := by
  have hregisters : b'.bus.registers = a'.bus.registers := by
    apply Simulation.registers_of_confined ha.confined ha'.confined hb.confined hb'.confined
    · rw [hi, ha'.confined.device hne.symm]
    · rw [hj, hb'.confined.device hne]
  have hread : b'.bus.readFault = a'.bus.readFault := by
    rw [hb'.faults.read, hb.faults.read, ha'.faults.read, ha.faults.read]
  have hwrite : b'.bus.writeFault = a'.bus.writeFault := by
    rw [hb'.faults.write, hb.faults.write, ha'.faults.write, ha.faults.write]
  have hbus : b'.bus = { a'.bus with log := b'.bus.log } := by
    dsimp only
    rw [← hregisters, ← hread, ← hwrite]
  have hnow : b'.now = a'.now := by rw [hb'.now, hb.now, ha'.now, ha.now]
  have hthrottle : b'.throttleMs = a'.throttleMs := by
    rw [hb'.throttleMs, hb.throttleMs, ha'.throttleMs, ha.throttleMs]
  have hlastOp : b'.lastOp = a'.lastOp := by
    simp only [hb'.lastOp, hb.lastOp, ha'.lastOp, ha.lastOp, hb.now, ha.now]
    split_ifs <;> rfl
  have hperm {α : Type} (old : List α) (x y : List α) :
      ((old ++ x) ++ y).Perm ((old ++ y) ++ x) := by
    simp only [List.append_assoc]
    exact List.perm_append_comm.append_left old
  refine ⟨?_, ?_, ?_⟩
  · rw [← hbus, ← hnow, ← hthrottle, ← hlastOp]
  · rw [hb'.issued, hb.issued, ha'.issued, ha.issued]
    exact hperm _ _ _
  · rw [hb'.log, hb.log, ha'.log, ha.log]
    exact hperm _ _ _

namespace Gateway

/-- The gateways differ in the order of the operations at most. -/
structure SameButOrder (g g' : Gateway Simulation) : Prop where
  rest : g' = { g with link := g'.link }
  link : g.link.SameButOrder g'.link

theorem SameButOrder.refl (g : Gateway Simulation) : g.SameButOrder g :=
  ⟨rfl, rfl, .refl _, .refl _⟩

theorem SameButOrder.slots {g g' : Gateway Simulation} (h : g.SameButOrder g') :
    g'.slots = g.slots := by rw [h.rest]

variable {g : Gateway Simulation} {i j : UInt8}

/-- Commands to two units that are there. -/
theorem apply_in_either_order (hg : g.Indexed) (hthrottle : g.link.throttleMs = 0) (hne : i ≠ j)
    {u v : Slot} (hu : g.present? i = .ok u) (hv : g.present? j = .ok v) (c c' : Command) :
    ((g.apply j c').2.apply i c).1 = (g.apply i c).1 ∧
      ((g.apply i c).2.apply j c').1 = (g.apply j c').1 ∧
      ((g.apply i c).2.apply j c').2.SameButOrder ((g.apply j c').2.apply i c).2 := by
  obtain ⟨hi, hindex_i⟩ := hg.of_present hu
  obtain ⟨hj, hindex_j⟩ := hg.of_present hv
  let window := g.settings.cacheWriteS
  obtain ⟨new, hturn_i⟩ := Slot.apply_turn hindex_i hi hthrottle window c
  obtain ⟨new', hturn_j⟩ := Slot.apply_turn hindex_j hj hthrottle window c'
  obtain ⟨hturn_i', hsame_i⟩ :=
    Slot.apply_turn_after hindex_i hi hthrottle window c hturn_i hturn_j hne.symm
  obtain ⟨hturn_j', hsame_j⟩ :=
    Slot.apply_turn_after hindex_j hj hthrottle window c' hturn_j hturn_i hne
  have hu' : (g.apply j c').2.present? i = .ok u := (present?_onPresent_ne hne.symm).trans hu
  have hv' : (g.apply i c).2.present? j = .ok v := (present?_onPresent_ne hne).trans hv
  unfold Gateway.apply at hu' hv' ⊢
  rw [onPresent_present hu] at hv' ⊢
  rw [onPresent_present hv] at hu' ⊢
  rw [onPresent_present hu', onPresent_present hv']
  refine ⟨by rw [hsame_i.result], by rw [hsame_j.result], ?_, ?_⟩
  · have hnat : j.toNat ≠ i.toNat := fun heq => hne (UInt8.toNat_inj.mp heq).symm
    dsimp only
    rw [hsame_i.slot, hsame_j.slot, List.set_comm _ _ hnat]
  · exact hturn_i.in_either_order hturn_j' hturn_j hturn_i' hne hsame_i.link.device
      hsame_j.link.device

/-- Units do not notice commands to each other. Where operations need no pause, a command to each of
two units ends the same in either order, whatever faults are set and whether or not the units are
there: with the same results and, but for the order of the operations, with the same gateway and the
same registers. -/
theorem units_independent {s : Surroundings Simulation} (h : Reachable s g)
    (hthrottle : g.settings.throttleMs = 0) (hne : i ≠ j) (c c' : Command) :
    ((g.apply j c').2.apply i c).1 = (g.apply i c).1 ∧
      ((g.apply i c).2.apply j c').1 = (g.apply j c').1 ∧
      ((g.apply i c).2.apply j c').2.SameButOrder ((g.apply j c').2.apply i c).2 := by
  have hi : (g.apply j c').2.present? i = g.present? i := present?_onPresent_ne hne.symm
  have hj : (g.apply i c).2.present? j = g.present? j := present?_onPresent_ne hne
  cases hu : g.present? i with
  | error e =>
    have hfirst : g.apply i c = (.error e, g) := onPresent_absent hu
    have hlast : (g.apply j c').2.apply i c = (.error e, (g.apply j c').2) :=
      onPresent_absent (hi.trans hu)
    rw [hlast, hfirst]
    exact ⟨rfl, rfl, .refl _⟩
  | ok u =>
    cases hv : g.present? j with
    | error e =>
      have hfirst : g.apply j c' = (.error e, g) := onPresent_absent hv
      have hlast : (g.apply i c).2.apply j c' = (.error e, (g.apply i c).2) :=
        onPresent_absent (hj.trans hv)
      rw [hlast, hfirst]
      exact ⟨rfl, rfl, .refl _⟩
    | ok v =>
      exact apply_in_either_order h.indexed (h.throttleMs.trans hthrottle) hne hu hv c c'

/-- The small installation without pauses, when one unit cannot be written. -/
def demoUnspaced : Gateway Simulation :=
  (Gateway.new (Simulation.demo.failWrites (BlockKind.holding.address 1) .timeout) 0 1
    { throttleMs := 0 }).call .discover

/-- A command that fails at its second operation and one that succeeds with two writes. -/
theorem units_independent_demo :
    (demoUnspaced.apply 1 (.power true)).1 = .error (.bus (.timeout 8 0)) ∧
      ((demoUnspaced.apply 0 .filterReset).2.apply 1 (.power true)).1 =
        .error (.bus (.timeout 8 0)) ∧
      ((demoUnspaced.apply 1 (.power true)).2.apply 0 .filterReset).1 = .ok () ∧
      ((demoUnspaced.apply 1 (.power true)).2.apply 0 .filterReset).2.slots =
        ((demoUnspaced.apply 0 .filterReset).2.apply 1 (.power true)).2.slots := by
  have hreachable : Reachable (forwardClock Simulation) demoUnspaced := by
    unfold demoUnspaced
    exact (Reachable.new _ _ _ _).call .discover
  have hfails : (demoUnspaced.apply 1 (.power true)).1 = .error (.bus (.timeout 8 0)) := by
    decide +kernel
  have hok : (demoUnspaced.apply 0 .filterReset).1 = .ok () := by decide +kernel
  have hthrottle : demoUnspaced.settings.throttleMs = 0 := by decide +kernel
  obtain ⟨hfirst, hsecond, hsame⟩ :=
    units_independent (i := 0) (j := 1) hreachable hthrottle (by decide) .filterReset (.power true)
  exact ⟨hfails, hsecond.trans hfails, hfirst.trans hok, hsame.slots⟩

end Gateway

end ClimateBus
