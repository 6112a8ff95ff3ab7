import ClimateBus.Proofs.RegisterMap
import Mathlib

/-!
Rules for the steps of one slot over the simulated adapter.

`SlotStep.Ends` says how a step may end: with a condition of its own for success and for failure,
on the slot, on the unit behind it and on the operations issued so far, and in any case without
touching another unit. Each rule takes the step apart at its bus operations, every one of which
may fail, so a proof about a command is a proof about what lies between two operations.
-/
namespace ClimateBus

/-- A condition on a slot, the unit in it, and the operations issued so far. -/
abbrev SlotCondition := Slot → Device → List Issue → Prop

/-- Holds of the step of a slot that began with the link `l`: it worked on the asked slot alone and
left `Q` behind when it succeeded, `E` when it failed. -/
structure SlotStep.Ends (s : SlotStep Simulation) (l : BusLink Simulation) (slot : UInt8)
    (Q E : SlotCondition) : Prop where
  index : s.slot.index = slot
  confined : Simulation.Confined slot l.bus s.link.bus
  issued : ∃ new : List Issue, s.link.issued = l.issued ++ new ∧ ∀ e ∈ new, e.slot = slot
  ok : s.result = .ok () → Q s.slot (s.link.bus.device slot) s.link.issued
  error : ∀ e, s.result = .error e → E s.slot (s.link.bus.device slot) s.link.issued

theorem Simulation.instant : Bus.Instant Simulation where
  punctual _ := rfl
  read b t a buffer := by
    simp only [Bus.read, readRegisters]
    split
    · rfl
    · split <;> rfl
  write b a ws := by
    simp only [Bus.write, writeRegisters]
    split
    · rfl
    · split
      · rfl
      · split <;> rfl

namespace BusLink

section Issues

variable {β : Type} [Bus β] (l : BusLink β)

/-- A read as it is kept when it is issued now. It is over at once if nothing else is said. -/
def readIssue (kind : BlockKind) (slot : UInt8) (ok : Bool) (ended : UInt64 := l.throttle.now) :
    Issue :=
  ⟨kind, slot, none, l.now, l.throttle.now, ended, ok⟩

/-- A holding write as it is kept when it is issued now. -/
def writeIssue (slot : UInt8) (ws : Words) (ok : Bool) (ended : UInt64 := l.throttle.now) :
    Issue :=
  ⟨.holding, slot, some ws, l.now, l.throttle.now, ended, ok⟩

theorem now_read (h : Bus.Instant β) (kind : BlockKind) (slot : UInt8) (buffer : Image kind.size) :
    (l.read kind slot buffer).link.now = l.throttle.now := by
  have htook := h.read l.throttle.bus kind.table (kind.address slot) buffer
  simp only [read, after, htook, Clock.later_zero]

theorem now_write (h : Bus.Instant β) (slot : UInt8) (ws : Words) :
    (l.write slot ws).2.now = l.throttle.now := by
  have htook := h.write l.throttle.bus (BlockKind.holding.address slot) ws
  simp only [write, after, htook, Clock.later_zero]

end Issues

/-- Nothing takes time on the simulated adapter. -/
@[simp] theorem idle_eq (l : BusLink Simulation) : l.idle = l := by
  change { l with now := Clock.later l.now 0 } = l
  rw [Clock.later_zero]

theorem registers_read (l : BusLink Simulation) (kind : BlockKind) (slot : UInt8)
    (buffer : Image kind.size) :
    (l.read kind slot buffer).link.bus.registers = l.bus.registers :=
  l.bus.registers_readRegisters kind.table (kind.address slot) buffer

/-- A read fills the buffer from the unit, or fails and leaves the buffer alone. -/
theorem read_spec (l : BusLink Simulation) (kind : BlockKind) (slot : UInt8)
    (buffer : Image kind.size) : ∃ link : BusLink Simulation,
      link.bus.registers = l.bus.registers ∧
      ((l.read kind slot buffer = ⟨.ok (), l.bus.block kind slot, link⟩ ∧
          link.issued = l.issued ++ [l.readIssue kind slot true]) ∨
        ∃ e, l.read kind slot buffer = ⟨.error e, buffer, link⟩ ∧
          link.issued = l.issued ++ [l.readIssue kind slot false]) := by
  have hregisters := l.registers_read kind slot buffer
  have hissued : (l.read kind slot buffer).link.issued =
      l.issued ++ [l.readIssue kind slot (l.read kind slot buffer).result.isOk] := by
    rw [← l.now_read Simulation.instant kind slot buffer]
    rfl
  have hcases := l.bus.readRegisters_block kind slot buffer
  change ((l.read kind slot buffer).result = .ok () ∧
      (l.read kind slot buffer).buffer = l.bus.block kind slot) ∨
    (∃ e, (l.read kind slot buffer).result = .error e) ∧
      (l.read kind slot buffer).buffer = buffer at hcases
  generalize l.read kind slot buffer = r at *
  obtain ⟨result, filled, link⟩ := r
  refine ⟨link, hregisters, ?_⟩
  rcases hcases with ⟨rfl, rfl⟩ | ⟨⟨e, rfl⟩, rfl⟩
  · exact .inl ⟨rfl, hissued⟩
  · exact .inr ⟨e, rfl, hissued⟩

/-- A holding write is taken up by the unit, or fails and changes no register. -/
theorem write_spec (l : BusLink Simulation) {slot : UInt8} (h : slot.toNat < slotCount)
    (m : Image BlockKind.holding.size) : ∃ link : BusLink Simulation,
      (l.write slot m.words = (.ok (), link) ∧
          link.bus.device slot = (l.bus.device slot).take m ∧
          Simulation.Confined slot l.bus link.bus ∧
          link.issued = l.issued ++ [l.writeIssue slot m.words true]) ∨
        ∃ e, l.write slot m.words = (.error e, link) ∧ link.bus.registers = l.bus.registers ∧
          link.issued = l.issued ++ [l.writeIssue slot m.words false] := by
  have hissued : (l.write slot m.words).2.issued =
      l.issued ++ [l.writeIssue slot m.words (l.write slot m.words).1.isOk] := by
    rw [← l.now_write Simulation.instant slot m.words]
    rfl
  have hcases := l.bus.writeRegisters_holding h m
  change ((l.write slot m.words).1 = .ok () ∧
      (l.write slot m.words).2.bus.device slot = (l.bus.device slot).take m ∧
      Simulation.Confined slot l.bus (l.write slot m.words).2.bus) ∨
    (∃ e, (l.write slot m.words).1 = .error e) ∧
      (l.write slot m.words).2.bus.registers = l.bus.registers at hcases
  generalize l.write slot m.words = w at *
  obtain ⟨result, link⟩ := w
  refine ⟨link, ?_⟩
  rcases hcases with ⟨rfl, hdevice, hconfined⟩ | ⟨⟨e, rfl⟩, hregisters⟩
  · exact .inl ⟨rfl, hdevice, hconfined, hissued⟩
  · exact .inr ⟨e, rfl, hregisters, hissued⟩

end BusLink

namespace SlotStep.Ends

variable {l : BusLink Simulation} {slot : UInt8} {Q Q' E E' : SlotCondition}

theorem stay {u : Slot} (hindex : u.index = slot) (h : Q u (l.bus.device slot) l.issued) :
    SlotStep.Ends ⟨.ok (), u, l⟩ l slot Q E where
  index := hindex
  confined := .of_registers rfl
  issued := ⟨[], by simp, by simp⟩
  ok _ := h
  error e he := by cases he

theorem weaken {s : SlotStep Simulation} (h : s.Ends l slot Q E)
    (hQ : ∀ u d log, Q u d log → Q' u d log) (hE : ∀ u d log, E u d log → E' u d log) :
    s.Ends l slot Q' E' where
  index := h.index
  confined := h.confined
  issued := h.issued
  ok hs := hQ _ _ _ (h.ok hs)
  error e hs := hE _ _ _ (h.error e hs)

/-- What holds on success and on failure holds. -/
theorem always {s : SlotStep Simulation} (h : s.Ends l slot Q Q) :
    Q s.slot (s.link.bus.device slot) s.link.issued := by
  cases hs : s.result with
  | ok _ => exact h.ok hs
  | error e => exact h.error e hs

/-- A step that goes on from where another link was left without touching the registers. -/
theorem after {s : SlotStep Simulation} {l' : BusLink Simulation} (h : s.Ends l' slot Q E)
    (hconfined : Simulation.Confined slot l.bus l'.bus) {new : List Issue}
    (hissued : l'.issued = l.issued ++ new) (hnew : ∀ e ∈ new, e.slot = slot) :
    s.Ends l slot Q E where
  index := h.index
  confined := hconfined.trans h.confined
  issued := by
    obtain ⟨new', hissued', hnew'⟩ := h.issued
    refine ⟨new ++ new', by rw [hissued', hissued, List.append_assoc], ?_⟩
    intro e he
    rcases List.mem_append.mp he with he | he
    · exact hnew e he
    · exact hnew' e he
  ok := h.ok
  error := h.error

/-- The second step starts where the first one ended well. -/
theorem andThen {s : SlotStep Simulation} {next : BusLink Simulation → Slot → SlotStep Simulation}
    (h : s.Ends l slot Q E)
    (hnext : ∀ (l : BusLink Simulation) (u : Slot), u.index = slot →
      Q u (l.bus.device slot) l.issued → (next l u).Ends l slot Q' E) :
    (s.andThen next).Ends l slot Q' E := by
  unfold SlotStep.andThen
  split
  next hs =>
    obtain ⟨new, hissued, hnew⟩ := h.issued
    exact (hnext s.link s.slot h.index (h.ok hs)).after h.confined hissued hnew
  next e hs =>
    exact ⟨h.index, h.confined, h.issued, fun hok => absurd (hs ▸ hok) (by simp), h.error⟩

end SlotStep.Ends

namespace Slot

variable {l : BusLink Simulation} {u : Slot} {slot : UInt8} {Q R E : SlotCondition}

/-- The holding image was filled from the unit at some time. -/
def Stamped (u : Slot) : Prop :=
  u.holding.lastRead.isSome = true ∨ u.holding.lastWrite.isSome = true

/-- The slot once its holding image has been written. -/
def written (u : Slot) (stamp : UInt64) : Slot := { u with holding := u.holding.markWritten stamp }

/-- The slot once its holding image has been read. -/
def reloaded (u : Slot) (m : Image BlockKind.holding.size) (now : UInt64) : Slot :=
  { u with holding := { u.holding with image := m }.markRead now }

/-- The slot without its request to clear the filter sign. -/
def withdrawn (u : Slot) : Slot := { u with holding := u.holding.setFilterReset false }

@[simp] theorem sync_index (u : Slot) : u.sync.index = u.index := by rw [sync]

@[simp] theorem reloaded_index (u : Slot) (m : Image BlockKind.holding.size) (now : UInt64) :
    (u.reloaded m now).index = u.index := by rw [reloaded]

@[simp] theorem withdrawn_index (u : Slot) : u.withdrawn.index = u.index := by rw [withdrawn]

@[simp] theorem sync_status (u : Slot) : u.sync.status = u.status := by rw [sync]

@[simp] theorem written_status (u : Slot) (stamp : UInt64) :
    (u.written stamp).status = u.status := by rw [written]

@[simp] theorem reloaded_status (u : Slot) (m : Image BlockKind.holding.size) (now : UInt64) :
    (u.reloaded m now).status = u.status := by rw [reloaded]

@[simp] theorem withdrawn_status (u : Slot) : u.withdrawn.status = u.status := by rw [withdrawn]

variable (hindex : u.index = slot)
include hindex

theorem writeHolding_ends (hslot : slot.toNat < slotCount) (stamp : UInt64)
    (hclean : u.holding.dirty = false → Q u (l.bus.device slot) l.issued)
    (htaken : u.holding.dirty = true →
      Q (u.written stamp) ((l.bus.device slot).take u.holding.image)
        (l.issued ++ [l.writeIssue slot u.holding.image.words true]))
    (hrefused : u.holding.dirty = true → E u (l.bus.device slot)
        (l.issued ++ [l.writeIssue slot u.holding.image.words false])) :
    (writeHolding l u stamp).Ends l slot Q E := by
  subst hindex
  by_cases hdirty : u.holding.dirty = true
  · obtain ⟨link, ⟨hw, hdevice, hconfined, hissued⟩ | ⟨e, hw, hregisters, hissued⟩⟩ :=
      l.write_spec hslot u.holding.image
    · have hstep : writeHolding l u stamp = ⟨.ok (), u.written stamp, link⟩ := by
        simp only [writeHolding, BusLink.writeIfDirty, hdirty, if_true, hw, written]
      rw [hstep]
      refine ⟨rfl, hconfined, ⟨_, hissued, by simp [BusLink.writeIssue]⟩, fun _ => ?_, by simp⟩
      rw [hdevice, hissued]
      exact htaken hdirty
    · have hstep : writeHolding l u stamp = ⟨.error e, u, link⟩ := by
        simp only [writeHolding, BusLink.writeIfDirty, hdirty, if_true, hw]
      rw [hstep]
      refine ⟨rfl, .of_registers hregisters, ⟨_, hissued, by simp [BusLink.writeIssue]⟩, by simp,
        fun _ _ => ?_⟩
      rw [Simulation.device_of_registers hregisters, hissued]
      exact hrefused hdirty
  · rw [Bool.not_eq_true] at hdirty
    have hstep : writeHolding l u stamp = ⟨.ok (), u, l⟩ := by
      simp only [writeHolding, BusLink.writeIfDirty, hdirty, Bool.false_eq_true, if_false]
    rw [hstep]
    exact .stay rfl (hclean hdirty)

theorem prepare_ends {window : UInt32}
    (htrusted : u.stale l.now window = false → Q u (l.bus.device slot) l.issued)
    (hunread : E u (l.bus.device slot) (l.issued ++ [l.readIssue .holding slot false]))
    (hread : ∀ l' : BusLink Simulation, l'.bus.device slot = l.bus.device slot →
      l'.issued = l.issued ++ [l.readIssue .holding slot true] →
      (writeHolding l' (u.reloaded (l.bus.device slot).holding l.now).sync l.now).Ends l' slot
        Q E) :
    (prepare window l u).Ends l slot Q E := by
  subst hindex
  by_cases hstale : u.stale l.now window = true
  · obtain ⟨link, hregisters, ⟨hr, hissued⟩ | ⟨e, hr, hissued⟩⟩ :=
      l.read_spec .holding u.index u.holding.image
    · have hstep : prepare window l u =
          writeHolding link (u.reloaded (l.bus.device u.index).holding l.now).sync l.now := by
        simp only [prepare, hstale, if_true, hr]
        rfl
      rw [hstep]
      exact (hread link (Simulation.device_of_registers hregisters _) hissued).after
        (.of_registers hregisters) hissued (by simp [BusLink.readIssue])
    · have hstep : prepare window l u = ⟨.error e, u, link⟩ := by
        simp only [prepare, hstale, if_true, hr]
      rw [hstep]
      refine ⟨rfl, .of_registers hregisters, ⟨_, hissued, by simp [BusLink.readIssue]⟩, by simp,
        fun _ _ => ?_⟩
      rw [Simulation.device_of_registers hregisters, hissued]
      exact hunread
  · rw [Bool.not_eq_true] at hstale
    have hstep : prepare window l u = ⟨.ok (), u, l⟩ := by
      simp only [prepare, hstale, Bool.false_eq_true, if_false]
    rw [hstep]
    exact .stay rfl (htrusted hstale)

theorem endPulse_ends {stamp : UInt64}
    (hquiet : u.holding.filterReset = false → Q u (l.bus.device slot) l.issued)
    (hpulse : (writeHolding l u.withdrawn stamp).Ends l slot Q E) :
    (endPulse stamp l u).Ends l slot Q E := by
  unfold endPulse
  split_ifs with hreset
  · exact hpulse
  · exact .stay hindex (hquiet (Bool.not_eq_true _ ▸ hreset))

omit hindex in
theorem commit_ends (hwrite : (writeHolding l u.sync l.now).Ends l slot Q E)
    (hpulse : ∀ (l' : BusLink Simulation) (u' : Slot), u'.index = slot →
      Q u' (l'.bus.device slot) l'.issued → (endPulse l.now l' u').Ends l' slot R E) :
    (commit l u).Ends l slot R E :=
  hwrite.andThen hpulse

omit hindex in
theorem apply_ends {window : UInt32} {c : Command} (hprepare : (prepare window l u).Ends l slot Q E)
    (hcommit : ∀ (l' : BusLink Simulation) (u' : Slot), u'.index = slot →
      Q u' (l'.bus.device slot) l'.issued → (commit l' (u'.edit c)).Ends l' slot R E) :
    (apply window c l u).Ends l slot R E :=
  hprepare.andThen fun l' u' hindex hQ => by simpa using hcommit l' u' hindex hQ

theorem readError_ends {secs : UInt32}
    (hfresh : Q u (l.bus.device slot) l.issued)
    (hread : ∀ m, Q { u with error := m, lastErrorRead := some l.now } (l.bus.device slot)
      (l.issued ++ [l.readIssue .error slot true]))
    (hfailed : E u (l.bus.device slot) (l.issued ++ [l.readIssue .error slot false])) :
    (readError secs l u).Ends l slot Q E := by
  subst hindex
  by_cases hage : u.errorFresh l.now secs = true
  · have hstep : readError secs l u = ⟨.ok (), u, l⟩ := by
      simp only [readError, hage, if_true]
    rw [hstep]
    exact .stay rfl hfresh
  · rw [Bool.not_eq_true] at hage
    obtain ⟨link, hregisters, ⟨hr, hissued⟩ | ⟨e, hr, hissued⟩⟩ :=
      l.read_spec .error u.index u.error.image
    · have hstep : readError secs l u =
          ⟨.ok (), { u with error := ⟨l.bus.block .error u.index⟩, lastErrorRead := some l.now },
            link⟩ := by
        simp only [readError, hage, Bool.false_eq_true, if_false, hr]
      rw [hstep]
      refine ⟨rfl, .of_registers hregisters, ⟨_, hissued, by simp [BusLink.readIssue]⟩,
        fun _ => ?_, by simp⟩
      rw [Simulation.device_of_registers hregisters, hissued]
      exact hread _
    · have hstep : readError secs l u = ⟨.error e, u, link⟩ := by
        simp only [readError, hage, Bool.false_eq_true, if_false, hr]
      rw [hstep]
      refine ⟨rfl, .of_registers hregisters, ⟨_, hissued, by simp [BusLink.readIssue]⟩, by simp,
        fun _ _ => ?_⟩
      rw [Simulation.device_of_registers hregisters, hissued]
      exact hfailed

end Slot

end ClimateBus
