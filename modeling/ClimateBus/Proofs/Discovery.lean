import ClimateBus.Proofs.LinkHistory
import ClimateBus.Proofs.FaultFree
import ClimateBus.Proofs.SlotInvariants
import Mathlib

/-!
What a discovery finds, over the simulated adapter.

A discovery asks for the system block and then, slot after slot, for the capability and the status
of what is healthy. Its reads change neither the registers nor the faults of the adapter
(`Simulation.ReadsAlike`), so what it makes of a slot can be told in advance from the adapter alone
(`Simulation.found`), whatever the record said before and whatever the other slots hold.
-/
namespace ClimateBus

namespace Simulation

variable {s s' : Simulation}

/-- Reads have the same answers. -/
structure ReadsAlike (s s' : Simulation) : Prop where
  registers : s'.registers = s.registers
  faults : s'.readFault = s.readFault

theorem ReadsAlike.trans {t : Simulation} (h : ReadsAlike s s') (h' : ReadsAlike s' t) :
    ReadsAlike s t :=
  ⟨h'.registers.trans h.registers, h'.faults.trans h.faults⟩

/-- The block of a slot can be read. -/
def answers (s : Simulation) (k : BlockKind) (slot : UInt8) : Bool :=
  (s.readFault k.table (k.address slot)).isNone

/-- A read of the block of a slot, and whether it succeeds. -/
def inquiry (s : Simulation) (k : BlockKind) (slot : UInt8) : BusOperation × Bool :=
  (.read k.table (k.address slot) k.size, s.answers k slot)

/-- The adapter calls a slot connected and not in error. -/
def healthy (s : Simulation) (slot : UInt8) : Bool :=
  SystemImage.healthy ⟨s.block .system 0⟩ slot.toNat

/-- A slot is asked for its status once it has told its capability. -/
def inquiries (s : Simulation) (slot : UInt8) : List (BusOperation × Bool) :=
  if s.healthy slot then
    s.inquiry .capability slot ::
      if s.answers .capability slot then [s.inquiry .status slot] else []
  else []

/-- The record of a slot that was found like this. -/
def found (s : Simulation) (slot : UInt8) : Slot :=
  let told := s.healthy slot && s.answers .capability slot
  let reported := told && s.answers .status slot
  { Slot.empty slot with
    capability := if told then ⟨s.block .capability slot⟩ else default
    status := if reported then ⟨s.block .status slot⟩ else default
    present := reported }

namespace ReadsAlike

variable (h : ReadsAlike s s')
include h

theorem block (k : BlockKind) (slot : UInt8) : s'.block k slot = s.block k slot :=
  block_of_registers h.registers k slot

theorem answers (k : BlockKind) (slot : UInt8) : s'.answers k slot = s.answers k slot := by
  simp only [Simulation.answers, h.faults]

theorem healthy (slot : UInt8) : s'.healthy slot = s.healthy slot := by
  simp only [Simulation.healthy, h.block]

theorem inquiry (k : BlockKind) (slot : UInt8) : s'.inquiry k slot = s.inquiry k slot := by
  simp only [Simulation.inquiry, h.answers]

theorem inquiries (slot : UInt8) : s'.inquiries slot = s.inquiries slot := by
  simp only [Simulation.inquiries, h.inquiry, h.healthy, h.answers]

theorem found (slot : UInt8) : s'.found slot = s.found slot := by
  simp only [Simulation.found, h.healthy, h.answers, h.block]

end ReadsAlike

theorem answers_eq_true {k : BlockKind} {slot : UInt8} :
    s.answers k slot = true ↔ s.readFault k.table (k.address slot) = none := by
  rw [answers, Option.isNone_iff_eq_none]

theorem present_found {slot : UInt8} : (s.found slot).present = true ↔
    s.healthy slot = true ∧ s.answers .capability slot = true ∧ s.answers .status slot = true := by
  simp only [found, Bool.and_eq_true, and_assoc]

/-- A unit is found where the adapter says so and both blocks can be read. -/
theorem present_found_iff {slot : UInt8} : (s.found slot).present = true ↔
    SystemImage.connected ⟨s.block .system 0⟩ slot.toNat = true ∧
      SystemImage.inError ⟨s.block .system 0⟩ slot.toNat = false ∧
      s.readFault .input (BlockKind.capability.address slot) = none ∧
      s.readFault .input (BlockKind.status.address slot) = none := by
  rw [present_found, answers_eq_true, answers_eq_true]
  simp only [healthy, SystemImage.healthy, Bool.and_eq_true, Bool.not_eq_true', and_assoc]
  rfl

theorem images_found {slot : UInt8} (h : (s.found slot).present = true) :
    (s.found slot).capability.image = s.block .capability slot ∧
      (s.found slot).status.image = s.block .status slot := by
  obtain ⟨hhealthy, hcapability, hstatus⟩ := present_found.mp h
  simp only [found, hhealthy, hcapability, hstatus, Bool.and_self, if_true, and_self]

end Simulation

/-- The link goes on by reads of these blocks, which are answered like this. -/
structure BusLink.Inquires (l : BusLink Simulation) (asked : List (BusOperation × Bool))
    (l' : BusLink Simulation) : Prop where
  alike : Simulation.ReadsAlike l.bus l'.bus
  issued : ∃ new, l'.issued = l.issued ++ new ∧ new.map Issue.account = asked

namespace BusLink.Inquires

variable {l l' l'' : BusLink Simulation} {asked asked' : List (BusOperation × Bool)}

theorem nil (l : BusLink Simulation) : l.Inquires [] l :=
  ⟨⟨rfl, rfl⟩, [], (List.append_nil _).symm, rfl⟩

theorem append (h : l.Inquires asked l') (h' : l'.Inquires asked' l'') :
    l.Inquires (asked ++ asked') l'' := by
  obtain ⟨halike, new, hissued, haccounts⟩ := h
  obtain ⟨halike', new', hissued', haccounts'⟩ := h'
  refine ⟨halike.trans halike', new ++ new', ?_, ?_⟩
  · rw [hissued', hissued, List.append_assoc]
  · rw [List.map_append, haccounts, haccounts']

end BusLink.Inquires

namespace BusLink

open Simulation

/-- Whether a read succeeds, and what it brings, is settled by the registers and the faults. -/
theorem read_answer (l : BusLink Simulation) (k : BlockKind) (slot : UInt8)
    (buffer : Image k.size) : ∃ link : BusLink Simulation,
      l.Inquires [l.bus.inquiry k slot] link ∧
        l.read k slot buffer =
          match l.bus.readFault k.table (k.address slot) with
          | none => ⟨.ok (), l.bus.block k slot, link⟩
          | some f => ⟨.error (f.error (Frame.readReplyLength k.size)), buffer, link⟩ := by
  have hsize : k.size ≠ 0 := by cases k <;> decide
  have halike : ReadsAlike l.bus (l.read k slot buffer).link.bus :=
    ⟨l.registers_read k slot buffer, (l.bus.sameFaults_readRegisters _ _ buffer).read⟩
  have hissues : l.Issues _ _ := .read k slot buffer
  refine ⟨(l.read k slot buffer).link, ⟨halike, _, hissues.issued, ?_⟩, ?_⟩
  · simp only [List.map_singleton, Issue.account, inquiry, Simulation.answers, read, Bus.read,
      readRegisters, hsize, if_false, record, throttle, readIssue]
    cases l.bus.readFault k.table (k.address slot) <;> rfl
  · simp only [read, Bus.read, readRegisters, hsize, if_false, record, throttle]
    cases l.bus.readFault k.table (k.address slot) <;> rfl

end BusLink

/-- What was in the slot before does not matter. -/
theorem Slot.discover_eq_found (l : BusLink Simulation) (u : Slot) :
    let r := u.discover ⟨l.bus.block .system 0⟩ l
    r.1 = l.bus.found u.index ∧ l.Inquires (l.bus.inquiries u.index) r.2 := by
  have hhealthy : SystemImage.healthy ⟨l.bus.block .system 0⟩ u.reset.index.toNat =
    l.bus.healthy u.index := rfl
  unfold Slot.discover Simulation.found Simulation.inquiries
  dsimp only
  rw [hhealthy]
  cases l.bus.healthy u.index with
  | false => exact ⟨rfl, .nil l⟩
  | true =>
    obtain ⟨link, hasked, hread⟩ := l.read_answer .capability u.index u.reset.capability.image
    rw [if_pos rfl, if_pos rfl]
    change (l.read .capability u.reset.index u.reset.capability.image) = _ at hread
    rw [hread]
    cases hcapability : l.bus.readFault _ (BlockKind.capability.address u.index) with
    | some f =>
      have htold : l.bus.answers .capability u.index = false := by
        rw [Simulation.answers, hcapability]
        rfl
      simp only [htold]
      exact ⟨rfl, hasked⟩
    | none =>
      have htold : l.bus.answers .capability u.index = true :=
        Simulation.answers_eq_true.mpr hcapability
      obtain ⟨link', hasked', hread'⟩ := link.read_answer .status u.index u.reset.status.image
      rw [hasked.alike.inquiry] at hasked'
      rw [hasked.alike.faults, hasked.alike.block] at hread'
      have hboth : l.Inquires [l.bus.inquiry .capability u.index, l.bus.inquiry .status u.index]
        link' := hasked.append hasked'
      simp only [htold, if_true]
      change (link.read .status u.reset.index u.reset.status.image) = _ at hread'
      rw [hread']
      cases hstatus : l.bus.readFault _ (BlockKind.status.address u.index) with
      | some f =>
        have hreported : l.bus.answers .status u.index = false := by
          rw [Simulation.answers, hstatus]
          rfl
        simp only [hreported]
        exact ⟨rfl, hboth⟩
      | none =>
        have hreported : l.bus.answers .status u.index = true :=
          Simulation.answers_eq_true.mpr hstatus
        simp only [hreported]
        exact ⟨rfl, hboth⟩

namespace Gateway

variable {g : Gateway Simulation}

theorem scan_eq_found (us : List Slot) (l : BusLink Simulation) :
    let r := scan ⟨l.bus.block .system 0⟩ l us
    r.1 = us.map (fun u => l.bus.found u.index) ∧
      l.Inquires (us.flatMap fun u => l.bus.inquiries u.index) r.2 := by
  induction us generalizing l with
  | nil => exact ⟨rfl, .nil l⟩
  | cons v rest ih =>
    obtain ⟨hfound, hasked⟩ := v.discover_eq_found l
    obtain ⟨hrest, hasked'⟩ := ih (v.discover ⟨l.bus.block .system 0⟩ l).2
    simp only [hasked.alike.block, hasked.alike.found, hasked.alike.inquiries] at hrest hasked'
    rw [List.map_cons, List.flatMap_cons]
    exact ⟨congrArg₂ List.cons hfound hrest, hasked.append hasked'⟩

/-- Without a system block nothing changes but the log. -/
theorem discover_of_fault {f : Fault} (hfault : g.link.bus.readFault .input 0 = some f) :
    ∃ link : BusLink Simulation, g.link.Inquires [(.read .input 0 9, false)] link ∧
      g.discover = (.error (.bus (f.error 23)), { g with link }) := by
  obtain ⟨link, hasked, hread⟩ := g.link.read_answer .system 0 g.system.image
  have haddress : g.link.bus.readFault BlockKind.system.table (BlockKind.system.address 0) =
    some f := hfault
  rw [haddress] at hread
  have hinquiry : g.link.bus.inquiry .system 0 = (.read .input 0 9, false) := by
    simp only [Simulation.inquiry, Simulation.answers, haddress]
    rfl
  refine ⟨link, hinquiry ▸ hasked, ?_⟩
  simp only [discover, hread]
  rfl

/-- With a system block all slots are told anew. -/
theorem discover_of_answer (hindexed : g.Indexed) (hanswer : g.link.bus.readFault .input 0 = none) :
    let slots := (List.range slotCount).map fun k => g.link.bus.found (UInt8.ofNat k)
    let asked := (List.range slotCount).flatMap fun k => g.link.bus.inquiries (UInt8.ofNat k)
    let count := (slots.filter (·.present)).length
    ∃ link : BusLink Simulation, g.link.Inquires ((.read .input 0 9, true) :: asked) link ∧
      g.discover = (.ok count,
        { g with link, slots, system := ⟨g.link.bus.block .system 0⟩, discovered := count }) := by
  obtain ⟨link, hasked, hread⟩ := g.link.read_answer .system 0 g.system.image
  have haddress : g.link.bus.readFault BlockKind.system.table (BlockKind.system.address 0) =
    none := hanswer
  rw [haddress] at hread
  have hinquiry : g.link.bus.inquiry .system 0 = (.read .input 0 9, true) := by
    simp only [Simulation.inquiry, Simulation.answers, haddress]
    rfl
  obtain ⟨hslots, hscan⟩ := scan_eq_found g.slots link
  rw [hinquiry] at hasked
  simp only [hasked.alike.block, hasked.alike.found, hasked.alike.inquiries] at hslots hscan
  have hmap : g.slots.map (fun u => g.link.bus.found u.index) =
      (List.range slotCount).map fun k => g.link.bus.found (UInt8.ofNat k) := by
    have := congrArg (List.map g.link.bus.found) hindexed
    simpa only [List.map_map, Function.comp_def] using this
  have hflat : g.slots.flatMap (fun u => g.link.bus.inquiries u.index) =
      (List.range slotCount).flatMap fun k => g.link.bus.inquiries (UInt8.ofNat k) := by
    have := congrArg (List.flatMap g.link.bus.inquiries) hindexed
    simpa only [List.flatMap_map] using this
  rw [hmap] at hslots
  rw [hflat] at hscan
  refine ⟨_, hasked.append hscan, ?_⟩
  simp only [discover, hread, hslots]

/-- A discovery that gets no system block reports the fault and leaves the table alone. Any other
one makes its table from the registers and the faults of the adapter alone: a unit is where the
adapter calls a slot healthy and both its blocks can be read, its record is empty but for these two
blocks, and what is asked of a slot does not depend on the others. -/
theorem discovery_exact {s : Surroundings Simulation} (h : Reachable s g) :
    let bus := g.link.bus
    let after := g.discover
    let accounts := (after.2.link.issued.drop g.link.issued.length).map Issue.account
    (∀ f, bus.readFault .input 0 = some f →
      after.1 = .error (.bus (f.error 23)) ∧ accounts = [(.read .input 0 9, false)] ∧
        after.2.slots = g.slots ∧ after.2.system = g.system ∧
        after.2.discovered = g.discovered) ∧
    (bus.readFault .input 0 = none →
      after.1 = .ok after.2.discovered ∧ after.2.discovered = after.2.presentSlots.length ∧
        after.2.system.image = bus.block .system 0 ∧ after.2.slots.length = 64 ∧
        (∀ i : UInt8, i.toNat < 64 → ∃ u, after.2.slots[i.toNat]? = some u ∧
          u = { Slot.empty i with
            capability := u.capability, status := u.status, present := u.present } ∧
          (u.present = true ↔ after.2.system.connected i.toNat = true ∧
            after.2.system.inError i.toNat = false ∧
            bus.readFault .input (BlockKind.capability.address i) = none ∧
            bus.readFault .input (BlockKind.status.address i) = none) ∧
          (u.present = true → u.capability.image = bus.block .capability i ∧
            u.status.image = bus.block .status i)) ∧
        accounts = (.read .input 0 9, true) ::
          (List.range 64).flatMap fun k => bus.inquiries (UInt8.ofNat k)) ∧
    ∀ {s' : Surroundings Simulation} {g' : Gateway Simulation}, Reachable s' g' →
      bus.ReadsAlike g'.link.bus → bus.readFault .input 0 = none →
        g'.discover.1 = after.1 ∧ g'.discover.2.slots = after.2.slots ∧
          g'.discover.2.system = after.2.system ∧
          g'.discover.2.discovered = after.2.discovered := by
  dsimp only
  refine ⟨?failed, ?answered, ?alike⟩
  case failed =>
    intro f hfault
    obtain ⟨link, hasked, hdiscover⟩ := discover_of_fault hfault
    obtain ⟨new, hissued, haccounts⟩ := hasked.issued
    rw [hdiscover]
    refine ⟨rfl, ?_, rfl, rfl, rfl⟩
    rw [hissued, List.drop_left, haccounts]
  case answered =>
    intro hanswer
    obtain ⟨link, hasked, hdiscover⟩ := discover_of_answer h.indexed hanswer
    obtain ⟨new, hissued, haccounts⟩ := hasked.issued
    rw [hdiscover]
    refine ⟨rfl, rfl, rfl, by simp [slotCount], ?_, ?_⟩
    · intro i hi
      refine ⟨g.link.bus.found i, ?_, rfl, Simulation.present_found_iff, Simulation.images_found⟩
      rw [List.getElem?_map, List.getElem?_range (show i.toNat < slotCount from hi),
        Option.map_some, UInt8.ofNat_toNat]
    · rw [hissued, List.drop_left, haccounts]
      rfl
  case alike =>
    intro s' g' h' halike hanswer
    have hanswer' : g'.link.bus.readFault .input 0 = none := by rw [halike.faults, hanswer]
    obtain ⟨link, -, hdiscover⟩ := discover_of_answer h.indexed hanswer
    obtain ⟨link', -, hdiscover'⟩ := discover_of_answer h'.indexed hanswer'
    simp only [halike.found, halike.block] at hdiscover'
    rw [hdiscover, hdiscover']
    exact ⟨rfl, rfl, rfl, rfl⟩

/-- The started installation where two units cannot be read any more. -/
def demoFaulty : Gateway Simulation :=
  demoStarted.amid ((demoStarted.link.bus.failReads .input 2006 .timeout).failReads .input 1015
    .check) 5000

theorem discovery_exact_demo :
    Reachable ⟨fun _ _ => True, fun _ _ => True⟩ demoFaulty ∧
    demoFaulty.discover.1 = .ok 2 ∧
      (demoFaulty.discover.2.link.issued.drop demoFaulty.link.issued.length).map Issue.account =
        [(.read .input 0 9, true), (.read .input 1000 3, true), (.read .input 2000 6, true),
          (.read .input 1003 3, true), (.read .input 2006 6, false), (.read .input 1015 3, false),
          (.read .input 1051 3, true), (.read .input 2102 6, true)] ∧
      ∃ u, demoFaulty.discover.2.slots[1]? = some u ∧ u.present = false ∧ u.holding = default := by
  have hreachable : Reachable ⟨fun _ _ => True, fun _ _ => True⟩ demoFaulty :=
    (reachable_demoStarted _).amid trivial trivial
  obtain ⟨-, hanswered, -⟩ := discovery_exact hreachable
  obtain ⟨hresult, hcount, -, -, hslots, haccounts⟩ := hanswered (by decide +kernel)
  obtain ⟨u, hu, hfresh, hpresent, -⟩ := hslots 1 (by decide)
  have hfault : demoFaulty.link.bus.readFault .input (BlockKind.status.address 1) ≠ none := by
    decide +kernel
  refine ⟨hreachable, ?_, ?_, u, hu, ?_, by rw [hfresh]; rfl⟩
  · have hfound : demoFaulty.discover.2.presentSlots.length = 2 := by decide +kernel
    rw [hresult, hcount, hfound]
  · rw [haccounts]
    decide +kernel
  · rw [Bool.eq_false_iff, ne_eq, hpresent]
    exact fun h => hfault h.2.2.2

end Gateway

end ClimateBus
