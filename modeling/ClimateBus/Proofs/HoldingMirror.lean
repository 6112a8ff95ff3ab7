import ClimateBus.Proofs.SlotInvariants
import Mathlib

/-!
The holding image of a slot and the holding block of its unit.

While nobody else writes the block, an image without an edit that was filled from the unit once is
the block itself, and one with an edit still has the bits that belong to no field. So a command,
which sends a whole block, hands those bits back as they were.
-/
namespace ClimateBus

namespace Slot

/-- A condition on a slot and its unit that does not depend on the status image and that edits of
the holding image and accepted writes preserve. -/
structure Stable (P : Slot → Device → Prop) : Prop where
  edited : ∀ {u u' d}, u.holding.Edited u'.holding → P u d → P u' d
  written : ∀ {u d} stamp, P u d → P (u.written stamp) (d.take u.holding.image)

namespace Stable

variable {P : Slot → Device → Prop} (hP : Stable P) {l : BusLink Simulation} {u : Slot}
  {slot : UInt8} (hindex : u.index = slot) (hslot : slot.toNat < slotCount)
include hP hindex hslot

theorem writeHolding (stamp : UInt64) (h : P u (l.bus.device slot)) :
    (writeHolding l u stamp).Ends l slot (fun u d _ => P u d) fun u d _ => P u d :=
  writeHolding_ends hindex hslot stamp (fun _ => h) (fun _ => hP.written stamp h) fun _ => h

theorem sync (stamp : UInt64) (h : P u (l.bus.device slot)) :
    (Slot.writeHolding l u.sync stamp).Ends l slot (fun u d _ => P u d) fun u d _ => P u d := by
  refine hP.writeHolding (by rw [sync_index, hindex]) hslot stamp ?_
  exact hP.edited (u.holding.edited_syncFrom u.status) h

theorem prepare {window : UInt32} {E : SlotCondition} (hE : ∀ u d log, P u d → E u d log)
    (htrusted : u.stale l.now window = false → P u (l.bus.device slot))
    (hreloaded : P (u.reloaded (l.bus.device slot).holding l.now) (l.bus.device slot))
    (hunread : ∀ log, E u (l.bus.device slot) log) :
    (prepare window l u).Ends l slot (fun u d _ => P u d) E := by
  refine prepare_ends hindex htrusted (hunread _) fun l' hdevice _ => ?_
  rw [← hdevice] at hreloaded ⊢
  exact (hP.sync (by rw [reloaded_index, hindex]) hslot _ hreloaded).weaken (fun _ _ _ h => h) hE

theorem commit (h : P u (l.bus.device slot)) :
    (commit l u).Ends l slot (fun u d _ => P u d) fun u d _ => P u d := by
  refine commit_ends (hP.sync hindex hslot _ h) fun l' u' hindex' h' => ?_
  refine endPulse_ends hindex' (fun _ => h') ?_
  have hedited : P u'.withdrawn (l'.bus.device slot) :=
    hP.edited (u'.holding.edited_setFilterReset false) h'
  exact hP.writeHolding (by rw [withdrawn_index, hindex']) hslot _ hedited

theorem apply {window : UInt32} {c : Command} {E : SlotCondition}
    (hE : ∀ u d log, P u d → E u d log)
    (htrusted : u.stale l.now window = false → P u (l.bus.device slot))
    (hreloaded : P (u.reloaded (l.bus.device slot).holding l.now) (l.bus.device slot))
    (hunread : ∀ log, E u (l.bus.device slot) log) :
    (apply window c l u).Ends l slot (fun u d _ => P u d) E := by
  have hprepare := hP.prepare hindex hslot hE htrusted hreloaded hunread
  refine apply_ends hprepare fun l' u' hindex' h => ?_
  have hedited := hP.edited (u'.edited_edit_holding c) h
  exact (hP.commit (by rw [edit_index, hindex']) hslot hedited).weaken (fun _ _ _ h => h) hE

end Stable

/-- The holding image is in step with the unit wherever it was not edited. -/
structure Mirrors (u : Slot) (d : Device) : Prop where
  clean : u.holding.dirty = false → u.Stamped → u.holding.image = d.holding
  reserved : u.Stamped → ∀ k, Layout.Reserved k → u.holding.image.bit k = d.holding.bit k

theorem Stamped.of_edited {u u' : Slot} (h : u.holding.Edited u'.holding) (hu : u'.Stamped) :
    u.Stamped := by
  unfold Stamped at hu ⊢
  rwa [h.lastRead, h.lastWrite] at hu

namespace Mirrors

variable {u u' : Slot} {d : Device}

theorem edited (h : u.holding.Edited u'.holding) (hu : u.Mirrors d) : u'.Mirrors d where
  clean hclean hstamped := by
    rw [h.unchanged hclean, hu.clean (h.clean hclean) (hstamped.of_edited h)]
  reserved hstamped k hk := by rw [h.reserved k hk, hu.reserved (hstamped.of_edited h) k hk]

theorem written (u : Slot) (d : Device) (stamp : UInt64) :
    (u.written stamp).Mirrors (d.take u.holding.image) where
  clean _ _ := rfl
  reserved _ _ _ := rfl

theorem reloaded (u : Slot) (d : Device) (now : UInt64) : (u.reloaded d.holding now).Mirrors d where
  clean _ _ := rfl
  reserved _ _ _ := rfl

theorem stable : Stable Mirrors where
  edited := edited
  written stamp _ := written _ _ stamp

theorem of_found {i : UInt8} (h : Slot.Found i d u) : u.Mirrors d := by
  have hholding : u.holding = default := by rw [h.fresh]; rfl
  have hunstamped : ¬ u.Stamped := by
    rw [Stamped, hholding]
    decide
  exact ⟨fun _ hstamped => absurd hstamped hunstamped, fun hstamped => absurd hstamped hunstamped⟩

theorem of_holding {d' : Device} (hu : u.Mirrors d) (hslot : u'.holding = u.holding)
    (hunit : d'.holding = d.holding) : u'.Mirrors d' := by
  have hedited : u.holding.Edited u'.holding := hslot ▸ .refl _
  obtain ⟨hclean, hreserved⟩ := hu.edited hedited
  rw [← hunit] at hclean hreserved
  exact ⟨hclean, hreserved⟩

end Mirrors

/-- A slot whose image was filled from a unit that still has the reserved bits it had before. -/
structure Keeps (m : Image BlockKind.holding.size) (u : Slot) (d : Device) : Prop where
  stamped : u.Stamped
  mirrors : u.Mirrors d
  reserved : ∀ k, Layout.Reserved k → d.holding.bit k = m.bit k

theorem Keeps.stable (m : Image BlockKind.holding.size) : Stable (Keeps m) where
  edited he hu := by
    refine ⟨?_, hu.mirrors.edited he, hu.reserved⟩
    have hstamped := hu.stamped
    unfold Stamped at hstamped ⊢
    rwa [he.lastRead, he.lastWrite]
  written {u d} stamp hu := by
    refine ⟨.inr rfl, .written u d stamp, fun k hk => ?_⟩
    exact (hu.mirrors.reserved hu.stamped k hk).trans (hu.reserved k hk)

end Slot

namespace Gateway

/-- Only the gateway itself writes the holding block of a slot. -/
def holdingKept (i : UInt8) : Surroundings Simulation where
  bus b b' := b'.block .holding i = b.block .holding i
  clock _ _ := True

variable {g : Gateway Simulation} {i : UInt8}

theorem mirrors_invariant (i : UInt8) :
    SlotInvariant (holdingKept i) (fun _ => True) i fun u d _ => u.Mirrors d where
  aside _ hu := hu
  outside hbus hu := hu.of_holding rfl hbus
  found _ _ _ _ hfound := .of_found hfound
  polled _ _ _ _ _ _ _ hpolled _ hu := by
    cases hpolled with
    | read _ => exact hu.of_holding rfl rfl
    | kept _ => exact hu
  readError _ secs l u hindex _ _ hu :=
    Slot.readError_ends hindex hu (fun _ => hu.of_holding rfl rfl) hu
  prepare _ window l u hindex _ hslot hu :=
    Slot.Mirrors.stable.prepare hindex hslot (fun _ _ _ h => h) (fun _ => hu)
      (.reloaded u (l.bus.device i) l.now) fun _ => hu
  commit _ l u hindex _ hslot hu := Slot.Mirrors.stable.commit hindex hslot hu
  apply _ _ window l u hindex _ hslot hu :=
    Slot.Mirrors.stable.apply hindex hslot (fun _ _ _ h => h) (fun _ => hu)
      (.reloaded u (l.bus.device i) l.now) fun _ => hu

/-- An image that has no edit and was filled once is the block of its unit, word for word. -/
theorem clean_image_in_step (h : Reachable (holdingKept i) g) {u : Slot}
    (hu : g.present? i = .ok u) (hclean : u.holding.dirty = false)
    (hstamped : u.holding.lastRead.isSome = true ∨ u.holding.lastWrite.isSome = true) {k : Nat}
    (hk : k < 3) :
    u.holding.image.words[k]? =
      some (g.link.bus.registers .holding (2000 + 3 * i.toUInt16 + UInt16.ofNat k)) := by
  have hmirrors := (mirrors_invariant i).of_present h hu
  have hblock : u.holding.image = g.link.bus.block .holding i := hmirrors.clean hclean hstamped
  have haddress : BlockKind.holding.address i = 2000 + 3 * i.toUInt16 := by
    rw [BlockKind.address, UInt16.mul_comm]
    rfl
  rw [hblock, Simulation.getElem?_words_block _ _ _ hk, haddress]
  rfl

theorem clean_image_in_step_demo : ∃ u, demoStarted.present? 1 = .ok u ∧
    u.holding.dirty = false ∧ u.holding.lastWrite.isSome = true ∧
    ∀ k < 3, u.holding.image.words[k]? = some (demoStarted.link.bus.registers .holding
      (2000 + 3 * (1 : UInt8).toUInt16 + UInt16.ofNat k)) := by
  have hu : demoStarted.present? 1 = .ok (demoStarted.slots.getD 1 default) := by decide +kernel
  have hclean : (demoStarted.slots.getD 1 default).holding.dirty = false := by decide +kernel
  have hwritten : (demoStarted.slots.getD 1 default).holding.lastWrite.isSome = true := by
    decide +kernel
  have hreachable := reachable_demoStarted (holdingKept 1)
  refine ⟨_, hu, hclean, hwritten, fun k hk => ?_⟩
  exact clean_image_in_step hreachable hu hclean (.inr hwritten) hk

/-- A command leaves the bits that belong to no field as they were, wherever it may fail. -/
theorem apply_keeps_reserved_bits (h : Reachable (holdingKept i) g) (c : Command) {k : Nat}
    (hk : Layout.Reserved k) :
    ((g.apply i c).2.link.bus.block .holding i).bit k = (g.link.bus.block .holding i).bit k := by
  cases hpresent : g.present? i with
  | error e =>
    have happly : (g.apply i c).2 = g := by rw [Gateway.apply, onPresent_absent hpresent]
    rw [happly]
  | ok u =>
    have hmirrors := (mirrors_invariant i).of_present h hpresent
    obtain ⟨hi, hindex⟩ := h.indexed.of_present hpresent
    let before := g.link.bus.block .holding i
    -- An image that is not read again now was read before: nothing is written from an unread one.
    have htrusted : u.stale g.link.now g.settings.cacheWriteS = false →
        Slot.Keeps before u (g.link.bus.device i) := by
      intro hstale
      refine ⟨.inl ?_, hmirrors, fun _ _ => rfl⟩
      simp only [Slot.stale, Bool.or_eq_false_iff, Option.isNone_eq_false_iff] at hstale
      exact hstale.1
    have hends := (Slot.Keeps.stable before).apply (l := g.link) hindex hi (c := c)
      (E := fun _ d _ => ∀ k, Layout.Reserved k → d.holding.bit k = before.bit k)
      (fun _ _ _ hkeeps => hkeeps.reserved) htrusted
      ⟨.inl rfl, .reloaded u (g.link.bus.device i) g.link.now, fun _ _ => rfl⟩
      fun _ _ _ => rfl
    rw [Gateway.apply, onPresent_present hpresent]
    exact (hends.weaken (fun _ _ _ hkeeps => hkeeps.reserved) fun _ _ _ h => h).always k hk

theorem apply_keeps_reserved_bits_demo : Layout.Reserved 27 ∧
    ((demoStarted.apply 1 (.fanSpeed .high)).2.link.bus.block .holding 1).bit 27 =
      (demoStarted.link.bus.block .holding 1).bit 27 :=
  ⟨by decide, apply_keeps_reserved_bits (reachable_demoStarted _) _ (by decide)⟩

end Gateway

end ClimateBus
