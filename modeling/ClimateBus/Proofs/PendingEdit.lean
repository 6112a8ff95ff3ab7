import ClimateBus.Proofs.StatusMirror
import Mathlib

/-!
The fate of an edit whose write failed.

The edit lives on in the status image and in the dirty holding image, while the unit still reports
its own value. Whichever comes first decides: a holding write makes the edited value that of the
unit, a status read makes the value of the unit the one that is shown, and the next commit sends
that one. From then on slot and unit agree on the field until another command sets it.
-/
namespace ClimateBus

/-- The fields a command can set. -/
inductive Control where
  | power | fanDirection | fanSpeed | mode | setpoint
  deriving DecidableEq

/-- The code of a field, or its tenths of a degree. -/
def Controls.get (k : Controls) : Control → Int
  | .power => if k.power then 1 else 0
  | .fanDirection => k.fanDirection.toNat
  | .fanSpeed => k.fanSpeed.toNat
  | .mode => k.mode.toNat
  | .setpoint => k.setpoint

/-- The value a command asks for in a field, if it sets that field. -/
def Command.asks : Command → Control → Option Int
  | .power on, .power => some (if on then 1 else 0)
  | .mode _, .power => some 1
  | .mode m, .mode => some (Labelled.code m : UInt32).toNat
  | .setpoint c, .setpoint => some c.tenths.toInt
  | .fanSpeed v, .fanSpeed => some (Labelled.code v : UInt32).toNat
  | .fanDirection d, .fanDirection => some (Labelled.code d : UInt32).toNat
  | _, _ => none

namespace Command

variable {c : Command} {f : Control}

theorem get_put_of_none (h : c.asks f = none) (k : Controls) : (c.put k).get f = k.get f := by
  cases c <;> cases f <;> simp only [asks, reduceCtorEq] at h <;> rfl

/-- What a field holds after a command that sets it: a setpoint beyond 15 bits is cut. -/
theorem get_put_of_some {v : Int} (h : c.asks f = some v) (k : Controls) :
    (c.put k).get f = signedPart 15 v := by
  have hcut {n : Nat} (hn : n < 2 ^ 15) : (n : Int) = signedPart 15 (n : Int) :=
    (signedPart_of_lt (by simpa using hn)).symm
  cases c with
  | power on =>
    cases f <;> simp only [asks, reduceCtorEq, Option.some.injEq] at h
    subst h
    cases on <;> rfl
  | mode m =>
    have hcode : (Labelled.code m : UInt32).toNat < 2 ^ 15 := by cases m <;> decide
    cases f <;> simp only [asks, reduceCtorEq, Option.some.injEq] at h <;> subst h
    · rfl
    · exact hcut hcode
  | setpoint t =>
    cases f <;> simp only [asks, reduceCtorEq, Option.some.injEq] at h
    subst h
    rfl
  | fanSpeed s =>
    have hcode : (Labelled.code s : UInt32).toNat < 2 ^ 15 := by cases s <;> decide
    cases f <;> simp only [asks, reduceCtorEq, Option.some.injEq] at h
    subst h
    exact hcut hcode
  | fanDirection d =>
    have hcode : (Labelled.code d : UInt32).toNat < 2 ^ 15 := by cases d <;> decide
    cases f <;> simp only [asks, reduceCtorEq, Option.some.injEq] at h
    subst h
    exact hcut hcode
  | filterReset => cases f <;> simp only [asks, reduceCtorEq] at h

end Command

theorem natAbs_signedPart_lt {digits : Nat} (v : Int) :
    (signedPart digits v).natAbs < 2 ^ digits := by
  have hmod : v.natAbs % 2 ^ digits < 2 ^ digits := Nat.mod_lt _ (Nat.two_pow_pos _)
  have hsign : v.sign.natAbs ≤ 1 := by
    rcases Int.sign_trichotomy v with h | h | h <;> rw [h] <;> decide
  rw [signedPart, Int.natAbs_mul, Int.natAbs_natCast]
  exact lt_of_le_of_lt (Nat.mul_le_mul_right _ hsign) (by rwa [Nat.one_mul])

theorem Image.natAbs_get_lt {n : Nat} (m : Image n) (f : Control) :
    (m.controls.get f).natAbs < 2 ^ 15 := by
  have hcode {g : Field} (hg : g.length ≤ 4) : ((m.unsigned g).toNat : Int).natAbs < 2 ^ 15 := by
    have hlt := m.unsigned_lt g
    have hpow : 2 ^ g.length ≤ 2 ^ 4 := Nat.pow_le_pow_right (by decide) hg
    rw [Int.natAbs_natCast]
    omega
  cases f with
  | power =>
    by_cases hpower : m.bit Layout.power = true <;> simp [Controls.get, Image.controls, hpower]
  | fanDirection => exact hcode (g := Layout.fanDirection) (by decide)
  | fanSpeed => exact hcode (g := Layout.fanSpeed) (by decide)
  | mode => exact hcode (g := Layout.mode) (by decide)
  | setpoint => exact m.natAbs_signed_lt (f := Layout.setpoint) (by decide) (by decide)

/-- The operation moves the controls between a slot and its unit: a holding write or a status read
that succeeded. -/
def Issue.moves (i : UInt8) (e : Issue) : Bool :=
  e.slot == i && e.succeeded && (e.kind == .status || e.kind == .holding && e.written.isSome)

theorem Issue.kind_of_moves {i : UInt8} {e : Issue} (h : e.moves i = true) :
    e.kind = .status ∨ e.kind = .holding := by
  simp only [moves, Bool.and_eq_true, Bool.or_eq_true, beq_iff_eq] at h
  exact h.2.imp_right And.left

/-- The value a pending edit of `v` comes to when this operation is the first one, where the unit
had `d₀`. -/
def Issue.outcome (v d₀ : Int) (e : Issue) : Int := if e.kind = .status then d₀ else v

namespace Slot

/-- The value of a field the slot shows. -/
def shows (u : Slot) (f : Control) : Int := u.status.image.controls.get f

@[simp] theorem shows_sync (u : Slot) (f : Control) : u.sync.shows f = u.shows f := by
  rw [shows, sync_status, shows]

@[simp] theorem shows_written (u : Slot) (stamp : UInt64) (f : Control) :
    (u.written stamp).shows f = u.shows f := by rw [shows, written_status, shows]

@[simp] theorem shows_reloaded (u : Slot) (m : Image BlockKind.holding.size) (now : UInt64)
    (f : Control) : (u.reloaded m now).shows f = u.shows f := by rw [shows, reloaded_status, shows]

@[simp] theorem shows_withdrawn (u : Slot) (f : Control) : u.withdrawn.shows f = u.shows f := by
  rw [shows, withdrawn_status, shows]

/-- A field since an edit of it failed to be written, when the log was `base`. -/
inductive SinceFailure (i : UInt8) (f : Control) (base : List Issue) (v d₀ : Int) (u : Slot)
    (d : Device) (log : List Issue) : Prop
  /-- Nothing was moved, the edit is pending. -/
  | pending {since : List Issue} (hlog : log = base ++ since)
      (hnone : since.find? (Issue.moves i) = none) (hdirty : u.holding.dirty = true)
      (hshown : u.shows f = v) (hunit : d.status.controls.get f = d₀)
  /-- Slot and unit agree, and the unit was sent this value unless it still is to be. -/
  | settled {since : List Issue} {e : Issue} (hlog : log = base ++ since)
      (hfirst : since.find? (Issue.moves i) = some e) (hshown : u.shows f = e.outcome v d₀)
      (hunit : d.status.controls.get f = e.outcome v d₀)
      (hsent : u.holding.dirty = true ∨ d.holding.controls.get f = e.outcome v d₀)

namespace SinceFailure

variable {i : UInt8} {f : Control} {base : List Issue} {v d₀ : Int} {u u' : Slot} {d d' : Device}
  {log new : List Issue}

theorem append (h : SinceFailure i f base v d₀ u d log)
    (hnew : ∀ e ∈ new, Issue.moves i e = false) : SinceFailure i f base v d₀ u d (log ++ new) := by
  cases h with
  | @pending since hlog hnone hdirty hshown hunit =>
    have hlog' : log ++ new = base ++ (since ++ new) := by rw [hlog, List.append_assoc]
    refine .pending hlog' ?_ hdirty hshown hunit
    have hnone' : new.find? (Issue.moves i) = none := by
      rw [List.find?_eq_none]
      intro e he
      rw [hnew e he]
      exact Bool.false_ne_true
    rw [List.find?_append, hnone, hnone', Option.or_none]
  | @settled since e hlog hfirst hshown hunit hsent =>
    have hlog' : log ++ new = base ++ (since ++ new) := by rw [hlog, List.append_assoc]
    refine .settled hlog' ?_ hshown hunit hsent
    rw [List.find?_append, hfirst, Option.some_or]

/-- Edits elsewhere: they may make the holding image dirty, never clean. -/
theorem edited (h : SinceFailure i f base v d₀ u d log) (hshows : u'.shows f = u.shows f)
    (hsticky : u.holding.dirty = true → u'.holding.dirty = true) :
    SinceFailure i f base v d₀ u' d log := by
  cases h with
  | pending hlog hnone hdirty hshown hunit =>
    exact .pending hlog hnone (hsticky hdirty) (hshows.trans hshown) hunit
  | settled hlog hfirst hshown hunit hsent =>
    exact .settled hlog hfirst (hshows.trans hshown) hunit (hsent.imp_left hsticky)

/-- Changes of the unit that concern neither its holding block nor its controls. -/
theorem of_unit (h : SinceFailure i f base v d₀ u d log) (hholding : d'.holding = d.holding)
    (hstatus : d'.status.controls = d.status.controls) : SinceFailure i f base v d₀ u d' log := by
  cases h with
  | pending hlog hnone hdirty hshown hunit =>
    exact .pending hlog hnone hdirty hshown (hstatus ▸ hunit)
  | settled hlog hfirst hshown hunit hsent =>
    exact .settled hlog hfirst hshown (hstatus ▸ hunit) (hholding ▸ hsent)

/-- The unit accepted the synced holding image. -/
theorem written (h : SinceFailure i f base v d₀ u d log) (hsynced : u.Synced) (stamp : UInt64)
    {e : Issue} (hmoves : Issue.moves i e = true) (hkind : e.kind = .holding) :
    SinceFailure i f base v d₀ (u.written stamp) (d.take u.holding.image) (log ++ [e]) := by
  have hholding : (d.take u.holding.image).holding.controls.get f = u.shows f := by
    rw [shows, ← hsynced]
    rfl
  have hstatus : (d.take u.holding.image).status.controls.get f = u.shows f := by
    rw [shows, ← hsynced]
    exact congrArg (Controls.get · f) (Simulation.controls_accepted u.holding.image d.status)
  cases h with
  | @pending since hlog hnone hdirty hshown hunit =>
    have houtcome : e.outcome v d₀ = v := by rw [Issue.outcome, hkind, if_neg (by decide)]
    have hfirst : (since ++ [e]).find? (Issue.moves i) = some e := by
      rw [List.find?_append, hnone, Option.none_or, List.find?_singleton, if_pos hmoves]
    refine .settled (by rw [hlog, List.append_assoc]) hfirst ?_ ?_ (.inr ?_)
    · rw [houtcome, shows_written, hshown]
    · rw [houtcome, hstatus, hshown]
    · rw [houtcome, hholding, hshown]
  | @settled since e' hlog hfirst hshown hunit hsent =>
    have hfirst' : (since ++ [e]).find? (Issue.moves i) = some e' := by
      rw [List.find?_append, hfirst, Option.some_or]
    refine .settled (by rw [hlog, List.append_assoc]) hfirst' ?_ ?_ (.inr ?_)
    · rw [shows_written, hshown]
    · rw [hstatus, hshown]
    · rw [hholding, hshown]

/-- A poll pass reads status blocks alone. -/
theorem polled (h : SinceFailure i f base v d₀ u d log) (hindex : u.index = i)
    (hpolled : Slot.Polled d new u u') (hnew : ∀ e ∈ new, e.kind = .status) :
    SinceFailure i f base v d₀ u' d (log ++ new) := by
  cases hpolled with
  | kept hkept =>
    refine h.append fun e he => ?_
    by_cases hslot : e.slot = i
    · rw [Issue.moves, hkept e he (hslot.trans hindex.symm), Bool.and_false, Bool.false_and]
    · rw [Issue.moves, beq_false_of_ne hslot, Bool.false_and, Bool.false_and]
  | read hread =>
    obtain ⟨e, he, hslot, hsucceeded⟩ := hread
    have hmoves : Issue.moves i e = true := by
      simp [Issue.moves, hslot, hindex, hsucceeded, hnew e he]
    cases h with
    | @pending since hlog hnone hdirty hshown hunit =>
      -- The first operation of the pass that moves the controls is a status read, the edit is lost.
      have hlog' : log ++ new = base ++ (since ++ new) := by rw [hlog, List.append_assoc]
      obtain ⟨first, hfirst⟩ : ∃ first, new.find? (Issue.moves i) = some first := by
        rw [← Option.isSome_iff_exists, List.find?_isSome]
        exact ⟨e, he, hmoves⟩
      have hkind : first.kind = .status := hnew first (List.mem_of_find?_eq_some hfirst)
      have houtcome : first.outcome v d₀ = d₀ := by rw [Issue.outcome, if_pos hkind]
      have hfirst' : (since ++ new).find? (Issue.moves i) = some first := by
        rw [List.find?_append, hnone, Option.none_or, hfirst]
      refine .settled hlog' hfirst' ?_ ?_ (.inl hdirty)
      · rw [houtcome, ← hunit]
        rfl
      · rw [houtcome, hunit]
    | @settled since first hlog hfirst hshown hunit hsent =>
      have hlog' : log ++ new = base ++ (since ++ new) := by rw [hlog, List.append_assoc]
      refine .settled hlog' ?_ ?_ hunit hsent
      · rw [List.find?_append, hfirst, Option.some_or]
      · rw [← hunit]
        rfl

/-- Once the holding image is clean, the unit was sent what the first operation left. -/
theorem landed (h : SinceFailure i f base v d₀ u d log) (hclean : u.holding.dirty = false) :
    ∃ since e, log = base ++ since ∧ since.find? (Issue.moves i) = some e ∧
      d.holding.controls.get f = e.outcome v d₀ := by
  cases h with
  | pending _ _ hdirty _ _ =>
    rw [hdirty] at hclean
    cases hclean
  | @settled since e hlog hfirst _ _ hsent =>
    rcases hsent with hdirty | hholding
    · rw [hdirty] at hclean
      cases hclean
    · exact ⟨since, e, hlog, hfirst, hholding⟩

end SinceFailure

section Steps

variable {i : UInt8} {f : Control} {base : List Issue} {v d₀ : Int} {l : BusLink Simulation}
  {u : Slot} (hindex : u.index = i) (hslot : i.toNat < slotCount)
include hindex hslot

theorem writeHolding_sinceFailure (stamp : UInt64) (hsynced : u.Synced)
    (h : SinceFailure i f base v d₀ u (l.bus.device i) l.issued) :
    (writeHolding l u stamp).Ends l i
      (fun u d log => SinceFailure i f base v d₀ u d log ∧ u.holding.dirty = false ∧ u.Synced)
      (SinceFailure i f base v d₀) := by
  refine writeHolding_ends hindex hslot stamp (fun hclean => ⟨h, hclean, hsynced⟩) ?_ ?_
  · intro _
    have hmoves : Issue.moves i (l.writeIssue i u.holding.image.words true) = true := by
      simp [Issue.moves, BusLink.writeIssue]
    exact ⟨h.written hsynced stamp hmoves rfl, rfl, hsynced⟩
  · intro _
    exact h.append (by simp [Issue.moves, BusLink.writeIssue])

theorem sync_sinceFailure (stamp : UInt64)
    (h : SinceFailure i f base v d₀ u (l.bus.device i) l.issued) :
    (writeHolding l u.sync stamp).Ends l i
      (fun u d log => SinceFailure i f base v d₀ u d log ∧ u.holding.dirty = false ∧ u.Synced)
      (SinceFailure i f base v d₀) := by
  refine writeHolding_sinceFailure (by rw [sync_index, hindex]) hslot stamp u.synced_sync ?_
  exact h.edited (shows_sync u f) (u.holding.edited_syncFrom u.status).sticky

theorem prepare_sinceFailure (window : UInt32)
    (h : SinceFailure i f base v d₀ u (l.bus.device i) l.issued) :
    (prepare window l u).Ends l i (SinceFailure i f base v d₀) (SinceFailure i f base v d₀) := by
  refine prepare_ends hindex (fun _ => h) (h.append (by simp [Issue.moves, BusLink.readIssue]))
    fun l' hdevice hissued => ?_
  have hread : SinceFailure i f base v d₀ (u.reloaded (l.bus.device i).holding l.now)
      (l'.bus.device i) l'.issued := by
    rw [hdevice, hissued]
    apply SinceFailure.append (h.edited (shows_reloaded u _ _ f) fun hdirty => hdirty)
    simp [Issue.moves, BusLink.readIssue]
  exact (sync_sinceFailure (by rw [reloaded_index, hindex]) hslot _ hread).weaken
    (fun _ _ _ h => h.1) fun _ _ _ h => h

theorem endPulse_sinceFailure (stamp : UInt64) (hclean : u.holding.dirty = false)
    (hsynced : u.Synced) (h : SinceFailure i f base v d₀ u (l.bus.device i) l.issued) :
    (endPulse stamp l u).Ends l i
      (fun u d log => SinceFailure i f base v d₀ u d log ∧ u.holding.dirty = false)
      (SinceFailure i f base v d₀) := by
  refine endPulse_ends hindex (fun _ => ⟨h, hclean⟩) ?_
  have hsynced' : u.withdrawn.Synced := (u.holding.controls_setFilterReset false).trans hsynced
  have hedited : SinceFailure i f base v d₀ u.withdrawn (l.bus.device i) l.issued :=
    h.edited (shows_withdrawn u f) (u.holding.edited_setFilterReset false).sticky
  refine (writeHolding_sinceFailure (by rw [withdrawn_index, hindex]) hslot stamp hsynced'
    hedited).weaken ?_ fun _ _ _ h => h
  rintro u' d log ⟨h', hclean', -⟩
  exact ⟨h', hclean'⟩

theorem commit_sinceFailure (h : SinceFailure i f base v d₀ u (l.bus.device i) l.issued) :
    (commit l u).Ends l i
      (fun u d log => SinceFailure i f base v d₀ u d log ∧ u.holding.dirty = false)
      (SinceFailure i f base v d₀) := by
  refine commit_ends (sync_sinceFailure hindex hslot _ h) fun l' u' hindex' h' => ?_
  obtain ⟨hsince, hclean, hsynced⟩ := h'
  exact endPulse_sinceFailure hindex' hslot _ hclean hsynced hsince

theorem apply_sinceFailure (window : UInt32) {c : Command} (hc : c.asks f = none)
    (h : SinceFailure i f base v d₀ u (l.bus.device i) l.issued) :
    (apply window c l u).Ends l i
      (fun u d log => SinceFailure i f base v d₀ u d log ∧ u.holding.dirty = false)
      (SinceFailure i f base v d₀) := by
  refine apply_ends (prepare_sinceFailure hindex hslot window h) fun l' u' hindex' h' => ?_
  refine commit_sinceFailure (by rw [edit_index, hindex']) hslot (h'.edited ?_ ?_)
  · rw [shows, controls_edit, Command.get_put_of_none hc, shows]
  · exact (u'.edited_edit_holding c).sticky

/-- A commit that fails leaves its edit pending: shown by the slot, and not written. -/
theorem commit_refused (hshown : u.shows f = v) :
    (commit l u).Ends l i (fun u _ _ => u.shows f = v)
      fun u _ _ => u.shows f = v ∧ u.holding.dirty = true := by
  refine commit_ends (Q := fun u _ _ => u.shows f = v) ?_ fun l' u' hindex' h' => ?_
  · have hsync : u.sync.shows f = v := by rw [shows_sync, hshown]
    refine writeHolding_ends (by rw [sync_index, hindex]) hslot _ (fun _ => hsync) (fun _ => ?_)
      fun hdirty => ⟨hsync, hdirty⟩
    rw [shows_written, hsync]
  · have hwithdrawn : u'.withdrawn.shows f = v := by rw [shows_withdrawn, h']
    refine endPulse_ends hindex' (fun _ => h') ?_
    refine writeHolding_ends (by rw [withdrawn_index, hindex']) hslot _ (fun _ => hwithdrawn)
      (fun _ => ?_) fun hdirty => ⟨hwithdrawn, hdirty⟩
    rw [shows_written, hwithdrawn]

end Steps

theorem apply_of_prepared {window : UInt32} {c : Command} {l : BusLink Simulation} {u : Slot}
    (h : (prepare window l u).result = .ok ()) :
    apply window c l u = commit (prepare window l u).link ((prepare window l u).slot.edit c) := by
  simp only [apply, SlotStep.andThen, h, BusLink.idle_eq]

/-- So a command that fails behind its preparation leaves its edit pending. -/
theorem apply_refused {window : UInt32} {c : Command} {l : BusLink Simulation} {u : Slot}
    {i : UInt8} {f : Control} {v : Int} {e : TransportError} (hindex : u.index = i)
    (hslot : i.toNat < slotCount)
    (hasks : c.asks f = some v) (hprepared : (prepare window l u).result = .ok ())
    (hfailed : (apply window c l u).result = .error e) :
    (apply window c l u).slot.shows f = signedPart 15 v ∧
      (apply window c l u).slot.holding.dirty = true := by
  have hprepare := prepare_staysIn hslot window l u hindex
  have hshown : ((prepare window l u).slot.edit c).shows f = signedPart 15 v := by
    rw [shows, controls_edit, Command.get_put_of_some hasks]
  rw [apply_of_prepared hprepared] at hfailed ⊢
  exact (commit_refused (by rw [edit_index, hprepare.index]) hslot hshown).error e hfailed

end Slot

/-- A call that may come between a failed edit of a field and its delivery. -/
def Call.Spares (i : UInt8) (f : Control) : Call → Prop
  | .discover => False
  | .apply j c => j = i → c.asks f = none
  | .poll | .readError _ | .prepare _ | .commit _ => True

namespace Gateway

/-- The holding block of a slot, and the controls in its status block, change through the gateway's
writes only. -/
def unitKept (i : UInt8) : Surroundings Simulation where
  bus b b' := b'.block .holding i = b.block .holding i ∧
    (b'.block .status i).controls = (b.block .status i).controls
  clock _ _ := True

/-- Faults and the log may change freely. -/
theorem unitKept_of_registers {i : UInt8} {b b' : Simulation} (h : b'.registers = b.registers) :
    (unitKept i).bus b b' :=
  ⟨Simulation.block_of_registers h _ _, by rw [Simulation.block_of_registers h]⟩

variable {g : Gateway Simulation} {i : UInt8}

theorem sinceFailure_invariant (i : UInt8) (f : Control) (base : List Issue) (v d₀ : Int) :
    SlotInvariant (unitKept i) (Call.Spares i f) i (Slot.SinceFailure i f base v d₀) where
  aside haside h := h.append fun e he => by
    rcases haside e he with hslot | hkind
    · rw [Issue.moves, beq_false_of_ne hslot, Bool.false_and, Bool.false_and]
    · simp [Issue.moves, hkind]
  outside hbus h := h.of_unit hbus.1 hbus.2
  found hadmitted := hadmitted.elim
  polled _ _ _ _ _ _ hindex hpolled hnew h := h.polled hindex hpolled hnew
  readError _ secs l u hindex _ _ h := by
    refine Slot.readError_ends hindex h (fun m => ?_)
      (h.append (by simp [Issue.moves, BusLink.readIssue]))
    have hread : Slot.SinceFailure i f base v d₀ { u with error := m, lastErrorRead := some l.now }
      (l.bus.device i) l.issued := h.edited rfl fun hdirty => hdirty
    exact hread.append (by simp [Issue.moves, BusLink.readIssue])
  prepare _ window l u hindex _ hslot h := Slot.prepare_sinceFailure hindex hslot window h
  commit _ l u hindex _ hslot h :=
    (Slot.commit_sinceFailure hindex hslot h).weaken (fun _ _ _ h => h.1) fun _ _ _ h => h
  apply c hadmitted window l u hindex _ hslot h :=
    (Slot.apply_sinceFailure hindex hslot window (hadmitted rfl) h).weaken (fun _ _ _ h => h.1)
      fun _ _ _ h => h

/-- After a commit that failed, the slot shows the edit and the log of what follows is empty. -/
theorem at_sinceFailure (hg : g.Indexed) {c : Command} {f : Control} {v : Int}
    (hasks : c.asks f = some v) (hprepared : (g.prepare i).1 = .ok ()) {e : TransportError}
    (hfailed : (g.apply i c).1 = .error (.bus e)) :
    (g.apply i c).2.At i (Slot.SinceFailure i f (g.apply i c).2.link.issued (signedPart 15 v)
      (((g.apply i c).2.link.bus.block .status i).controls.get f)) := by
  obtain ⟨u, hu, hprepared⟩ := onPresent_eq_ok.mp hprepared
  obtain ⟨u', hu', hfailed⟩ := onPresent_eq_bus.mp hfailed
  obtain rfl : u = u' := Except.ok.inj (hu.symm.trans hu')
  obtain ⟨hi, hindex⟩ := hg.of_present hu
  obtain ⟨hshown, hdirty⟩ := Slot.apply_refused hindex hi hasks hprepared hfailed
  apply at_onPresent hu
  rw [Gateway.apply, onPresent_present hu]
  exact .pending (List.append_nil _).symm rfl hdirty hshown rfl

/-- The value of a failed edit reaches its unit just if it fits the field and a holding write is
the first operation to move the controls, or if the unit had that value anyway. A status read that
comes first loses it. -/
theorem pending_edit_lands_iff {s : Surroundings Simulation} {g₁ : Gateway Simulation}
    (h : Reachable s g) {c c' : Command} {f : Control} {v : Int} (hasks : c.asks f = some v)
    (hprepared : (g.prepare i).1 = .ok ()) {e : TransportError}
    (hfailed : (g.apply i c).1 = .error (.bus e)) {ks : List Call}
    (hrun : Run (unitKept i) (g.apply i c).2 ks g₁) (hks : ∀ k ∈ ks, k.Spares i f)
    (hasks' : c'.asks f = none) (hok : (g₁.apply i c').1 = .ok ()) :
    ((g₁.apply i c').2.link.bus.block .holding i).controls.get f = v ↔
      (v.natAbs < 2 ^ 15 ∧ ∃ first, ((g₁.apply i c').2.link.issued.drop
          (g.apply i c).2.link.issued.length).find? (Issue.moves i) = some first ∧
          first.kind = .holding) ∨
        ((g.apply i c).2.link.bus.block .status i).controls.get f = v := by
  have hindexed : (g.apply i c).2.Indexed := h.indexed.call (.apply i c)
  have hpending := at_sinceFailure h.indexed hasks hprepared hfailed
  have hd₀ := ((g.apply i c).2.link.bus.block .status i).natAbs_get_lt f
  generalize hbase : (g.apply i c).2.link.issued = base at *
  generalize ((g.apply i c).2.link.bus.block .status i).controls.get f = d₀ at *
  obtain ⟨hindexed₁, hsince⟩ :=
    (sinceFailure_invariant i f base (signedPart 15 v) d₀).at_run hrun hks hindexed hpending
  obtain ⟨hend, -⟩ := hsince.onPresent_self hindexed₁ fun l u hindex _ hslot hu =>
    Slot.apply_sinceFailure (c := c') hindex hslot g₁.settings.cacheWriteS hasks' hu
  -- A command that succeeds leaves the holding image clean, so nothing is pending any more.
  obtain ⟨u, -, hlanded, hclean⟩ := hend hok
  obtain ⟨since, first, hlog, hfirst, hvalue⟩ := hlanded.landed hclean
  have hlog' : (g₁.apply i c').2.link.issued = base ++ since := hlog
  have hvalue' : ((g₁.apply i c').2.link.bus.block .holding i).controls.get f =
      first.outcome (signedPart 15 v) d₀ := hvalue
  rw [hvalue', hlog', List.drop_left, hfirst]
  have hfits : signedPart 15 v = v ↔ v.natAbs < 2 ^ 15 :=
    ⟨fun hv => hv ▸ natAbs_signedPart_lt v, signedPart_of_lt⟩
  rcases Issue.kind_of_moves (List.find?_some hfirst) with hkind | hkind
  · rw [Issue.outcome, if_pos hkind]
    simp [hkind]
  · rw [Issue.outcome, if_neg (by rw [hkind]; decide), hfits]
    simp only [Option.some.injEq, exists_eq_left', hkind, and_true]
    exact ⟨.inl, fun hor => hor.elim id fun hv => hv ▸ hd₀⟩

/-- A unit whose holding writes time out, long after it was sent a setpoint. -/
def demoCutOff : Gateway Simulation :=
  let g := ((Gateway.new Simulation.demo 0 1 {}).call .discover).call
    (.apply 1 (.setpoint (Celsius.ofTenths 210)))
  g.amid (g.link.bus.failWrites (BlockKind.holding.address 1) .timeout) 40000

/-- Its writes work again after a poll pass, and it was not switched on when it was told to be. -/
def demoPolled : Gateway Simulation :=
  let g := (demoCutOff.apply 1 (.power true)).2.call .poll
  g.amid g.link.bus.clearFaults g.link.now

theorem pending_edit_lands_iff_demo : (demoCutOff.prepare 1).1 = .ok () ∧
    (demoCutOff.apply 1 (.power true)).1 = .error (.bus (.timeout 8 0)) ∧
    (demoPolled.apply 1 (.fanSpeed .high)).1 = .ok () ∧
    ¬ ((demoPolled.apply 1 (.fanSpeed .high)).2.link.bus.block .holding 1).controls.get
      .power = 1 := by
  have hreachable : Reachable (unitKept 1) demoCutOff := by
    unfold demoCutOff
    exact (((Reachable.new _ _ _ _).call _).call _).amid
      (unitKept_of_registers (Simulation.registers_failWrites _ _ _)) trivial
  have hprepared : (demoCutOff.prepare 1).1 = .ok () := by decide +kernel
  have hfailed : (demoCutOff.apply 1 (.power true)).1 = .error (.bus (.timeout 8 0)) := by
    decide +kernel
  have hrun : Run (unitKept 1) (demoCutOff.apply 1 (.power true)).2 [.poll] demoPolled := by
    unfold demoPolled
    exact (Run.start.call .poll).outside
      (unitKept_of_registers (Simulation.registers_clearFaults _)) trivial
  have hok : (demoPolled.apply 1 (.fanSpeed .high)).1 = .ok () := by decide +kernel
  have hfirst : (((demoPolled.apply 1 (.fanSpeed .high)).2.link.issued.drop
      (demoCutOff.apply 1 (.power true)).2.link.issued.length).find? (Issue.moves 1)).map
      Issue.kind = some .status := by decide +kernel
  have hunit : ¬ ((demoCutOff.apply 1 (.power true)).2.link.bus.block .status 1).controls.get
      .power = 1 := by decide +kernel
  refine ⟨hprepared, hfailed, hok, ?_⟩
  rw [pending_edit_lands_iff hreachable rfl hprepared hfailed hrun (by simp [Call.Spares]) rfl hok]
  rintro (⟨-, first, hfound, hkind⟩ | hvalue)
  · rw [hfound, Option.map_some, hkind] at hfirst
    cases hfirst
  · exact hunit hvalue

end Gateway

end ClimateBus
