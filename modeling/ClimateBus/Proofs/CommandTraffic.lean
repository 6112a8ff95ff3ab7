import ClimateBus.Proofs.FilterPulse
import ClimateBus.Proofs.Repetition
import Mathlib

/-!
The bus operations of a command, over any bus.

A command reads the holding block if its image cannot be trusted, and then writes up to three
images, each only if it has something to tell: the image brought up to the status image, the image
with the edit of the command, and the end of a request to clear the filter sign. What is written is
told here by the images alone (`Slot.baselineWrites`, `Slot.editWrites`), not by the marks of the
setters; the first operation that fails is the last one.
-/
namespace ClimateBus

/-- The operations are issued one after the other, up to the first that fails. -/
inductive Issue.UpToFailure : List BusOperation → List Issue → Prop
  | done : UpToFailure [] []
  | failed {op : BusOperation} {e : Issue} {rest : List BusOperation} (hop : e.operation = op)
      (h : e.succeeded = false) : UpToFailure (op :: rest) [e]
  | succeeded {op : BusOperation} {e : Issue} {rest : List BusOperation} {log : List Issue}
      (hop : e.operation = op) (h : e.succeeded = true) (hrest : UpToFailure rest log) :
      UpToFailure (op :: rest) (e :: log)

namespace HoldingCache

/-- The words to be sent when an image becomes another one: none if there is no edit to be written
and nothing is different. -/
def owed (h : HoldingCache) (m : Image BlockKind.holding.size) : List Words :=
  if h.dirty = true ∨ m ≠ h.image then [m.words] else []

/-- An image whose edits report every difference is written just if it is owed. -/
theorem due_eq_owed {h h' : HoldingCache} (hedited : Edited h h')
    (hsame : h'.image = h.image → h' = h) : h'.due = h.owed h'.image := by
  cases hdirty : h'.dirty with
  | false =>
    have hclean : ¬ (h.dirty = true ∨ h'.image ≠ h.image) := by
      rw [hedited.clean hdirty, hedited.unchanged hdirty]
      simp
    rw [due, owed, if_neg hclean, if_neg (by rw [hdirty]; exact Bool.false_ne_true)]
  | true =>
    have howed : h.dirty = true ∨ h'.image ≠ h.image := by
      by_cases himage : h'.image = h.image
      · exact .inl (hsame himage ▸ hdirty)
      · exact .inr himage
    rw [due, owed, if_pos howed, if_pos hdirty]

/-- A request to clear the filter sign that leaves the image as it is was there before. -/
theorem requested_of_image_eq {h : HoldingCache} {s : StatusImage}
    (himage : (h.requested s).image = h.image) : h.requested s = h := by
  have hset : h.setFilterReset true = h := by
    apply setCode_of_eq
    rw [← himage]
    exact h.filter_requested s
  rw [requested, hset] at himage ⊢
  exact syncFrom_of_image_eq himage

end HoldingCache

namespace BusLink

variable {β : Type} [Bus β]

/-- Writes to a slot one after the other, up to the first that fails. -/
def writeEach (l : BusLink β) (slot : UInt8) : List Words → Except TransportError Unit × BusLink β
  | [] => (.ok (), l)
  | ws :: rest =>
    match l.write slot ws with
    | (.ok (), l) => writeEach l slot rest
    | (.error e, l) => (.error e, l)

theorem writeEach_append (l : BusLink β) (slot : UInt8) (first second : List Words) :
    l.writeEach slot (first ++ second) =
      match l.writeEach slot first with
      | (.ok (), l') => l'.writeEach slot second
      | (.error e, l') => (.error e, l') := by
  induction first generalizing l with
  | nil => rfl
  | cons ws rest ih =>
    simp only [List.cons_append, writeEach]
    cases l.write slot ws with
    | mk result l' =>
      cases result with
      | ok _ => exact ih l'
      | error e => rfl

/-- The log has the writes up to the first that failed and, if none did, what is issued after
them. -/
theorem writeEach_then_log {f : BusLink β → Except TransportError Unit × BusLink β}
    {more : List BusOperation}
    (hmore : ∀ l, ∃ log, (f l).2.issued = l.issued ++ log ∧ Issue.UpToFailure more log)
    (l : BusLink β) (slot : UInt8) (writes : List Words) :
    ∃ log,
      (match l.writeEach slot writes with
        | (.ok (), l') => f l'
        | (.error e, l') => (.error e, l')).2.issued = l.issued ++ log ∧
      Issue.UpToFailure (writes.map (.write (BlockKind.holding.address slot)) ++ more) log := by
  induction writes generalizing l with
  | nil => exact hmore l
  | cons ws rest ih =>
    have hissues : l.Issues _ _ := .write slot ws
    simp only [writeEach, List.map_cons, List.cons_append]
    generalize l.write slot ws = w at hissues ⊢
    obtain ⟨result, l'⟩ := w
    cases result with
    | ok _ =>
      obtain ⟨log, hissued, hlog⟩ := ih l'
      refine ⟨l.writeIssue slot ws true l'.now :: log, ?_, .succeeded rfl rfl hlog⟩
      have hwritten : l'.issued = l.issued ++ [l.writeIssue slot ws true l'.now] := hissues.issued
      rw [← List.singleton_append, ← List.append_assoc, ← hwritten]
      exact hissued
    | error e => exact ⟨[l.writeIssue slot ws false l'.now], hissues.issued, .failed rfl rfl⟩

theorem writeEach_log (l : BusLink β) (slot : UInt8) (writes : List Words) :
    ∃ log, (l.writeEach slot writes).2.issued = l.issued ++ log ∧
      Issue.UpToFailure (writes.map (.write (BlockKind.holding.address slot))) log := by
  obtain ⟨log, hissued, hlog⟩ := writeEach_then_log (f := fun l => (.ok (), l))
    (fun l => ⟨[], (List.append_nil _).symm, .done⟩) l slot writes
  rw [List.append_nil] at hlog
  refine ⟨log, ?_, hlog⟩
  rw [← hissued]
  rcases l.writeEach slot writes with ⟨_ | _, _⟩
  · rfl
  · rfl

/-- The writes of the two halves of a command, and the time in between. -/
def writeHalves (l : BusLink β) (slot : UInt8) (first second : List Words) :
    Except TransportError Unit × BusLink β :=
  match l.writeEach slot first with
  | (.ok (), l) => l.idle.writeEach slot second
  | (.error e, l) => (.error e, l)

/-- Time leaves no trace in the log, so it has the writes of both halves. -/
theorem writeHalves_log (l : BusLink β) (slot : UInt8) (first second : List Words) :
    ∃ log, (l.writeHalves slot first second).2.issued = l.issued ++ log ∧
      Issue.UpToFailure ((first ++ second).map (.write (BlockKind.holding.address slot))) log := by
  rw [List.map_append]
  exact writeEach_then_log (fun l => l.idle.writeEach_log slot second) l slot first

end BusLink

namespace SlotStep

variable {β : Type} {s : SlotStep β} {next : BusLink β → Slot → SlotStep β}

theorem andThen_of_ok (h : s.result = .ok ()) : s.andThen next = next s.link s.slot := by
  rw [andThen, h]

/-- Two steps in a row succeed if both of them do. -/
theorem andThen_eq_ok : (s.andThen next).result = .ok () ↔
    s.result = .ok () ∧ (next s.link s.slot).result = .ok () := by
  unfold andThen
  cases hs : s.result with
  | ok _ => simp
  | error e => simp [hs]

end SlotStep

/-- The image that a step wrote last is the one it left behind, clean just if the write succeeded. A
step without an operation left the image `b`. -/
def SlotStep.Marks {β : Type} (s : SlotStep β) (l : BusLink β) (b : HoldingCache) : Prop :=
  ∃ log, s.link.issued = l.issued ++ log ∧ (log = [] → s.slot.holding = b) ∧
    ∀ e ws, log.getLast? = some e → e.written = some ws →
      s.slot.holding.image.words = ws ∧ s.slot.holding.dirty = !e.succeeded

namespace SlotStep.Marks

variable {β : Type} {l l' : BusLink β} {b : HoldingCache} {e : Issue}

theorem stay {u : Slot} {result : Except TransportError Unit} (h : u.holding = b) :
    SlotStep.Marks ⟨result, u, l⟩ l b := ⟨[], (List.append_nil _).symm, fun _ => h, by simp⟩

theorem issued [Bus β] {u : Slot} {result : Except TransportError Unit} (hissues : l.Issues e l')
    (h : ∀ ws, e.written = some ws →
      u.holding.image.words = ws ∧ u.holding.dirty = !e.succeeded) :
    SlotStep.Marks ⟨result, u, l'⟩ l b := by
  refine ⟨[e], hissues.issued, by simp, ?_⟩
  rintro d ws hlast hwritten
  obtain rfl : e = d := by simpa using hlast
  exact h ws hwritten

/-- A read in front of a step is no write. -/
theorem behind_read [Bus β] {s : SlotStep β} {b' : HoldingCache} (h : s.Marks l' b')
    (hissues : l.Issues e l') (hread : e.written = none) : s.Marks l b := by
  obtain ⟨log, hissued, -, hlast⟩ := h
  refine ⟨e :: log, ?_, by simp, ?_⟩
  · rw [hissued, hissues.issued, List.append_assoc]
    rfl
  · intro d ws hd hwritten
    rw [List.getLast?_cons] at hd
    cases hlog : log.getLast? with
    | none =>
      obtain rfl : e = d := by simpa [hlog] using hd
      rw [hread] at hwritten
      cases hwritten
    | some d' =>
      obtain rfl : d' = d := by simpa [hlog] using hd
      exact hlast d' ws hlog hwritten

theorem andThen {s : SlotStep β} {next : BusLink β → Slot → SlotStep β} (h : s.Marks l b)
    (hnext : ∀ l u, (next l u).Marks l u.holding) : (s.andThen next).Marks l b := by
  rcases s.andThen_eq next with hstep | hstep
  · obtain ⟨log, hissued, hkept, hlast⟩ := h
    obtain ⟨log', hissued', hkept', hlast'⟩ := hnext s.link s.slot
    rw [hstep]
    refine ⟨log ++ log', by rw [hissued', hissued, List.append_assoc], ?_, ?_⟩
    · intro hnone
      obtain ⟨hlog, hlog'⟩ := List.append_eq_nil_iff.mp hnone
      exact (hkept' hlog').trans (hkept hlog)
    · intro e ws he hwritten
      rw [List.getLast?_append] at he
      cases hlog' : log'.getLast? with
      | none =>
        rw [hkept' (List.getLast?_eq_none_iff.mp hlog')]
        exact hlast e ws (by simpa [hlog'] using he) hwritten
      | some e' =>
        obtain rfl : e' = e := by simpa [hlog'] using he
        exact hlast' e' ws hlog' hwritten
  · rwa [hstep]

end SlotStep.Marks

/-- How a step ended, and the link it left behind. -/
def SlotStep.outcome {β : Type} (s : SlotStep β) : Except TransportError Unit × BusLink β :=
  (s.result, s.link)

namespace Slot

/-- The record once the edits of its holding image have been sent. -/
def flushed (u : Slot) (stamp : UInt64) : Slot := { u with holding := u.holding.flushed stamp }

@[simp] theorem flushed_index (u : Slot) (stamp : UInt64) : (u.flushed stamp).index = u.index := by
  rw [flushed]

theorem flushed_holding_image (u : Slot) (stamp : UInt64) :
    (u.flushed stamp).holding.image = u.holding.image := u.holding.flushed_image stamp

/-- What is written once a read at `now` brought a holding block: the image brought up to the status
image. -/
def baselineWrites (u : Slot) (now : UInt64) (held : Image BlockKind.holding.size) : List Words :=
  let read := u.reloaded held now
  read.holding.owed read.sync.holding.image

/-- The record behind such a read and its write, if there was one. -/
def rebased (u : Slot) (now : UInt64) (held : Image BlockKind.holding.size) : Slot :=
  (u.reloaded held now).sync.flushed now

/-- What is written for a command on a trusted image: the image with its edit, and the same image
without a request to clear the filter sign. -/
def editWrites (u : Slot) (c : Command) : List Words :=
  let edited := (u.edit c).sync.holding.image
  u.holding.owed edited ++ if edited.unsigned Layout.filter = 0 then []
    else [(edited.setUnsigned Layout.filter 0).image.words]

/-- All that a command writes, `held` being what a read of the holding block brought if there was
one. -/
def commandWrites (u : Slot) (c : Command) (now : UInt64) (window : UInt32)
    (held : Image BlockKind.holding.size) : List Words :=
  if u.stale now window then u.baselineWrites now held ++ (u.rebased now held).editWrites c
  else u.editWrites c

section Writes

variable {β : Type} [Bus β] (l : BusLink β) (u : Slot)

theorem writeHolding_eq (stamp : UInt64) :
    writeHolding l u stamp =
      match l.writeEach u.index u.holding.due with
      | (.ok (), l') => ⟨.ok (), u.flushed stamp, l'⟩
      | (.error e, l') => ⟨.error e, u, l'⟩ := by
  cases hdirty : u.holding.dirty with
  | false => simp [writeHolding, BusLink.writeIfDirty, HoldingCache.due, flushed,
      HoldingCache.flushed, hdirty, BusLink.writeEach]
  | true =>
    simp only [writeHolding, BusLink.writeIfDirty, HoldingCache.due, flushed, HoldingCache.flushed,
      hdirty, if_true, BusLink.writeEach]
    generalize l.write u.index u.holding.image.words = w
    obtain ⟨result, l'⟩ := w
    cases result <;> rfl

/-- A request to clear the filter sign leaves an edit to be written once it is withdrawn. -/
theorem due_withdrawn (hfilter : u.holding.filterReset = true) : u.withdrawn.holding.due =
    [(u.holding.image.setUnsigned Layout.filter 0).image.words] := by
  have himage : u.withdrawn.holding.image =
      (u.holding.image.setUnsigned Layout.filter 0).image := by
    rw [withdrawn, HoldingCache.setFilterReset, HoldingCache.setCode, HoldingCache.image_edit]
    rfl
  cases hdirty : u.withdrawn.holding.dirty with
  | true => rw [HoldingCache.due, if_pos hdirty, himage]
  | false =>
    have hcleared := u.holding.unsigned_filter_setFilterReset false
    rw [(u.holding.edited_setFilterReset false).unchanged hdirty] at hcleared
    simp [HoldingCache.filterReset, hcleared] at hfilter

theorem endPulse_outcome (stamp : UInt64) : (endPulse stamp l u).outcome =
    l.writeEach u.index (if u.holding.image.unsigned Layout.filter = 0 then []
      else [(u.holding.image.setUnsigned Layout.filter 0).image.words]) := by
  by_cases hfilter : u.holding.image.unsigned Layout.filter = 0
  · have hquiet : u.holding.filterReset = false := by simp [HoldingCache.filterReset, hfilter]
    rw [if_pos hfilter, endPulse, if_neg (by rw [hquiet]; exact Bool.false_ne_true)]
    rfl
  · have hraised : u.holding.filterReset = true := by simp [HoldingCache.filterReset, hfilter]
    have hwrite := writeHolding_eq l u.withdrawn stamp
    rw [due_withdrawn u hraised, withdrawn_index] at hwrite
    rw [if_neg hfilter, endPulse, if_pos hraised]
    change (writeHolding l u.withdrawn stamp).outcome = _
    rw [hwrite]
    generalize l.writeEach u.index _ = w
    obtain ⟨result, l'⟩ := w
    cases result <;> rfl

/-- An edit and a sync that leave the image as it was changed no bit on the way. -/
theorem holding_sync_edit_of_image_eq {c : Command}
    (himage : (u.edit c).sync.holding.image = u.holding.image) :
    (u.edit c).sync.holding = u.holding := by
  cases c with
  | filterReset =>
    rw [holding_sync_edit] at himage ⊢
    exact HoldingCache.requested_of_image_eq himage
  | power _ | mode _ | setpoint _ | fanSpeed _ | fanDirection _ =>
    dsimp only [sync, edit] at himage ⊢
    exact HoldingCache.syncFrom_of_image_eq himage

/-- A command goes on with its edit. -/
theorem commit_outcome (c : Command) :
    (commit l (u.edit c)).outcome = l.writeEach u.index (u.editWrites c) := by
  have hdue : (u.edit c).sync.holding.due = u.holding.owed (u.edit c).sync.holding.image := by
    apply HoldingCache.due_eq_owed
    · exact (u.edited_edit_holding c).trans ((u.edit c).holding.edited_syncFrom _)
    · exact u.holding_sync_edit_of_image_eq
  have hwrite := writeHolding_eq l (u.edit c).sync l.now
  rw [hdue, sync_index, edit_index] at hwrite
  rw [commit, hwrite, editWrites, BusLink.writeEach_append]
  generalize l.writeEach u.index (u.holding.owed _) = w
  obtain ⟨result, l'⟩ := w
  cases result with
  | error e => rfl
  | ok _ =>
    have hpulse := endPulse_outcome l' ((u.edit c).sync.flushed l.now) l.now
    rw [flushed_holding_image, flushed_index, sync_index, edit_index] at hpulse
    exact hpulse

variable (window : UInt32) (c : Command)

/-- A command does what it does to the bus by its read, if there is one, and by its writes. -/
theorem apply_outcome :
    let r := l.read .holding u.index u.holding.image
    (apply window c l u).outcome =
      match u.stale l.now window, r.result with
      | false, _ => l.idle.writeEach u.index (u.editWrites c)
      | true, .error e => (.error e, r.link)
      | true, .ok () => r.link.writeHalves u.index (u.baselineWrites l.now r.buffer)
          ((u.rebased l.now r.buffer).editWrites c) := by
  cases hstale : u.stale l.now window with
  | false =>
    have hprepare : prepare window l u = ⟨.ok (), u, l⟩ := by
      rw [prepare, hstale, if_neg Bool.false_ne_true]
    dsimp only
    rw [apply, hprepare]
    exact commit_outcome l.idle u c
  | true =>
    simp only [apply, prepare, hstale, if_true]
    generalize l.read .holding u.index u.holding.image = r
    obtain ⟨result, held, l'⟩ := r
    cases result with
    | error e => rfl
    | ok _ =>
      have hdue : (u.reloaded held l.now).sync.holding.due = u.baselineWrites l.now held := by
        dsimp only [baselineWrites, sync]
        exact HoldingCache.due_eq_owed (HoldingCache.edited_syncFrom _ _)
          HoldingCache.syncFrom_of_image_eq
      have hwrite := writeHolding_eq l' (u.reloaded held l.now).sync l.now
      have hindex : (u.rebased l.now held).index = u.index := by
        rw [rebased, flushed_index, sync_index, reloaded_index]
      have hcommit (l'' : BusLink β) := commit_outcome l'' (u.rebased l.now held) c
      rw [hindex] at hcommit
      rw [hdue, sync_index, reloaded_index, ← rebased] at hwrite
      change ((writeHolding l' (u.reloaded held l.now).sync l.now).andThen _).outcome =
        l'.writeHalves u.index _ _
      rw [hwrite, BusLink.writeHalves]
      generalize u.rebased l.now held = v at hcommit ⊢
      generalize l'.writeEach u.index (u.baselineWrites l.now held) = w
      obtain ⟨result, l''⟩ := w
      cases result with
      | error e => rfl
      | ok _ => exact hcommit l''.idle

theorem apply_present : (apply window c l u).slot.present = u.present := by
  rw [(apply_record window l u c).present]
  split_ifs
  · exact u.edit_present c
  · rfl

/-- The operations of a command: the read of a stale image, and the writes behind it. -/
theorem apply_log :
    let address := BlockKind.holding.address u.index
    let held := (l.read .holding u.index u.holding.image).buffer
    Issue.UpToFailure
      ((if u.stale l.now window then [.read .holding address BlockKind.holding.size] else []) ++
        (u.commandWrites c l.now window held).map (.write address))
      ((apply window c l u).link.issued.drop l.issued.length) := by
  have hlink : (apply window c l u).link = _ := congrArg Prod.snd (apply_outcome l u window c)
  have hissues : l.Issues _ _ := .read .holding u.index u.holding.image
  rw [hlink]
  simp only [commandWrites]
  generalize l.read .holding u.index u.holding.image = r at hissues ⊢
  cases u.stale l.now window with
  | false =>
    obtain ⟨log, hissued, hlog⟩ := l.idle.writeEach_log u.index (u.editWrites c)
    have hissued : (l.idle.writeEach u.index (u.editWrites c)).2.issued = l.issued ++ log := hissued
    dsimp only
    rwa [hissued, List.drop_left]
  | true =>
    obtain ⟨result, held, l'⟩ := r
    cases result with
    | error e =>
      rw [hissues.issued, List.drop_left]
      exact .failed rfl rfl
    | ok _ =>
      obtain ⟨log, hissued, hlog⟩ := l'.writeHalves_log u.index (u.baselineWrites l.now held)
        ((u.rebased l.now held).editWrites c)
      dsimp only
      rw [hissued, hissues.issued, List.append_assoc, List.drop_left]
      exact .succeeded rfl rfl hlog

theorem writeHolding_marks {b : HoldingCache} (stamp : UInt64)
    (hclean : u.holding.dirty = false → u.holding = b) : (writeHolding l u stamp).Marks l b := by
  cases hdirty : u.holding.dirty with
  | false =>
    have hstay : writeHolding l u stamp = ⟨.ok (), u, l⟩ := by
      simp only [writeHolding, BusLink.writeIfDirty, hdirty, Bool.false_eq_true, if_false]
    rw [hstay]
    exact .stay (hclean hdirty)
  | true =>
    have hissues : l.Issues _ _ := .write u.index u.holding.image.words
    simp only [writeHolding, BusLink.writeIfDirty, hdirty, if_true]
    generalize l.write u.index u.holding.image.words = w at hissues ⊢
    obtain ⟨result, l'⟩ := w
    cases result with
    | ok _ => exact .issued hissues fun ws hws => ⟨Option.some.inj hws, rfl⟩
    | error e => exact .issued hissues fun ws hws => ⟨Option.some.inj hws, hdirty⟩

theorem prepare_marks : (prepare window l u).Marks l u.holding := by
  rcases prepare_cases l u window with h | ⟨l', m, ⟨e, hissues, h⟩ | ⟨hissues, h⟩⟩
  · rw [h]
    exact .stay rfl
  · rw [h]
    exact .issued hissues fun _ hws => by cases hws
  · rw [h]
    exact (writeHolding_marks l' _ l.now fun _ => rfl).behind_read hissues rfl

theorem endPulse_marks (stamp : UInt64) : (endPulse stamp l u).Marks l u.holding := by
  unfold endPulse
  split_ifs
  · exact writeHolding_marks l u.withdrawn stamp (u.holding.edited_setFilterReset false).eq_of_clean
  · exact .stay rfl

theorem commit_marks : (commit l (u.edit c)).Marks l u.holding := by
  have hedited := (u.edited_edit_holding c).trans
    ((u.edit c).holding.edited_syncFrom (u.edit c).status)
  exact (writeHolding_marks l (u.edit c).sync l.now hedited.eq_of_clean).andThen fun l' u' =>
    endPulse_marks l' u' l.now

theorem apply_marks : (apply window c l u).Marks l u.holding :=
  (prepare_marks l u window).andThen fun l' u' => commit_marks l'.idle u' c

/-- A write that did not fail leaves nothing to be written. -/
theorem clean_of_writeHolding {stamp : UInt64} (hok : (writeHolding l u stamp).result = .ok ()) :
    (writeHolding l u stamp).slot.holding.dirty = false := by
  cases hdirty : u.holding.dirty with
  | false => simp only [writeHolding, BusLink.writeIfDirty, hdirty, Bool.false_eq_true, if_false]
  | true =>
    simp only [writeHolding, BusLink.writeIfDirty, hdirty, if_true] at hok ⊢
    generalize l.write u.index u.holding.image.words = w at hok ⊢
    obtain ⟨result, l'⟩ := w
    cases result with
    | ok _ => rfl
    | error e => cases hok

theorem clean_of_commit (hok : (commit l u).result = .ok ()) :
    (commit l u).slot.holding.dirty = false := by
  obtain ⟨hwrite, hpulse⟩ := SlotStep.andThen_eq_ok.mp hok
  rw [commit, SlotStep.andThen_of_ok hwrite]
  unfold endPulse at hpulse ⊢
  split_ifs at hpulse ⊢
  · exact clean_of_writeHolding _ _ hpulse
  · exact clean_of_writeHolding _ _ hwrite

theorem clean_of_apply (hok : (apply window c l u).result = .ok ()) :
    (apply window c l u).slot.holding.dirty = false := by
  obtain ⟨hprepare, hcommit⟩ := SlotStep.andThen_eq_ok.mp hok
  rw [apply, SlotStep.andThen_of_ok hprepare]
  exact clean_of_commit _ _ hcommit

end Writes

end Slot

namespace Gateway

variable {β : Type} [Bus β] {g : Gateway β} {i : UInt8}

/-- The holding image of a unit is read before a command if it was never read, or if it is clean and
was neither read nor written recently. What is written after that is told by the images alone
(`Slot.commandWrites`). All of it goes to the holding block of the unit, the first operation that
fails is the last one and ends the call with its error, and an image that was written is clean just
if its write succeeded. -/
theorem command_traffic {s : Surroundings β} (h : Reachable s g) {u : Slot}
    (hu : g.present? i = .ok u) (c : Command) :
    let now := g.link.now
    let window := g.settings.cacheWriteS
    let address : UInt16 := 2000 + 3 * i.toUInt16
    let read := g.link.read .holding i u.holding.image
    let writes := u.commandWrites c now window read.buffer
    let after := g.apply i c
    let log := after.2.link.issued.drop g.link.issued.length
    (u.stale now window = true ↔ u.holding.lastRead = none ∨ u.holding.dirty = false ∧
      u.holding.readWithin now window = false ∧ u.holding.writeWithin now window = false) ∧
    Issue.UpToFailure ((if u.stale now window then [.read .holding address 3] else []) ++
      writes.map (.write address)) log ∧
    (∃ result, after.1 = result.mapError .bus ∧ (result, after.2.link) =
      match u.stale now window, read.result with
      | false, _ => g.link.idle.writeEach i (u.editWrites c)
      | true, .error e => (.error e, read.link)
      | true, .ok () => read.link.writeHalves i (u.baselineWrites now read.buffer)
          ((u.rebased now read.buffer).editWrites c)) ∧
    ∃ u', after.2.present? i = .ok u' ∧ (after.1 = .ok () → u'.holding.dirty = false) ∧
      ∀ e ws, log.getLast? = some e → e.written = some ws →
        u'.holding.image.words = ws ∧ u'.holding.dirty = !e.succeeded := by
  obtain ⟨-, hindex⟩ := h.indexed.of_present hu
  subst hindex
  let step := Slot.apply g.settings.cacheWriteS c g.link u
  have hafter : g.apply u.index c = (step.result.mapError .bus, { g with
      link := step.link, slots := g.slots.set u.index.toNat step.slot }) := onPresent_present hu
  have haddress : (2000 + 3 * u.index.toUInt16 : UInt16) = BlockKind.holding.address u.index := by
    rw [mul_comm]
    rfl
  have hpresent : (g.apply u.index c).2.present? u.index = .ok step.slot :=
    present?_onPresent hu (u.apply_present g.link _ c)
  obtain ⟨log, hissued, -, hlast⟩ := u.apply_marks g.link g.settings.cacheWriteS c
  have hlog : step.link.issued.drop g.link.issued.length = log := by
    rw [hissued, List.drop_left]
  have hclean (hok : (g.apply u.index c).1 = .ok ()) : step.slot.holding.dirty = false := by
    obtain ⟨v, hv, hresult⟩ := onPresent_eq_ok.mp hok
    obtain rfl : u = v := Except.ok.inj (hu.symm.trans hv)
    exact u.clean_of_apply g.link _ c hresult
  dsimp only
  rw [haddress, hpresent]
  refine ⟨?stale, ?log, ⟨step.result, by rw [hafter], ?course⟩, step.slot, rfl, hclean, ?last⟩
  case stale => simp [Slot.stale, and_assoc]
  case log =>
    rw [hafter]
    exact u.apply_log g.link _ c
  case course =>
    rw [hafter]
    exact u.apply_outcome g.link _ c
  case last =>
    rw [hafter, hlog]
    exact hlast

/-- The small installation with a unit whose holding block cannot be written. -/
def demoRefusing : Gateway Simulation :=
  demoStarted.amid (demoStarted.link.bus.failWrites 2000 .timeout) 5000

/-- Of the four operations of the command two are issued, and the edit is still to be written. -/
theorem command_traffic_demo :
    let due : List BusOperation := [.read .holding 2000 3, .write 2000 [97, 2, 240],
      .write 2000 [97, 242, 240], .write 2000 [97, 2, 240]]
    let after := demoRefusing.apply 0 .filterReset
    let log := after.2.link.issued.drop demoRefusing.link.issued.length
    Reachable ⟨fun _ _ => True, fun _ _ => True⟩ demoRefusing ∧ Issue.UpToFailure due log ∧
      log.map Issue.succeeded = [true, false] ∧
      ∃ u', after.2.present? 0 = .ok u' ∧ u'.holding.dirty = true := by
  have hreachable : Reachable ⟨fun _ _ => True, fun _ _ => True⟩ demoRefusing :=
    (reachable_demoStarted _).amid trivial trivial
  have hu : demoRefusing.present? 0 = .ok (demoRefusing.slots.getD 0 default) := by decide +kernel
  have hsucceeded : ((demoRefusing.apply 0 .filterReset).2.link.issued.drop
      demoRefusing.link.issued.length).map Issue.succeeded = [true, false] := by
    decide +kernel
  have hwritten : ((demoRefusing.apply 0 .filterReset).2.link.issued.drop
      demoRefusing.link.issued.length).getLast?.bind Issue.written = some [97, 2, 240] := by
    decide +kernel
  have hdue : (if (demoRefusing.slots.getD 0 default).stale demoRefusing.link.now
        demoRefusing.settings.cacheWriteS then
          [BusOperation.read .holding (2000 + 3 * (0 : UInt8).toUInt16) 3] else []) ++
      ((demoRefusing.slots.getD 0 default).commandWrites .filterReset demoRefusing.link.now
        demoRefusing.settings.cacheWriteS (demoRefusing.link.read .holding 0
          (demoRefusing.slots.getD 0 default).holding.image).buffer).map
            (BusOperation.write (2000 + 3 * (0 : UInt8).toUInt16)) =
      [BusOperation.read .holding 2000 3, .write 2000 [97, 2, 240], .write 2000 [97, 242, 240],
        .write 2000 [97, 2, 240]] := by
    decide +kernel
  obtain ⟨-, hlog, -, u', hu', -, hlast⟩ := command_traffic hreachable hu .filterReset
  rw [hdue] at hlog
  dsimp only
  generalize List.drop _ _ = log at *
  refine ⟨hreachable, hlog, hsucceeded, u', hu', ?_⟩
  obtain ⟨e, he, hwords⟩ := Option.bind_eq_some_iff.mp hwritten
  have hfailed : e.succeeded = false := by
    have hmap := congrArg List.getLast? hsucceeded
    rw [List.getLast?_map, he] at hmap
    exact Option.some.inj hmap
  rw [(hlast e _ he hwords).2, hfailed]
  rfl

end Gateway

end ClimateBus
