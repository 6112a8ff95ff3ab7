import ClimateBus.Proofs.ExchangeCourse
import Mathlib

/-!
One call is one exchange.

A call that is refused leaves the line alone, and any other takes the course of an exchange once
(`Transfer.one_exchange`): its request is the only frame that is put on the line, and a reception is
tried only while nothing has failed and right after a look at the deadline that found time left.
-/
namespace ClimateBus

namespace LinkEvent

/-- The frame that is put on the line. -/
def frame? : LinkEvent → Option Bytes
  | .called (.transmit frame) _ => some frame
  | _ => none

/-- The frames that were put on the line, or should have been, in order. -/
def frames (events : List LinkEvent) : List Bytes := events.filterMap frame?

section Frames

variable {s : MasterSettings} {level : Bool} {lines : List ControlLine} {frame : Bytes}
  {expected : Nat} {events : List LinkEvent}

theorem frames_append (es es' : List LinkEvent) : frames (es ++ es') = frames es ++ frames es' :=
  List.filterMap_append

theorem Sets.frames (h : Sets level lines events) : frames events = [] := by
  induction h with
  | done => rfl
  | failed line lines => rfl
  | set line h ih => exact ih

theorem OfCollecting.frame? {e : LinkEvent} (h : e.OfCollecting) : e.frame? = none := by
  cases e with
  | checked passed => rfl
  | called call succeeded =>
    cases call with
    | transmit frame => exact h.elim
    | discard | setLine line level | drain | receive asked got => rfl

theorem Collects.frames {missing : Nat} (h : Collects missing events) : frames events = [] :=
  List.filterMap_eq_nil_iff.mpr fun e he => (h.ofCollecting e he).frame?

theorem Sends.frames (h : Sends lines frame events) :
    frames events = [] ∨ frames events = [frame] := by
  cases h with
  | blocked hraised _ => exact .inl hraised.frames
  | refused hraised _ =>
    rw [frames_append, hraised.frames]
    exact .inr rfl
  | sent hraised _ drained =>
    rw [frames_append, hraised.frames]
    exact .inr rfl

/-- A request is put on the line once at most. -/
theorem Course.frames (h : Course s frame expected events) :
    frames events = [] ∨ frames events = [frame] := by
  have hdiscard (es : List LinkEvent) :
      LinkEvent.frames (.called .discard true :: es) = LinkEvent.frames es := rfl
  cases h with
  | blocked => exact .inl rfl
  | unsent hsent hlowered _ =>
    rw [hdiscard, frames_append, hlowered.frames, List.append_nil]
    exact hsent.frames
  | late hsent hlowered _ =>
    rw [hdiscard, frames_append, frames_append, hlowered.frames, List.append_nil]
    show LinkEvent.frames _ ++ [] = [] ∨ LinkEvent.frames _ ++ [] = [frame]
    rw [List.append_nil]
    exact hsent.frames
  | @heard sent lowered collected hsent hlowered _ hcollected =>
    have hreply : LinkEvent.frames (.checked false :: collected) = [] := hcollected.frames
    rw [hdiscard, frames_append, frames_append, hlowered.frames, hreply, List.append_nil,
      List.append_nil]
    exact hsent.frames

end Frames

section Receptions

variable {s : MasterSettings} {lines : List ControlLine} {request : Bytes} {expected missing : Nat}
  {events before after : List LinkEvent} {e : LinkEvent}

/-- Everything went well so far, and there was time left just now. -/
def Ready (before : List LinkEvent) : Prop :=
  (∀ e ∈ before, e.Good) ∧ before.getLast? = some (.checked false)

theorem Ready.append (hevents : ∀ e ∈ events, e.Good) (h : Ready before) :
    Ready (events ++ before) := by
  obtain ⟨hgood, hlast⟩ := h
  refine ⟨List.forall_mem_append.mpr ⟨hevents, hgood⟩, ?_⟩
  rw [List.getLast?_append, hlast]
  rfl

theorem Sends.not_receives (h : Sends lines request events) : ∀ e ∈ events, ¬ e.Receives := by
  obtain ⟨raised, sent, rfl, hraised, hsent⟩ := h.exists_raised
  exact List.forall_mem_append.mpr ⟨hraised.not_receives, fun e he => (hsent e he).not_receives⟩

/-- A reception comes after events among which there is none. -/
theorem exists_of_append_eq {quiet rest : List LinkEvent} (hquiet : ∀ d ∈ quiet, ¬ d.Receives)
    (he : e.Receives) (h : quiet ++ rest = before ++ e :: after) :
    ∃ between, before = quiet ++ between ∧ rest = between ++ e :: after := by
  rcases List.append_eq_append_iff.mp h with ⟨between, hbefore, hrest⟩ | ⟨between, hmiddle, hrest⟩
  · exact ⟨between, hbefore, hrest⟩
  · cases between with
    | nil => exact ⟨[], by simpa using hmiddle.symm, hrest.symm⟩
    | cons d between =>
      obtain ⟨rfl, -⟩ := List.cons.inj hrest
      exact absurd he (hquiet e (by simp [hmiddle]))

/-- A reception follows a look at the deadline, or comes later. -/
theorem before_of_checked {d : LinkEvent} {rest : List LinkEvent} (he : e.Receives)
    (h : .checked false :: d :: rest = before ++ e :: after) :
    before = [.checked false] ∨
      ∃ later, before = .checked false :: d :: later ∧ rest = later ++ e :: after := by
  cases before with
  | nil =>
    obtain ⟨rfl, -⟩ := List.cons.inj h
    exact he.elim
  | cons c before =>
    obtain ⟨rfl, hnext⟩ := List.cons.inj h
    cases before with
    | nil => exact .inl rfl
    | cons c later =>
      obtain ⟨rfl, hlater⟩ := List.cons.inj hnext
      exact .inr ⟨later, rfl, hlater⟩

theorem ready_checked : Ready [.checked false] := ⟨by simp, rfl⟩

theorem Collects.ready (h : Collects missing events) (he : e.Receives)
    (hsplit : events = before ++ e :: after) : Ready before := by
  induction h generalizing before with
  | full => simp at hsplit
  | late _ =>
    cases before with
    | nil =>
      obtain ⟨rfl, -⟩ := List.cons.inj hsplit
      exact he.elim
    | cons c before => simp at hsplit
  | failed _ | silent _ =>
    rcases before_of_checked he hsplit with rfl | ⟨later, -, hnone⟩
    · exact ready_checked
    · simp at hnone
  | @piece missing got events _ _ _ ih =>
    rcases before_of_checked he hsplit with rfl | ⟨later, rfl, hlater⟩
    · exact ready_checked
    · have hfirst : ∀ d ∈ [checked false, called (.receive missing (some got)) true], d.Good := by
        simp
      exact (ih hlater).append hfirst

theorem Course.ready (h : Course s request expected events) (he : e.Receives)
    (hsplit : events = before ++ e :: after) : Ready before := by
  have hmem : e ∈ events := by simp [hsplit]
  have hquiet {sent lowered : List LinkEvent} (passed : Bool)
      (hsent : Sends (Exchange.directionLines s) request sent)
      (hlowered : Sets false (Exchange.directionLines s) lowered) :
      ∀ d ∈ .called .discard true :: (sent ++ lowered ++ [.checked passed]), ¬ d.Receives := by
    rw [List.forall_mem_cons, List.forall_mem_append, List.forall_mem_append,
      List.forall_mem_singleton]
    exact ⟨id, ⟨hsent.not_receives, hlowered.not_receives⟩, id⟩
  cases h with
  | blocked =>
    obtain rfl := List.mem_singleton.mp hmem
    exact he.elim
  | @unsent sent lowered hsent hlowered _ =>
    refine absurd he (hquiet true hsent hlowered e ?_)
    rw [← List.cons_append]
    exact List.mem_append_left _ hmem
  | late hsent hlowered _ => exact absurd he (hquiet true hsent hlowered e hmem)
  | @heard sent lowered collected hsent hlowered hgood hcollected =>
    have hparts : .called .discard true :: (sent ++ lowered ++ .checked false :: collected) =
        .called .discard true :: (sent ++ lowered ++ [.checked false]) ++ collected := by
      simp
    rw [hparts] at hsplit
    obtain ⟨between, rfl, hbetween⟩ := exists_of_append_eq (hquiet false hsent hlowered) he hsplit
    refine (hcollected.ready he hbetween).append ?_
    rw [List.forall_mem_cons, List.forall_mem_append, List.forall_mem_singleton]
    exact ⟨rfl, hgood, rfl⟩

end Receptions

end LinkEvent

namespace Transfer

open LinkEvent

variable {l : Type} [Link l]

/-- A call that is refused does nothing to the line, any other takes the course of an exchange. Its
request is put on the line once at most. Bytes are received, and each time just those that are still
missing, only if everything before went well and the deadline had not passed. -/
theorem one_exchange (x : Transfer) (m : Master l) :
    let events := (x.run m.watched).2.link.events
    (¬ x.Admissible → events = []) ∧
      (x.Admissible → Course m.settings (x.request m.settings.slave) x.expected events) ∧
      (frames events = [] ∨ frames events = [x.request m.settings.slave]) ∧
      AsksForRest x.expected events ∧
      ∀ before after e, e.Receives → events = before ++ e :: after →
        (∀ d ∈ before, d.Good) ∧ before.getLast? = some (.checked false) := by
  intro events
  have hrefused (hx : ¬ x.Admissible) : events = [] := by
    obtain ⟨e, hrun⟩ := run_refused hx
    simp only [events, hrun]
    rfl
  refine ⟨hrefused, fun hx => run_course hx m, ?frames, (x.run_exchanged m).asksForRest,
    ?receptions⟩
  case frames =>
    by_cases hx : x.Admissible
    · exact (run_course hx m).frames
    · rw [hrefused hx]
      exact .inl rfl
  case receptions =>
    intro before after e he hsplit
    by_cases hx : x.Admissible
    · exact (run_course hx m).ready he hsplit
    · rw [hrefused hx] at hsplit
      simp at hsplit

/-- A line with both directions switched that answers a write of three registers in two pieces. -/
def switchedMaster : Master ScriptedLink :=
  ⟨{ script := { receptions := [.deliver [0x01, 0x10, 0x07] false,
      .deliver [0xd0, 0x00, 0x03, 0x80, 0x85] false] } },
    { txEnable := some .rts, rxEnable := some .dtr }⟩

theorem one_exchange_demo :
    let x := Transfer.write 2000 [1, 2, 3]
    let events := (x.run switchedMaster.watched).2.link.events
    (events = [.called .discard true, .called (.setLine .rts true) true,
      .called (.setLine .dtr true) true, .called (.transmit (x.request 1)) true,
      .called .drain true, .called (.setLine .rts false) true, .called (.setLine .dtr false) true,
      .checked false, .checked false, .called (.receive 8 (some 3)) true,
      .checked false, .called (.receive 5 (some 5)) true]) ∧
      Course switchedMaster.settings (x.request 1) 8 events ∧ AsksForRest 8 events ∧
      ((Transfer.write 2000 []).run switchedMaster.watched).2.link.events = [] := by
  intro x events
  have hx : x.Admissible := by
    constructor <;> decide
  have hnone : ¬ (Transfer.write 2000 []).Admissible := fun h => h.1 rfl
  obtain ⟨-, hcourse, -, hasks, -⟩ := one_exchange x switchedMaster
  exact ⟨by decide +kernel, hcourse hx, hasks, (one_exchange _ switchedMaster).1 hnone⟩

end Transfer

end ClimateBus
