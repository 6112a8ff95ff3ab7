import ClimateBus.Proofs.ObservedLine
import Mathlib

/-!
The course of an exchange, call by call.

What is done to a line next is settled by what the line answered before. The input is dropped, the
lines are raised one by one up to the first failure, the frame is sent if all are up, the line is
waited for if it was sent, and the lines are lowered one by one up to the first failure
(`LinkEvent.Sends`, `LinkEvent.Sets`). If nothing failed so far and the deadline has not passed, the
reply is received piece by piece (`LinkEvent.Collects`). Every call that is let through takes such a
course (`LinkEvent.Course`, `Transfer.run_course`).
-/
namespace ClimateBus

/-- Each reception asks for the bytes still missing, which are so many at first. -/
def AsksForRest : Nat → List LinkEvent → Prop
  | _, [] => True
  | missing, .called (.receive asked got) _ :: rest =>
    asked = missing ∧ AsksForRest (missing - got.getD 0) rest
  | missing, _ :: rest => AsksForRest missing rest

namespace LinkEvent

/-- The level that a line is set to. -/
def level? (line : ControlLine) : LinkEvent → Option Bool
  | .called (.setLine c level) _ => if c = line then some level else none
  | _ => none

/-- The levels that a line was set to, or should have been, in order. -/
def levels (line : ControlLine) (events : List LinkEvent) : List Bool :=
  events.filterMap (level? line)

/-- The event is a call to receive. -/
def Receives : LinkEvent → Prop
  | .called (.receive _ _) _ => True
  | _ => False

/-- A call that succeeded, or a deadline that had not passed. -/
def Good : LinkEvent → Prop
  | .called _ succeeded => succeeded = true
  | .checked passed => passed = false

@[simp] theorem good_called {call : LinkCall} {succeeded : Bool} :
    (called call succeeded).Good ↔ succeeded = true := Iff.rfl

@[simp] theorem good_checked {passed : Bool} : (checked passed).Good ↔ passed = false := Iff.rfl

/-- The event is part of sending a frame. -/
def OfSending (frame : Bytes) : LinkEvent → Prop
  | .called (.transmit sent) _ => sent = frame
  | .called .drain _ => True
  | _ => False

/-- The event is part of collecting a reply. -/
def OfCollecting : LinkEvent → Prop
  | .checked _ => True
  | .called (.receive _ _) _ => True
  | _ => False

/-- Lines are set to one level in order, up to the first failure. -/
inductive Sets (level : Bool) : List ControlLine → List LinkEvent → Prop
  | done : Sets level [] []
  | failed (line : ControlLine) (lines : List ControlLine) :
      Sets level (line :: lines) [.called (.setLine line level) false]
  | set (line : ControlLine) {lines : List ControlLine} {events : List LinkEvent}
      (h : Sets level lines events) :
      Sets level (line :: lines) (.called (.setLine line level) true :: events)

/-- A frame is sent once every line is raised, and waited for once it is sent. -/
inductive Sends (lines : List ControlLine) (frame : Bytes) : List LinkEvent → Prop
  | blocked {raised : List LinkEvent} (hraised : Sets true lines raised)
      (hfailed : ¬ ∀ e ∈ raised, e.Good) : Sends lines frame raised
  | refused {raised : List LinkEvent} (hraised : Sets true lines raised)
      (hgood : ∀ e ∈ raised, e.Good) :
      Sends lines frame (raised ++ [.called (.transmit frame) false])
  | sent {raised : List LinkEvent} (hraised : Sets true lines raised)
      (hgood : ∀ e ∈ raised, e.Good) (drained : Bool) :
      Sends lines frame (raised ++ [.called (.transmit frame) true, .called .drain drained])

/-- Bytes are received until none is missing, as long as the deadline has not passed and every
reception brings some. -/
inductive Collects : Nat → List LinkEvent → Prop
  | full : Collects 0 []
  | late {missing : Nat} (h : 0 < missing) : Collects missing [.checked true]
  | failed {missing : Nat} (h : 0 < missing) :
      Collects missing [.checked false, .called (.receive missing none) false]
  | silent {missing : Nat} (h : 0 < missing) :
      Collects missing [.checked false, .called (.receive missing (some 0)) true]
  | piece {missing got : Nat} {events : List LinkEvent} (h : 0 < missing) (hgot : 0 < got)
      (hrest : Collects (missing - got) events) :
      Collects missing (.checked false :: .called (.receive missing (some got)) true :: events)

/-- What an exchange does to a line, if it is let through. -/
inductive Course (s : MasterSettings) (request : Bytes) (expected : Nat) :
    List LinkEvent → Prop
  | blocked : Course s request expected [.called .discard false]
  | unsent {sent lowered : List LinkEvent}
      (hsent : Sends (Exchange.directionLines s) request sent)
      (hlowered : Sets false (Exchange.directionLines s) lowered)
      (hfailed : ¬ ∀ e ∈ sent ++ lowered, e.Good) :
      Course s request expected (.called .discard true :: (sent ++ lowered))
  | late {sent lowered : List LinkEvent}
      (hsent : Sends (Exchange.directionLines s) request sent)
      (hlowered : Sets false (Exchange.directionLines s) lowered)
      (hgood : ∀ e ∈ sent ++ lowered, e.Good) :
      Course s request expected (.called .discard true :: (sent ++ lowered ++ [.checked true]))
  | heard {sent lowered collected : List LinkEvent}
      (hsent : Sends (Exchange.directionLines s) request sent)
      (hlowered : Sets false (Exchange.directionLines s) lowered)
      (hgood : ∀ e ∈ sent ++ lowered, e.Good) (hcollected : Collects expected collected) :
      Course s request expected
        (.called .discard true :: (sent ++ lowered ++ .checked false :: collected))

/-- The shape of an exchange, whatever failed in it. -/
inductive Exchanged (s : MasterSettings) (request : Bytes) (expected : Nat) :
    List LinkEvent → Prop
  | refused : Exchanged s request expected []
  | blocked : Exchanged s request expected [.called .discard false]
  | sent {raised sent lowered collected : List LinkEvent}
      (hraised : Sets true (Exchange.directionLines s) raised)
      (hsent : ∀ e ∈ sent, e.OfSending request)
      (hlowered : Sets false (Exchange.directionLines s) lowered)
      (hcollected : ∀ e ∈ collected, e.OfCollecting) (hasks : AsksForRest expected collected) :
      Exchanged s request expected
        (.called .discard true :: (raised ++ sent ++ lowered ++ collected))

/-- What comes before a reception does not change what it asks for. -/
theorem asksForRest_append {missing : Nat} {quiet events : List LinkEvent}
    (hquiet : ∀ e ∈ quiet, ¬ e.Receives) (h : AsksForRest missing events) :
    AsksForRest missing (quiet ++ events) := by
  induction quiet with
  | nil => exact h
  | cons e rest ih =>
    have hrest : AsksForRest missing (rest ++ events) :=
      ih fun d hd => hquiet d (List.mem_cons_of_mem _ hd)
    cases e with
    | checked passed => exact hrest
    | called call succeeded =>
      cases call with
      | discard | setLine line level | transmit frame | drain => exact hrest
      | receive asked got => exact absurd trivial (hquiet _ List.mem_cons_self)

theorem OfSending.not_receives {frame : Bytes} {e : LinkEvent} (h : e.OfSending frame) :
    ¬ e.Receives := by
  cases e with
  | checked passed => exact id
  | called call succeeded =>
    cases call with
    | receive asked got => exact fun _ => h
    | discard | setLine line level | transmit sent | drain => exact id

theorem Sets.not_receives {level : Bool} {lines : List ControlLine} {es : List LinkEvent}
    (h : Sets level lines es) : ∀ e ∈ es, ¬ e.Receives := by
  induction h with
  | done => simp
  | failed line lines => simp [Receives]
  | set line h ih => simpa [Receives] using ih

/-- In the whole of an exchange, each reception asks for what is still missing of the reply. -/
theorem Exchanged.asksForRest {s : MasterSettings} {request : Bytes} {expected : Nat}
    {events : List LinkEvent} (h : Exchanged s request expected events) :
    AsksForRest expected events := by
  cases h with
  | refused => trivial
  | blocked => trivial
  | @sent raised sent lowered collected hraised hsent hlowered _ hasks =>
    show AsksForRest expected (raised ++ sent ++ lowered ++ collected)
    refine asksForRest_append (fun e he => ?_) hasks
    rcases List.mem_append.mp he with he | he
    · rcases List.mem_append.mp he with he | he
      · exact hraised.not_receives e he
      · exact (hsent e he).not_receives
    · exact hlowered.not_receives e he

theorem levels_eq_nil {line : ControlLine} {events : List LinkEvent}
    (h : ∀ e ∈ events, e.level? line = none) : levels line events = [] :=
  List.filterMap_eq_nil_iff.mpr h

theorem OfSending.level? {frame : Bytes} {e : LinkEvent} (h : e.OfSending frame)
    (line : ControlLine) : e.level? line = none := by
  cases e with
  | checked passed => rfl
  | called call succeeded =>
    cases call with
    | setLine c level => exact h.elim
    | discard | transmit frame | drain | receive asked got => rfl

theorem OfCollecting.level? {e : LinkEvent} (h : e.OfCollecting) (line : ControlLine) :
    e.level? line = none := by
  cases e with
  | checked passed => rfl
  | called call succeeded =>
    cases call with
    | setLine c level => exact h.elim
    | discard | transmit frame | drain | receive asked got => rfl

/-- A frame is sent after the lines were raised. -/
theorem Sends.exists_raised {lines : List ControlLine} {frame : Bytes} {events : List LinkEvent}
    (h : Sends lines frame events) : ∃ raised sent, events = raised ++ sent ∧
      Sets true lines raised ∧ ∀ e ∈ sent, e.OfSending frame := by
  cases h with
  | blocked hraised _ => exact ⟨_, [], (List.append_nil _).symm, hraised, by simp⟩
  | refused hraised _ => exact ⟨_, _, rfl, hraised, by simp [OfSending]⟩
  | sent hraised _ drained => exact ⟨_, _, rfl, hraised, by simp [OfSending]⟩

theorem Collects.ofCollecting {missing : Nat} {events : List LinkEvent}
    (h : Collects missing events) : ∀ e ∈ events, e.OfCollecting := by
  induction h with
  | full => simp
  | late _ | failed _ | silent _ => simp [OfCollecting]
  | piece _ _ _ ih => simpa [OfCollecting] using ih

theorem Collects.asksForRest {missing : Nat} {events : List LinkEvent}
    (h : Collects missing events) : AsksForRest missing events := by
  induction h with
  | full => trivial
  | late _ => trivial
  | failed _ => exact ⟨rfl, trivial⟩
  | silent _ => exact ⟨rfl, trivial⟩
  | piece _ _ _ ih => exact ⟨rfl, ih⟩

theorem Course.exchanged {s : MasterSettings} {request : Bytes} {expected : Nat}
    {events : List LinkEvent} (h : Course s request expected events) :
    Exchanged s request expected events := by
  cases h with
  | blocked => exact .blocked
  | @unsent sent lowered hsent hlowered _ =>
    obtain ⟨raised, sent, rfl, hraised, hsending⟩ := hsent.exists_raised
    have hnone : ∀ e ∈ ([] : List LinkEvent), e.OfCollecting := by simp
    have hshape := Exchanged.sent hraised hsending hlowered hnone
      (show AsksForRest expected [] from trivial)
    rwa [List.append_nil] at hshape
  | @late sent lowered hsent hlowered _ =>
    obtain ⟨raised, sent, rfl, hraised, hsending⟩ := hsent.exists_raised
    exact .sent hraised hsending hlowered (by simp [OfCollecting]) trivial
  | @heard sent lowered collected hsent hlowered _ hcollected =>
    obtain ⟨raised, sent, rfl, hraised, hsending⟩ := hsent.exists_raised
    exact .sent hraised hsending hlowered
      (by simpa [OfCollecting] using hcollected.ofCollecting) hcollected.asksForRest

end LinkEvent

namespace Exchange

open LinkEvent

variable {l : Type} [Link l]

theorem isOk_iff {r : Except LineFailure Unit} : r.isOk = true ↔ r = .ok () := by
  cases r with
  | error e => simp [Except.isOk, Except.toBool]
  | ok _ => simp [Except.isOk, Except.toBool]

theorem setLines_events (t : Observed l) (level : Bool) (lines : List ControlLine) :
    ∃ es, (setLines t level lines).2.events = t.events ++ es ∧ Sets level lines es ∧
      ((setLines t level lines).1 = .ok () ↔ ∀ e ∈ es, e.Good) := by
  fun_induction setLines t level lines with
  | case1 t => exact ⟨[], by simp, .done, by simp⟩
  | case2 t line rest t' hset ih =>
    obtain ⟨es, hevents, hsets, hgood⟩ := ih
    refine ⟨_ :: es, ?_, hsets.set line, ?_⟩
    · rw [hevents, (Observed.of_after hset).2, List.append_assoc]
      rfl
    · rw [hgood]
      simp
  | case3 t line rest e t' hset =>
    exact ⟨_, (Observed.of_after hset).2, .failed line rest, by
      simp [Except.isOk, Except.toBool]⟩

theorem send_events (t : Observed l) (lines : List ControlLine) (request : Bytes) :
    ∃ es, (send t lines request).2.events = t.events ++ es ∧ Sends lines request es ∧
      ((send t lines request).1 = .ok () ↔ ∀ e ∈ es, e.Good) := by
  obtain ⟨raised, hraised, hsets, hgood⟩ := setLines_events t true lines
  fun_cases send t lines request with
  | case1 e t' hset =>
    rw [hset] at hraised hgood
    have hfailed : ¬ ∀ e ∈ raised, e.Good := by
      rw [← hgood]
      simp
    exact ⟨raised, hraised, .blocked hsets hfailed, by simpa using hfailed⟩
  | case2 t' hset e t'' htransmit =>
    rw [hset] at hraised hgood
    refine ⟨_, ?_, .refused hsets (hgood.mp rfl), ?_⟩
    · rw [(Observed.of_after htransmit).2, hraised, List.append_assoc]
      rfl
    · simp
  | case3 t' hset t'' htransmit =>
    rw [hset] at hraised hgood
    refine ⟨_, ?_, .sent hsets (hgood.mp rfl) (Link.drain t''.link).1.isOk, ?_⟩
    · have hdrain : (Link.drain t'').2.events =
          t''.events ++ [.called .drain (Link.drain t''.link).1.isOk] := rfl
      rw [hdrain, (Observed.of_after htransmit).2, hraised]
      simp [Except.isOk, Except.toBool]
    · have hdrained : (Link.drain t'').1 = .ok () ↔ (Link.drain t''.link).1.isOk = true :=
        isOk_iff.symm
      have hup := hgood.mp rfl
      rw [hdrained, List.forall_mem_append]
      simpa using fun _ => hup

theorem collect_events (t : Observed l) (expected : Nat) (got : Bytes) :
    ∃ es, (collect t expected got).2.events = t.events ++ es ∧
      Collects (expected - got.length) es := by
  fun_induction collect t expected got with
  | case1 t got hlt t' hpassed =>
    exact ⟨_, (Observed.of_expired hpassed).2, .late (by omega)⟩
  | case2 t got hlt passed t' hpassed hopen e t'' hreceive =>
    obtain rfl : passed = false := Bool.eq_false_of_not_eq_true hopen
    have hevents := (Observed.of_receive hreceive).2
    rw [(Observed.of_expired hpassed).2, List.append_assoc] at hevents
    exact ⟨_, hevents, .failed (by omega)⟩
  | case3 t got hlt passed t' hpassed hopen chunk t'' hreceive hnone =>
    obtain rfl : passed = false := Bool.eq_false_of_not_eq_true hopen
    obtain rfl : chunk = [] := by
      rcases List.take_eq_nil_iff.mp hnone with hfull | hsilent
      · omega
      · exact hsilent
    have hevents := (Observed.of_receive hreceive).2
    rw [(Observed.of_expired hpassed).2, List.append_assoc] at hevents
    exact ⟨_, hevents, .silent (by omega)⟩
  | case4 t got hlt passed t' hpassed hopen chunk t'' hreceive byte more hsome ih =>
    obtain rfl : passed = false := Bool.eq_false_of_not_eq_true hopen
    obtain ⟨es, hevents, hrest⟩ := ih
    rw [(Observed.of_receive hreceive).2, (Observed.of_expired hpassed).2, List.append_assoc,
      List.append_assoc] at hevents
    -- What is missing next is what this reception did not bring.
    have hbrought := congrArg List.length hsome
    simp only [List.length_take, List.length_cons] at hbrought
    have hmissing : expected - (got ++ byte :: more).length =
        expected - got.length - chunk.length := by
      simp only [List.length_append, List.length_cons]
      omega
    rw [hmissing] at hrest
    exact ⟨_, hevents, .piece (by omega) (by omega) hrest⟩
  | case5 t got hfull =>
    have hnone : expected - got.length = 0 := by omega
    exact ⟨[], (List.append_nil _).symm, hnone ▸ .full⟩

/-- Whatever became of a frame, the lines are lowered after it. -/
theorem send_setLines_events {t t₁ t₂ : Observed l} {s : MasterSettings} {request : Bytes}
    {result result' : Except LineFailure Unit}
    (hsent : send t (directionLines s) request = (result, t₁))
    (hlowered : setLines t₁ false (directionLines s) = (result', t₂)) :
    ∃ sent lowered, t₂.events = t.events ++ (sent ++ lowered) ∧
      Sends (directionLines s) request sent ∧ Sets false (directionLines s) lowered ∧
      (result = .ok () ∧ result' = .ok () ↔ ∀ e ∈ sent ++ lowered, e.Good) := by
  obtain ⟨sent, hsend, hsends, hsentWell⟩ := send_events t (directionLines s) request
  obtain ⟨lowered, hlower, hsets, hloweredWell⟩ := setLines_events t₁ false (directionLines s)
  rw [hsent] at hsend hsentWell
  rw [hlowered] at hlower hloweredWell
  refine ⟨sent, lowered, ?_, hsends, hsets, ?_⟩
  · calc t₂.events = t₁.events ++ lowered := hlower
      _ = t.events ++ sent ++ lowered := by rw [← hsend]
      _ = t.events ++ (sent ++ lowered) := List.append_assoc _ _ _
  · rw [List.forall_mem_append, ← hsentWell, ← hloweredWell]

/-- If the frame was not sent or the lines were not lowered, that was all. -/
theorem unsent_course {t t₁ t₂ t₃ : Observed l} {s : MasterSettings} {request : Bytes}
    {result result' : Except LineFailure Unit} (expected : Nat)
    (hdropped : t₁.events = t.events ++ [.called .discard true])
    (hsent : send t₁ (directionLines s) request = (result, t₂))
    (hlowered : setLines t₂ false (directionLines s) = (result', t₃))
    (hfailed : ¬ (result = .ok () ∧ result' = .ok ())) :
    ∃ es, t₃.events = t.events ++ es ∧ Course s request expected es := by
  obtain ⟨sent, lowered, hevents, hsends, hsets, hwell⟩ := send_setLines_events hsent hlowered
  rw [hdropped, List.append_assoc] at hevents
  have hcourse : Course s request expected _ := .unsent hsends hsets (hwell.not.mp hfailed)
  exact ⟨_, hevents, hcourse⟩

/-- What is done before the reply: the whole course if it ends in an error, or its beginning. -/
theorem dispatch_events (t : Observed l) (s : MasterSettings) (request : Bytes) (expected : Nat) :
    ∃ es, (dispatch t s request expected).2.events = t.events ++ es ∧
      (∀ e, (dispatch t s request expected).1 = .error e → Course s request expected es) ∧
      ((dispatch t s request expected).1 = .ok () → ∀ collected, Collects expected collected →
        Course s request expected (es ++ collected)) := by
  have hdiscard {t₁ : Observed l} (h : Link.discard (Link.start t s.timeoutMs) = (.ok (), t₁)) :
      t₁.events = t.events ++ [.called .discard true] := (Observed.of_after h).2
  fun_cases dispatch t s request expected with
  | case1 e t₁ hdropped =>
    exact ⟨_, (Observed.of_after hdropped).2, fun _ _ => .blocked, by simp⟩
  | case2 t₁ hdropped t₂ result t₃ hlowered e hsent =>
    obtain ⟨es, hevents, hcourse⟩ :=
      unsent_course expected (hdiscard hdropped) hsent hlowered (by simp)
    exact ⟨es, hevents, fun _ _ => hcourse, by simp⟩
  | case3 t₁ hdropped t₂ t₃ e hsent hlowered =>
    obtain ⟨es, hevents, hcourse⟩ :=
      unsent_course expected (hdiscard hdropped) hsent hlowered (by simp)
    exact ⟨es, hevents, fun _ _ => hcourse, by simp⟩
  | case4 t₁ hdropped t₂ t₃ passed t₄ hpassed hsent hlowered =>
    obtain ⟨sent, lowered, hevents, hsends, hsets, hwell⟩ := send_setLines_events hsent hlowered
    have hgood : ∀ e ∈ sent ++ lowered, e.Good := hwell.mp ⟨rfl, rfl⟩
    have hchecked := (Observed.of_expired hpassed).2
    rw [hevents, hdiscard hdropped, List.append_assoc, List.append_assoc] at hchecked
    refine ⟨_, hchecked, ?failed, ?sent⟩
    case failed =>
      intro e he
      cases passed with
      | false => cases he
      | true =>
        have hcourse : Course s request expected _ := .late hsends hsets hgood
        simpa using hcourse
    case sent =>
      intro hok collected hcollected
      cases passed with
      | true => cases hok
      | false =>
        have hcourse : Course s request expected _ := .heard hsends hsets hgood hcollected
        simpa using hcourse

end Exchange

namespace Transfer

open LinkEvent

variable {l : Type} [Link l] {x : Transfer}

/-- A call that is let through takes the course of an exchange. -/
theorem run_course (hx : x.Admissible) (m : Master l) :
    Course m.settings (x.request m.settings.slave) x.expected (x.run m.watched).2.link.events := by
  let w := m.watched
  obtain ⟨es, hevents, hfailed, hsent⟩ :=
    Exchange.dispatch_events w.link w.settings (x.request w.settings.slave) x.expected
  rw [run_eq hx m.watched]
  generalize Exchange.dispatch w.link w.settings (x.request w.settings.slave) x.expected = sent
    at hevents hfailed hsent ⊢
  obtain ⟨result, t⟩ := sent
  cases result with
  | error e =>
    dsimp only at hevents ⊢
    rw [hevents]
    exact hfailed e rfl
  | ok _ =>
    obtain ⟨collected, hcollect, hcollected⟩ := Exchange.collect_events t x.expected []
    dsimp only at hevents hcollect ⊢
    rw [hcollect, hevents]
    exact hsent rfl collected hcollected

/-- The whole of a call on a line. -/
theorem run_exchanged (x : Transfer) (m : Master l) :
    Exchanged m.settings (x.request m.settings.slave) x.expected
      (x.run m.watched).2.link.events := by
  by_cases hx : x.Admissible
  · exact (run_course hx m).exchanged
  · obtain ⟨e, hrun⟩ := run_refused hx
    rw [hrun]
    exact .refused

end Transfer

end ClimateBus
