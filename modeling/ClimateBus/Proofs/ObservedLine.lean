import ClimateBus.Proofs.Transfers
import ClimateBus.Serial.Rehearsal
import Mathlib

/-!
An exchange as an observer at the line sees it.

Every call on the line is kept with its success, and so is every look at the deadline. Observing
changes nothing: the result of a call and the line it leaves are the same with and without an
observer (`Transfer.run_watched`).
-/
namespace ClimateBus

inductive LinkEvent where
  | called (call : LinkCall) (succeeded : Bool)
  /-- A look at the deadline. -/
  | checked (passed : Bool)
  deriving DecidableEq, Repr

/-- A line together with what happened on it, in order. -/
structure Observed (l : Type) where
  link : l
  events : List LinkEvent

namespace Observed

variable {l : Type} [Link l]

def after {α : Type} (t : Observed l) (call : LinkCall) (r : Except LineFailure α × l) :
    Except LineFailure α × Observed l :=
  (r.1, ⟨r.2, t.events ++ [.called call r.1.isOk]⟩)

instance : Link (Observed l) where
  start t timeoutMs := { t with link := Link.start t.link timeoutMs }
  expired t :=
    let r := Link.expired t.link
    (r.1, ⟨r.2, t.events ++ [.checked r.1]⟩)
  discard t := t.after .discard (Link.discard t.link)
  setLine t line level := t.after (.setLine line level) (Link.setLine t.link line level)
  transmit t frame := t.after (.transmit frame) (Link.transmit t.link frame)
  drain t := t.after .drain (Link.drain t.link)
  receive t asked :=
    let r := Link.receive t.link asked
    t.after (.receive asked (r.1.toOption.map List.length)) r

/-- What is left of a step when nobody watches. -/
def forget {α : Type} (r : α × Observed l) : α × l := (r.1, r.2.link)

variable {α : Type} {t t' : Observed l} {call : LinkCall} {r : Except LineFailure α × l}
  {result : Except LineFailure α}

omit [Link l] in
theorem of_forget {r : α × Observed l} {p : α × l} {a : α} (h : forget r = p)
    (hr : r = (a, t')) : p = (a, t'.link) := by
  rw [← h, hr]
  rfl

omit [Link l] in
theorem of_after (h : t.after call r = (result, t')) :
    r = (result, t'.link) ∧ t'.events = t.events ++ [.called call result.isOk] := by
  obtain ⟨rfl, rfl⟩ := Prod.mk.inj h
  exact ⟨rfl, rfl⟩

theorem of_expired {passed : Bool} (h : Link.expired t = (passed, t')) :
    Link.expired t.link = (passed, t'.link) ∧ t'.events = t.events ++ [.checked passed] := by
  obtain ⟨rfl, rfl⟩ := Prod.mk.inj h
  exact ⟨rfl, rfl⟩

/-- A reception is kept with the number of bytes it brought. -/
theorem of_receive {asked : Nat} {result : Except LineFailure Bytes}
    (h : Link.receive t asked = (result, t')) :
    Link.receive t.link asked = (result, t'.link) ∧
      t'.events =
        t.events ++ [.called (.receive asked (result.toOption.map List.length)) result.isOk] := by
  obtain ⟨hreceive, hevents⟩ := of_after h
  rw [hreceive] at hevents
  exact ⟨hreceive, hevents⟩

end Observed

namespace Exchange

variable {l : Type} [Link l]

theorem forget_setLines (t : Observed l) (level : Bool) (lines : List ControlLine) :
    Observed.forget (setLines t level lines) = setLines t.link level lines := by
  fun_induction setLines t level lines with
  | case1 t => rfl
  | case2 t line rest t' hset ih =>
    rw [ih, setLines, (Observed.of_after hset).1]
  | case3 t line rest e t' hset =>
    rw [setLines, (Observed.of_after hset).1]
    rfl

theorem forget_send (t : Observed l) (lines : List ControlLine) (request : Bytes) :
    Observed.forget (send t lines request) = send t.link lines request := by
  have hraised := forget_setLines t true lines
  fun_cases send t lines request with
  | case1 e t' hset =>
    simp only [send, Observed.of_forget hraised hset]
    rfl
  | case2 t' hset e t'' htransmit =>
    simp only [send, Observed.of_forget hraised hset, (Observed.of_after htransmit).1]
    rfl
  | case3 t' hset t'' htransmit =>
    simp only [send, Observed.of_forget hraised hset, (Observed.of_after htransmit).1]
    rfl

theorem forget_collect (t : Observed l) (expected : Nat) (got : Bytes) :
    Observed.forget (collect t expected got) = collect t.link expected got := by
  fun_induction collect t expected got with
  | case1 t got hlt t' hpassed =>
    rw [collect, dif_pos hlt, (Observed.of_expired hpassed).1]
    rfl
  | case2 t got hlt passed t' hpassed hopen e t'' hreceive =>
    simp only [collect, hlt, (Observed.of_expired hpassed).1, hopen,
      (Observed.of_after hreceive).1]
    rfl
  | case3 t got hlt passed t' hpassed hopen chunk t'' hreceive hnone =>
    simp only [collect, hlt, (Observed.of_expired hpassed).1, hopen,
      (Observed.of_after hreceive).1, hnone]
    rfl
  | case4 t got hlt passed t' hpassed hopen chunk t'' hreceive byte more hsome ih =>
    rw [ih]
    conv_rhs => rw [collect]
    simp only [hlt, (Observed.of_expired hpassed).1, hopen, (Observed.of_after hreceive).1, hsome]
    rfl
  | case5 t got hfull =>
    rw [collect, dif_neg hfull]
    rfl

theorem forget_dispatch (t : Observed l) (s : MasterSettings) (request : Bytes)
    (expected : Nat) : Observed.forget (dispatch t s request expected) =
      dispatch t.link s request expected := by
  have hdiscard {r : Except LineFailure Unit} {t' : Observed l}
      (h : Link.discard (Link.start t s.timeoutMs) = (r, t')) :
      Link.discard (Link.start t.link s.timeoutMs) = (r, t'.link) := (Observed.of_after h).1
  have hsend (t : Observed l) := forget_send t (directionLines s) request
  have hlower (t : Observed l) := forget_setLines t false (directionLines s)
  fun_cases dispatch t s request expected with
  | case1 e t₁ hdropped =>
    simp only [dispatch, hdiscard hdropped]
    rfl
  | case2 t₁ hdropped t₂ lowered t₃ hlowered e hsent =>
    simp only [dispatch, hdiscard hdropped, Observed.of_forget (hsend t₁) hsent,
      Observed.of_forget (hlower t₂) hlowered]
    rfl
  | case3 t₁ hdropped t₂ t₃ e hsent hlowered =>
    simp only [dispatch, hdiscard hdropped, Observed.of_forget (hsend t₁) hsent,
      Observed.of_forget (hlower t₂) hlowered]
    rfl
  | case4 t₁ hdropped t₂ t₃ passed t₄ hpassed hsent hlowered =>
    simp only [dispatch, hdiscard hdropped, Observed.of_forget (hsend t₁) hsent,
      Observed.of_forget (hlower t₂) hlowered, (Observed.of_expired hpassed).1]
    rfl

end Exchange

/-- The master, its line watched from now on. -/
def Master.watched {l : Type} (m : Master l) : Master (Observed l) := ⟨⟨m.link, []⟩, m.settings⟩

namespace Transfer

variable {l : Type} [Link l]

/-- An observer changes neither the result of a call nor the line. -/
theorem run_watched (x : Transfer) (m : Master l) :
    (x.run m.watched).1 = (x.run m).1 ∧ (x.run m.watched).2.link.link = (x.run m).2.link := by
  by_cases hx : x.Admissible
  · let w := m.watched
    have hdispatch : Observed.forget (Exchange.dispatch w.link w.settings
        (x.request w.settings.slave) x.expected) =
          Exchange.dispatch m.link m.settings (x.request m.settings.slave) x.expected :=
      Exchange.forget_dispatch _ _ _ _
    rw [run_eq hx m.watched, run_eq hx m, ← hdispatch]
    generalize Exchange.dispatch w.link w.settings (x.request w.settings.slave) x.expected = sent
    obtain ⟨result, t⟩ := sent
    cases result with
    | error e => exact ⟨rfl, rfl⟩
    | ok _ =>
      have hcollect := Exchange.forget_collect t x.expected []
      simp only [Observed.forget] at hcollect ⊢
      rw [← hcollect]
      exact ⟨rfl, rfl⟩
  · obtain ⟨e, hrun⟩ := run_refused hx
    rw [hrun _ m, hrun _ m.watched]
    exact ⟨rfl, rfl⟩

end Transfer

end ClimateBus
