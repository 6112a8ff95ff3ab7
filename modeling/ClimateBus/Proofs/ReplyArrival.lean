import ClimateBus.Proofs.ScriptedExchange
import ClimateBus.Proofs.ExchangeCourse
import Mathlib

/-!
What a call makes of the bytes of a reply, and of when they arrive.

A call succeeds exactly if its request leaves the wire in time and the reply is complete, and says
what it should, by the end of the delivery during which the deadline passes
(`Transfer.accepted_iff_complete`). How the bytes that come before the deadline are cut into
deliveries makes no difference (`Transfer.outcome_of_stream`).
-/
namespace ClimateBus

namespace Reception

variable {rs : List Reception} {expected : Nat}

theorem overdue_of_failure {e : LineFailure} (h : failure? rs = some e) : overdue rs = [] := by
  simp only [failure?, overdue] at h ⊢
  split at h
  next hnext => rw [hnext]
  next => cases h

theorem collected_of_no_failure (h : failure? rs = none) :
    collected expected [] rs = .ok ((prompt rs ++ overdue rs).take expected) := by
  simp only [collected, h, List.nil_append]
  split
  next hfull => rw [List.take_append_of_le_length hfull]
  next => rfl

/-- The bytes of deliveries in time up to a silence, however they are cut. -/
theorem stream_of_chunks {chunks : List Bytes} {rest : List Reception}
    (hchunks : ∀ chunk ∈ chunks, chunk ≠ [])
    (hrest : ∀ r ∈ rest.head?, ∃ late, r = .deliver [] late) :
    prompt (chunks.map (.deliver · false) ++ rest) = chunks.flatten ∧
      overdue (chunks.map (.deliver · false) ++ rest) = [] ∧
      failure? (chunks.map (.deliver · false) ++ rest) = none := by
  induction chunks with
  | nil =>
    cases rest with
    | nil => exact ⟨rfl, rfl, rfl⟩
    | cons r rest =>
      obtain ⟨late, rfl⟩ := hrest r rfl
      have hsilent : (deliver [] late).inTime = false := rfl
      simp only [List.map_nil, List.nil_append, prompt_cons_of_not hsilent, overdue, failure?,
        next?_cons_of_not hsilent]
      cases late <;> simp
  | cons chunk more ih =>
    obtain ⟨hprompt, hoverdue, hfailure⟩ :=
      ih fun c hc => hchunks c (List.mem_cons_of_mem _ hc)
    have hin : (deliver chunk false).inTime = true :=
      inTime_deliver (hchunks chunk List.mem_cons_self) false
    simp only [List.map_cons, List.cons_append, prompt_cons hin, overdue, failure?, next?_cons hin,
      Reception.bytes, List.flatten_cons, List.append_cancel_left_eq]
    exact ⟨hprompt, hoverdue, hfailure⟩

end Reception

namespace Transfer

open Reception

variable {x : Transfer}

theorem conclude_take (slave : UInt8) (stream : Bytes) :
    x.conclude slave (.ok (stream.take x.expected)) =
      if stream.length < x.expected then .error (.timeout x.expected stream.length)
      else x.verdict slave (stream.take x.expected) := by
  simp only [conclude, List.length_take]
  by_cases hshort : stream.length < x.expected
  · rw [min_eq_right hshort.le, if_pos hshort]
  · rw [min_eq_left (not_lt.mp hshort), if_neg (Nat.lt_irrefl _), if_neg hshort]

theorem run_of_dispatch_error (hx : x.Admissible) {m : Master ScriptedLink} {e : TransportError}
    (h : (Exchange.dispatch m.link m.settings (x.request m.settings.slave) x.expected).1 =
      .error e) : (x.run m).1 = .error e := by
  rw [run_eq hx]
  split
  next e' link hsent =>
    rw [hsent] at h
    exact congrArg Except.error (Except.error.inj h)
  next link hsent =>
    rw [hsent] at h
    cases h

theorem sendsInTime_of_ok (hx : x.Admissible) {m : Master ScriptedLink} {ws : Words}
    (hok : (x.run m).1 = .ok ws) : m.link.SendsInTime m.settings := by
  have hdispatch : (Exchange.dispatch m.link m.settings (x.request m.settings.slave)
      x.expected).1 = .ok () := by
    cases hsent : (Exchange.dispatch m.link m.settings (x.request m.settings.slave)
      x.expected).1 with
    | error e =>
      rw [run_of_dispatch_error hx hsent] at hok
      cases hok
    | ok _ => rfl
  exact Exchange.sendsInTime_of_dispatch hdispatch

/-- Once a request has left the wire, a call comes down to what it collects. -/
theorem run_of_sendsInTime (hx : x.Admissible) {m : Master ScriptedLink}
    (h : m.link.SendsInTime m.settings) :
    (x.run m).1 =
      x.conclude m.settings.slave (collected x.expected [] m.link.script.receptions) := by
  have hlate : (m.link.listening m.settings).late = false := h.not_late
  rw [run_eq hx, Exchange.dispatch_of_sendsInTime h]
  dsimp only
  rw [Exchange.collect_scripted hlate (Nat.zero_le _)]
  rfl

theorem run_conserves (hx : x.Admissible) {m : Master ScriptedLink}
    (h : m.link.SendsInTime m.settings) {reply : Bytes}
    (hreply : collected x.expected [] m.link.script.receptions = .ok reply) :
    reply ++ (x.run m).2.link.pending = m.link.pending := by
  have hlate : (m.link.listening m.settings).late = false := h.not_late
  have hcollect : (Exchange.collect (m.link.listening m.settings) x.expected []).1 = .ok reply := by
    rw [Exchange.collect_scripted hlate (Nat.zero_le _)]
    exact hreply
  rw [run_eq hx, Exchange.dispatch_of_sendsInTime h]
  exact Exchange.collect_conserves (Prod.ext hcollect rfl)

/-- A proper reply has been collected exactly if it was complete when the deadline passed, or the
delivery then under way completed it. -/
theorem conclude_collected_eq_ok {slave : UInt8} {rs : List Reception} {ws : Words} :
    x.conclude slave (collected x.expected [] rs) = .ok ws ↔
      x.expected ≤ (prompt rs ++ overdue rs).length ∧
        x.verdict slave ((prompt rs ++ overdue rs).take x.expected) = .ok ws := by
  have htaken (stream : Bytes) : x.conclude slave (.ok (stream.take x.expected)) = .ok ws ↔
      x.expected ≤ stream.length ∧ x.verdict slave (stream.take x.expected) = .ok ws := by
    rw [conclude_take]
    split_ifs with hshort
    · simp [hshort]
    · simp [Nat.not_lt.mp hshort]
  cases hfailure : failure? rs with
  | none => rw [collected_of_no_failure hfailure, htaken]
  | some e =>
    rw [overdue_of_failure hfailure, List.append_nil, ← htaken]
    simp only [collected, hfailure, List.nil_append]
    split_ifs with hfull
    · exact Iff.rfl
    · rw [htaken]
      simp [conclude, hfull]

/-- A call succeeds exactly if its request leaves the wire in time and a proper reply is complete by
the end of the delivery during which the deadline passes. If the deadline passes before, or the
reply is still too short then, the call runs out of time. -/
theorem accepted_iff_complete (x : Transfer) (m : Master ScriptedLink) :
    let stream := prompt m.link.script.receptions ++ overdue m.link.script.receptions
    (∀ ws, (x.run m).1 = .ok ws ↔
      x.Admissible ∧ m.link.SendsInTime m.settings ∧ x.expected ≤ stream.length ∧
        x.verdict m.settings.slave (stream.take x.expected) = .ok ws) ∧
    (x.Admissible → m.link.Overruns m.settings →
      (x.run m).1 = .error (.timeout x.expected 0)) ∧
    (x.Admissible → m.link.SendsInTime m.settings → failure? m.link.script.receptions = none →
      stream.length < x.expected → (x.run m).1 = .error (.timeout x.expected stream.length)) := by
  intro stream
  refine ⟨?accepted, ?overrun, ?short⟩
  case accepted =>
    intro ws
    constructor
    · intro hok
      have hx : x.Admissible := by
        by_contra hx
        obtain ⟨e, hrun⟩ := run_refused hx
        rw [hrun] at hok
        cases hok
      have hsends := sendsInTime_of_ok hx hok
      rw [run_of_sendsInTime hx hsends] at hok
      exact ⟨hx, hsends, conclude_collected_eq_ok.mp hok⟩
    · rintro ⟨hx, hsends, hcomplete⟩
      rw [run_of_sendsInTime hx hsends]
      exact conclude_collected_eq_ok.mpr hcomplete
  case overrun =>
    intro hx hoverruns
    exact run_of_dispatch_error hx (Exchange.dispatch_of_overruns hoverruns)
  case short =>
    intro hx hsends hfailure hshort
    rw [run_of_sendsInTime hx hsends, collected_of_no_failure hfailure, conclude_take,
      if_pos hshort]

/-- The echo of a write whose last byte comes when the deadline has passed. -/
def lateEcho : Master ScriptedLink :=
  ⟨{ script := { receptions :=
      [.deliver [0x01, 0x10, 0x07, 0xd0, 0x00, 0x03, 0x80] false, .deliver [0x85] true] } }, {}⟩

/-- The same without the last byte. -/
def cutEcho : Master ScriptedLink :=
  ⟨{ script := { receptions :=
      [.deliver [0x01, 0x10, 0x07, 0xd0, 0x00, 0x03, 0x80] false] } }, {}⟩

/-- A line on which requests take too long to leave the wire. -/
def slowWire : Master ScriptedLink := ⟨{ script := { drainLate := true } }, {}⟩

theorem accepted_iff_complete_demo :
    let x := Transfer.write 2000 [1, 2, 3]
    (x.expected = 8 ∧ (prompt lateEcho.link.script.receptions).length = 7 ∧
        (x.run lateEcho).1 = .ok []) ∧
      (x.run slowWire).1 = .error (.timeout 8 0) ∧ (x.run cutEcho).1 = .error (.timeout 8 7) := by
  have hx : (Transfer.write 2000 [1, 2, 3]).Admissible := by
    constructor <;> decide
  have hlate : lateEcho.link.SendsInTime lateEcho.settings := .of_receptions rfl (by decide)
  have hcut : cutEcho.link.SendsInTime cutEcho.settings := .of_receptions rfl (by decide)
  have hslow : slowWire.link.Overruns slowWire.settings :=
    ⟨⟨rfl, Script.linesHold_of_none rfl, rfl⟩,
      .inr ⟨rfl, Script.linesHold_of_none rfl, .inr rfl⟩⟩
  refine ⟨⟨rfl, rfl, ?_⟩, (accepted_iff_complete _ slowWire).2.1 hx hslow,
    (accepted_iff_complete _ cutEcho).2.2 hx hcut rfl (by decide)⟩
  exact ((accepted_iff_complete _ lateEcho).1 []).mpr
    ⟨hx, hlate, by decide, by decide +kernel⟩

/-- However a stream of bytes is cut into deliveries before the deadline, a call makes the same of
it: it judges the first bytes of the stream, as many as it expects, or runs out of time if there are
not so many. It asks for no byte beyond them and leaves these on the line. -/
theorem outcome_of_stream (hx : x.Admissible) (m : Master ScriptedLink)
    (hsends : m.link.SendsInTime m.settings) {chunks : List Bytes} {rest : List Reception}
    (hscript : m.link.script.receptions = chunks.map (.deliver · false) ++ rest)
    (hchunks : ∀ chunk ∈ chunks, chunk ≠ [])
    (hrest : ∀ r ∈ rest.head?, ∃ late, r = .deliver [] late) :
    (x.run m).1 =
        (if chunks.flatten.length < x.expected then
          .error (.timeout x.expected chunks.flatten.length)
        else x.verdict m.settings.slave (chunks.flatten.take x.expected)) ∧
      AsksForRest x.expected (x.run m.watched).2.link.events ∧
      (x.run m).2.link.pending = chunks.flatten.drop x.expected ++ rest.flatMap bytes := by
  obtain ⟨hprompt, hoverdue, hfailure⟩ := stream_of_chunks hchunks hrest
  have hcollected : collected x.expected [] m.link.script.receptions =
      .ok (chunks.flatten.take x.expected) := by
    rw [hscript, collected_of_no_failure hfailure, hprompt, hoverdue, List.append_nil]
  refine ⟨?_, (x.run_exchanged m).asksForRest, ?_⟩
  · rw [run_of_sendsInTime hx hsends, hcollected, conclude_take]
  · have hpending : m.link.pending = chunks.flatten ++ rest.flatMap bytes := by
      rw [ScriptedLink.pending, hscript, List.flatMap_append, List.flatMap_map]
      simp only [Reception.bytes, List.flatMap_id']
    have hkept := run_conserves hx hsends hcollected
    rw [hpending, ← List.take_append_drop x.expected chunks.flatten, List.append_assoc,
      List.take_append_drop] at hkept
    exact List.append_cancel_left hkept

/-- A line that answers a read of two registers in two pieces and sends a byte too many. -/
def cutReply : Master ScriptedLink :=
  ⟨{ script := { receptions := [.deliver [0x01, 0x04] false,
      .deliver [0x04, 0x00, 0x03, 0x80, 0x01, 0xab, 0x84, 0xff] false] } }, {}⟩

theorem outcome_of_stream_demo :
    let x := Transfer.read .input 2000 (Image.filled 2 0)
    (x.run cutReply).1 = .ok [3, 0x8001] ∧ (x.run cutReply).2.link.pending = [0xff] ∧
      AsksForRest 9 (x.run cutReply.watched).2.link.events := by
  intro x
  have hx : x.Admissible := by
    constructor <;> decide
  have hsends : cutReply.link.SendsInTime cutReply.settings := .of_receptions rfl (by decide)
  let chunks : List Bytes := [[0x01, 0x04], [0x04, 0x00, 0x03, 0x80, 0x01, 0xab, 0x84, 0xff]]
  have hscript : cutReply.link.script.receptions = chunks.map (.deliver · false) ++ [] := rfl
  have hchunks : ∀ chunk ∈ chunks, chunk ≠ [] := by decide
  obtain ⟨hresult, hasks, hpending⟩ :=
    outcome_of_stream hx cutReply hsends hscript hchunks (by simp)
  have hverdict : x.verdict cutReply.settings.slave (chunks.flatten.take x.expected) =
      .ok [3, 0x8001] := by
    decide +kernel
  exact ⟨hresult.trans hverdict, hpending, hasks⟩

end Transfer

end ClimateBus
