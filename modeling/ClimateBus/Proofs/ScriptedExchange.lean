import ClimateBus.Proofs.Transfers
import ClimateBus.Serial.Rehearsal
import Mathlib

/-!
Exchanges on a line that follows a script.

The request leaves the wire in time under a condition on the script alone
(`ScriptedLink.SendsInTime`). The receptions of a script fall into those that bring bytes before the
deadline, up to the first silence, failure or late delivery, and the one that follows. An exchange
collects what the former bring and, if that is not enough, what the latter brings, however late
(`Exchange.collect_scripted`): the deadline is looked at before a reception, not after it. What it
does not collect stays on the line (`Exchange.collect_conserves`).
-/
namespace ClimateBus

namespace Reception

def bytes : Reception → Bytes
  | .deliver bytes _ => bytes
  | .fail _ => []

/-- Brings some bytes before the deadline. -/
def inTime : Reception → Bool
  | .deliver bytes late => !bytes.isEmpty && !late
  | .fail _ => false

/-- The bytes that come before the deadline. -/
def prompt (rs : List Reception) : Bytes := (rs.takeWhile inTime).flatMap bytes

/-- The reception after these, if there is one. -/
def next? (rs : List Reception) : Option Reception := (rs.dropWhile inTime).head?

/-- The bytes of the delivery during which the deadline passes. -/
def overdue (rs : List Reception) : Bytes :=
  match next? rs with
  | some (.deliver bytes true) => bytes
  | _ => []

/-- The failure that ends the bytes before the deadline, if one does. -/
def failure? (rs : List Reception) : Option LineFailure :=
  match next? rs with
  | some (.fail e) => some e
  | _ => none

/-- What is collected on a line that still has these receptions to come. -/
def collected (expected : Nat) (got : Bytes) (rs : List Reception) : Except LineFailure Bytes :=
  if expected ≤ (got ++ prompt rs).length then .ok ((got ++ prompt rs).take expected)
  else
    match failure? rs with
    | some e => .error e
    | none => .ok ((got ++ prompt rs ++ overdue rs).take expected)

variable {r : Reception} {rs : List Reception} {expected : Nat} {got : Bytes}

theorem prompt_cons (h : r.inTime = true) : prompt (r :: rs) = r.bytes ++ prompt rs := by
  simp [prompt, h]

theorem next?_cons (h : r.inTime = true) : next? (r :: rs) = next? rs := by
  simp [next?, h]

theorem prompt_cons_of_not (h : r.inTime = false) : prompt (r :: rs) = [] := by
  simp [prompt, h]

theorem next?_cons_of_not (h : r.inTime = false) : next? (r :: rs) = some r := by
  simp [next?, h]

theorem inTime_deliver {chunk : Bytes} (h : chunk ≠ []) (late : Bool) :
    (deliver chunk late).inTime = !late := by
  simp [inTime, h]

theorem collected_full (h : expected ≤ got.length) :
    collected expected got rs = .ok (got.take expected) := by
  have hfull : expected ≤ (got ++ prompt rs).length := by
    rw [List.length_append]
    omega
  rw [collected, if_pos hfull, List.take_append_of_le_length h]

/-- Bytes that come in time count as if they had been there. -/
theorem collected_cons (h : r.inTime = true) :
    collected expected got (r :: rs) = collected expected (got ++ r.bytes) rs := by
  simp only [collected, prompt_cons h, failure?, overdue, next?_cons h, List.append_assoc]

theorem collected_nil (h : got.length ≤ expected) : collected expected got [] = .ok got := by
  simp [collected, prompt, failure?, overdue, next?, List.take_of_length_le h]

theorem collected_fail {e : LineFailure} (h : got.length < expected) :
    collected expected got (.fail e :: rs) = .error e := by
  have hnot : (fail e).inTime = false := rfl
  simp [collected, prompt_cons_of_not hnot, failure?, next?_cons_of_not hnot, h]

theorem collected_silent {late : Bool} (h : got.length ≤ expected) :
    collected expected got (.deliver [] late :: rs) = .ok got := by
  have hnot : (deliver [] late).inTime = false := rfl
  simp only [collected, prompt_cons_of_not hnot, failure?, overdue, next?_cons_of_not hnot]
  cases late <;> simp [List.take_of_length_le h]

theorem collected_late {chunk : Bytes} (h : got.length < expected) :
    collected expected got (.deliver chunk true :: rs) = .ok ((got ++ chunk).take expected) := by
  have hnot : (deliver chunk true).inTime = false := by
    simp [inTime]
  simp [collected, prompt_cons_of_not hnot, failure?, overdue, next?_cons_of_not hnot, h]

end Reception

/-- Of the calls on control lines that follow the first `done`, so many do not fail. -/
def Script.LinesHold (script : Script) (done count : Nat) : Prop :=
  ∀ n e, script.lineFailure = some (n, e) → n ≤ done ∨ done + count < n

namespace Script

variable {script : Script} {done a : Nat}

theorem linesHold_zero : script.LinesHold done 0 := by
  intro n e _
  omega

theorem linesHold_of_none (h : script.lineFailure = none) : script.LinesHold done a := by
  intro n e hfails
  rw [h] at hfails
  cases hfails

theorem linesHold_succ :
    script.LinesHold done (a + 1) ↔ script.LinesHold done 1 ∧ script.LinesHold (done + 1) a := by
  constructor
  · intro h
    constructor
    · intro n e hfails
      have := h n e hfails
      omega
    · intro n e hfails
      have := h n e hfails
      omega
  · rintro ⟨hfirst, hrest⟩ n e hfails
    have := hfirst n e hfails
    have := hrest n e hfails
    omega

end Script

namespace ScriptedLink

variable {k k' : ScriptedLink} {asked : Nat}

/-- The bytes that the script still holds. -/
def pending (k : ScriptedLink) : Bytes := k.script.receptions.flatMap Reception.bytes

/-- A request is put on the wire. -/
structure Sends (k : ScriptedLink) (s : MasterSettings) : Prop where
  discards : k.script.discardFailure = none
  raises : k.script.LinesHold k.lineCalls (Exchange.directionLines s).length
  transmits : k.script.transmitFailure = none

/-- After a request was put on the wire the lines are lowered again. -/
def Lowers (k : ScriptedLink) (s : MasterSettings) : Prop :=
  k.script.LinesHold (k.lineCalls + (Exchange.directionLines s).length)
    (Exchange.directionLines s).length

/-- A request leaves the wire, and the lines are lowered, before the deadline. -/
structure SendsInTime (k : ScriptedLink) (s : MasterSettings) : Prop extends k.Sends s where
  drains : k.script.drainFailure = none
  lowers : k.Lowers s
  starts : s.timeoutMs ≠ 0
  in_time : k.script.drainLate = false

/-- The line as it is when a request has left the wire. -/
def sent (k : ScriptedLink) (s : MasterSettings) : ScriptedLink :=
  { k with
    lineCalls := k.lineCalls + (Exchange.directionLines s).length
    late := s.timeoutMs == 0 || k.script.drainLate }

/-- The line as it is when a reply is waited for. -/
def listening (k : ScriptedLink) (s : MasterSettings) : ScriptedLink :=
  { k.sent s with lineCalls := (k.sent s).lineCalls + (Exchange.directionLines s).length }

/-- The deadline passes while a request leaves the wire. -/
structure Overruns (k : ScriptedLink) (s : MasterSettings) : Prop extends k.Sends s where
  overruns : (∃ e, k.script.drainFailure = some e ∧ e.timedOut = true) ∨
    k.script.drainFailure = none ∧ k.Lowers s ∧ (s.timeoutMs = 0 ∨ k.script.drainLate = true)

theorem SendsInTime.not_late {s : MasterSettings} (h : k.SendsInTime s) :
    (k.sent s).late = false := by
  simpa [sent, h.in_time] using h.starts

/-- On a line that fails nowhere and is never late. -/
theorem SendsInTime.of_receptions {s : MasterSettings} {rs : List Reception}
    (hscript : k.script = { receptions := rs }) (hstarts : s.timeoutMs ≠ 0) :
    k.SendsInTime s := by
  have hholds (done count : Nat) : k.script.LinesHold done count :=
    Script.linesHold_of_none (by rw [hscript])
  exact ⟨⟨by rw [hscript], hholds _ _, by rw [hscript]⟩, by rw [hscript], hholds _ _, hstarts,
    by rw [hscript]⟩

theorem outcome_eq_ok {failure : Option LineFailure} :
    outcome failure = .ok () ↔ failure = none := by
  cases failure <;> simp [outcome]

theorem receive_nil (h : k.script.receptions = []) : k.receive asked = (.ok [], k) := by
  simp only [receive, h]

theorem receive_fail {e : LineFailure} {rest : List Reception}
    (h : k.script.receptions = .fail e :: rest) :
    k.receive asked = (.error e, k.remaining rest false) := by
  simp only [receive, h]

theorem receive_deliver {chunk : Bytes} {late : Bool} {rest : List Reception}
    (h : k.script.receptions = .deliver chunk late :: rest) :
    k.receive asked = (.ok (chunk.take asked), k.remaining
      (if chunk.length ≤ asked then rest else .deliver (chunk.drop asked) false :: rest) late) := by
  simp only [receive, h]

/-- A reception takes bytes off the script and loses none. -/
theorem receive_conserves {chunk : Bytes} (h : k.receive asked = (.ok chunk, k')) :
    chunk.length ≤ asked ∧ chunk ++ k'.pending = k.pending := by
  cases hrs : k.script.receptions with
  | nil =>
    rw [receive_nil hrs] at h
    obtain ⟨hchunk, rfl⟩ := Prod.mk.inj h
    obtain rfl := Except.ok.inj hchunk
    simp
  | cons r rest =>
    cases r with
    | fail e =>
      rw [receive_fail hrs] at h
      cases (Prod.mk.inj h).1
    | deliver sent late =>
      rw [receive_deliver hrs] at h
      obtain ⟨hchunk, rfl⟩ := Prod.mk.inj h
      obtain rfl := Except.ok.inj hchunk
      refine ⟨List.length_take_le _ _, ?_⟩
      simp only [pending, remaining, hrs]
      split_ifs with hfits
      · simp [Reception.bytes, List.take_of_length_le hfits]
      · simp [Reception.bytes, ← List.append_assoc]

end ScriptedLink

namespace Exchange

open Reception

variable {k k' : ScriptedLink} {expected : Nat} {got : Bytes}

section Sending

variable {s : MasterSettings} {level : Bool} {lines : List ControlLine} {request : Bytes}

/-- Every call on a control line counts, failed or not. -/
theorem setLine_scripted (k : ScriptedLink) (line : ControlLine) (level : Bool) :
    ∃ result, Link.setLine k line level = (result, { k with lineCalls := k.lineCalls + 1 }) ∧
      (result = .ok () ↔ k.script.LinesHold k.lineCalls 1) := by
  refine ⟨_, rfl, ?_⟩
  rw [ScriptedLink.outcome_eq_ok, Script.LinesHold]
  cases k.script.lineFailure with
  | none => simp
  | some failure =>
    obtain ⟨n, e⟩ := failure
    simp only [Option.bind_some, ite_eq_right_iff, reduceCtorEq, imp_false, Option.some.injEq,
      Prod.mk.injEq]
    constructor
    · rintro hother _ _ ⟨rfl, rfl⟩
      omega
    · intro h hsame
      have := h n e ⟨rfl, rfl⟩
      omega

theorem setLines_scripted (k : ScriptedLink) (level : Bool) (lines : List ControlLine) :
    (setLines k level lines).1 = .ok () ↔ k.script.LinesHold k.lineCalls lines.length := by
  induction lines generalizing k with
  | nil => exact ⟨fun _ => Script.linesHold_zero, fun _ => rfl⟩
  | cons line rest ih =>
    obtain ⟨result, hset, hresult⟩ := setLine_scripted k line level
    rw [setLines, hset, List.length_cons, Script.linesHold_succ, ← hresult]
    cases result with
    | error e => simp
    | ok _ => simpa using ih { k with lineCalls := k.lineCalls + 1 }

theorem setLines_eq (h : k.script.LinesHold k.lineCalls lines.length) :
    setLines k level lines = (.ok (), { k with lineCalls := k.lineCalls + lines.length }) := by
  induction lines generalizing k with
  | nil => rfl
  | cons line rest ih =>
    rw [List.length_cons, Script.linesHold_succ] at h
    obtain ⟨result, hset, hresult⟩ := setLine_scripted k line level
    rw [hresult.mpr h.1] at hset
    simp only [setLines, hset]
    rw [ih h.2, List.length_cons, Nat.add_assoc, Nat.add_comm 1]

/-- Once a frame is on the wire, whether it was sent is up to the wire. -/
theorem send_eq (hraises : k.script.LinesHold k.lineCalls lines.length)
    (htransmits : k.script.transmitFailure = none) :
    send k lines request = (ScriptedLink.outcome k.script.drainFailure, { k with
      lineCalls := k.lineCalls + lines.length
      late := k.late || k.script.drainLate }) := by
  rw [send, setLines_eq hraises]
  simp only [Link.transmit, htransmits, ScriptedLink.outcome, Link.drain]

theorem of_send_ok (h : send k lines request = (.ok (), k')) :
    k.script.LinesHold k.lineCalls lines.length ∧ k.script.transmitFailure = none ∧
      k.script.drainFailure = none := by
  have hraises : k.script.LinesHold k.lineCalls lines.length := by
    rw [← setLines_scripted k true]
    rw [send] at h
    split at h
    next hset => cases (Prod.mk.inj h).1
    next hset => rw [hset]
  have htransmits : k.script.transmitFailure = none := by
    rw [send, setLines_eq hraises] at h
    cases hfails : k.script.transmitFailure with
    | none => rfl
    | some e =>
      simp only [Link.transmit, hfails, ScriptedLink.outcome] at h
      cases (Prod.mk.inj h).1
  refine ⟨hraises, htransmits, ?_⟩
  rw [send_eq hraises htransmits] at h
  exact ScriptedLink.outcome_eq_ok.mp (Prod.mk.inj h).1

theorem discard_start (h : k.script.discardFailure = none) :
    Link.discard (Link.start k s.timeoutMs) = (.ok (), { k with late := s.timeoutMs == 0 }) := by
  simp only [Link.discard, Link.start, h, ScriptedLink.outcome]

theorem send_sent (h : k.Sends s) :
    send { k with late := s.timeoutMs == 0 } (directionLines s) request =
      (ScriptedLink.outcome k.script.drainFailure, k.sent s) :=
  send_eq h.raises h.transmits

theorem lower_sent (h : k.Lowers s) :
    setLines (k.sent s) false (directionLines s) = (.ok (), k.listening s) :=
  setLines_eq h

theorem dispatch_of_sendsInTime (h : k.SendsInTime s) :
    dispatch k s request expected = (.ok (), k.listening s) := by
  have hlate : (k.listening s).late = false := h.not_late
  rw [dispatch, discard_start h.discards]
  simp only [send_sent h.toSends, lower_sent h.lowers, h.drains, ScriptedLink.outcome, Link.expired,
    hlate, Bool.false_eq_true, if_false]

theorem sendsInTime_of_dispatch (h : (dispatch k s request expected).1 = .ok ()) :
    k.SendsInTime s := by
  revert h
  fun_cases dispatch k s request expected with
  | case1 e k₁ hdiscard => simp
  | case2 k₁ hdiscard k₂ lowered k₃ hlowered e hsent => simp
  | case3 k₁ hdiscard k₂ k₃ e hsent hlowered => simp
  | case4 k₁ hdiscard k₂ k₃ passed k₄ hpassed hsent hlowered =>
    intro h
    obtain ⟨hdiscards, rfl⟩ := Prod.mk.inj hdiscard
    obtain ⟨hraises, htransmits, hdrains⟩ := of_send_ok hsent
    have hsends : k.Sends s :=
      ⟨ScriptedLink.outcome_eq_ok.mp hdiscards, hraises, htransmits⟩
    obtain rfl : k.sent s = k₂ := (Prod.mk.inj ((send_sent hsends).symm.trans hsent)).2
    have hlowers : k.Lowers s :=
      (setLines_scripted (k.sent s) false (directionLines s)).mp (by rw [hlowered])
    obtain rfl := (Prod.mk.inj ((lower_sent hlowers).symm.trans hlowered)).2
    have hlate : (k.listening s).late = passed := (Prod.mk.inj hpassed).1
    cases passed with
    | true => cases h
    | false =>
      obtain ⟨hstarts, hin⟩ : s.timeoutMs ≠ 0 ∧ k.script.drainLate = false := by
        simpa [ScriptedLink.listening, ScriptedLink.sent] using hlate
      exact ⟨hsends, hdrains, hlowers, hstarts, hin⟩

theorem dispatch_of_overruns (h : k.Overruns s) :
    (dispatch k s request expected).1 = .error (.timeout expected 0) := by
  rw [dispatch, discard_start h.discards]
  rcases h.overruns with ⟨e, hdrains, htimed⟩ | ⟨hdrains, hlowers, hpassed⟩
  · simp only [send_sent h.toSends, hdrains, ScriptedLink.outcome, htimed, if_true]
  · have hlate : (k.listening s).late = true := by
      simpa [ScriptedLink.listening, ScriptedLink.sent] using hpassed
    simp only [send_sent h.toSends, lower_sent hlowers, hdrains, ScriptedLink.outcome, Link.expired,
      hlate, if_true]

end Sending

section Collecting

theorem collect_full (h : expected ≤ got.length) : collect k expected got = (.ok got, k) := by
  rw [collect, dif_neg (Nat.not_lt.mpr h)]

/-- Nothing is collected once the deadline has passed. -/
theorem collect_late (h : k.late = true) : collect k expected got = (.ok got, k) := by
  have hexpired : Link.expired k = (true, k) := by
    simp only [Link.expired, h]
  by_cases hlt : got.length < expected
  · rw [collect, dif_pos hlt, hexpired]
    rfl
  · exact collect_full (Nat.not_lt.mp hlt)

theorem collect_step (hlt : got.length < expected) (hlate : k.late = false) :
    collect k expected got =
      match k.receive (expected - got.length) with
      | (.error e, k') => (.error e, k')
      | (.ok chunk, k') =>
        if chunk = [] then (.ok got, k') else collect k' expected (got ++ chunk) := by
  have hexpired : Link.expired k = (false, k) := by
    simp only [Link.expired, hlate]
  have hreceive : Link.receive k (expected - got.length) = k.receive (expected - got.length) := rfl
  rw [collect, dif_pos hlt, hexpired]
  simp only [Bool.false_eq_true, if_false, hreceive]
  cases hr : k.receive (expected - got.length) with
  | mk result k' =>
    cases result with
    | error e => rfl
    | ok chunk =>
      dsimp only
      rw [List.take_of_length_le (ScriptedLink.receive_conserves hr).1]
      cases chunk with
      | nil => rfl
      | cons byte more => rfl

theorem collect_scripted (hlate : k.late = false) (hgot : got.length ≤ expected) :
    (collect k expected got).1 = collected expected got k.script.receptions := by
  induction hrs : k.script.receptions generalizing k got with
  | nil =>
    rw [collected_nil hgot]
    by_cases hlt : got.length < expected
    · rw [collect_step hlt hlate, ScriptedLink.receive_nil hrs]
      rfl
    · rw [collect_full (Nat.not_lt.mp hlt)]
  | cons r rest ih =>
    by_cases hlt : got.length < expected
    · rw [collect_step hlt hlate]
      cases r with
      | fail e =>
        rw [ScriptedLink.receive_fail hrs, collected_fail hlt]
      | deliver chunk late =>
        rw [ScriptedLink.receive_deliver hrs]
        dsimp only
        by_cases hchunk : chunk = []
        · subst hchunk
          rw [List.take_nil, if_pos rfl, collected_silent hgot]
        · have htaken : chunk.take (expected - got.length) ≠ [] := by
            rw [Ne, List.take_eq_nil_iff]
            rintro (hnone | hnil)
            · omega
            · exact hchunk hnil
          have hwhole : (got ++ chunk).take expected =
              got ++ chunk.take (expected - got.length) := by
            rw [List.take_append, List.take_of_length_le hgot]
          rw [if_neg htaken]
          cases late with
          | true =>
            rw [collect_late (by simp [ScriptedLink.remaining]), collected_late hlt, hwhole]
          | false =>
            rw [collected_cons (inTime_deliver hchunk false)]
            by_cases hfits : chunk.length ≤ expected - got.length
            · rw [List.take_of_length_le hfits, if_pos hfits]
              refine ih (by simpa [ScriptedLink.remaining] using hlate) ?_ rfl
              rw [List.length_append]
              omega
            · -- The chunk fills what is missing; the rest of it stays on the line.
              have hfull : expected ≤ (got ++ chunk.take (expected - got.length)).length := by
                rw [List.length_append, List.length_take]
                omega
              have hmore : expected ≤ (got ++ chunk).length := by
                rw [List.length_append]
                omega
              simp only [Reception.bytes]
              rw [collect_full hfull, collected_full hmore, hwhole]
    · rw [collect_full (Nat.not_lt.mp hlt), collected_full (Nat.not_lt.mp hlt),
        List.take_of_length_le hgot]

/-- What is collected was on the line, and what was not collected still is. -/
theorem collect_conserves {reply : Bytes} (h : collect k expected got = (.ok reply, k')) :
    reply ++ k'.pending = got ++ k.pending := by
  fun_induction collect k expected got with
  | case1 k got hlt k₁ hpassed =>
    obtain ⟨-, rfl⟩ := Prod.mk.inj hpassed
    obtain ⟨hreply, rfl⟩ := Prod.mk.inj h
    rw [Except.ok.inj hreply]
  | case2 k got hlt passed k₁ hpassed hopen e k₂ hreceive => cases (Prod.mk.inj h).1
  | case3 k got hlt passed k₁ hpassed hopen chunk k₂ hreceive hnone =>
    obtain ⟨-, rfl⟩ := Prod.mk.inj hpassed
    obtain ⟨hreply, rfl⟩ := Prod.mk.inj h
    obtain ⟨hasked, hkept⟩ := ScriptedLink.receive_conserves hreceive
    rw [List.take_of_length_le hasked] at hnone
    subst hnone
    rw [← Except.ok.inj hreply, ← hkept, List.nil_append]
  | case4 k got hlt passed k₁ hpassed hopen chunk k₂ hreceive byte more hsome ih =>
    obtain ⟨-, rfl⟩ := Prod.mk.inj hpassed
    obtain ⟨hasked, hkept⟩ := ScriptedLink.receive_conserves hreceive
    rw [List.take_of_length_le hasked] at hsome
    subst hsome
    rw [ih h, ← hkept, List.append_assoc]
  | case5 k got hfull =>
    obtain ⟨hreply, rfl⟩ := Prod.mk.inj h
    rw [Except.ok.inj hreply]

end Collecting

end Exchange

end ClimateBus
