import ClimateBus.Proofs.FrameFormat
import ClimateBus.Serial.Exchange
import Mathlib

/-!
Reads and writes of registers over a line.

A call that a master lets through is one exchange in two halves: the request is sent, then the reply
is collected and judged (`Transfer.run_eq`). Any other call is refused and leaves the line alone
(`Transfer.run_refused`). A reply that is too short is a timeout, whether the exchange gave up on it
or the verdict found it truncated (`Transfer.conclude`).
-/
namespace ClimateBus

namespace Exchange

variable {l : Type} [Link l]

/-- The first half of an exchange: the request is sent and the lines are lowered, all of it before
the deadline. -/
def dispatch (link : l) (s : MasterSettings) (request : Bytes) (expected : Nat) :
    Except TransportError Unit × l :=
  match Link.discard (Link.start link s.timeoutMs) with
  | (.error e, link) => (.error (.io e.detail), link)
  | (.ok (), link) =>
    let (sent, link) := send link (directionLines s) request
    let (lowered, link) := setLines link false (directionLines s)
    match sent, lowered with
    | .error e, _ => (.error (if e.timedOut then .timeout expected 0 else .io e.detail), link)
    | .ok (), .error e => (.error (.io e.detail), link)
    | .ok (), .ok () =>
      let (passed, link) := Link.expired link
      (if passed then .error (.timeout expected 0) else .ok (), link)

/-- The second half collects the reply. -/
theorem transceive_eq (link : l) (s : MasterSettings) (request : Bytes) (expected : Nat) :
    transceive link s request expected =
      match dispatch link s request expected with
      | (.error e, link) => (.error e, link)
      | (.ok (), link) =>
        match collect link expected [] with
        | (.error e, link) => (.error (.io e.detail), link)
        | (.ok reply, link) =>
          if reply.length < minReply then (.error (.timeout expected reply.length), link)
          else (.ok reply, link) := by
  fun_cases dispatch link s request expected with
  | case1 e link' hdiscard => simp only [transceive, hdiscard]
  | case2 link₁ hdiscard link₂ lowered link₃ hlowered e hsent =>
    simp only [transceive, hdiscard, hsent, hlowered]
  | case3 link₁ hdiscard link₂ link₃ e hsent hlowered =>
    simp only [transceive, hdiscard, hsent, hlowered]
  | case4 link₁ hdiscard link₂ link₃ passed link₄ hpassed hsent hlowered =>
    simp only [transceive, hdiscard, hsent, hlowered, hpassed]
    cases passed <;> rfl

end Exchange

/-- A call on a master: registers to read into a buffer, or words to write. -/
inductive Transfer where
  | read {n : Nat} (table : Table) (address : UInt16) (buffer : Image n)
  | write (address : UInt16) (ws : Words)

namespace Transfer

/-- The arguments are let through to the line. -/
def Admissible : Transfer → Prop
  | @read n _ _ _ => n ≠ 0 ∧ Frame.readReplyLength n ≤ Frame.maxReadReply
  | .write _ ws => ws ≠ [] ∧ Frame.writeRequestLength ws.length ≤ Frame.maxWriteRequest

def request (slave : UInt8) : Transfer → Bytes
  | @read n table address _ =>
    Frame.readRequest slave (Master.readFunction table) address (UInt16.ofNat n)
  | .write address ws => Frame.writeRequest slave address ws

/-- How many bytes the reply has. -/
def expected : Transfer → Nat
  | @read n _ _ _ => Frame.readReplyLength n
  | .write _ _ => Frame.writeReplyLength

/-- What a reply says: the registers read, or that the words were written. -/
def verdict (slave : UInt8) (reply : Bytes) : Transfer → Except TransportError Words
  | @read n table _ _ => (Frame.readReply reply slave (Master.readFunction table)
      (UInt16.ofNat n)).mapError .ofFrame
  | .write address ws =>
    ((Frame.checkWriteReply reply (Frame.writeRequest slave address ws)).map fun _ => []).mapError
      .ofFrame

/-- What becomes of a call once its reply was collected. -/
def conclude (x : Transfer) (slave : UInt8) :
    Except LineFailure Bytes → Except TransportError Words
  | .error e => .error (.io e.detail)
  | .ok reply =>
    if reply.length < x.expected then .error (.timeout x.expected reply.length)
    else x.verdict slave reply

variable {l : Type} [Link l]

/-- The call, with what it left in the buffer if it succeeded. -/
def run (m : Master l) : Transfer → Except TransportError Words × Master l
  | .read table address buffer =>
    let r := Bus.read m table address buffer
    (r.result.map fun _ => r.buffer.words, r.bus)
  | .write address ws =>
    let r := Bus.write m address ws
    (r.result.map fun _ => [], r.bus)

variable {x : Transfer}

theorem minReply_le_expected (h : x.Admissible) : Exchange.minReply ≤ x.expected := by
  cases x with
  | @read n table address buffer =>
    simp only [expected, Exchange.minReply, Frame.readReplyLength]
    omega
  | write address ws =>
    simp only [expected]
    decide

/-- As many registers as fit a reply can be asked for. -/
theorem toNat_count {n : Nat} (hfits : Frame.readReplyLength n ≤ Frame.maxReadReply) :
    (UInt16.ofNat n).toNat = n := by
  apply UInt16.toNat_ofNat_of_lt'
  simp only [Frame.readReplyLength, Frame.maxReadReply, UInt16.size] at hfits ⊢
  omega

/-- No reply is longer than the longest read reply. -/
theorem expected_le (h : x.Admissible) : x.expected ≤ Frame.maxReadReply := by
  cases x with
  | @read n table address buffer => exact h.2
  | write address ws => exact (by decide : Frame.writeReplyLength ≤ Frame.maxReadReply)

section Verdicts

variable {slave : UInt8} {reply : Bytes} {ws : Words}

/-- A truncated reply is a timeout. -/
theorem verdict_short (h : x.Admissible) (hshort : reply.length < x.expected) :
    x.verdict slave reply = .error (.timeout x.expected reply.length) := by
  cases x with
  | @read n table address buffer =>
    obtain ⟨-, hfits⟩ := h
    simp only [expected] at hshort
    simp only [verdict, Frame.readReply, toNat_count hfits, hshort, if_true]
    rfl
  | write address ws =>
    simp only [expected] at hshort
    simp only [verdict, Frame.checkWriteReply, hshort, if_true]
    rfl

theorem mapError_eq_ok_iff {ε ε' α : Type} {r : Except ε α} {f : ε → ε'} {a : α} :
    r.mapError f = .ok a ↔ r = .ok a := by
  cases r with
  | error e => simp [Except.mapError]
  | ok b => simp [Except.mapError]

theorem verdict_read_eq_ok_iff {n : Nat} {table : Table} {address : UInt16} {buffer : Image n} :
    (Transfer.read table address buffer).verdict slave reply = .ok ws ↔
      Frame.readReply reply slave (Master.readFunction table) (UInt16.ofNat n) = .ok ws :=
  mapError_eq_ok_iff

/-- A reply that passes carries its own check. -/
theorem matches_of_verdict (hx : x.Admissible) (h : x.verdict slave reply = .ok ws) :
    x.expected ≤ reply.length ∧ Checksum.Matches (reply.take x.expected) := by
  cases x with
  | @read n table address buffer =>
    obtain ⟨hlong, -, -, -, hmatches, -⟩ := Frame.checks_of_readReply (verdict_read_eq_ok_iff.mp h)
    rw [toNat_count hx.2] at hlong hmatches
    exact ⟨hlong, hmatches⟩
  | write address words =>
    have hmap := mapError_eq_ok_iff.mp h
    cases hcheck : Frame.checkWriteReply reply (Frame.writeRequest slave address words) with
    | error e =>
      rw [hcheck] at hmap
      cases hmap
    | ok _ => exact Frame.matches_of_checkWriteReply hcheck

end Verdicts

/-- What is refused is refused whatever the line. -/
theorem run_refused (h : ¬ x.Admissible) :
    ∃ e, ∀ (l : Type) [Link l] (m : Master l), x.run m = (.error e, m) := by
  cases x with
  | @read n table address buffer =>
    simp only [run, Bus.read, Master.readWords]
    split_ifs with hnone hmany hlong
    · exact ⟨_, fun _ _ _ => rfl⟩
    · exact ⟨_, fun _ _ _ => rfl⟩
    · exact ⟨_, fun _ _ _ => rfl⟩
    · exact absurd ⟨hnone, not_lt.mp hlong⟩ h
  | write address ws =>
    simp only [run, Bus.write, Master.writeWords]
    split_ifs with hnone hlong
    · exact ⟨_, fun _ _ _ => rfl⟩
    · exact ⟨_, fun _ _ _ => rfl⟩
    · exact absurd ⟨fun hnil => hnone (hnil ▸ rfl), not_lt.mp hlong⟩ h

/-- A call that is let through is one exchange and a verdict on the reply. -/
theorem run_transceive (h : x.Admissible) (m : Master l) :
    x.run m =
      match Exchange.transceive m.link m.settings (x.request m.settings.slave) x.expected with
      | (.error e, link) => (.error e, { m with link })
      | (.ok reply, link) => (x.verdict m.settings.slave reply, { m with link }) := by
  cases x with
  | @read n table address buffer =>
    obtain ⟨hsome, hfits⟩ := h
    have hcount : n < UInt16.size := by
      simp only [Frame.readReplyLength, Frame.maxReadReply] at hfits
      have : UInt16.size = 65536 := rfl
      omega
    simp only [run, Bus.read, Master.readWords, if_neg hsome, if_neg hcount.not_ge,
      if_neg hfits.not_gt, request, expected, verdict]
    generalize Exchange.transceive m.link m.settings _ _ = r
    obtain ⟨result, link⟩ := r
    cases result with
    | error e => rfl
    | ok reply =>
      dsimp only
      cases hreply : Frame.readReply reply m.settings.slave (Master.readFunction table)
        (UInt16.ofNat n) with
      | error e => rfl
      | ok ws =>
        have hlength : ws.length = n := by
          rw [Frame.length_of_readReply hreply, UInt16.toNat_ofNat', Nat.mod_eq_of_lt hcount]
        simp [Except.mapError, Except.map, Image.ofWords?, hlength]
  | write address ws =>
    obtain ⟨hsome, hfits⟩ := h
    have hlength : ws.length ≠ 0 := by simpa using hsome
    simp only [run, Bus.write, Master.writeWords, if_neg hlength, if_neg hfits.not_gt, request,
      expected, verdict]
    generalize Exchange.transceive m.link m.settings _ _ = r
    obtain ⟨result, link⟩ := r
    cases result with
    | error e => rfl
    | ok reply =>
      dsimp only
      cases Frame.checkWriteReply reply _ <;> rfl

/-- A call succeeds if it is let through and a reply comes that passes. -/
theorem run_eq_ok_iff {m : Master l} {ws : Words} :
    (x.run m).1 = .ok ws ↔ x.Admissible ∧ ∃ reply, (Exchange.transceive m.link m.settings
      (x.request m.settings.slave) x.expected).1 = .ok reply ∧
        x.verdict m.settings.slave reply = .ok ws := by
  by_cases hx : x.Admissible
  · rw [run_transceive hx m]
    generalize Exchange.transceive m.link m.settings _ _ = r
    obtain ⟨result, link⟩ := r
    cases result with
    | error e => simp
    | ok reply => simp [hx]
  · obtain ⟨e, hrun⟩ := run_refused hx
    rw [hrun]
    simp [hx]

/-- A call that is let through sends its request and then judges what it collects. -/
theorem run_eq (h : x.Admissible) (m : Master l) :
    x.run m =
      match Exchange.dispatch m.link m.settings (x.request m.settings.slave) x.expected with
      | (.error e, link) => (.error e, { m with link })
      | (.ok (), link) =>
        let r := Exchange.collect link x.expected []
        (x.conclude m.settings.slave r.1, { m with link := r.2 }) := by
  rw [run_transceive h, Exchange.transceive_eq]
  generalize Exchange.dispatch m.link m.settings _ _ = sent
  obtain ⟨result, link⟩ := sent
  cases result with
  | error e => rfl
  | ok _ =>
    dsimp only
    generalize Exchange.collect link x.expected [] = r
    obtain ⟨result, link'⟩ := r
    cases result with
    | error e => rfl
    | ok reply =>
      have hleast := minReply_le_expected h
      simp only [conclude]
      by_cases hreply : reply.length < Exchange.minReply
      · have hshort : reply.length < x.expected := by omega
        simp only [hreply, hshort, if_true]
      · by_cases hshort : reply.length < x.expected
        · simp only [hreply, hshort, if_true, if_false, verdict_short h hshort]
        · simp only [hreply, hshort, if_false]

end Transfer

end ClimateBus
