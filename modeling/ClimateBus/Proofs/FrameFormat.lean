import ClimateBus.Proofs.ShiftRegister
import ClimateBus.Frame.Reply
import Mathlib

/-!
The form of the frames that are accepted.

A frame that passes its check is a body closed with the check of that body (`Matches.eq_close`), and
the check over the whole of such a frame is zero (`crc_close`). The registers of an accepted read
reply are the ones it carries, so the reply can be written down from them byte by byte
(`take_of_readReply`).
-/
namespace ClimateBus

namespace Checksum

section Bytes

variable (high low : UInt8)

theorem toNat_wordOf : (wordOf high low).toNat = 256 * high.toNat + low.toNat := by
  have hhigh := high.toNat_lt
  have hlow := low.toNat_lt
  rw [wordOf, UInt16.toNat_or, UInt16.toNat_shiftLeft, UInt8.toNat_toUInt16, UInt8.toNat_toUInt16]
  show high.toNat <<< 8 % 2 ^ 16 ||| low.toNat = 256 * high.toNat + low.toNat
  rw [Nat.mod_eq_of_lt (by rw [Nat.shiftLeft_eq]; omega), ← Nat.shiftLeft_add_eq_or_of_lt hlow,
    Nat.shiftLeft_eq]
  omega

theorem high_byte_wordOf : (wordOf high low >>> 8).toUInt8 = high := by
  have hlow := low.toNat_lt
  have hhigh := high.toNat_lt
  rw [← UInt8.toNat_inj, UInt16.toNat_toUInt8, UInt16.toNat_shiftRight, toNat_wordOf]
  show (256 * high.toNat + low.toNat) >>> 8 % 2 ^ 8 = high.toNat
  rw [Nat.shiftRight_eq_div_pow]
  omega

theorem low_byte_wordOf : (wordOf high low).toUInt8 = low := by
  have hlow := low.toNat_lt
  rw [← UInt8.toNat_inj, UInt16.toNat_toUInt8, toNat_wordOf]
  omega

theorem highByteFirst_wordOf : highByteFirst (wordOf high low) = [high, low] := by
  rw [highByteFirst, high_byte_wordOf, low_byte_wordOf]

theorem lowByteFirst_wordOf : lowByteFirst (wordOf high low) = [low, high] := by
  rw [lowByteFirst, high_byte_wordOf, low_byte_wordOf]

/-- The bytes of a word make the word again. -/
theorem wordOf_bytes (w : UInt16) : wordOf (w >>> 8).toUInt8 w.toUInt8 = w := by
  have hw := w.toNat_lt
  rw [← UInt16.toNat_inj, toNat_wordOf, UInt16.toNat_toUInt8, UInt16.toNat_toUInt8,
    UInt16.toNat_shiftRight]
  show 256 * (w.toNat >>> 8 % 2 ^ 8) + w.toNat % 2 ^ 8 = w.toNat
  rw [Nat.shiftRight_eq_div_pow]
  omega

end Bytes

/-- A body that was closed carries its own check. -/
theorem matches_close (body : Bytes) : Matches (close body) := by
  refine ⟨crc body, ?_⟩
  rw [close, lowByteFirst, split_append, wordOf_bytes]

/-- A frame that carries its own check is a body that was closed. -/
theorem Matches.eq_close {frame : Bytes} (h : Matches frame) :
    close (frame.take (frame.length - 2)) = frame := by
  obtain ⟨hlength, -⟩ := (matches_iff frame).mp h
  obtain ⟨check, hsplit⟩ := h
  obtain ⟨body, low, high, rfl⟩ := eq_append_of_two_le hlength
  rw [split_append] at hsplit
  obtain ⟨hcrc, hword⟩ := Prod.mk.inj (Option.some.inj hsplit)
  have hbody : (body ++ [low, high]).take ((body ++ [low, high]).length - 2) = body := by simp
  rw [hbody, close, hcrc, ← hword, lowByteFirst_wordOf]

/-- Two bytes behind a body make a frame that carries its own check in one way only. -/
theorem matches_append_iff {body tail : Bytes} (htail : tail.length = 2) :
    Matches (body ++ tail) ↔ body ++ tail = close body := by
  constructor
  · intro h
    have hclosed := h.eq_close
    rw [List.length_append, htail, Nat.add_sub_cancel, List.take_left] at hclosed
    exact hclosed.symm
  · intro h
    rw [h]
    exact matches_close body

theorem crc_close (body : Bytes) : crc (close body) = 0 :=
  ((matches_iff _).mp (matches_close body)).2

/-- A frame carries the check of its own body exactly if the check over all of it, the carried bytes
included, is zero. So a body that was closed has the check zero, and no other two bytes behind it do
that. -/
theorem zero_check_iff_carried {frame : Bytes} (hlength : 2 ≤ frame.length) :
    (∃ calculated received, split frame = some (calculated, received) ∧
        (calculated = received ↔ crc frame = 0)) ∧
      ∀ body, crc (close body) = 0 ∧
        ∀ tail : Bytes, tail.length = 2 → (crc (body ++ tail) = 0 ↔ body ++ tail = close body) := by
  refine ⟨?carried, fun body => ⟨crc_close body, fun tail htail => ?closed⟩⟩
  case carried =>
    obtain ⟨body, low, high, rfl⟩ := eq_append_of_two_le hlength
    refine ⟨_, _, split_append body low high, ?_⟩
    rw [crc_append, iterate_shift_eq_zero_iff, UInt16.xor_eq_zero_iff]
  case closed =>
    have htwo : 2 ≤ (body ++ tail).length := by
      rw [List.length_append, htail]
      exact Nat.le_add_left _ _
    have hmatches := matches_iff (body ++ tail)
    rw [matches_append_iff htail, and_iff_right htwo] at hmatches
    exact hmatches.symm

/-- A request for ten holding registers, and the same with one check bit flipped. -/
theorem zero_check_iff_carried_demo :
    let request : Bytes := [0x01, 0x03, 0x00, 0x00, 0x00, 0x0A]
    crc (request ++ [0xC5, 0xCD]) = 0 ∧ crc (request ++ [0xC5, 0xCC]) ≠ 0 := by
  intro request
  have hlength : 2 ≤ (request ++ [0xC5, 0xCD]).length := by decide
  obtain ⟨⟨calculated, received, hsplit, hcarried⟩, hclosed⟩ := zero_check_iff_carried hlength
  have hchecks : split (request ++ [0xC5, 0xCD]) = some (0xCDC5, 0xCDC5) := by
    decide +kernel
  obtain ⟨rfl, rfl⟩ := Prod.mk.inj (Option.some.inj (hsplit.symm.trans hchecks))
  refine ⟨hcarried.mp rfl, fun hzero => ?_⟩
  have hsame := ((hclosed request).2 [0xC5, 0xCC] rfl).mp hzero
  exact absurd hsame (by decide +kernel)

end Checksum

namespace Frame

variable {data : Bytes} {slave : UInt8} {f : Function} {count : UInt16}
  {ws : List UInt16}

theorem length_registers (data : Bytes) : (registers data).length = (data.length + 1) / 2 := by
  induction data using registers.induct with
  | case1 high low rest ih =>
    simp only [registers, List.length_cons, ih]
    omega
  | case2 byte => simp [registers]
  | case3 => simp [registers]

/-- Words are sent as they are received. -/
theorem flatMap_registers (h : data.length % 2 = 0) :
    (registers data).flatMap Checksum.highByteFirst = data := by
  induction data using registers.induct with
  | case1 high low rest ih =>
    have hrest : rest.length % 2 = 0 := by
      simp only [List.length_cons] at h
      omega
    rw [registers, List.flatMap_cons, ih hrest, Checksum.highByteFirst_wordOf]
    rfl
  | case2 byte => simp at h
  | case3 => rfl

theorem registers_flatMap (ws : List UInt16) :
    registers (ws.flatMap Checksum.highByteFirst) = ws := by
  induction ws with
  | nil => rfl
  | cons w rest ih =>
    rw [List.flatMap_cons, Checksum.highByteFirst, List.cons_append, List.singleton_append,
      registers, Checksum.wordOf_bytes, ih]

theorem length_flatMap_highByteFirst (ws : List UInt16) :
    (ws.flatMap Checksum.highByteFirst).length = 2 * ws.length := by
  induction ws with
  | nil => rfl
  | cons w rest ih =>
    rw [List.flatMap_cons, List.length_append, ih, List.length_cons, Checksum.highByteFirst]
    simp only [List.length_cons, List.length_nil]
    omega

theorem verify_eq_ok {frame : Bytes} : verify frame = .ok () ↔ Checksum.Matches frame := by
  unfold verify Checksum.Matches
  cases Checksum.split frame with
  | none => simp
  | some checks =>
    obtain ⟨calculated, received⟩ := checks
    by_cases h : calculated = received
    · simp [h]
    · simp [h, Ne.symm h]

theorem require_eq_ok {p : Prop} [Decidable p] {part : HeaderPart} :
    require p part = .ok () ↔ p := by
  unfold require
  split_ifs with h <;> simp [h]

/-- The reply that carries some registers. -/
def replyOf (slave : UInt8) (f : Function) (ws : List UInt16) : Bytes :=
  Checksum.close ([slave, f.code, UInt8.ofNat (2 * ws.length)] ++
    ws.flatMap Checksum.highByteFirst)

/-- What follows a check is reached only if the check holds. -/
theorem of_bind_eq_ok {α β : Type} {check : Except FrameError α} {next : α → Except FrameError β}
    {b : β} (h : check >>= next = .ok b) : ∃ a, check = .ok a ∧ next a = .ok b := by
  cases check with
  | error e => cases h
  | ok a => exact ⟨a, rfl, h⟩

/-- The checks that a read reply has passed once it is accepted. -/
theorem checks_of_readReply (h : readReply data slave f count = .ok ws) :
    readReplyLength count.toNat ≤ data.length ∧
      let frame := data.take (readReplyLength count.toNat)
      frame[0]? = some slave ∧ frame[1]? = some f.code ∧
        frame[2]? = some (UInt8.ofNat (2 * count.toNat)) ∧ Checksum.Matches frame ∧
        ws = registers ((frame.drop 3).take (2 * count.toNat)) := by
  unfold readReply at h
  dsimp only at h
  split at h
  · cases h
  next hlong =>
    obtain ⟨_, hslave, h⟩ := of_bind_eq_ok h
    obtain ⟨_, hfunction, h⟩ := of_bind_eq_ok h
    obtain ⟨_, hcount, h⟩ := of_bind_eq_ok h
    obtain ⟨_, hverify, h⟩ := of_bind_eq_ok h
    exact ⟨not_lt.mp hlong, require_eq_ok.mp hslave, require_eq_ok.mp hfunction,
      require_eq_ok.mp hcount, verify_eq_ok.mp hverify, (Except.ok.inj h).symm⟩

/-- A reply that is accepted carries as many registers as were asked for. -/
theorem length_of_readReply (h : readReply data slave f count = .ok ws) :
    ws.length = count.toNat := by
  obtain ⟨hlong, -, -, -, -, rfl⟩ := checks_of_readReply h
  rw [length_registers, List.length_take, List.length_drop, List.length_take]
  simp only [readReplyLength] at hlong ⊢
  omega

/-- An accepted read reply is the one that carries the registers read. -/
theorem take_of_readReply (h : readReply data slave f count = .ok ws) :
    data.take (readReplyLength count.toNat) = replyOf slave f ws := by
  have hlength := length_of_readReply h
  obtain ⟨hlong, hslave, hfunction, hcount, hmatches, hws⟩ := checks_of_readReply h
  have hframe : (data.take (readReplyLength count.toNat)).length = 5 + 2 * count.toNat := by
    rw [List.length_take, readReplyLength] at *
    omega
  generalize data.take (readReplyLength count.toNat) = frame at *
  obtain ⟨a, b, c, rest, rfl⟩ : ∃ a b c rest, frame = a :: b :: c :: rest := by
    match frame, hframe with
    | a :: b :: c :: rest, _ => exact ⟨a, b, c, rest, rfl⟩
  obtain rfl : a = slave := Option.some.inj hslave
  obtain rfl : b = f.code := Option.some.inj hfunction
  obtain rfl : c = UInt8.ofNat (2 * count.toNat) := Option.some.inj hcount
  have hrest : rest.length = 2 * count.toNat + 2 := by
    simp only [List.length_cons] at hframe
    omega
  have hcarried : ws.flatMap Checksum.highByteFirst = rest.take (2 * count.toNat) := by
    rw [hws]
    apply flatMap_registers
    simp only [List.drop_succ_cons, List.drop_zero, List.length_take]
    omega
  rw [replyOf, hlength, hcarried, ← hmatches.eq_close]
  congr 1
  rw [List.length_cons, List.length_cons, List.length_cons, hrest]
  rfl

theorem length_replyOf : (replyOf slave f ws).length = readReplyLength ws.length := by
  rw [replyOf, Checksum.close, List.length_append, List.length_append,
    length_flatMap_highByteFirst, readReplyLength, Checksum.lowByteFirst]
  simp only [List.length_cons, List.length_nil]
  omega

/-- The reply that carries as many registers as were asked for is accepted. -/
theorem readReply_of_take (hlength : ws.length = count.toNat)
    (h : data.take (readReplyLength count.toNat) = replyOf slave f ws) :
    readReply data slave f count = .ok ws := by
  have hlong : readReplyLength count.toNat ≤ data.length := by
    have htaken := congrArg List.length h
    rw [length_replyOf, hlength, List.length_take] at htaken
    omega
  have hcarried : ((replyOf slave f ws).drop 3).take (2 * count.toNat) =
      ws.flatMap Checksum.highByteFirst := by
    rw [← hlength, ← length_flatMap_highByteFirst]
    simp [replyOf, Checksum.close]
  have hslave : (replyOf slave f ws)[0]? = some slave := rfl
  have hfunction : (replyOf slave f ws)[1]? = some f.code := rfl
  have hcount : (replyOf slave f ws)[2]? = some (UInt8.ofNat (2 * count.toNat)) := by
    rw [← hlength]
    rfl
  have hverify : verify (replyOf slave f ws) = .ok () :=
    verify_eq_ok.mpr (Checksum.matches_close _)
  unfold readReply
  dsimp only
  rw [if_neg (not_lt.mpr hlong), h, hcarried, registers_flatMap, require_eq_ok.mpr hslave,
    require_eq_ok.mpr hfunction, require_eq_ok.mpr hcount, hverify]
  rfl

/-- A write reply that is accepted carries its own check. -/
theorem matches_of_checkWriteReply {request : Bytes} (h : checkWriteReply data request = .ok ()) :
    writeReplyLength ≤ data.length ∧ Checksum.Matches (data.take writeReplyLength) := by
  unfold checkWriteReply at h
  split at h
  · cases h
  next hlong =>
    obtain ⟨_, -, h⟩ := of_bind_eq_ok h
    obtain ⟨_, -, h⟩ := of_bind_eq_ok h
    obtain ⟨_, -, hverify⟩ := of_bind_eq_ok h
    exact ⟨not_lt.mp hlong, verify_eq_ok.mp hverify⟩

end Frame

end ClimateBus
