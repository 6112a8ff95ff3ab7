import ClimateBus.Proofs.FrameFormat
import Mathlib

/-!
Which replies are accepted, and what the others are refused for.

A reply goes through a list of checks, and the first one that fails decides the error
(`readReply_eq`, `checkWriteReply_eq`). A reply that passes them all has one form only: the answer
to a read is the frame of the registers it carries (`readReply_exact`), the answer to a write the
frame of the address and the number of words that were sent (`write_confirmed_by_echo`). Bytes
behind the frame are not looked at.
-/
namespace ClimateBus

theorem Checksum.highByteFirst_injective : Function.Injective Checksum.highByteFirst := by
  intro v w h
  obtain ⟨hhigh, hlow⟩ := List.cons.inj h
  rw [← Checksum.wordOf_bytes v, ← Checksum.wordOf_bytes w, hhigh, (List.cons.inj hlow).1]

namespace Frame

/-- A check of a reply, and the error of a reply that does not pass it. -/
structure Check where
  passes : Bool
  failure : FrameError

/-- The error of the first check that fails. -/
def firstFailure : List Check → Option FrameError
  | [] => none
  | c :: rest => if c.passes then firstFailure rest else some c.failure

/-- What is made of a reply after its checks. -/
def judge {α : Type} (checks : List Check) (a : α) : Except FrameError α :=
  match firstFailure checks with
  | none => .ok a
  | some e => .error e

/-- The first `n` bytes carry their own check in the two bytes behind them. -/
def checkedBehind (data : Bytes) (n : Nat) : Check :=
  let calculated := Checksum.crc (data.take n)
  let received := Checksum.wordOf (data.getD (n + 1) 0) (data.getD n 0)
  ⟨decide (calculated = received), .check calculated received⟩

/-- The checks of a reply to a read of `count` registers, in their order. -/
def readChecks (data : Bytes) (slave : UInt8) (f : Function) (count : UInt16) : List Check :=
  let carried := 2 * count.toNat
  [⟨decide (5 + carried ≤ data.length), .truncated (5 + carried) data.length⟩,
    ⟨decide (data[0]? = some slave), .mismatch .slave⟩,
    ⟨decide (data[1]? = some f.code), .mismatch .function⟩,
    ⟨decide (data[2]? = some (UInt8.ofNat carried)), .mismatch .byteCount⟩,
    checkedBehind data (3 + carried)]

/-- The checks of a reply to a write request, in their order. -/
def writeChecks (data request : Bytes) : List Check :=
  [⟨decide (8 ≤ data.length), .truncated 8 data.length⟩,
    ⟨decide (6 ≤ request.length ∧ data[0]? = request[0]?), .mismatch .slave⟩,
    ⟨decide (data[1]? = some Function.writeMultiple.code), .mismatch .function⟩,
    ⟨decide ((data.drop 2).take 4 = (request.drop 2).take 4), .mismatch .addressOrQuantity⟩,
    checkedBehind data 6]

section Judging

variable {α : Type} {checks : List Check} {a b : α} {e : FrameError}

theorem judge_cons (c : Check) :
    judge (c :: checks) a = if c.passes then judge checks a else .error c.failure := by
  by_cases hpasses : c.passes = true
  · simp only [judge, firstFailure, hpasses, if_true]
  · rw [Bool.not_eq_true] at hpasses
    simp only [judge, firstFailure, hpasses, Bool.false_eq_true, if_false]

theorem firstFailure_eq_none :
    firstFailure checks = none ↔ ∀ c ∈ checks, c.passes = true := by
  induction checks with
  | nil => simp [firstFailure]
  | cons c rest ih =>
    unfold firstFailure
    split_ifs with hpasses
    · simp [ih, hpasses]
    · simp [hpasses]

theorem judge_eq_ok : judge checks a = .ok b ↔ (∀ c ∈ checks, c.passes = true) ∧ a = b := by
  rw [← firstFailure_eq_none]
  unfold judge
  cases firstFailure checks <;> simp

theorem judge_eq_error : judge checks a = .error e ↔ firstFailure checks = some e := by
  unfold judge
  cases firstFailure checks <;> simp

/-- A condition on the header is one more check. -/
theorem require_judge {p : Prop} [Decidable p] {part : HeaderPart} :
    (require p part >>= fun _ => judge checks a) =
      judge (⟨decide p, .mismatch part⟩ :: checks) a := by
  rw [judge_cons]
  unfold require
  by_cases hp : p
  · simp only [hp, if_true, decide_true]
    rfl
  · simp only [hp, if_false, decide_false, Bool.false_eq_true]
    rfl

end Judging

section Closing

variable {data : Bytes} {n : Nat}

theorem take_eq_append (h : n + 2 ≤ data.length) :
    data.take (n + 2) = data.take n ++ [data.getD n 0, data.getD (n + 1) 0] := by
  have hlow : n < data.length := by omega
  have hhigh : n + 1 < data.length := by omega
  rw [List.take_add_one, List.take_add_one, List.append_assoc, List.getElem?_eq_getElem hlow,
    List.getElem?_eq_getElem hhigh, List.getD_eq_getElem _ _ hlow, List.getD_eq_getElem _ _ hhigh]
  rfl

/-- The check behind the bytes is the last one to be made. -/
theorem verify_judge {α : Type} {a : α} (h : n + 2 ≤ data.length) :
    (verify (data.take (n + 2)) >>= fun _ => (.ok a : Except FrameError α)) =
      judge [checkedBehind data n] a := by
  rw [judge_cons]
  unfold verify checkedBehind
  rw [take_eq_append h, Checksum.split_append]
  dsimp only
  split_ifs <;> simp_all [judge, firstFailure, bind, Except.bind]

/-- The check is passed if it closes the bytes before it. -/
theorem passes_checkedBehind (h : n + 2 ≤ data.length) :
    (checkedBehind data n).passes = true ↔ data.take (n + 2) = Checksum.close (data.take n) := by
  rw [take_eq_append h, Checksum.close, List.append_cancel_left_eq]
  simp only [checkedBehind, decide_eq_true_eq]
  constructor
  · intro hmatches
    rw [hmatches, Checksum.lowByteFirst_wordOf]
  · intro hbytes
    rw [Checksum.lowByteFirst] at hbytes
    obtain ⟨hlow, hhigh⟩ := List.cons.inj hbytes
    rw [hlow, (List.cons.inj hhigh).1, Checksum.wordOf_bytes]

end Closing

section Reads

variable {data : Bytes} {slave : UInt8} {f : Function} {count : UInt16}

/-- Its checks decide what becomes of a reply to a read. -/
theorem readReply_eq : readReply data slave f count = judge (readChecks data slave f count)
    (registers ((data.drop 3).take (2 * count.toNat))) := by
  unfold readReply readChecks
  dsimp only
  rw [judge_cons]
  by_cases hlong : 5 + 2 * count.toNat ≤ data.length
  · have hcarried : ((data.take (5 + 2 * count.toNat)).drop 3).take (2 * count.toNat) =
        (data.drop 3).take (2 * count.toNat) := by
      rw [List.drop_take, List.take_take]
      congr 1
      omega
    have hframe : 5 + 2 * count.toNat = 3 + 2 * count.toNat + 2 := by omega
    have hshort : ¬ data.length < readReplyLength count.toNat := by
      simp only [readReplyLength]
      omega
    have hhead {k : Nat} (hk : k < 3) : (data.take (5 + 2 * count.toNat))[k]? = data[k]? :=
      List.getElem?_take_of_lt (by omega)
    rw [if_neg hshort, if_pos (by simpa using hlong), readReplyLength, hhead (by decide),
      hhead (by decide), hhead (by decide), hcarried, hframe]
    simp only [← require_judge]
    rw [← verify_judge (by omega)]
    rfl
  · have hshort : data.length < readReplyLength count.toNat := by
      simp only [readReplyLength]
      omega
    rw [if_pos hshort, if_neg (by simpa using hlong)]
    rfl

/-- A reply to a read is accepted just if it starts with the frame of the registers it is read as:
slave, function, the low byte of twice their number, the registers, and the check of all that. Any
other reply is refused for the first check it fails: of its length, of the slave, of the function,
of the byte count, and of the check it carries. -/
theorem readReply_exact (data : Bytes) (slave : UInt8) (f : Function) (count : UInt16) :
    (∀ ws, readReply data slave f count = .ok ws ↔ ws.length = count.toNat ∧
      let body := [slave, f.code, UInt8.ofNat (2 * count.toNat)] ++
        ws.flatMap Checksum.highByteFirst
      data.take (5 + 2 * count.toNat) = body ++ Checksum.lowByteFirst (Checksum.crc body)) ∧
    ∀ e, readReply data slave f count = .error e ↔
      firstFailure (readChecks data slave f count) = some e := by
  constructor
  · intro ws
    constructor
    · intro h
      have hlength := length_of_readReply h
      have hframe := take_of_readReply h
      rw [replyOf, hlength] at hframe
      exact ⟨hlength, hframe⟩
    · rintro ⟨hlength, hframe⟩
      apply readReply_of_take hlength
      rw [replyOf, hlength]
      exact hframe
  · intro e
    rw [readReply_eq, judge_eq_error]

/-- The slave is looked at before the check of the frame. -/
example : readReply [0x02, 0x03, 0x02, 0x00, 0x01, 0x00, 0x00] 1 .readHolding 1 =
    .error (.mismatch .slave) := by decide

end Reads

section Writes

variable {data request : Bytes} {slave slave' : UInt8} {address address' : UInt16}
  {ws ws' : List UInt16}

/-- Its checks decide what becomes of a reply to a write. -/
theorem checkWriteReply_eq :
    checkWriteReply data request = judge (writeChecks data request) () := by
  unfold checkWriteReply writeChecks
  rw [judge_cons]
  by_cases hlong : 8 ≤ data.length
  · have hechoed : ((data.take 8).drop 2).take 4 = (data.drop 2).take 4 := by
      rw [List.drop_take, List.take_take]
      rfl
    have hhead {k : Nat} (hk : k < 2) : (data.take 8)[k]? = data[k]? :=
      List.getElem?_take_of_lt (by omega)
    have hshort : ¬ data.length < writeReplyLength := by
      simp only [writeReplyLength]
      omega
    rw [if_neg hshort, if_pos (by simpa using hlong)]
    have hlast : verify (data.take 8) = judge [checkedBehind data 6] () := by
      rw [← verify_judge hlong]
      exact (bind_pure_unit (x := verify (data.take 8))).symm
    simp only [writeReplyLength, hhead (by decide : 0 < 2), hhead (by decide : 1 < 2), hechoed,
      hlast, require_judge]
  · have hshort : data.length < writeReplyLength := by
      simp only [writeReplyLength]
      omega
    rw [if_pos hshort, if_neg (by simpa using hlong)]
    rfl

/-- The header of a reply to a write, and what it echoes of the request. -/
theorem take_six {code : UInt8} {echoed : Bytes} (hechoed : echoed.length = 4) :
    data.take 6 = [slave, code] ++ echoed ↔
      data[0]? = some slave ∧ data[1]? = some code ∧ (data.drop 2).take 4 = echoed := by
  match data with
  | [] => simp
  | [first] =>
    have hnone : ¬ [] = echoed := by
      rintro rfl
      simp at hechoed
    simp [hnone]
  | first :: second :: rest => simp

/-- The frame that confirms a write. -/
def echoOf (slave : UInt8) (address : UInt16) (quantity : UInt16) : Bytes :=
  Checksum.close ([slave, 0x10] ++ (Checksum.highByteFirst address ++
    Checksum.highByteFirst quantity))

theorem echoOf_injective {quantity quantity' : UInt16}
    (h : echoOf slave address quantity = echoOf slave' address' quantity') :
    slave = slave' ∧ address = address' ∧ quantity = quantity' := by
  have hbody : [slave, 0x10] ++ (Checksum.highByteFirst address ++
        Checksum.highByteFirst quantity) =
      [slave', 0x10] ++ (Checksum.highByteFirst address' ++ Checksum.highByteFirst quantity') :=
    congrArg (List.take 6) h
  obtain ⟨hslave, hfields⟩ := List.append_inj hbody rfl
  obtain ⟨haddress, hquantity⟩ := List.append_inj hfields rfl
  exact ⟨(List.cons.inj hslave).1, Checksum.highByteFirst_injective haddress,
    Checksum.highByteFirst_injective hquantity⟩

theorem checkWriteReply_eq_ok : checkWriteReply data (writeRequest slave address ws) = .ok () ↔
    data.take 8 = echoOf slave address (UInt16.ofNat ws.length) := by
  let echoed := Checksum.highByteFirst address ++
    Checksum.highByteFirst (UInt16.ofNat ws.length)
  have hslave : (writeRequest slave address ws)[0]? = some slave := rfl
  have hechoed : ((writeRequest slave address ws).drop 2).take 4 = echoed := rfl
  have hheader : 6 ≤ (writeRequest slave address ws).length := by
    simp [writeRequest, Checksum.close, Checksum.highByteFirst]
  have hbody : data.take 6 = [slave, 0x10] ++ echoed ↔
      data[0]? = some slave ∧ data[1]? = some 0x10 ∧ (data.drop 2).take 4 = echoed := take_six rfl
  rw [checkWriteReply_eq, judge_eq_ok, writeChecks, hslave, hechoed]
  simp only [List.forall_mem_cons, List.not_mem_nil, false_implies, implies_true, and_true,
    decide_eq_true_eq, hheader, true_and]
  constructor
  · rintro ⟨hlong, hfirst, hfunction, hrest, hclosed⟩
    rw [passes_checkedBehind hlong, hbody.mpr ⟨hfirst, hfunction, hrest⟩] at hclosed
    exact hclosed
  · intro hframe
    have hlong : 8 ≤ data.length := by
      have hlength := congrArg List.length hframe
      rw [List.length_take] at hlength
      exact min_eq_left_iff.mp hlength
    have hsix : data.take 6 = [slave, 0x10] ++ echoed := by
      have htake := congrArg (List.take 6) hframe
      rwa [List.take_take] at htake
    obtain ⟨hfirst, hfunction, hrest⟩ := hbody.mp hsix
    refine ⟨hlong, hfirst, hfunction, hrest, ?_⟩
    rw [passes_checkedBehind hlong, hsix]
    exact hframe

/-- A write is confirmed just by a reply that starts with the frame of slave, function, address and
number of words. So a reply confirms writes of as many words to the same address of the same slave
alone. -/
theorem write_confirmed_by_echo (slave slave' : UInt8) (address address' : UInt16)
    (hws : ws.length < UInt16.size) (hws' : ws'.length < UInt16.size) (data : Bytes) :
    (checkWriteReply data (writeRequest slave address ws) = .ok () ↔
      let body := [slave, 0x10] ++ Checksum.highByteFirst address ++
        Checksum.highByteFirst (UInt16.ofNat ws.length)
      data.take 8 = body ++ Checksum.lowByteFirst (Checksum.crc body)) ∧
    (checkWriteReply data (writeRequest slave address ws) = .ok () →
      checkWriteReply data (writeRequest slave' address' ws') = .ok () →
      slave = slave' ∧ address = address' ∧ ws.length = ws'.length) := by
  constructor
  · exact checkWriteReply_eq_ok
  · intro h h'
    rw [checkWriteReply_eq_ok] at h h'
    obtain ⟨rfl, rfl, hquantity⟩ := echoOf_injective (h.symm.trans h')
    refine ⟨rfl, rfl, ?_⟩
    have hcount := congrArg UInt16.toNat hquantity
    rwa [UInt16.toNat_ofNat_of_lt' hws, UInt16.toNat_ofNat_of_lt' hws'] at hcount

/-- One reply confirms three words at 2000 whatever these are, and none at 2001. -/
theorem write_confirmed_by_echo_demo :
    let data : Bytes := [0x01, 0x10, 0x07, 0xd0, 0x00, 0x03, 0x80, 0x85, 0xff]
    [1, 2, 3].length < UInt16.size ∧
      checkWriteReply data (writeRequest 1 2000 [1, 2, 3]) = .ok () ∧
      checkWriteReply data (writeRequest 1 2000 [7, 8, 9]) = .ok () ∧
      ¬ checkWriteReply data (writeRequest 1 2001 [1, 2, 3]) = .ok () := by
  intro data
  have hthree (v w z : UInt16) : [v, w, z].length < UInt16.size := (by decide : 3 < UInt16.size)
  have hconfirmed (v w z : UInt16) :
      checkWriteReply data (writeRequest 1 2000 [v, w, z]) = .ok () := by
    obtain ⟨hiff, -⟩ :=
      write_confirmed_by_echo 1 1 2000 2000 (hthree v w z) (hthree v w z) data
    rw [hiff, List.length_cons, List.length_cons, List.length_singleton]
    decide +kernel
  refine ⟨hthree 1 2 3, hconfirmed 1 2 3, hconfirmed 7 8 9, ?_⟩
  intro h
  obtain ⟨-, hunique⟩ :=
    write_confirmed_by_echo 1 1 2000 2001 (hthree 1 2 3) (hthree 1 2 3) data
  obtain ⟨-, haddress, -⟩ := hunique (hconfirmed 1 2 3) h
  exact absurd haddress (by decide)

end Writes

end Frame

end ClimateBus
