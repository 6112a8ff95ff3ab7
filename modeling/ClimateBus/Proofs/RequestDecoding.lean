import ClimateBus.Proofs.SingleExchange
import Mathlib

/-!
Requests read back from the line.

A request announces its quantity in 16 bits and the bytes it carries in 8. Neither is ever cut off,
since a call that asks for more is refused, so nothing of a call is lost: the slave, the kind of
operation, the address, the number of registers and all words can be taken out of the frame again
(`ofFrame?_request`), and no two calls put the same bytes on the line (`request_unambiguous`).
-/
namespace ClimateBus

/-- What a call asks of a slave. -/
inductive Demand where
  | read (table : Table) (address : UInt16) (count : Nat)
  | write (address : UInt16) (ws : Words)
  deriving DecidableEq, Repr

namespace Demand

/-- How many registers are asked for or sent. -/
def quantity : Demand → Nat
  | .read _ _ count => count
  | .write _ ws => ws.length

def frameLength : Demand → Nat
  | .read _ _ _ => 8
  | .write _ ws => 9 + 2 * ws.length

/-- Reads a request, and the slave it is meant for. -/
def ofFrame? : Bytes → Option (UInt8 × Demand)
  | slave :: code :: a₁ :: a₀ :: q₁ :: q₀ :: rest =>
    let address := Checksum.wordOf a₁ a₀
    let quantity := (Checksum.wordOf q₁ q₀).toNat
    match Function.ofCode? code, rest with
    | some .readHolding, _ => some (slave, .read .holding address quantity)
    | some .readInput, _ => some (slave, .read .input address quantity)
    | some .writeMultiple, bytes :: carried =>
      some (slave, .write address (Frame.registers (carried.take bytes.toNat)))
    | _, _ => none
  | _ => none

end Demand

namespace Transfer

def demand : Transfer → Demand
  | @read n table address _ => .read table address n
  | .write address ws => .write address ws

variable {x y : Transfer} (slave slave' : UInt8)

theorem length_request (x : Transfer) :
    (x.request slave).length = x.demand.frameLength := by
  cases x with
  | read table address buffer => rfl
  | write address ws =>
    rw [request, Frame.writeRequest, Checksum.close, List.length_append, List.length_append,
      Frame.length_flatMap_highByteFirst]
    simp only [demand, Demand.frameLength, Checksum.highByteFirst, Checksum.lowByteFirst,
      List.length_append, List.length_cons, List.length_nil]
    omega

theorem matches_request (x : Transfer) : Checksum.Matches (x.request slave) := by
  cases x with
  | read table address buffer => exact Checksum.matches_close _
  | write address ws => exact Checksum.matches_close _

theorem length_le {address : UInt16} {ws : Words} (hx : (write address ws).Admissible) :
    ws.length ≤ 123 := by
  have hfits := hx.2
  simp only [Frame.writeRequestLength, Frame.maxWriteRequest] at hfits
  omega

/-- No more registers are asked for or sent than a reply or a request holds. -/
theorem quantity_le (hx : x.Admissible) : x.demand.quantity ≤ 127 := by
  cases x with
  | @read n table address buffer =>
    have hfits := hx.2
    simp only [Frame.readReplyLength, Frame.maxReadReply] at hfits
    simp only [demand, Demand.quantity]
    omega
  | write address ws =>
    have hws := length_le hx
    simp only [demand, Demand.quantity]
    omega

/-- The frame of a call fits what is sent at most. -/
theorem frameLength_le (hx : x.Admissible) : x.demand.frameLength ≤ Frame.maxWriteRequest := by
  cases x with
  | read table address buffer => exact (by decide : 8 ≤ Frame.maxWriteRequest)
  | write address ws =>
    have hws := length_le hx
    simp only [demand, Demand.frameLength, Frame.maxWriteRequest]
    omega

/-- The two bytes behind the address are the quantity, high byte first. -/
theorem quantity_request (x : Transfer) :
    ((x.request slave).drop 4).take 2 =
      Checksum.highByteFirst (UInt16.ofNat x.demand.quantity) := by
  cases x with
  | read table address buffer => rfl
  | write address ws => rfl

theorem toNat_quantity (hx : x.Admissible) :
    (UInt16.ofNat x.demand.quantity).toNat = x.demand.quantity := by
  have hquantity := quantity_le hx
  apply UInt16.toNat_ofNat_of_lt'
  simp only [UInt16.size]
  omega

theorem toNat_byteCount {address : UInt16} {ws : Words} (hx : (write address ws).Admissible) :
    (UInt8.ofNat (2 * ws.length)).toNat = 2 * ws.length := by
  have hws := length_le hx
  apply UInt8.toNat_ofNat_of_lt'
  simp only [UInt8.size]
  omega

theorem ofFrame?_readRequest (table : Table) (address count : UInt16) :
    Demand.ofFrame? (Frame.readRequest slave (Master.readFunction table) address count) =
      some (slave, .read table address count.toNat) := by
  have hframe : Demand.ofFrame?
      (Frame.readRequest slave (Master.readFunction table) address count) =
        some (slave, .read table (Checksum.wordOf (address >>> 8).toUInt8 address.toUInt8)
          (Checksum.wordOf (count >>> 8).toUInt8 count.toUInt8).toNat) := by
    cases table with
    | holding => rfl
    | input => rfl
  rw [hframe, Checksum.wordOf_bytes, Checksum.wordOf_bytes]

theorem ofFrame?_writeRequest {address : UInt16} {ws : Words}
    (hbytes : (UInt8.ofNat (2 * ws.length)).toNat = 2 * ws.length) :
    Demand.ofFrame? (Frame.writeRequest slave address ws) = some (slave, .write address ws) := by
  let carried := ws.flatMap Checksum.highByteFirst
  have hframe (check : Bytes) : Demand.ofFrame? ([slave, Function.writeMultiple.code] ++
      Checksum.highByteFirst address ++ Checksum.highByteFirst (UInt16.ofNat ws.length) ++
        [UInt8.ofNat (2 * ws.length)] ++ carried ++ check) =
        some (slave, .write (Checksum.wordOf (address >>> 8).toUInt8 address.toUInt8)
          (Frame.registers ((carried ++ check).take (UInt8.ofNat (2 * ws.length)).toNat))) := rfl
  have hcarried (check : Bytes) : (carried ++ check).take (2 * ws.length) = carried :=
    List.take_left' (Frame.length_flatMap_highByteFirst ws)
  rw [Frame.writeRequest, Checksum.close, hframe, Checksum.wordOf_bytes, hbytes, hcarried,
    Frame.registers_flatMap]

/-- A request says what was asked for. -/
theorem ofFrame?_request (hx : x.Admissible) :
    Demand.ofFrame? (x.request slave) = some (slave, x.demand) := by
  have hquantity := toNat_quantity hx
  cases x with
  | @read n table address buffer =>
    simp only [demand, Demand.quantity] at hquantity
    rw [request, ofFrame?_readRequest, hquantity, demand]
  | write address ws => exact ofFrame?_writeRequest slave (toNat_byteCount hx)

variable {slave slave'} in
/-- Calls that are sent as the same bytes ask the same slave for the same. -/
theorem demand_injective (hx : x.Admissible) (hy : y.Admissible)
    (h : x.request slave = y.request slave') : slave = slave' ∧ x.demand = y.demand := by
  have hread := ofFrame?_request slave hx
  rw [h, ofFrame?_request slave' hy] at hread
  obtain ⟨hslave, hdemand⟩ := Prod.mk.inj (Option.some.inj hread)
  exact ⟨hslave.symm, hdemand.symm⟩

/-- A call that is let through is put on the line as one frame. The frame has 8 bytes, or 9 and two
for each word sent, and never more than 256. It announces as many registers as the call is about,
and a write the number of bytes it carries, neither of them cut off. It carries its own check. The
slave and what it is asked for can be read from it, so calls with the same frame ask the same. -/
theorem request_unambiguous (hx : x.Admissible) (hy : y.Admissible) :
    let frame := x.request slave
    (∀ (l : Type) [Link l] (m : Master l), m.settings.slave = slave →
        ∀ sent ∈ LinkEvent.frames (x.run m.watched).2.link.events, sent = frame) ∧
      (frame.length = x.demand.frameLength ∧ frame.length ≤ 256) ∧
      (Frame.registers ((frame.drop 4).take 2)).map UInt16.toNat = [x.demand.quantity] ∧
      (∀ address ws, x.demand = .write address ws →
        frame[6]?.map UInt8.toNat = some (2 * ws.length)) ∧
      Checksum.Matches frame ∧
      Demand.ofFrame? frame = some (slave, x.demand) ∧
      (frame = y.request slave' → slave = slave' ∧ x.demand = y.demand) := by
  intro frame
  refine ⟨?sent, ⟨length_request slave x, ?fits⟩, ?quantity, ?byteCount, matches_request slave x,
    ofFrame?_request slave hx, demand_injective hx hy⟩
  case sent =>
    rintro l _ m rfl sent hsent
    rcases (run_course hx m).frames with hnone | hone
    · rw [hnone] at hsent
      simp at hsent
    · rw [hone] at hsent
      exact List.mem_singleton.mp hsent
  case fits =>
    rw [length_request]
    exact frameLength_le hx
  case quantity =>
    have hregisters (w : UInt16) : Frame.registers (Checksum.highByteFirst w) = [w] := by
      simpa using Frame.registers_flatMap [w]
    rw [quantity_request, hregisters, List.map_singleton, toNat_quantity hx]
  case byteCount =>
    intro address ws hdemand
    cases x with
    | read table address buffer => cases hdemand
    | write address' ws' =>
      obtain ⟨rfl, rfl⟩ := Demand.write.inj hdemand
      have hbyte : frame[6]? = some (UInt8.ofNat (2 * ws'.length)) := rfl
      rw [hbyte, Option.map_some, toNat_byteCount hx]

/-- A write of three words is read back from its 15 bytes, and is no read of three registers. -/
theorem request_unambiguous_demo :
    let x := Transfer.write 2006 [0x0061, 0x0002, 0x00f0]
    let y := Transfer.read .input 2006 (Image.filled 3 0)
    x.Admissible ∧ y.Admissible ∧ (x.request 1).length = 15 ∧
      Demand.ofFrame? (x.request 1) = some (1, .write 2006 [0x0061, 0x0002, 0x00f0]) ∧
      x.request 1 ≠ y.request 1 := by
  intro x y
  have hx : x.Admissible := by
    constructor <;> decide
  have hy : y.Admissible := by
    constructor <;> decide
  obtain ⟨-, ⟨hlength, -⟩, -, -, -, hread, hunique⟩ := request_unambiguous 1 1 hx hy
  refine ⟨hx, hy, hlength, hread, ?_⟩
  intro hsame
  obtain ⟨-, hdemand⟩ := hunique hsame
  cases hdemand

end Transfer

end ClimateBus
