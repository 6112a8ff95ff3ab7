import ClimateBus.Bus
import ClimateBus.Block.Holding

/-!
Spaced access to a bus.

Operations are at least `throttleMs` milliseconds apart, from the end of one to the start of the
next: one that comes too early first waits for the rest. Time is a 64-bit count of milliseconds.
Waiting moves it forward, and so does everything that takes time. A wait may carry it past the end
of its range, where it wraps around; what goes by beside the waits stops there. What was issued,
when it was asked for, when it went out and when it was over, is kept.
-/
namespace ClimateBus

/-- The time after so many milliseconds have gone by, the last one at the latest. -/
def Clock.later (t ms : UInt64) : UInt64 :=
  UInt64.ofNat (min (t.toNat + ms.toNat) (UInt64.size - 1))

namespace Clock

theorem toNat_later (t ms : UInt64) :
    (later t ms).toNat = min (t.toNat + ms.toNat) (UInt64.size - 1) := by
  rw [later, UInt64.toNat_ofNat']
  apply Nat.mod_eq_of_lt
  simp only [UInt64.size]
  omega

@[simp] theorem later_zero (t : UInt64) : later t 0 = t := by
  apply UInt64.toNat_inj.mp
  have ht := t.toNat_lt
  rw [toNat_later, UInt64.toNat_zero]
  simp only [UInt64.size]
  omega

theorem le_later (t ms : UInt64) : t ≤ later t ms := by
  have ht := t.toNat_lt
  rw [UInt64.le_iff_toNat_le, toNat_later]
  simp only [UInt64.size]
  omega

end Clock

structure Issue where
  kind : BlockKind
  slot : UInt8
  /-- The words of a write; none for a read. -/
  written : Option Words
  requestedAt : UInt64
  issuedAt : UInt64
  endedAt : UInt64
  succeeded : Bool
  deriving DecidableEq, Repr

structure BusLink (β : Type) where
  bus : β
  now : UInt64
  throttleMs : UInt32
  lastOp : Option UInt64
  /-- All operations, in the order they were issued. -/
  issued : List Issue

structure BlockRead (β : Type) (n : Nat) where
  result : Except TransportError Unit
  buffer : Image n
  link : BusLink β

structure HoldingWrite (β : Type) where
  result : Except TransportError Unit
  holding : HoldingCache
  link : BusLink β

namespace BusLink

variable {β : Type}

/-- How long the next operation has to wait. A last operation that lies ahead of the clock counts
as issued just now. -/
def pause (l : BusLink β) : UInt64 :=
  match l.lastOp with
  | none => 0
  | some last =>
    let elapsed := l.now.toNat - last.toNat
    UInt64.ofNat (l.throttleMs.toNat - elapsed)

/-- The link after an operation that was issued now and took so long. -/
def after (l : BusLink β) (bus : β) (kind : BlockKind) (slot : UInt8) (written : Option Words)
    (requestedAt took : UInt64) (result : Except TransportError Unit) : BusLink β :=
  let ended := Clock.later l.now took
  { l with
    bus := bus
    now := ended
    lastOp := some ended
    issued := l.issued ++ [⟨kind, slot, written, requestedAt, l.now, ended, result.isOk⟩] }

variable [Bus β]

/-- Waits until the next operation may be issued, or somewhat longer. -/
def throttle (l : BusLink β) : BusLink β :=
  { l with now := Clock.later (l.now + l.pause) (Bus.lag l.bus) }

/-- Lets the time between the two halves of a command go by. -/
def idle (l : BusLink β) : BusLink β := { l with now := Clock.later l.now (Bus.idle l.bus) }

/-- Reads a block of a slot into a buffer. -/
def read (l : BusLink β) (kind : BlockKind) (slot : UInt8) (buffer : Image kind.size) :
    BlockRead β kind.size :=
  let ready := l.throttle
  let r := Bus.read ready.bus kind.table (kind.address slot) buffer
  ⟨r.result, r.buffer, ready.after r.bus kind slot none l.now r.took r.result⟩

def write (l : BusLink β) (slot : UInt8) (ws : Words) : Except TransportError Unit × BusLink β :=
  let ready := l.throttle
  let r := Bus.write ready.bus (BlockKind.holding.address slot) ws
  (r.result, ready.after r.bus .holding slot (some ws) l.now r.took r.result)

/-- Writes a holding image if it has an unwritten edit, and marks it as written at `stamp`. -/
def writeIfDirty (l : BusLink β) (slot : UInt8) (h : HoldingCache) (stamp : UInt64) :
    HoldingWrite β :=
  if h.dirty then
    match l.write slot h.image.words with
    | (.ok (), l) => ⟨.ok (), h.markWritten stamp, l⟩
    | (.error e, l) => ⟨.error e, h, l⟩
  else ⟨.ok (), h, l⟩

end BusLink

end ClimateBus
