import ClimateBus.Block.System
import ClimateBus.Gateway.Command
import ClimateBus.Gateway.Link
import ClimateBus.Gateway.Slot

/-!
The gateway: 64 unit slots, images of their registers, and commands to them.

The bus takes whole holding blocks only, so a command runs in two steps. First the holding image
is brought to a baseline that can be trusted: it is read again if it was never read, or if it is
clean and neither its last read nor its last write is recent; then it takes over the status image
and is written if that changed it. Then the command edits one field of the status image, and the
holding image takes it over and is written.

Each step works on one slot and the link to the bus (`Gateway.onPresent`), so it cannot touch
another slot.
-/
namespace ClimateBus

inductive GatewayError where
  | bus (e : TransportError)
  | invalidUnit (index : UInt8)
  | unitNotPresent (index : UInt8)
  deriving DecidableEq, Repr

def GatewayError.message : GatewayError → String
  | .bus e => e.message
  | .invalidUnit index => s!"unit index {index.toNat} out of range (0-63)"
  | .unitNotPresent index => s!"unit {index.toNat} not present"

structure GatewaySettings where
  /-- Seconds between status polls. -/
  pollIntervalS : UInt32 := 10
  /-- Least milliseconds between bus operations. -/
  throttleMs : UInt32 := 25
  /-- Seconds a read or write of a holding block is trusted. -/
  cacheWriteS : UInt32 := 35
  /-- Seconds a read of an error block is trusted. -/
  cacheErrorS : UInt32 := 10
  deriving DecidableEq, Repr

/-- What a poll pass did with the units that are present. -/
structure PollSummary where
  polled : Nat
  /-- Written too recently to be read. -/
  skipped : Nat
  failed : Nat
  deriving DecidableEq, Repr

structure Gateway (β : Type) where
  link : BusLink β
  device : UInt8
  settings : GatewaySettings
  /-- The system block as of the last discovery. -/
  system : SystemImage
  slots : List Slot
  /-- Units found by the last discovery. -/
  discovered : Nat

structure SlotStep (β : Type) where
  result : Except TransportError Unit
  slot : Slot
  link : BusLink β

namespace SlotStep

variable {β : Type}

/-- Goes on with another step unless this one failed. -/
def andThen (s : SlotStep β) (next : BusLink β → Slot → SlotStep β) : SlotStep β :=
  match s.result with
  | .ok () => next s.link s.slot
  | .error _ => s

end SlotStep

namespace Slot

variable {β : Type} [Bus β]

/-- Writes the holding image if it has an unwritten edit. -/
def writeHolding (l : BusLink β) (u : Slot) (stamp : UInt64) : SlotStep β :=
  let w := l.writeIfDirty u.index u.holding stamp
  ⟨w.result, { u with holding := w.holding }, w.link⟩

/-- Lets the holding image take over the status image. -/
def sync (u : Slot) : Slot := { u with holding := u.holding.syncFrom u.status }

/-- The holding image has to be read again before it can be edited. -/
def stale (u : Slot) (now : UInt64) (window : UInt32) : Bool :=
  u.holding.lastRead.isNone ||
    (!u.holding.dirty && !u.holding.readWithin now window && !u.holding.writeWithin now window)

/-- Brings the holding image to a baseline that can be trusted. -/
def prepare (window : UInt32) (l : BusLink β) (u : Slot) : SlotStep β :=
  if u.stale l.now window then
    let r := l.read .holding u.index u.holding.image
    let u' := { u with holding := { u.holding with image := r.buffer } }
    match r.result with
    | .error e => ⟨.error e, u', r.link⟩
    | .ok () =>
      let u' := { u' with holding := u'.holding.markRead l.now }
      writeHolding r.link u'.sync l.now
  else ⟨.ok (), u, l⟩

/-- Withdraws a request to clear the filter sign that has been sent, so that the unit sees a
pulse. -/
def endPulse (stamp : UInt64) (l : BusLink β) (u : Slot) : SlotStep β :=
  if u.holding.filterReset then
    writeHolding l { u with holding := u.holding.setFilterReset false } stamp
  else ⟨.ok (), u, l⟩

/-- Lets the holding image take over the status image and writes it. -/
def commit (l : BusLink β) (u : Slot) : SlotStep β :=
  (writeHolding l u.sync l.now).andThen (endPulse l.now)

/-- The one edit a command makes: of the status image, or of the filter field. -/
def edit (u : Slot) : Command → Slot
  | .power on => { u with status := u.status.setPower on }
  | .mode m => { u with status := (u.status.setPower true).setMode m }
  | .setpoint c => { u with status := u.status.setSetpoint c }
  | .fanSpeed v => { u with status := u.status.setFanSpeed v }
  | .fanDirection d => { u with status := u.status.setFanDirection d }
  | .filterReset => { u with holding := u.holding.setFilterReset true }

def apply (window : UInt32) (c : Command) (l : BusLink β) (u : Slot) : SlotStep β :=
  (prepare window l u).andThen fun l u => commit l.idle (u.edit c)

/-- The error block was read less than `secs` seconds ago. -/
def errorFresh (u : Slot) (now : UInt64) (secs : UInt32) : Bool :=
  stampWithin u.lastErrorRead now secs

/-- Reads the error block unless a recent one is at hand. -/
def readError (secs : UInt32) (l : BusLink β) (u : Slot) : SlotStep β :=
  if u.errorFresh l.now secs then ⟨.ok (), u, l⟩
  else
    let r := l.read .error u.index u.error.image
    let u' := { u with error := ⟨r.buffer⟩ }
    match r.result with
    | .error e => ⟨.error e, u', r.link⟩
    | .ok () => ⟨.ok (), { u' with lastErrorRead := some l.now }, r.link⟩

/-- Empties a slot and, if the system block calls it healthy, reads its capability and status. The
unit is present if both reads succeed. -/
def discover (system : SystemImage) (l : BusLink β) (u : Slot) : Slot × BusLink β :=
  let u := u.reset
  if system.healthy u.index.toNat then
    let c := l.read .capability u.index u.capability.image
    let u := { u with capability := ⟨c.buffer⟩ }
    match c.result with
    | .error _ => (u, c.link)
    | .ok () =>
      let s := c.link.read .status u.index u.status.image
      let u := { u with status := ⟨s.buffer⟩ }
      match s.result with
      | .error _ => (u, s.link)
      | .ok () => ({ u with present := true }, s.link)
  else (u, l)

end Slot

namespace Gateway

variable {β : Type}

/-- A gateway that has found nothing yet. -/
def new (bus : β) (now : UInt64) (device : UInt8) (settings : GatewaySettings) : Gateway β where
  link := ⟨bus, now, settings.throttleMs, none, []⟩
  device := device
  settings := settings
  system := default
  slots := (List.range slotCount).map fun i => Slot.empty (UInt8.ofNat i)
  discovered := 0

def presentSlots (g : Gateway β) : List Slot := g.slots.filter (·.present)

def slot? (g : Gateway β) (index : UInt8) : Except GatewayError Slot :=
  match g.slots[index.toNat]? with
  | some u => .ok u
  | none => .error (.invalidUnit index)

def present? (g : Gateway β) (index : UInt8) : Except GatewayError Slot := do
  let u ← g.slot? index
  if u.present then .ok u else .error (.unitNotPresent index)

/-- Runs a step on a slot with a unit in it. -/
def onPresent (g : Gateway β) (index : UInt8) (step : BusLink β → Slot → SlotStep β) :
    Except GatewayError Unit × Gateway β :=
  match g.present? index with
  | .error e => (.error e, g)
  | .ok u =>
    let s := step g.link u
    (s.result.mapError .bus, { g with link := s.link, slots := g.slots.set index.toNat s.slot })

def advance (g : Gateway β) (ms : UInt64) : Gateway β :=
  { g with link := { g.link with now := g.link.now + ms } }

def setClock (g : Gateway β) (now : UInt64) : Gateway β :=
  { g with link := { g.link with now := now } }

variable [Bus β]

/-- Discovers slot after slot. -/
def scan (system : SystemImage) : BusLink β → List Slot → List Slot × BusLink β
  | l, [] => ([], l)
  | l, u :: rest =>
    let (u, l) := u.discover system l
    let (us, l) := scan system l rest
    (u :: us, l)

/-- Looks for units in all slots, forgetting what was known, unwritten edits included. Only a
failed read of the system block makes it fail. -/
def discover (g : Gateway β) : Except GatewayError Nat × Gateway β :=
  let r := g.link.read .system 0 g.system.image
  let g := { g with link := r.link, system := ⟨r.buffer⟩ }
  match r.result with
  | .error e => (.error (.bus e), g)
  | .ok () =>
    let (slots, link) := scan g.system g.link g.slots
    let count := (slots.filter (·.present)).length
    (.ok count, { g with link, slots, discovered := count })

/-- Refreshes the status of slot after slot; `now` is the time the pass began. -/
def refresh (now : UInt64) (window : UInt32) :
    BusLink β → List Slot → PollSummary × List Slot × BusLink β
  | l, [] => (⟨0, 0, 0⟩, [], l)
  | l, u :: rest =>
    if !u.present then
      let (summary, us, l) := refresh now window l rest
      (summary, u :: us, l)
    else if u.holding.writeWithin now window then
      let (summary, us, l) := refresh now window l rest
      ({ summary with skipped := summary.skipped + 1 }, u :: us, l)
    else
      let r := l.read .status u.index u.status.image
      let u := { u with status := ⟨r.buffer⟩ }
      let (summary, us, l) := refresh now window r.link rest
      match r.result with
      | .ok () => ({ summary with polled := summary.polled + 1 }, u :: us, l)
      | .error _ => ({ summary with failed := summary.failed + 1 }, u :: us, l)

/-- Refreshes the status of every present unit that was not written recently. A failed read does
not end the pass. -/
def poll (g : Gateway β) : PollSummary × Gateway β :=
  let (summary, slots, link) := refresh g.link.now g.settings.cacheWriteS g.link g.slots
  (summary, { g with slots, link })

def readError (g : Gateway β) (index : UInt8) : Except GatewayError Unit × Gateway β :=
  g.onPresent index (Slot.readError g.settings.cacheErrorS)

def prepare (g : Gateway β) (index : UInt8) : Except GatewayError Unit × Gateway β :=
  g.onPresent index (Slot.prepare g.settings.cacheWriteS)

def commit (g : Gateway β) (index : UInt8) : Except GatewayError Unit × Gateway β :=
  g.onPresent index Slot.commit

def apply (g : Gateway β) (index : UInt8) (c : Command) : Except GatewayError Unit × Gateway β :=
  g.onPresent index (Slot.apply g.settings.cacheWriteS c)

def reports (g : Gateway β) : List UnitReport := g.presentSlots.map .ofSlot

end Gateway

end ClimateBus
