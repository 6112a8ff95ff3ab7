import ClimateBus.Serial.Exchange

/-!
Lines for rehearsing an exchange without hardware: one that follows a script, and a wrapper that
records the calls made on any line.
-/
namespace ClimateBus

/-- What a scripted line does when it is asked to receive. -/
inductive Reception where
  /-- Delivers bytes; what was not asked for stays for the next call. If it is late, the deadline
  passes first. -/
  | deliver (bytes : Bytes) (late : Bool)
  | fail (failure : LineFailure)
  deriving DecidableEq, Repr

structure Script where
  receptions : List Reception := []
  discardFailure : Option LineFailure := none
  transmitFailure : Option LineFailure := none
  drainFailure : Option LineFailure := none
  /-- Which call on a control line fails, counted from one, and how. -/
  lineFailure : Option (Nat × LineFailure) := none
  /-- The deadline passes while the request leaves the wire. -/
  drainLate : Bool := false
  deriving Repr

structure ScriptedLink where
  script : Script
  lineCalls : Nat := 0
  late : Bool := false
  deriving Repr

namespace ScriptedLink

def outcome : Option LineFailure → Except LineFailure Unit
  | some e => .error e
  | none => .ok ()

def remaining (k : ScriptedLink) (rest : List Reception) (late : Bool) : ScriptedLink :=
  { k with script := { k.script with receptions := rest }, late := k.late || late }

def receive (k : ScriptedLink) (asked : Nat) : Except LineFailure Bytes × ScriptedLink :=
  match k.script.receptions with
  | [] => (.ok [], k)
  | .fail e :: rest => (.error e, k.remaining rest false)
  | .deliver bytes late :: rest =>
    let kept := if bytes.length ≤ asked then rest else .deliver (bytes.drop asked) false :: rest
    (.ok (bytes.take asked), k.remaining kept late)

instance : Link ScriptedLink where
  start k timeoutMs := { k with late := timeoutMs == 0 }
  expired k := (k.late, k)
  discard k := (outcome k.script.discardFailure, k)
  setLine k _ _ :=
    let call := k.lineCalls + 1
    let failure := k.script.lineFailure.bind fun (n, e) => if n = call then some e else none
    (outcome failure, { k with lineCalls := call })
  transmit k _ := (outcome k.script.transmitFailure, k)
  drain k := (outcome k.script.drainFailure, { k with late := k.late || k.script.drainLate })
  receive := receive

end ScriptedLink

/-- A call on a line; a reception also states how many bytes came, if it did not fail. -/
inductive LinkCall where
  | discard
  | setLine (line : ControlLine) (level : Bool)
  | transmit (frame : Bytes)
  | drain
  | receive (asked : Nat) (got : Option Nat)
  deriving DecidableEq, Repr

def LinkCall.describe : LinkCall → String
  | .discard => "discard"
  | .setLine line level => s!"{line.name} {level}"
  | .transmit frame => "tx " ++ Hex.ofBytes frame
  | .drain => "drain"
  | .receive asked (some got) => s!"rx {asked} -> {got}"
  | .receive asked none => s!"rx {asked} -> error"

/-- A line together with the calls made on it, failed ones included, in order. -/
structure Traced (l : Type) where
  link : l
  calls : List LinkCall := []

namespace Traced

variable {l : Type} [Link l]

def after {α : Type} (t : Traced l) (call : LinkCall) (r : α × l) : α × Traced l :=
  (r.1, ⟨r.2, t.calls ++ [call]⟩)

instance : Link (Traced l) where
  start t timeoutMs := { t with link := Link.start t.link timeoutMs }
  expired t :=
    let (late, link) := Link.expired t.link
    (late, { t with link })
  discard t := t.after .discard (Link.discard t.link)
  setLine t line level := t.after (.setLine line level) (Link.setLine t.link line level)
  transmit t frame := t.after (.transmit frame) (Link.transmit t.link frame)
  drain t := t.after .drain (Link.drain t.link)
  receive t asked :=
    let r := Link.receive t.link asked
    t.after (.receive asked (r.1.toOption.map List.length)) r
  elapsed t := Link.elapsed t.link

end Traced

end ClimateBus
