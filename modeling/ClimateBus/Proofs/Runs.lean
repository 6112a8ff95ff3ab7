import ClimateBus.Gateway.Basic
import Mathlib

/-!
Runs of a gateway: calls in any order, and between them whatever the surroundings do to the bus and
to the clock. A call that fails is a step of the run like any other, its effects so far stay.
-/
namespace ClimateBus

/-- The operations of a gateway. -/
inductive Call where
  | discover
  | poll
  | readError (index : UInt8)
  | prepare (index : UInt8)
  | commit (index : UInt8)
  | apply (index : UInt8) (c : Command)
  deriving DecidableEq

/-- The changes of the bus and of the clock that may happen between two calls. -/
structure Surroundings (β : Type) where
  bus : β → β → Prop
  clock : UInt64 → UInt64 → Prop

namespace Gateway

variable {β : Type}

/-- The gateway with bus and clock as others left them. -/
def amid (g : Gateway β) (bus : β) (now : UInt64) : Gateway β :=
  { g with link := { g.link with bus, now } }

variable [Bus β]

/-- The gateway after a call. -/
def call (g : Gateway β) : Call → Gateway β
  | .discover => g.discover.2
  | .poll => g.poll.2
  | .readError index => (g.readError index).2
  | .prepare index => (g.prepare index).2
  | .commit index => (g.commit index).2
  | .apply index c => (g.apply index c).2

/-- The gateway gets from one state to another by these calls, in this order. -/
inductive Run (s : Surroundings β) (g : Gateway β) : List Call → Gateway β → Prop
  | start : Run s g [] g
  | call {ks : List Call} {h : Gateway β} (run : Run s g ks h) (k : Call) :
      Run s g (ks ++ [k]) (h.call k)
  | outside {ks : List Call} {h : Gateway β} (run : Run s g ks h) {bus : β} {now : UInt64}
      (hbus : s.bus h.link.bus bus) (hclock : s.clock h.link.now now) : Run s g ks (h.amid bus now)

/-- A run, told with the state in which each call was made. -/
inductive History (s : Surroundings β) (g : Gateway β) :
    List (Gateway β × Call) → Gateway β → Prop
  | start : History s g [] g
  | call {cs : List (Gateway β × Call)} {h : Gateway β} (history : History s g cs h) (k : Call) :
      History s g (cs ++ [(h, k)]) (h.call k)
  | outside {cs : List (Gateway β × Call)} {h : Gateway β} (history : History s g cs h) {bus : β}
      {now : UInt64} (hbus : s.bus h.link.bus bus) (hclock : s.clock h.link.now now) :
      History s g cs (h.amid bus now)

/-- Some run leads to the state from a new gateway, whatever it was set up with. -/
def Reachable (s : Surroundings β) (g : Gateway β) : Prop :=
  ∃ bus now device settings ks, Run s (.new bus now device settings) ks g

variable {s : Surroundings β}

theorem Reachable.new (bus : β) (now : UInt64) (device : UInt8) (settings : GatewaySettings) :
    Reachable s (.new bus now device settings) := ⟨bus, now, device, settings, [], .start⟩

theorem Reachable.call {g : Gateway β} (h : Reachable s g) (k : Call) : Reachable s (g.call k) := by
  obtain ⟨bus, now, device, settings, ks, hrun⟩ := h
  exact ⟨bus, now, device, settings, ks ++ [k], hrun.call k⟩

theorem Reachable.amid {g : Gateway β} (h : Reachable s g) {bus : β} {now : UInt64}
    (hbus : s.bus g.link.bus bus) (hclock : s.clock g.link.now now) :
    Reachable s (g.amid bus now) := by
  obtain ⟨bus₀, now₀, device, settings, ks, hrun⟩ := h
  exact ⟨bus₀, now₀, device, settings, ks, hrun.outside hbus hclock⟩

theorem Reachable.run {g g' : Gateway β} (h : Reachable s g) {ks : List Call}
    (hrun : Run s g ks g') : Reachable s g' := by
  induction hrun with
  | start => exact h
  | call _ k ih => exact ih.call k
  | outside _ hbus hclock ih => exact ih.amid hbus hclock

/-- What one call and one change outside preserve is preserved by a run of admitted calls. -/
theorem Run.preserves {P : Gateway β → Prop} (admitted : Call → Prop) {g g' : Gateway β}
    {ks : List Call} (hrun : Run s g ks g') (hks : ∀ k ∈ ks, admitted k) (hstart : P g)
    (hcall : ∀ g k, admitted k → P g → P (g.call k))
    (houtside : ∀ (g : Gateway β) bus now, s.bus g.link.bus bus → s.clock g.link.now now → P g →
      P (g.amid bus now)) : P g' := by
  induction hrun with
  | start => exact hstart
  | call _ k ih =>
    simp only [List.mem_append, List.mem_singleton] at hks
    exact hcall _ k (hks k (.inr rfl)) (ih fun k' hk' => hks k' (.inl hk'))
  | outside _ hbus hclock ih => exact houtside _ _ _ hbus hclock (ih hks)

theorem History.run {g g' : Gateway β} {cs : List (Gateway β × Call)} (h : History s g cs g') :
    Run s g (cs.map Prod.snd) g' := by
  induction h with
  | start => exact .start
  | call _ k ih =>
    rw [List.map_append]
    exact ih.call k
  | outside _ hbus hclock ih => exact ih.outside hbus hclock

/-- What happens in narrower surroundings happens in wider ones. -/
theorem Reachable.mono {s' : Surroundings β} {g : Gateway β} (h : Reachable s g)
    (hbus : ∀ b b', s.bus b b' → s'.bus b b') (hclock : ∀ t t', s.clock t t' → s'.clock t t') :
    Reachable s' g := by
  obtain ⟨bus, now, device, settings, ks, hrun⟩ := h
  refine ⟨bus, now, device, settings, ks, ?_⟩
  induction hrun with
  | start => exact .start
  | call _ k ih => exact ih.call k
  | outside _ hb hc ih => exact ih.outside (hbus _ _ hb) (hclock _ _ hc)

/-- What holds of every new gateway and is preserved holds in every reachable state. -/
theorem Reachable.invariant {P : Gateway β → Prop} {g : Gateway β} (h : Reachable s g)
    (hnew : ∀ bus now device settings, P (.new bus now device settings))
    (hcall : ∀ g k, P g → P (g.call k))
    (houtside : ∀ (g : Gateway β) bus now, s.bus g.link.bus bus → s.clock g.link.now now → P g →
      P (g.amid bus now)) : P g := by
  obtain ⟨bus, now, device, settings, ks, hrun⟩ := h
  exact hrun.preserves (fun _ => True) (fun _ _ => trivial) (hnew _ _ _ _)
    (fun g k _ => hcall g k) houtside

end Gateway

end ClimateBus
