import ClimateBus.Proofs.CommandRequests
import ClimateBus.Proofs.SupervisorAccounts
import Mathlib

/-!
Requests that are turned down and leave everything as it was.

A gateway turns a request down if there is no slot of that number, or else no unit in it. A supervisor
asks its gateway and gives the same answer; before that it turns down what is no command, and between
the two every call whose wait for the gateway was too long.
-/
namespace ClimateBus

namespace Gateway

variable {β : Type} {g : Gateway β}

/-- Why a request for a unit is turned down. -/
inductive Refuses (g : Gateway β) (index : UInt8) : GatewayError → Prop
  | number (h : 64 ≤ index.toNat) : Refuses g index (.invalidUnit index)
  | absent (h : index.toNat < 64) (hnone : ∀ u ∈ g.slots, u.index = index → u.present = false) :
      Refuses g index (.unitNotPresent index)

/-- The position a request is looked up at is the address of the unit it is for. -/
theorem Indexed.present?_eq_error (hg : g.Indexed) {index : UInt8} {e : GatewayError} :
    g.present? index = .error e ↔ g.Refuses index e := by
  have hlength : g.slots.length = 64 := hg.length_slots
  rw [Gateway.present?_eq_error]
  constructor
  · rintro (⟨hnone, rfl⟩ | ⟨u, hu, habsent, rfl⟩)
    · exact .number (hlength ▸ List.getElem?_eq_none_iff.mp hnone)
    · obtain ⟨hindex, hat⟩ := hg.index_eq hu
      refine .absent hindex fun v hv hv' => ?_
      -- No other record has this address.
      obtain rfl := List.inj_on_of_nodup_map hg.nodup hv (List.mem_of_getElem? hu)
        (hv'.trans hat.symm)
      exact habsent
  · intro h
    cases h with
    | number h => exact .inl ⟨List.getElem?_eq_none_iff.mpr (hlength ▸ h), rfl⟩
    | absent h hnone =>
      have hlt : index.toNat < g.slots.length := hlength ▸ h
      have hu := List.getElem?_eq_getElem hlt
      exact .inr ⟨_, hu, hnone _ (List.getElem_mem hlt) (hg.index_eq hu).2, rfl⟩

end Gateway

namespace Supervisor

variable {β : Type} [Bus β] {s : Supervisor β} {index : UInt8}

section Refused

variable {e : GatewayError} (hheld : s.held = false) (h : s.gateway.present? index = .error e)

include hheld h

theorem execute_refused (c : Command) : s.execute index c = (.error (.gateway e), s) := by
  rw [execute, withGateway_free hheld]
  dsimp only
  rw [h]

theorem errorReport_refused : s.errorReport index = (.error (.gateway e), s) := by
  rw [errorReport, withGateway_free hheld]
  dsimp only
  rw [Gateway.readError, Gateway.onPresent_absent h]
  rfl

end Refused

theorem executeRequest_command {name : String} {value : Option Binary64} {c : Command}
    (h : Command.ofRequest name value = .ok c) :
    s.executeRequest index name value = s.execute index c := by
  rw [executeRequest, h]

end Supervisor

namespace Gateway

open Supervisor

variable {β : Type} [Bus β]

/-- A request for a unit that is not there is answered with the reason and has no effect, on the
gateway or on a supervisor that owns it. A supervisor answers a request that is no command before
that. Both hold whatever has happened. Only a command or an error report whose wait for the gateway
was too long is not even looked at; it is counted as such and does nothing else. -/
theorem refused_without_effect {su : Surroundings β} {g : Gateway β} (h : Reachable su g) :
    (∀ index e, g.Refuses index e →
      g.prepare index = (.error e, g) ∧ g.commit index = (.error e, g) ∧
        (∀ c, g.apply index c = (.error e, g)) ∧ g.readError index = (.error e, g)) ∧
    ∀ sup : Supervisor β, sup.gateway = g →
      (∀ index name value e, Command.Refused name value e →
        sup.executeRequest index name value = (.error (.command e), sup)) ∧
      (∀ index e, g.Refuses index e → sup.held = false →
        (∀ c, sup.execute index c = (.error (.gateway e), sup)) ∧
        (∀ name value c, Command.ofRequest name value = .ok c →
          sup.executeRequest index name value = (.error (.gateway e), sup)) ∧
        sup.errorReport index = (.error (.gateway e), sup)) ∧
      (sup.held = true → ∀ index,
        let sup' := { sup with stats := { sup.stats with busy := sup.stats.busy + 1 } }
        (∀ c, sup.execute index c = (.error (.busy "command"), sup')) ∧
        (∀ name value c, Command.ofRequest name value = .ok c →
          sup.executeRequest index name value = (.error (.busy "command"), sup')) ∧
        sup.errorReport index = (.error (.busy "error read"), sup')) := by
  refine ⟨?units, ?supervisors⟩
  case units =>
    intro index e hrefuses
    have herror := h.indexed.present?_eq_error.mpr hrefuses
    exact ⟨onPresent_absent herror, onPresent_absent herror, fun c => onPresent_absent herror,
      onPresent_absent herror⟩
  case supervisors =>
    rintro sup rfl
    refine ⟨?commands, ?free, ?held⟩
    case commands =>
      intro index name value e hrefused
      rw [executeRequest, Command.ofRequest_eq_error.mpr hrefused]
    case free =>
      intro index e hrefuses hheld
      have herror := h.indexed.present?_eq_error.mpr hrefuses
      refine ⟨execute_refused hheld herror, ?_, errorReport_refused hheld herror⟩
      intro name value c hcommand
      rw [executeRequest_command hcommand, execute_refused hheld herror]
    case held =>
      intro hheld index
      have hexecute (c : Command) : sup.execute index c = (.error (.busy "command"), sup.turnedAway) :=
        withGateway_held hheld
      refine ⟨hexecute, ?_, withGateway_held hheld⟩
      intro name value c hcommand
      rw [executeRequest_command hcommand, hexecute]
      rfl

/-- After the faults of the small installation: there is no unit 64, none at 2, no defrosting, and a
mode takes a number. -/
theorem refused_without_effect_demo : Reachable (.arbitrary Simulation) demoEnd.gateway ∧
    demoEnd.gateway.apply 64 .filterReset = (.error (.invalidUnit 64), demoEnd.gateway) ∧
    demoEnd.gateway.readError 2 = (.error (.unitNotPresent 2), demoEnd.gateway) ∧
    demoEnd.execute 2 (.power true) = (.error (.gateway (.unitNotPresent 2)), demoEnd) ∧
    demoEnd.executeRequest 64 "defrost" none =
      (.error (.command (.unknownCommand "defrost")), demoEnd) ∧
    demoEnd.executeRequest 64 "mode" none = (.error (.command (.missingValue "mode")), demoEnd) := by
  have hreachable := demo_run.reachable (.new _ _ _ _)
  have hbeyond : demoEnd.gateway.Refuses 64 (.invalidUnit 64) := .number (by decide)
  have habsent : demoEnd.gateway.Refuses 2 (.unitNotPresent 2) :=
    hreachable.indexed.present?_eq_error.mp (by decide +kernel)
  have hunknown : Command.Refused "defrost" none (.unknownCommand "defrost") :=
    .unknown (by decide) (by simp [Command.numberNames])
  have hmissing : Command.Refused "mode" none (.missingValue "mode") :=
    .missing (by simp [Command.numberNames])
  obtain ⟨hunits, hsupervisors⟩ := refused_without_effect hreachable
  obtain ⟨hcommands, hfree, -⟩ := hsupervisors demoEnd rfl
  obtain ⟨-, -, happly, -⟩ := hunits _ _ hbeyond
  obtain ⟨-, -, -, hread⟩ := hunits _ _ habsent
  have hheld : demoEnd.held = false := by decide +kernel
  exact ⟨hreachable, happly _, hread, (hfree _ _ habsent hheld).1 _, hcommands _ _ _ _ hunknown,
    hcommands _ _ _ _ hmissing⟩

/-- A small installation whose gateway is held by another caller. -/
def demoHeld : Supervisor Simulation :=
  (Supervisor.new (.new Simulation.demo 0 1 {}) {}).amid Simulation.demo 0 default true

/-- Whoever waits too long is told so, and not that there is no unit 64; and it is counted. -/
theorem held_gateway_answers_first :
    Supervisor.Run (.new (.new Simulation.demo 0 1 {}) {}) [] demoHeld ∧
    demoHeld.gateway.Refuses 64 (.invalidUnit 64) ∧
    (demoHeld.execute 64 (.power true)).1 ≠ .error (.gateway (.invalidUnit 64)) ∧
    (demoHeld.execute 64 (.power true)).2.stats ≠ demoHeld.stats := by
  refine ⟨Supervisor.Run.start.outside Simulation.demo 0 default true, .number (by decide), ?_, ?_⟩
  · decide
  · decide

end Gateway

end ClimateBus
