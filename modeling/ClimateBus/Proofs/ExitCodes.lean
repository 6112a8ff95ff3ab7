import ClimateBus.Console.Outcome
import Mathlib

/-!
Which exit code a failure leads to, however it is told.

An error on its own and a link in a chain of causes each have a table of codes. The tables agree, and
notes have no say, so the outermost error of a chain decides, as it would without the chain
(`Causes.outermost_error_decides`). An error that wraps another one has the code, the message and the
origins of that; the error inside is no link of the chain, so the search has to know the wrapper.
-/
namespace ClimateBus

namespace LibraryError

/-- An error that stands for another one and adds nothing to it. -/
inductive Wraps : LibraryError → LibraryError → Prop
  | bus (e : TransportError) : Wraps (.gateway (.bus e)) (.transport e)
  | gateway (e : GatewayError) : Wraps (.supervisor (.gateway e)) (.gateway e)
  | command (e : CommandError) : Wraps (.supervisor (.command e)) (.command e)

theorem Wraps.exitCode_eq {outer e : LibraryError} (h : Wraps outer e) :
    outer.exitCode = e.exitCode := by
  cases h with
  | bus e => rfl
  | gateway e => rfl
  | command e => rfl

/-- However deep one error is wrapped in others, the code is its own. -/
theorem exitCode_of_wraps {outer e : LibraryError} (h : Relation.ReflTransGen Wraps outer e) :
    outer.exitCode = e.exitCode := by
  induction h with
  | refl => rfl
  | tail _ hstep ih => exact ih.trans hstep.exitCode_eq

end LibraryError

/-- The table of the search says the same as that of errors on their own. -/
theorem Cause.exitCode?_error (e : LibraryError) : (Cause.error e).exitCode? = some e.exitCode := by
  cases e with
  | transport e => rfl
  | gateway e => rfl
  | supervisor e => cases e <;> rfl
  | command e => rfl
  | settings e => rfl

namespace Causes

/-- The chain with a note put around it for each thing that was being done, the first one next to
it. -/
def within (cs : Causes) (layers : List String) : Causes :=
  layers.foldl (fun cs what => cs.during what) cs

theorem within_eq (cs : Causes) (layers : List String) :
    cs.within layers = layers.reverse.map .note ++ cs := by
  induction layers generalizing cs with
  | nil => rfl
  | cons what rest ih =>
    change (cs.during what).within rest = _
    rw [ih, List.reverse_cons, List.map_append, List.append_assoc]
    rfl

theorem exitCode_notes (texts : List String) : exitCode (texts.map .note) = .general := by
  have hnone : (texts.map Cause.note).findSome? Cause.exitCode? = none := by
    rw [List.findSome?_map, List.findSome?_eq_none_iff]
    exact fun _ _ => rfl
  rw [exitCode, hnone, Option.getD_none]

theorem exitCode_notes_append (texts : List String) (cs : Causes) :
    exitCode (texts.map .note ++ cs) = exitCode cs := by
  induction texts with
  | nil => rfl
  | cons text rest ih => exact ih

theorem exitCode_error_cons (e : LibraryError) (after : Causes) :
    exitCode (.error e :: after) = e.exitCode := by
  rw [exitCode, List.findSome?_cons, Cause.exitCode?_error, Option.getD_some]

/-- A chain has no error, or an outermost one with nothing but notes around it. -/
theorem notes_or_outermost (cs : Causes) : (∃ texts : List String, cs = texts.map .note) ∨
    ∃ (before : List String) (e : LibraryError) (after : Causes),
      cs = before.map .note ++ .error e :: after := by
  induction cs with
  | nil => exact .inl ⟨[], rfl⟩
  | cons c rest ih =>
    cases c with
    | error e => exact .inr ⟨[], e, rest, rfl⟩
    | note text =>
      rcases ih with ⟨texts, rfl⟩ | ⟨before, e, after, rfl⟩
      · exact .inl ⟨text :: texts, rfl⟩
      · exact .inr ⟨text :: before, e, after, rfl⟩

/-- The code of an error is the same on its own and in a chain, whatever it is wrapped in and
however many notes are put around it. A chain of notes alone leads to the general code, and in every
other chain the outermost error decides, whatever comes after it. -/
theorem outermost_error_decides :
    (∀ outer e, Relation.ReflTransGen LibraryError.Wraps outer e → ∀ layers,
      (Outcome.ofCauses ((ofError outer).within layers)).code = (Outcome.ofError e).code) ∧
    (∀ texts : List String,
      (Outcome.ofCauses (texts.map .note)).code = ExitCode.general.value) ∧
    (∀ (before : List String) (e : LibraryError) (after : Causes),
      (Outcome.ofCauses (before.map .note ++ .error e :: after)).code =
        (Outcome.ofError e).code) ∧
    ∀ cs : Causes, (∃ texts : List String, cs = texts.map .note) ∨
      ∃ (before : List String) (e : LibraryError) (after : Causes),
        cs = before.map .note ++ .error e :: after := by
  refine ⟨fun outer e hwraps layers => ?_, fun texts => ?_, fun before e after => ?_,
    notes_or_outermost⟩
  · change ((ofError outer).within layers).exitCode.value = e.exitCode.value
    rw [within_eq, exitCode_notes_append, ofError, exitCode_error_cons,
      LibraryError.exitCode_of_wraps hwraps]
  · exact congrArg ExitCode.value (exitCode_notes texts)
  · change (exitCode (before.map .note ++ .error e :: after)).value = e.exitCode.value
    rw [exitCode_notes_append, exitCode_error_cons]

/-- A timeout that a supervisor passes on, told with two notes; and a lost line whose cause is told
by an error of its own. -/
theorem outermost_error_decides_passed_on :
    let passedOn : LibraryError := .supervisor (.gateway (.bus (.timeout 23 4)))
    let lost : LibraryError := .transport (.io "unit 3 not present")
    (Outcome.ofCauses ((ofError passedOn).within ["status read", "discovery"])).code = 4 ∧
      (Outcome.ofCauses [.note "opening", .error lost, .error (.gateway (.unitNotPresent 3))]).code =
        3 := by
  intro passedOn lost
  obtain ⟨hwithin, -, houtermost, -⟩ := outermost_error_decides
  have hwraps : Relation.ReflTransGen LibraryError.Wraps passedOn (.transport (.timeout 23 4)) :=
    .head (.gateway _) (.single (.bus _))
  exact ⟨(hwithin passedOn _ hwraps _).trans rfl,
    (houtermost ["opening"] lost [.error (.gateway (.unitNotPresent 3))]).trans rfl⟩

end Causes

end ClimateBus
