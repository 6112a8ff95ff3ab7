import ClimateBus.Proofs.ExchangeCourse
import Mathlib

/-!
Whether a line that was raised for sending is lowered again.

The lines are lowered after every attempt to send, but in order and only up to the first failure,
as they are raised. The first line is therefore always lowered, or the attempt is made. The second
one is left as it is when the first cannot be lowered, even if it was raised before.
-/
namespace ClimateBus

namespace LinkEvent

theorem levels_append (line : ControlLine) (es es' : List LinkEvent) :
    levels line (es ++ es') = levels line es ++ levels line es' := List.filterMap_append

theorem mem_levels {line : ControlLine} {level : Bool} {es : List LinkEvent} :
    level ∈ levels line es ↔ ∃ succeeded, .called (.setLine line level) succeeded ∈ es := by
  rw [levels, List.mem_filterMap]
  constructor
  · rintro ⟨e, he, hlevel⟩
    cases e with
    | checked passed => cases hlevel
    | called call succeeded =>
      cases call with
      | discard | transmit frame | drain | receive asked got => cases hlevel
      | setLine c other =>
        simp only [level?] at hlevel
        split_ifs at hlevel with hc
        obtain rfl := Option.some.inj hlevel
        subst hc
        exact ⟨succeeded, he⟩
  · rintro ⟨succeeded, he⟩
    exact ⟨_, he, if_pos rfl⟩

namespace Sets

variable {level other succeeded : Bool} {line : ControlLine} {lines : List ControlLine}
  {es : List LinkEvent}

/-- All attempts are at these lines and at this level. -/
theorem of_mem (h : Sets level lines es) (hmem : .called (.setLine line other) succeeded ∈ es) :
    other = level ∧ line ∈ lines := by
  induction h with
  | done => cases hmem
  | failed c rest =>
    obtain ⟨⟨rfl, rfl⟩, rfl⟩ : (line = c ∧ other = level) ∧ succeeded = false := by
      simpa using hmem
    exact ⟨rfl, List.mem_cons_self⟩
  | set c h ih =>
    rcases List.mem_cons.mp hmem with hfirst | hmem
    · obtain ⟨⟨rfl, rfl⟩, -⟩ : (line = c ∧ other = level) ∧ succeeded = true := by
        simpa using hfirst
      exact ⟨rfl, List.mem_cons_self⟩
    · obtain ⟨hlevel, hline⟩ := ih hmem
      exact ⟨hlevel, List.mem_cons_of_mem _ hline⟩

theorem eq_of_mem_levels (h : Sets level lines es) (hmem : other ∈ levels line es) :
    other = level := by
  obtain ⟨succeeded, hmem⟩ := mem_levels.mp hmem
  exact (h.of_mem hmem).1

/-- Of two lines the second is reached exactly if the first could be set. -/
theorem mem_levels_iff {first second : Option ControlLine}
    (h : Sets level (first.toList ++ second.toList) es)
    (hline : line ∈ first.toList ++ second.toList) :
    level ∈ levels line es ↔
      ∀ c, first = some c → c ≠ line → .called (.setLine c level) true ∈ es := by
  rw [mem_levels]
  cases first with
  | none =>
    obtain rfl : second = some line := by simpa using hline
    cases h with
    | failed => simp
    | set _ h => simp
  | some c =>
    by_cases hc : c = line
    · subst hc
      cases h with
      | failed => simp
      | set _ h => simp
    · obtain rfl : second = some line := by simpa [Ne.symm hc] using hline
      cases h with
      | failed => simp [hc, Ne.symm hc]
      | set _ h =>
        cases h with
        | failed => simp
        | set _ h => simp

end Sets

section Exchanges

variable {line : ControlLine} {lines : List ControlLine} {request : Bytes}
  {raised sent lowered collected : List LinkEvent}

/-- In an exchange, a line is set while the lines are raised and while they are lowered. -/
theorem levels_exchange (hsent : ∀ e ∈ sent, e.OfSending request)
    (hcollected : ∀ e ∈ collected, e.OfCollecting) :
    levels line (.called .discard true :: (raised ++ sent ++ lowered ++ collected)) =
      levels line raised ++ levels line lowered := by
  have hdiscard : levels line [.called .discard true] = [] := rfl
  have hquiet : levels line sent = [] := levels_eq_nil fun e he => (hsent e he).level? line
  have hquiet' : levels line collected = [] :=
    levels_eq_nil fun e he => (hcollected e he).level? line
  rw [← List.singleton_append, levels_append, levels_append, levels_append, levels_append,
    hdiscard, hquiet, hquiet', List.nil_append, List.append_nil, List.append_nil]

theorem mem_exchange_iff (hraised : Sets true lines raised)
    (hsent : ∀ e ∈ sent, e.OfSending request) (hcollected : ∀ e ∈ collected, e.OfCollecting) :
    .called (.setLine line false) true ∈
        (.called .discard true :: (raised ++ sent ++ lowered ++ collected)) ↔
      .called (.setLine line false) true ∈ lowered := by
  constructor
  · intro hmem
    simp only [List.mem_cons, List.mem_append, reduceCtorEq, LinkEvent.called.injEq, false_and,
      false_or] at hmem
    rcases hmem with ((hmem | hmem) | hmem) | hmem
    · cases (hraised.of_mem hmem).1
    · cases hsent _ hmem
    · exact hmem
    · cases hcollected _ hmem
  · intro hmem
    simp [hmem]

/-- A line that was to be raised is one of these. -/
theorem mem_of_raised (hraised : Sets true lines raised) (hlowered : Sets false lines lowered)
    (h : true ∈ levels line raised ++ levels line lowered) : line ∈ lines := by
  rcases List.mem_append.mp h with hmem | hmem
  · obtain ⟨succeeded, hmem⟩ := mem_levels.mp hmem
    exact (hraised.of_mem hmem).2
  · cases hlowered.eq_of_mem_levels hmem

end Exchanges

end LinkEvent

/-- The last of some levels, all high first and then all low. -/
theorem getLast?_append_eq_low {high low : List Bool} (hhigh : ∀ b ∈ high, b = true)
    (hlow : ∀ b ∈ low, b = false) : (high ++ low).getLast? = some false ↔ false ∈ low := by
  rw [List.getLast?_append, Option.or_eq_some_iff]
  constructor
  · rintro (hlast | ⟨-, hlast⟩)
    · exact List.mem_of_getLast? hlast
    · cases hhigh false (List.mem_of_getLast? hlast)
  · intro hmem
    have hlast := List.getLast?_eq_some_getLast (List.ne_nil_of_mem hmem)
    rw [hlast, hlow _ (List.getLast_mem _)]
    exact .inl rfl

namespace Transfer

open LinkEvent

variable {l : Type} [Link l]

/-- A line that a call tried to raise is lowered last, or the attempt is made, exactly if it is the
first one or the first one could be lowered. -/
theorem raised_line_lowered_iff (x : Transfer) (m : Master l) {line : ControlLine}
    (hraised : true ∈ levels line (x.run m.watched).2.link.events) :
    (levels line (x.run m.watched).2.link.events).getLast? = some false ↔
      ∀ first, m.settings.txEnable = some first → first ≠ line →
        .called (.setLine first false) true ∈ (x.run m.watched).2.link.events := by
  have hexchanged := x.run_exchanged m
  generalize (x.run m.watched).2.link.events = events at hexchanged hraised ⊢
  cases hexchanged with
  | refused => simp [levels] at hraised
  | blocked => simp [levels, level?] at hraised
  | @sent raised sent lowered collected hup hsent hdown hcollected _ =>
    rw [levels_exchange hsent hcollected] at hraised ⊢
    rw [getLast?_append_eq_low (fun b => hup.eq_of_mem_levels) fun b => hdown.eq_of_mem_levels]
    simp only [mem_exchange_iff hup hsent hcollected]
    exact hdown.mem_levels_iff (mem_of_raised hup hdown hraised)

/-- A line that cannot be lowered, and the one that is left raised because of it. -/
def stuckMaster : Master ScriptedLink :=
  ⟨{ script := { lineFailure := some (3, ⟨false, "stuck"⟩) } },
    { txEnable := some .rts, rxEnable := some .dtr }⟩

theorem raised_line_lowered_iff_demo :
    let events := ((Transfer.write 2000 [1]).run stuckMaster.watched).2.link.events
    levels .rts events = [true, false] ∧ levels .dtr events = [true] ∧
      ((levels .dtr events).getLast? = some false ↔
        ∀ first, stuckMaster.settings.txEnable = some first → first ≠ .dtr →
          .called (.setLine first false) true ∈ events) := by
  have hraised : true ∈
      levels .dtr ((Transfer.write 2000 [1]).run stuckMaster.watched).2.link.events := by
    decide +kernel
  exact ⟨by decide +kernel, by decide +kernel, raised_line_lowered_iff _ _ hraised⟩

end Transfer

end ClimateBus
