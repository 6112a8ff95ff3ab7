import ClimateBus.Console.Run
import ClimateBus.Proofs.ExitCodes
import ClimateBus.Proofs.RefusedRequests
import Mathlib

/-!
Which units a task is about, and how the console tells that one is not there.

The console looks the units it is asked for up in a snapshot, and the gateway looks a unit up in its
table. Both find the same units, in every state. They do not give the same reason where they find
none: the gateway turns a number behind the last slot down as invalid, and the console says of it,
too, that no unit is there. So a task that reads and a task that commands end with different codes
for such a number, and only for such a number (`Console.selection_follows_check_iff`).
-/
namespace ClimateBus

namespace Gateway

variable {β : Type} {g : Gateway β}

/-- The first number of a list for which there is no unit, and why. -/
inductive FirstRefused (g : Gateway β) : List UInt8 → UInt8 → GatewayError → Prop
  | here {bad : UInt8} {e : GatewayError} (h : g.Refuses bad e) (rest : List UInt8) :
      FirstRefused g (bad :: rest) bad e
  | later {index : UInt8} {u : Slot} {rest : List UInt8} {bad : UInt8} {e : GatewayError}
      (h : g.present? index = .ok u) (hrest : FirstRefused g rest bad e) :
      FirstRefused g (index :: rest) bad e

theorem FirstRefused.refuses {indices : List UInt8} {bad : UInt8} {e : GatewayError}
    (h : g.FirstRefused indices bad e) : g.Refuses bad e := by
  induction h with
  | here h _ => exact h
  | later _ _ ih => exact ih

/-- Only a number behind the last slot is turned down for another reason than that no unit is
there. -/
theorem Refuses.eq_unitNotPresent_iff {bad : UInt8} {e : GatewayError} (h : g.Refuses bad e) :
    e = .unitNotPresent bad ↔ bad.toNat < 64 := by
  cases h with
  | number h => simp [Nat.not_lt.mpr h]
  | absent h _ => simp [h]

theorem Refuses.exitCode_eq_iff {bad : UInt8} {e : GatewayError} (h : g.Refuses bad e) :
    e.exitCode = .unitNotPresent ↔ bad.toNat < 64 := by
  cases h with
  | number h => simp [GatewayError.exitCode, Nat.not_lt.mpr h]
  | absent h _ => simp [GatewayError.exitCode, h]

theorem find?_reports (g : Gateway β) (index : UInt8) :
    g.reports.find? (fun r => r.index == index) =
      (g.slots.find? fun u => u.present && u.index == index).map .ofSlot := by
  rw [reports, presentSlots, List.find?_map, List.find?_filter]
  congr 2
  funext u
  rw [Bool.eq_iff_iff]
  simp [UnitReport.ofSlot]

/-- A unit that is there is found in a snapshot under its number. -/
theorem Indexed.find?_reports_of_ok (hg : g.Indexed) {index : UInt8} {u : Slot}
    (hu : g.present? index = .ok u) :
    g.reports.find? (fun r => r.index == index) = some (.ofSlot u) := by
  obtain ⟨hslot, hpresent⟩ := present?_eq_ok.mp hu
  have hmem : u ∈ g.slots := List.mem_of_getElem? hslot
  have hindex : u.index = index := (hg.of_present hu).2
  cases hfound : g.slots.find? fun u => u.present && u.index == index with
  | none =>
    have hnot := List.find?_eq_none.mp hfound u hmem
    simp [hpresent, hindex] at hnot
  | some v =>
    have hv := List.find?_some hfound
    simp only [Bool.and_eq_true, beq_iff_eq] at hv
    -- No two records have one address.
    obtain rfl := List.inj_on_of_nodup_map hg.nodup (List.mem_of_find?_eq_some hfound) hmem
      (hv.2.trans hindex.symm)
    rw [find?_reports, hfound, Option.map_some]

theorem Indexed.index_lt (hg : g.Indexed) {u : Slot} (hu : u ∈ g.slots) : u.index.toNat < 64 := by
  have hindex : u.index ∈ (List.range slotCount).map UInt8.ofNat := by
    rw [← hg]
    exact List.mem_map_of_mem hu
  obtain ⟨k, hk, hk'⟩ := List.mem_map.mp hindex
  have hlt : k < 64 := List.mem_range.mp hk
  rw [← hk', UInt8.toNat_ofNat_of_lt' (by simp only [UInt8.size]; omega)]
  exact hlt

/-- One that is not there is not found, whatever the gateway says of it. -/
theorem Indexed.find?_reports_of_refused (hg : g.Indexed) {index : UInt8} {e : GatewayError}
    (h : g.Refuses index e) : g.reports.find? (fun r => r.index == index) = none := by
  rw [find?_reports, Option.map_eq_none_iff, List.find?_eq_none]
  intro u hu hfound
  simp only [Bool.and_eq_true, beq_iff_eq] at hfound
  obtain ⟨hpresent, hindex⟩ := hfound
  cases h with
  | number h =>
    have hlt := hg.index_lt hu
    rw [hindex] at hlt
    omega
  | absent _ hnone =>
    rw [hnone u hu hindex] at hpresent
    cases hpresent

/-- There is a unit for every number, or a first number that is turned down. -/
theorem Indexed.present_or_firstRefused (hg : g.Indexed) (indices : List UInt8) :
    (∀ index ∈ indices, ∃ u, g.present? index = .ok u) ∨ ∃ bad e, g.FirstRefused indices bad e := by
  induction indices with
  | nil => exact .inl (by simp)
  | cons index rest ih =>
    cases hu : g.present? index with
    | error e => exact .inr ⟨index, e, .here (hg.present?_eq_error.mp hu) rest⟩
    | ok u =>
      rcases ih with hall | ⟨bad, e, hrefused⟩
      · refine .inl fun k hk => ?_
        rcases List.mem_cons.mp hk with rfl | hk
        · exact ⟨u, hu⟩
        · exact hall k hk
      · exact .inr ⟨bad, e, .later hu hrefused⟩

end Gateway

namespace Supervisor

theorem held_rescan {β : Type} [Bus β] (s : Supervisor β) : s.rescan.2.held = s.held := by
  cases hheld : s.held with
  | true =>
    rw [rescan, withGateway_held hheld]
    exact hheld
  | false =>
    rw [rescan, withGateway_free hheld]
    split
    · exact hheld
    · exact hheld

end Supervisor

namespace Console

namespace Act

variable {α γ : Type} {act : Act α} {f : α → Act γ} {p p' : Progress} {code : ExitCode}

/-- How a step ends, and what was done by then. -/
def result (act : Act α) (p : Progress) : Except Causes α × Progress := act.run.run p

theorem result_bind_ok {a : α} (h : act.result p = (.ok a, p')) :
    (act >>= f).result p = (f a).result p' := by
  simp only [result, ExceptT.run_bind, StateT.run_bind] at h ⊢
  rw [h]
  rfl

theorem result_bind_error {cs : Causes} (h : act.result p = (.error cs, p')) :
    (act >>= f).result p = (.error cs, p') := by
  simp only [result, ExceptT.run_bind, StateT.run_bind] at h ⊢
  rw [h]
  rfl

theorem result_during (what : String) (act : Act α) (p : Progress) : (during what act).result p =
    ((act.result p).1.mapError (Causes.during what), (act.result p).2) := by
  change Act.result (ExceptT.tryCatch act fun cs => throw (cs.during what)) p = _
  unfold result ExceptT.tryCatch
  rw [ExceptT.run_mk, StateT.run_bind]
  change _ = (Except.mapError (Causes.during what) (StateT.run act p).1, (StateT.run act p).2)
  rcases StateT.run act p with ⟨r, q⟩
  cases r with
  | ok a => rfl
  | error cs => rfl

/-- The step fails, and the console ends with this code. -/
def FailsWith (act : Act α) (p : Progress) (code : ExitCode) : Prop :=
  ∃ cs p', act.result p = (.error cs, p') ∧ cs.exitCode = code

theorem FailsWith.bind (h : act.FailsWith p code) (f : α → Act γ) :
    (act >>= f).FailsWith p code := by
  obtain ⟨cs, p', hresult, hcode⟩ := h
  exact ⟨cs, p', result_bind_error hresult, hcode⟩

theorem FailsWith.bind_of_ok {a : α} (h : act.result p = (.ok a, p'))
    (hf : (f a).FailsWith p' code) : (act >>= f).FailsWith p code := by
  unfold FailsWith
  rw [result_bind_ok h]
  exact hf

/-- A note on what was being done has no say in the code. -/
theorem FailsWith.during (h : act.FailsWith p code) (what : String) :
    (during what act).FailsWith p code := by
  obtain ⟨cs, p', hresult, hcode⟩ := h
  refine ⟨cs.during what, p', by rw [result_during, hresult]; rfl, ?_⟩
  rw [← hcode]
  exact Causes.exitCode_notes_append [what] cs

theorem failsWith_ofSupervisor {β : Type} (e : SupervisorError) (s : Supervisor β) (p : Progress) :
    (ofSupervisor (.error e, s) : Act (α × Supervisor β)).FailsWith p e.exitCode :=
  ⟨_, p, rfl, Causes.exitCode_error_cons (.supervisor e) _⟩

end Act

section Selection

variable {β : Type} {g : Gateway β}

theorem select_cons_of_ok (hg : g.Indexed) {index : UInt8} {u : Slot}
    (hu : g.present? index = .ok u) (rest : List UInt8) :
    select g.reports (index :: rest) = (select g.reports rest).map (.ofSlot u :: ·) := by
  unfold select
  rw [List.mapM_cons, hg.find?_reports_of_ok hu]
  rfl

theorem select_cons_of_refused (hg : g.Indexed) {index : UInt8} {e : GatewayError}
    (h : g.Refuses index e) (rest : List UInt8) :
    select g.reports (index :: rest) = .error (.unitNotPresent index) := by
  unfold select
  rw [List.mapM_cons, hg.find?_reports_of_refused h]
  rfl

/-- What is selected are the reports of the units, in the order of their numbers in the list. -/
theorem select_eq_ok_iff (hg : g.Indexed) {indices : List UInt8} {reports : List UnitReport} :
    select g.reports indices = .ok reports ↔ List.Forall₂
      (fun index r => ∃ u, g.present? index = .ok u ∧ r = .ofSlot u) indices reports := by
  induction indices generalizing reports with
  | nil =>
    rw [List.forall₂_nil_left_iff]
    exact ⟨fun h => (Except.ok.inj h).symm, fun h => congrArg Except.ok h.symm⟩
  | cons index rest ih =>
    cases hu : g.present? index with
    | error e =>
      rw [select_cons_of_refused hg (hg.present?_eq_error.mp hu)]
      refine iff_of_false (by simp) fun h => ?_
      obtain ⟨_, _, ⟨u, hu', -⟩, -⟩ := List.forall₂_cons_left_iff.mp h
      cases hu.symm.trans hu'
    | ok u =>
      rw [select_cons_of_ok hg hu, List.forall₂_cons_left_iff]
      constructor
      · intro h
        cases hrest : select g.reports rest with
        | error e =>
          rw [hrest] at h
          cases h
        | ok rs =>
          rw [hrest] at h
          exact ⟨.ofSlot u, rs, ⟨u, hu, rfl⟩, ih.mp hrest, (Except.ok.inj h).symm⟩
      · rintro ⟨_, rs, ⟨u', hu', rfl⟩, hrest, rfl⟩
        obtain rfl : u = u' := Except.ok.inj (hu.symm.trans hu')
        rw [ih.mpr hrest]
        rfl

theorem exists_forall₂_iff {α γ : Type} {R : α → γ → Prop} {xs : List α} :
    (∃ ys, List.Forall₂ R xs ys) ↔ ∀ x ∈ xs, ∃ y, R x y := by
  induction xs with
  | nil => simp
  | cons x xs ih =>
    rw [List.forall_mem_cons, ← ih]
    simp only [List.forall₂_cons_left_iff]
    constructor
    · rintro ⟨_, y, ys, hy, hys, rfl⟩
      exact ⟨⟨y, hy⟩, ys, hys⟩
    · rintro ⟨⟨y, hy⟩, ys, hys⟩
      exact ⟨y :: ys, y, ys, hy, hys, rfl⟩

theorem select_of_firstRefused (hg : g.Indexed) {indices : List UInt8} {bad : UInt8}
    {e : GatewayError} (h : g.FirstRefused indices bad e) :
    select g.reports indices = .error (.unitNotPresent bad) := by
  induction h with
  | here h rest => exact select_cons_of_refused hg h rest
  | later hu _ ih =>
    rw [select_cons_of_ok hg hu, ih]
    rfl

end Selection

section Selected

variable {β : Type} {s : Supervisor β} {indices : List UInt8}

theorem result_selected_held (h : s.held = true) (t : Target) (p : Progress) :
    (selected s t).result p = (.error (.ofError (.supervisor (.busy "snapshot"))), p) := by
  unfold selected
  rw [Supervisor.snapshot, Supervisor.withGateway_held h]
  rfl

theorem result_selected_free (h : s.held = false) (indices : List UInt8) (p : Progress) :
    (selected s (.units indices)).result p =
      match select s.gateway.reports indices with
      | .ok reports => (.ok (reports, s), p)
      | .error e => (.error (.ofError (.gateway e)), p) := by
  unfold selected
  rw [Supervisor.snapshot, Supervisor.withGateway_free h]
  change (Act.ofExcept LibraryError.gateway (select s.gateway.reports indices) >>=
    fun reports => pure (reports, s)).result p = _
  cases select s.gateway.reports indices with
  | ok reports => rfl
  | error e => rfl

theorem result_selected_of_firstRefused (h : s.held = false) (hg : s.gateway.Indexed) {bad : UInt8}
    {e : GatewayError} (hrefused : s.gateway.FirstRefused indices bad e) (p : Progress) :
    (selected s (.units indices)).result p =
      (.error (.ofError (.gateway (.unitNotPresent bad))), p) := by
  rw [result_selected_free h, select_of_firstRefused hg hrefused]

theorem result_selected_eq_ok_iff (h : s.held = false) (hg : s.gateway.Indexed)
    {reports : List UnitReport} {p : Progress} :
    (selected s (.units indices)).result p = (.ok (reports, s), p) ↔ List.Forall₂
      (fun index r => ∃ u, s.gateway.present? index = .ok u ∧ r = .ofSlot u) indices reports := by
  rw [← select_eq_ok_iff hg, result_selected_free h]
  cases select s.gateway.reports indices with
  | ok reports' => simp
  | error e => simp

/-- A command is asked for at the gateway, which has its own reason. -/
theorem sendAll_failsWith [Bus β] (h : s.held = false) {bad : UInt8} {e : GatewayError}
    (hrefused : s.gateway.present? bad = .error e) (verbose : Bool) (c : Command)
    (commands : List Command) (p : Progress) :
    (sendAll verbose bad (c :: commands) s).FailsWith p e.exitCode := by
  unfold sendAll
  rw [Supervisor.execute_refused h hrefused]
  exact ((Act.failsWith_ofSupervisor (.gateway e) s p).during _).bind _

end Selected

section Tasks

variable {β : Type} [Bus β] {opening : Act β} {c : Common} {settings : Settings}
  {p p' : Progress} {i : Supervisor β}

/-- A connected installation is at hand, and is as a gateway can come to be. -/
theorem connect_eq_ok (h : (connect opening c settings).result p = (.ok i, p')) :
    i.held = false ∧ Gateway.Reachable (.arbitrary β) i.gateway := by
  unfold connect at h
  cases hbus : opening.result p with
  | mk opened q =>
  cases opened with
  | error cs =>
    rw [Act.result_bind_error hbus] at h
    cases h
  | ok bus =>
    rw [Act.result_bind_ok hbus] at h
    dsimp only at h
    generalize hstart : Supervisor.new (Gateway.new bus 0 settings.master.slave settings.gateway)
      settings.supervisor = start at h
    have hfree : start.held = false := hstart ▸ rfl
    have hreachable : Gateway.Reachable (.arbitrary β) start.gateway :=
      hstart ▸ .new bus 0 settings.master.slave settings.gateway
    have hrescanned : start.rescan.2.held = false ∧
        Gateway.Reachable (.arbitrary β) start.rescan.2.gateway :=
      ⟨start.held_rescan.trans hfree, (Supervisor.Run.start.call .rescan).reachable hreachable⟩
    generalize start.rescan = r at h hrescanned
    obtain ⟨answer, rescanned⟩ := r
    cases answer with
    | error e =>
      cases h
    | ok n =>
      have hsame : rescanned = i := by
        cases hverbose : c.verbose with
        | true =>
          rw [hverbose] at h
          exact Except.ok.inj (congrArg Prod.fst h)
        | false =>
          rw [hverbose] at h
          exact Except.ok.inj (congrArg Prod.fst h)
      rw [← hsame]
      exact hrescanned

/-- A task that reads fails at the first number without a unit, as one that is not there. One that
commands fails with the gateway's reason. -/
theorem perform_failsWith (h : (connect opening c settings).result p = (.ok i, p'))
    {indices : List UInt8} {bad : UInt8} {e : GatewayError}
    (hrefused : i.gateway.FirstRefused indices bad e) :
    (UnitTask.perform opening c settings (.status (.units indices))).FailsWith p .unitNotPresent ∧
      (∀ clear, (UnitTask.perform opening c settings (.errors (.units indices) clear)).FailsWith p
        .unitNotPresent) ∧
      ∀ command commands,
        (UnitTask.perform opening c settings (.control bad (command :: commands))).FailsWith p
          e.exitCode := by
  obtain ⟨hfree, hreachable⟩ := connect_eq_ok h
  have hselected : (selected i (.units indices)).FailsWith p' .unitNotPresent :=
    ⟨_, p', result_selected_of_firstRefused hfree hreachable.indexed hrefused p',
      Causes.exitCode_error_cons (.gateway (.unitNotPresent bad)) _⟩
  have hbad := hreachable.indexed.present?_eq_error.mpr hrefused.refuses
  exact ⟨.bind_of_ok h (hselected.bind _), fun clear => .bind_of_ok h (hselected.bind _),
    fun command commands => .bind_of_ok h
      ((sendAll_failsWith hfree hbad c.verbose command commands p').bind _)⟩

end Tasks

/-- The program fails at a task on the units just if the task does, and with the same code: what is
printed of an answer has no say in it. -/
theorem runTask_units_failsWith_iff (env : Environment) {c : Common} {settings : Settings}
    {task : UnitTask} {p : Progress} {code : ExitCode} :
    (runTask env c settings (.units task)).FailsWith p code ↔
      (task.perform (openBus c settings) c settings).FailsWith p code := by
  refine ⟨fun h => ?_, fun h => h.bind _⟩
  obtain ⟨cs, p', hresult, hcode⟩ := h
  cases hperform : (task.perform (openBus c settings) c settings).result p with
  | mk answer q =>
  cases answer with
  | ok answer =>
    have hsaid : (runTask env c settings (.units task)).result p =
        (.ok (.said (answer.text (c.format.getD .text))), q) := Act.result_bind_ok hperform
    cases hsaid.symm.trans hresult
  | error causes =>
    have hfailed : (runTask env c settings (.units task)).result p = (.error causes, q) :=
      Act.result_bind_error hperform
    cases hfailed.symm.trans hresult
    exact ⟨cs, p', hperform, hcode⟩

/-- In every state a selection succeeds just if the gateway has a unit for each number, and it is
their reports in the order they were asked for, as often as they were. Otherwise there is a first
number the gateway turns down; the selection fails there, and calls the unit not present. That is
the gateway's own reason just if the number is that of a slot. So the tasks that read end with the
code of a task that commands for the same number if there is such a slot, and never if there is
none, whatever bus is opened and however that is done. Only a gateway that another caller holds is
not asked at all. -/
theorem selection_follows_check_iff {β : Type} [Bus β] {su : Surroundings β} {s : Supervisor β}
    (h : Gateway.Reachable su s.gateway) (indices : List UInt8) (p : Progress) :
    (s.held = true → (selected s (.units indices)).result p =
      (.error (.ofError (.supervisor (.busy "snapshot"))), p)) ∧
    (s.held = false →
      (∀ reports, (selected s (.units indices)).result p = (.ok (reports, s), p) ↔ List.Forall₂
        (fun index r => ∃ u, s.gateway.present? index = .ok u ∧ r = .ofSlot u) indices reports) ∧
      ((∃ reports, (selected s (.units indices)).result p = (.ok (reports, s), p)) ↔
        ∀ index ∈ indices, ∃ u, s.gateway.present? index = .ok u) ∧
      ((∀ index ∈ indices, ∃ u, s.gateway.present? index = .ok u) ∨
        ∃ bad e, s.gateway.FirstRefused indices bad e) ∧
      ∀ bad e, s.gateway.FirstRefused indices bad e →
        (selected s (.units indices)).result p =
          (.error (.ofError (.gateway (.unitNotPresent bad))), p) ∧
        (e = .unitNotPresent bad ↔ bad.toNat < 64)) ∧
    ∀ {γ : Type} [Bus γ] (opening : Act γ) c settings q q' i,
      (connect opening c settings).result q = (.ok i, q') → ∀ bad e,
      i.gateway.FirstRefused indices bad e →
        (UnitTask.perform opening c settings (.status (.units indices))).FailsWith q
          .unitNotPresent ∧
        (∀ clear, (UnitTask.perform opening c settings (.errors (.units indices) clear)).FailsWith q
          .unitNotPresent) ∧
        (∀ command commands, (UnitTask.perform opening c settings
          (.control bad (command :: commands))).FailsWith q e.exitCode) ∧
        (e.exitCode = .unitNotPresent ↔ bad.toNat < 64) := by
  have hg := h.indexed
  refine ⟨fun hheld => result_selected_held hheld _ p, fun hfree => ⟨fun reports =>
    result_selected_eq_ok_iff hfree hg, ?succeeds, hg.present_or_firstRefused indices,
      fun bad e hrefused => ⟨result_selected_of_firstRefused hfree hg hrefused p,
        hrefused.refuses.eq_unitNotPresent_iff⟩⟩, ?tasks⟩
  case succeeds =>
    simp only [result_selected_eq_ok_iff hfree hg, exists_forall₂_iff]
    constructor
    · intro hall index hindex
      obtain ⟨_, u, hu, -⟩ := hall index hindex
      exact ⟨u, hu⟩
    · intro hall index hindex
      obtain ⟨u, hu⟩ := hall index hindex
      exact ⟨.ofSlot u, u, hu, rfl⟩
  case tasks =>
    intro γ _ opening c settings q q' i hconnect bad e hrefused
    obtain ⟨hstatus, herrors, hcontrol⟩ := perform_failsWith hconnect hrefused
    exact ⟨hstatus, herrors, hcontrol, hrefused.refuses.exitCode_eq_iff⟩

/-- The simulation as the console takes it up. -/
def simulated (settings : Settings) : Installation :=
  .new (.new .demo 0 settings.master.slave settings.gateway) settings.supervisor

theorem connect_simulated {c : Common} (hsimulate : c.simulate = true)
    (hverbose : c.verbose = false) {settings : Settings} {count : Nat}
    (h : (simulated settings).rescan.1 = .ok count)
    (p : Progress) : (connect (openBus c settings) c settings).result p =
      (.ok (simulated settings).rescan.2, p) := by
  have hbus : (openBus c settings).result p = (.ok .demo, p) := by
    unfold openBus
    rw [hsimulate]
    rfl
  unfold connect
  rw [Act.result_bind_ok hbus]
  change Act.result (.during "discovery" (.ofSupervisor (simulated settings).rescan) >>= _) p = _
  generalize (simulated settings).rescan = r at h ⊢
  obtain ⟨_, found⟩ := r
  obtain rfl := h
  rw [hverbose]
  rfl

/-- The small installation as the console finds it. -/
def demoConnected : Installation := (simulated {}).rescan.2

def demoProgress : Progress where
  files := { here := [], contents := [] }

/-- There is a unit 1 and no slot 64, which a task that reads calls absent and a task that commands
calls invalid. -/
theorem selection_follows_check_iff_demo :
    (connect (openBus { simulate := true } {}) { simulate := true } {}).result demoProgress =
      (.ok demoConnected, demoProgress) ∧
    demoConnected.gateway.FirstRefused [1, 64] 64 (.invalidUnit 64) ∧
    (selected demoConnected (.units [1, 64])).result demoProgress =
      (.error (.ofError (.gateway (.unitNotPresent 64))), demoProgress) ∧
    (UnitTask.perform (openBus { simulate := true } {}) { simulate := true } {}
      (.status (.units [1, 64]))).FailsWith demoProgress .unitNotPresent ∧
    (UnitTask.perform (openBus { simulate := true } {}) { simulate := true } {}
      (.control 64 [.power true])).FailsWith demoProgress .invalidArguments := by
  have hfound : (simulated {}).rescan.1 = .ok 4 := by decide +kernel
  have hconnect : (connect (openBus { simulate := true } {}) { simulate := true } {}).result
      demoProgress = (.ok demoConnected, demoProgress) :=
    connect_simulated rfl rfl hfound demoProgress
  obtain ⟨hheld, hreachable⟩ := connect_eq_ok hconnect
  have hrefused : demoConnected.gateway.FirstRefused [1, 64] 64 (.invalidUnit 64) := by
    have hu : demoConnected.gateway.present? 1 =
        .ok (demoConnected.gateway.slots.getD 1 default) := by decide +kernel
    exact .later hu (.here (.number (by decide)) [])
  obtain ⟨-, hselected, htasks⟩ := selection_follows_check_iff hreachable [1, 64] demoProgress
  obtain ⟨hstatus, -, hcontrol, -⟩ :=
    htasks _ _ _ _ _ _ hconnect 64 (.invalidUnit 64) hrefused
  exact ⟨hconnect, hrefused, ((hselected hheld).2.2.2 _ _ hrefused).1, hstatus, hcontrol _ _⟩

end Console

end ClimateBus
