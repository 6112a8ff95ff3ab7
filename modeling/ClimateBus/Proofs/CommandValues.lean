import ClimateBus.Proofs.NumberWidths
import Mathlib

/-!
Which named requests are commands, and the request that asks for a given command.

A command that carries a number is asked for by its name and that number in double precision. A
setpoint is rounded once and keeps its value on the way back, so the commands with a finite setpoint
are those a request can be written for. A request can ask for another one: a finite number that
single precision has no room for gives an infinite setpoint.
-/
namespace ClimateBus

theorem Labelled.ofCode?_eq_some {α : Type} [Labelled α]
    (hcode : ∀ v : α, ofCode? (code v) = some v) {c : UInt32} {v : α} :
    ofCode? c = some v ↔ c = code v := by
  constructor
  · intro h
    have hfound := List.find?_some h
    exact (beq_iff_eq.mp hfound).symm
  · rintro rfl
    exact hcode v

/-- A finite number keeps its value in double precision. -/
theorem Binary32.toRat?_toBinary64 {c : Binary32} {q : ℚ} (h : c.toRat? = some q) :
    c.toBinary64.toRat? = some q ∧ c.toBinary64.toBinary32 = c := by
  obtain ⟨negative, m, e, hvalue, rfl⟩ := exists_of_toRat? h
  obtain ⟨m', e', hwide, hsame⟩ := value_toBinary64 hvalue
  refine ⟨?_, toBinary32_toBinary64 hvalue⟩
  rw [Binary64.toRat?, hwide, ← hsame]
  rfl

namespace Command

/-- The number `v` of exact value `q` asks for this command, among those of its name. The whole part
of a number less than zero is no code. -/
def AskedBy (v : Binary64) (q : ℚ) : Command → Prop
  | .power on => on = true ↔ 1 / 2 < q
  | .mode m => ⌊q⌋ = ((Labelled.code m).toNat : ℤ)
  | .setpoint c => c = v.toBinary32
  | .fanSpeed s => ⌊q⌋ = ((Labelled.code s).toNat : ℤ)
  | .fanDirection d => ⌊q⌋ = ((Labelled.code d).toNat : ℤ)
  | .filterReset => False

/-- A request that is a command. -/
inductive Accepted : String → Option Binary64 → Command → Prop
  | filterReset {value : Option Binary64} : Accepted "filter_reset" value .filterReset
  | number {name : String} {v : Binary64} {q : ℚ} {c : Command}
      (hname : (name, c.name) ∈ numberNames) (hvalue : v.toRat? = some q) (hasked : c.AskedBy v q) :
      Accepted name (some v) c

section Number

variable {negative : Bool} {x : Ratio} (hden : 0 < x.den)
include hden

theorem power_eq_true_iff : (!negative && decide (x.den < 2 * x.num)) = true ↔
    1 / 2 < x.signed negative := by
  have hnonneg : 0 ≤ x.toRat := by
    unfold Ratio.toRat
    positivity
  cases negative with
  | true =>
    refine iff_of_false (by simp) ?_
    simp only [Ratio.signed, if_true]
    linarith
  | false =>
    have hd : (0 : ℚ) < x.den := by exact_mod_cast hden
    simp only [Bool.not_false, Bool.true_and, decide_eq_true_eq, Ratio.signed, Bool.false_eq_true,
      if_false]
    rw [Ratio.toRat, div_lt_div_iff₀ two_pos hd, one_mul, mul_comm]
    norm_cast

theorem member_eq_some {α : Type} [Labelled α] (make : α → Command)
    (hcode : ∀ v : α, Labelled.ofCode? (Labelled.code v) = some v)
    (hsmall : ∀ v : α, (Labelled.code v).toNat < 4294967295) {c : Command} :
    ((wholeCode negative x).bind Labelled.ofCode?).map make = some c ↔
      ∃ v, ⌊x.signed negative⌋ = ((Labelled.code v).toNat : ℤ) ∧ make v = c := by
  simp only [Option.map_eq_some_iff, Option.bind_eq_some_iff, Labelled.ofCode?_eq_some hcode,
    exists_eq_right, wholeCode_eq_some hden (hsmall _)]

/-- A number is taken as the command of its name that it asks for. -/
theorem ofNumber_eq_some {name kind : String} (hname : (name, kind) ∈ numberNames) {v : Binary64}
    {c : Command} : ofNumber kind v negative x = some c ↔
      c.name = kind ∧ c.AskedBy v (x.signed negative) := by
  rcases kind_of_mem_numberNames hname with rfl | rfl | rfl | rfl | rfl
  · change some (Command.power (!negative && decide (x.den < 2 * x.num))) = some c ↔ _
    cases c with
    | power on =>
      rw [Option.some_inj, power.injEq, AskedBy, ← power_eq_true_iff hden, eq_comm,
        Bool.eq_iff_iff]
      exact (and_iff_right rfl).symm
    | _ => simp [Command.name]
  · change some (Command.setpoint v.toBinary32) = some c ↔ _
    cases c <;> simp [Command.name, AskedBy, eq_comm]
  · change ((wholeCode negative x).bind Labelled.ofCode?).map _ = some c ↔ _
    rw [member_eq_some hden _ Mode.ofCode?_code (by intro m; cases m <;> decide)]
    cases c <;> simp [Command.name, AskedBy]
  · change ((wholeCode negative x).bind Labelled.ofCode?).map _ = some c ↔ _
    rw [member_eq_some hden _ FanSpeed.ofCode?_code (by intro s; cases s <;> decide)]
    cases c <;> simp [Command.name, AskedBy]
  · change ((wholeCode negative x).bind Labelled.ofCode?).map _ = some c ↔ _
    rw [member_eq_some hden _ FanDirection.ofCode?_code (by intro d; cases d <;> decide)]
    cases c <;> simp [Command.name, AskedBy]

end Number

theorem ofRequest_finite {name kind : String} (hmem : (name, kind) ∈ numberNames) {v : Binary64}
    {q : ℚ} (hvalue : v.toRat? = some q) {c : Command} :
    ofRequest name (some v) = .ok c ↔ c.name = kind ∧ c.AskedBy v q := by
  obtain ⟨m, e, hfinite, -⟩ := Binary64.toRat?_eq_some hvalue
  have hden : 0 < (Ratio.ofScaled m e).den := Ratio.den_shift_pos Nat.one_pos _
  rw [Binary64.toRat?_finite hfinite, Option.some_inj] at hvalue
  rw [← hvalue, ← ofNumber_eq_some hden hmem]
  simp only [ofRequest, if_neg (ne_filterReset hmem), kindOf?_eq_some.mpr hmem, hfinite]
  cases ofNumber kind v v.negative (Ratio.ofScaled m e) <;> simp

/-- A request is answered with a command exactly if it is that command. -/
theorem ofRequest_eq_ok {name : String} {value : Option Binary64} {c : Command} :
    ofRequest name value = .ok c ↔ Accepted name value c := by
  constructor
  · intro h
    by_cases hname : name = "filter_reset"
    · subst hname
      obtain rfl : Command.filterReset = c := by simpa [ofRequest] using h
      exact .filterReset
    -- No other request is answered with a command unless it comes with a finite number.
    have haccepted : ∀ e, ¬ Refused name value e := by
      intro e he
      rw [ofRequest_eq_error.mpr he] at h
      cases h
    by_cases hkind : ∃ kind, (name, kind) ∈ numberNames
    · obtain ⟨kind, hmem⟩ := hkind
      cases value with
      | none => exact absurd (.missing hmem) (haccepted _)
      | some v =>
        cases hvalue : v.toRat? with
        | none => exact absurd (.notFinite hmem hvalue) (haccepted _)
        | some q =>
          obtain ⟨rfl, hasked⟩ := (ofRequest_finite hmem hvalue).mp h
          exact .number hmem hvalue hasked
    · exact absurd (.unknown hname (not_exists.mp hkind)) (haccepted _)
  · intro h
    cases h with
    | filterReset => simp [ofRequest]
    | number hname hvalue hasked => exact (ofRequest_finite hname hvalue).mpr ⟨rfl, hasked⟩

/-- The number a command carries, in double precision: one or zero for on and off, the code of a
member, or the setpoint. -/
def number? : Command → Option Binary64
  | .power on => some (.ofNat on.toNat)
  | .mode m => some (.ofNat (Labelled.code m).toNat)
  | .setpoint c => some c.toBinary64
  | .fanSpeed s => some (.ofNat (Labelled.code s).toNat)
  | .fanDirection d => some (.ofNat (Labelled.code d).toNat)
  | .filterReset => none

/-- A command whose setpoint is finite is what a request by its name and number is. -/
theorem accepted_name_number? {c : Command} (hc : ∀ t, c = .setpoint t → t.toRat? ≠ none) :
    Accepted c.name c.number? c := by
  have hcode (code : UInt32) : (Binary64.ofNat code.toNat).toRat? = some (code.toNat : ℚ) :=
    Binary64.toRat?_ofNat (code.toNat_lt.trans (by decide))
  cases c with
  | power on =>
    have hon : (Binary64.ofNat on.toNat).toRat? = some (on.toNat : ℚ) :=
      Binary64.toRat?_ofNat (on.toNat_le.trans_lt (by decide))
    refine .number (by simp [Command.name, numberNames]) hon ?_
    cases on <;> norm_num [AskedBy]
  | mode m =>
    exact .number (by simp [Command.name, numberNames]) (hcode _) (Int.floor_natCast _)
  | setpoint t =>
    obtain ⟨q, hq⟩ := Option.ne_none_iff_exists'.mp (hc t rfl)
    obtain ⟨hvalue, hback⟩ := Binary32.toRat?_toBinary64 hq
    exact .number (by simp [Command.name, numberNames]) hvalue hback.symm
  | fanSpeed s =>
    exact .number (by simp [Command.name, numberNames]) (hcode _) (Int.floor_natCast _)
  | fanDirection d =>
    exact .number (by simp [Command.name, numberNames]) (hcode _) (Int.floor_natCast _)
  | filterReset => exact .filterReset

/-- Requests are accepted exactly by name and value: the commands that come of a request are those of
`Accepted`, and the errors those of `Refused`. The number of a setpoint is rounded once, and every
command with a finite setpoint comes back from its name and its number. -/
theorem ofRequest_exact :
    (∀ name value c, ofRequest name value = .ok c ↔ Accepted name value c) ∧
      (∀ name value e, ofRequest name value = .error e ↔ Refused name value e) ∧
      (∀ (v : Binary64) q, v.toRat? = some q → v.toBinary32.IsRounded v.negative q) ∧
      ∀ c : Command, (∀ t, c = .setpoint t → t.toRat? ≠ none) →
        ofRequest c.name c.number? = .ok c :=
  ⟨fun _ _ _ => ofRequest_eq_ok, fun _ _ _ => ofRequest_eq_error,
    fun _ _ => Binary64.isRounded_toBinary32,
    fun _ hc => ofRequest_eq_ok.mpr (accepted_name_number? hc)⟩

/-- The louvre position of minus zero is that of zero, and its single-precision number is minus zero.
A setpoint of 21.5 degrees comes back. -/
theorem ofRequest_exact_negZero_setpoint :
    (⟨0x8000000000000000⟩ : Binary64).toRat? = some 0 ∧
      ofRequest "fan_direction" (some ⟨0x8000000000000000⟩) = .ok (.fanDirection .p0) ∧
      (⟨0x8000000000000000⟩ : Binary64).toBinary32.IsRounded true 0 ∧
      (⟨0x41ac0000⟩ : Binary32).toRat? ≠ none ∧
      ofRequest "setpoint" (some (⟨0x41ac0000⟩ : Binary32).toBinary64) =
        .ok (.setpoint ⟨0x41ac0000⟩) := by
  have hzero : (⟨0x8000000000000000⟩ : Binary64).toRat? = some 0 := by
    have hvalue : (⟨0x8000000000000000⟩ : Binary64).value = .finite true 0 (-1074) := rfl
    simp [Binary64.toRat?, hvalue]
  have hfinite : (⟨0x41ac0000⟩ : Binary32).toRat? ≠ none := by
    have hvalue : (⟨0x41ac0000⟩ : Binary32).value = .finite false 11272192 (-19) := rfl
    simp [Binary32.toRat?, hvalue]
  obtain ⟨haccepted, -, hrounded, hreturns⟩ := ofRequest_exact
  refine ⟨hzero, (haccepted _ _ _).mpr ?_, hrounded _ _ hzero, hfinite,
    hreturns (.setpoint ⟨0x41ac0000⟩) ?_⟩
  · exact .number (by simp [Command.name, numberNames]) hzero (by simp [AskedBy, Labelled.code])
  · rintro _ ⟨⟩
    exact hfinite

theorem Accepted.setpoint {name : String} {value : Option Binary64} {t : Celsius}
    (h : Accepted name value (.setpoint t)) :
    name = "setpoint" ∧ ∃ v q, value = some v ∧ v.toRat? = some q ∧ t = v.toBinary32 := by
  cases h with
  | number hname hvalue hasked =>
    exact ⟨by simpa [Command.name, numberNames] using hname, _, _, rfl, hvalue, hasked⟩

/-- Every finite number is taken for a setpoint. -/
theorem ofRequest_setpoint {v : Binary64} {q : ℚ} (hvalue : v.toRat? = some q) :
    ofRequest "setpoint" (some v) = .ok (.setpoint v.toBinary32) :=
  ofRequest_eq_ok.mpr (.number (by simp [Command.name, numberNames]) hvalue rfl)

/-- A request comes to a finite setpoint, if to any, unless it asks for a number from half a step
above the largest single-precision number on. Such a number is taken as well, and the setpoint is
infinite. -/
theorem finite_setpoint_iff (name : String) (value : Option Binary64) :
    ((∀ t, ofRequest name value = .ok (.setpoint t) → t.toRat? ≠ none) ↔
      ∀ v q, name = "setpoint" → value = some v → v.toRat? = some q →
        |q| < 2 ^ 128 - 2 ^ 103) ∧
      ∀ v q, name = "setpoint" → value = some v → v.toRat? = some q → 2 ^ 128 - 2 ^ 103 ≤ |q| →
        ofRequest name value = .ok (.setpoint (.infinite v.negative)) := by
  refine ⟨⟨?_, ?_⟩, ?_⟩
  · rintro hfinite v q rfl rfl hvalue
    exact (Binary64.isRounded_toBinary32 hvalue).finite_iff.mp
      (hfinite _ (ofRequest_setpoint hvalue))
  · intro hsmall t h
    obtain ⟨hname, v, q, hv, hvalue, rfl⟩ := (ofRequest_eq_ok.mp h).setpoint
    exact (Binary64.isRounded_toBinary32 hvalue).finite_iff.mpr (hsmall v q hname hv hvalue)
  · rintro v q rfl rfl hvalue hlarge
    rw [ofRequest_setpoint hvalue, (Binary64.isRounded_toBinary32 hvalue).infinite hlarge]

/-- The number nearest to 1e39 is finite and gives an infinite setpoint; the last number before the
bound gives the largest finite one. -/
theorem finite_setpoint_iff_overflow :
    (⟨0x48078287f49c4a1d⟩ : Binary64).toRat? ≠ none ∧
      ofRequest "setpoint" (some ⟨0x48078287f49c4a1d⟩) = .ok (.setpoint ⟨0x7f800000⟩) ∧
      ofRequest "setpoint" (some ⟨0x47efffffefffffff⟩) = .ok (.setpoint ⟨0x7f7fffff⟩) ∧
      (⟨0x7f7fffff⟩ : Binary32).toRat? ≠ none := by
  have hlarge : (⟨0x48078287f49c4a1d⟩ : Binary64).toRat? = some (0x178287f49c4a1d * 2 ^ 77) := by
    have hvalue : (⟨0x48078287f49c4a1d⟩ : Binary64).value =
        .finite false 0x178287f49c4a1d 77 := rfl
    simp only [Binary64.toRat?, hvalue]
    norm_num
  have hlast : (⟨0x47efffffefffffff⟩ : Binary64).toRat? = some (0x1fffffefffffff * 2 ^ 75) := by
    have hvalue : (⟨0x47efffffefffffff⟩ : Binary64).value =
        .finite false 0x1fffffefffffff 75 := rfl
    simp only [Binary64.toRat?, hvalue]
    norm_num
  have htaken : ofRequest "setpoint" (some ⟨0x47efffffefffffff⟩) = .ok (.setpoint ⟨0x7f7fffff⟩) := by
    decide +kernel
  refine ⟨by simp [hlarge], ?_, htaken, ?_⟩
  · exact (finite_setpoint_iff _ _).2 _ _ rfl rfl hlarge (by norm_num)
  · refine (finite_setpoint_iff _ _).1.mpr (fun v q _ hv hq => ?_) _ htaken
    cases hv
    obtain rfl : q = _ := Option.some_inj.mp (hq.symm.trans hlast)
    norm_num

end Command

end ClimateBus
