import ClimateBus.Gateway.Command
import ClimateBus.Proofs.Rounding
import Mathlib

/-!
Which named requests are no commands, and what is said of them.

The name is looked at first, then whether there is a number where the command takes one, and then the
number: it has to be finite, and a command for an enumeration takes those numbers alone whose whole
part is the code of a member. Every other finite number is taken.
-/
namespace ClimateBus

/-- The exact value of a finite number. -/
def Binary64.toRat? (v : Binary64) : Option ℚ :=
  match v.value with
  | .finite negative m e => some (if negative then -(m * 2 ^ e) else m * 2 ^ e)
  | _ => none

namespace Ratio

def signed (negative : Bool) (x : Ratio) : ℚ := if negative then -x.toRat else x.toRat

theorem den_shift_pos {x : Ratio} (h : 0 < x.den) (e : ℤ) : 0 < (x.shift e).den := by
  unfold shift
  split_ifs
  · rw [Nat.shiftLeft_eq]
    positivity
  · exact h

theorem floor_toRat (x : Ratio) : ⌊x.toRat⌋ = ((x.num / x.den : Nat) : ℤ) := by
  rw [toRat, Rat.floor_natCast_div_natCast]
  rfl

end Ratio

theorem Binary64.toRat?_finite {v : Binary64} {negative : Bool} {m : Nat} {e : ℤ}
    (h : v.value = .finite negative m e) :
    v.toRat? = some ((Ratio.ofScaled m e).signed negative) := by
  rw [toRat?, h, Ratio.signed, Ratio.toRat_ofScaled]

theorem Labelled.ofCode?_eq_none {α : Type} [Labelled α] {c : UInt32} :
    (ofCode? c : Option α) = none ↔ c ∉ (all : List α).map code := by
  simp [ofCode?]

namespace Command

/-- A number has a code if it lies between zero and the largest code, and then it is its whole
part. -/
theorem wholeCode_eq (negative : Bool) {x : Ratio} (hden : 0 < x.den) :
    wholeCode negative x =
      if 0 ≤ x.signed negative ∧ x.signed negative ≤ 4294967295 then
        some (UInt32.ofNat ⌊x.signed negative⌋.toNat)
      else none := by
  unfold wholeCode
  by_cases hbelow : negative = true ∧ 0 < x.num
  · have hneg : x.signed negative < 0 := by
      rw [Ratio.signed, if_pos hbelow.1]
      exact neg_neg_of_pos (Ratio.toRat_pos hbelow.2 hden)
    rw [if_pos (by simp [hbelow.1, hbelow.2.ne']), if_neg fun h => hneg.not_ge h.1]
  · -- Without a sign, or at zero, the number is the quotient.
    have hvalue : x.signed negative = x.toRat := by
      cases negative with
      | false => rfl
      | true =>
        have hzero : x.num = 0 := by simpa using hbelow
        simp [Ratio.signed, Ratio.toRat, hzero]
    have hsign : ¬ (negative && x.num != 0) = true := by
      rw [Bool.and_eq_true, bne_iff_ne, ← Nat.pos_iff_ne_zero]
      exact hbelow
    have hnonneg : 0 ≤ x.toRat := by
      unfold Ratio.toRat
      positivity
    have hlarge : x.toRat ≤ 4294967295 ↔ ¬ 4294967295 * x.den < x.num := by
      have hd : (0 : ℚ) < x.den := by exact_mod_cast hden
      rw [not_lt, Ratio.toRat, div_le_iff₀ hd]
      norm_cast
    rw [if_neg hsign, hvalue, Ratio.floor_toRat, Int.toNat_natCast]
    simp only [hnonneg, true_and, hlarge, ite_not]
    rfl

/-- A code below the largest one is that of the numbers whose whole part it is. -/
theorem wholeCode_eq_some {negative : Bool} {x : Ratio} (hden : 0 < x.den) {c : UInt32}
    (hc : c.toNat < 4294967295) :
    wholeCode negative x = some c ↔ ⌊x.signed negative⌋ = (c.toNat : ℤ) := by
  rw [wholeCode_eq negative hden]
  generalize x.signed negative = q
  split_ifs with hcode
  · have hfloor : (⌊q⌋.toNat : ℤ) = ⌊q⌋ := Int.toNat_of_nonneg (Int.floor_nonneg.mpr hcode.1)
    have hle : ⌊q⌋ ≤ 4294967295 := by exact_mod_cast (Int.floor_le q).trans hcode.2
    have hfits : ⌊q⌋.toNat < 4294967296 := by omega
    rw [Option.some_inj, ← UInt32.toNat_inj, UInt32.toNat_ofNat_of_lt' hfits]
    omega
  · refine ⟨fun h => by simp at h, fun heq => absurd ?_ hcode⟩
    have hlt : (c.toNat : ℚ) + 1 ≤ 4294967295 := by exact_mod_cast hc
    have hfloor := Int.lt_floor_add_one q
    rw [heq, Int.cast_natCast] at hfloor
    exact ⟨Int.floor_nonneg.mp (by omega), hfloor.le.trans hlt⟩

/-- A number stands for no member if no code is its whole part. -/
theorem no_member_iff {α : Type} [Labelled α] {negative : Bool} {x : Ratio} (hden : 0 < x.den)
    (hsmall : ∀ c ∈ (Labelled.all : List α).map Labelled.code, c.toNat < 4294967295) :
    (wholeCode negative x).bind (Labelled.ofCode? : UInt32 → Option α) = none ↔
      ∀ c ∈ (Labelled.all : List α).map Labelled.code, ⌊x.signed negative⌋ ≠ (c.toNat : ℤ) := by
  simp only [Option.bind_eq_none_iff, Labelled.ofCode?_eq_none]
  constructor
  · intro hnot c hc heq
    exact hnot c ((wholeCode_eq_some hden (hsmall c hc)).mpr heq) hc
  · intro hall c hcode hc
    exact hall c hc ((wholeCode_eq_some hden (hsmall c hc)).mp hcode)

/-- The names of the requests that take a number, each with the name of the command it asks for. -/
def numberNames : List (String × String) :=
  [("power", "power"), ("mode", "mode"), ("setpoint", "setpoint"), ("fan_speed", "fan_speed"),
    ("fan_dir", "fan_dir"), ("fan_direction", "fan_dir")]

/-- The codes that a command for an enumeration takes. -/
def memberCodes : String → Option (List UInt32)
  | "mode" => some ((Labelled.all : List Mode).map Labelled.code)
  | "fan_speed" => some ((Labelled.all : List FanSpeed).map Labelled.code)
  | "fan_dir" => some ((Labelled.all : List FanDirection).map Labelled.code)
  | _ => none

/-- Why a request is no command. -/
inductive Refused : String → Option Binary64 → CommandError → Prop
  | unknown {name : String} {value : Option Binary64} (hname : name ≠ "filter_reset")
      (hnone : ∀ kind, (name, kind) ∉ numberNames) : Refused name value (.unknownCommand name)
  | missing {name kind : String} (hname : (name, kind) ∈ numberNames) :
      Refused name none (.missingValue kind)
  | notFinite {name kind : String} {v : Binary64} (hname : (name, kind) ∈ numberNames)
      (hvalue : v.toRat? = none) : Refused name (some v) (.invalidValue kind v)
  | noMember {name kind : String} {v : Binary64} {x : ℚ} {codes : List UInt32}
      (hname : (name, kind) ∈ numberNames) (hvalue : v.toRat? = some x)
      (hcodes : memberCodes kind = some codes) (hnone : ∀ c ∈ codes, ⌊x⌋ ≠ (c.toNat : ℤ)) :
      Refused name (some v) (.invalidValue kind v)

theorem kindOf?_eq_some {name kind : String} :
    kindOf? name = some kind ↔ (name, kind) ∈ numberNames := by
  unfold kindOf?
  split <;> simp_all [numberNames, eq_comm]

theorem kind_of_mem_numberNames {name kind : String} (h : (name, kind) ∈ numberNames) :
    kind = "power" ∨ kind = "setpoint" ∨ kind = "mode" ∨ kind = "fan_speed" ∨
      kind = "fan_dir" := by
  simp only [numberNames, List.mem_cons, Prod.mk.injEq, List.not_mem_nil, or_false] at h
  tauto

theorem ne_filterReset {name kind : String} (h : (name, kind) ∈ numberNames) :
    name ≠ "filter_reset" := by
  rintro rfl
  simp [numberNames] at h

/-- Only an enumeration has numbers that it does not take. -/
theorem ofNumber_eq_none {name kind : String} (hname : (name, kind) ∈ numberNames) {v : Binary64}
    {negative : Bool} {x : Ratio} (hden : 0 < x.den) : ofNumber kind v negative x = none ↔
      ∃ codes, memberCodes kind = some codes ∧
        ∀ c ∈ codes, ⌊x.signed negative⌋ ≠ (c.toNat : ℤ) := by
  rcases kind_of_mem_numberNames hname with rfl | rfl | rfl | rfl | rfl
  · simp [ofNumber, memberCodes]
  · simp [ofNumber, memberCodes]
  · change ((wholeCode negative x).bind Labelled.ofCode?).map _ = none ↔ _
    rw [Option.map_eq_none_iff, no_member_iff hden (by simp [Labelled.all, Labelled.code])]
    simp [memberCodes]
  · change ((wholeCode negative x).bind Labelled.ofCode?).map _ = none ↔ _
    rw [Option.map_eq_none_iff, no_member_iff hden (by simp [Labelled.all, Labelled.code])]
    simp [memberCodes]
  · change ((wholeCode negative x).bind Labelled.ofCode?).map _ = none ↔ _
    rw [Option.map_eq_none_iff, no_member_iff hden (by simp [Labelled.all, Labelled.code])]
    simp [memberCodes]

/-- A number is refused if it is not finite, or if it is a number the command does not take. -/
theorem ofRequest_number {name kind : String} (hmem : (name, kind) ∈ numberNames) {v : Binary64}
    {e : CommandError} : ofRequest name (some v) = .error e ↔ e = .invalidValue kind v ∧
      (v.toRat? = none ∨ ∃ x codes, v.toRat? = some x ∧ memberCodes kind = some codes ∧
        ∀ c ∈ codes, ⌊x⌋ ≠ (c.toNat : ℤ)) := by
  simp only [ofRequest, if_neg (ne_filterReset hmem), kindOf?_eq_some.mpr hmem]
  split
  · next negative m exponent hvalue =>
    have hden : 0 < (Ratio.ofScaled m exponent).den := Ratio.den_shift_pos Nat.one_pos _
    have hnumber : ofNumber kind v negative (Ratio.ofScaled m exponent) = none ↔ _ :=
      ofNumber_eq_none hmem hden
    rw [Binary64.toRat?_finite hvalue]
    simp only [reduceCtorEq, Option.some.injEq, false_or, exists_and_left, exists_eq_left']
    rw [← hnumber]
    cases ofNumber kind v negative (Ratio.ofScaled m exponent) with
    | none => simp [eq_comm]
    | some command => simp
  · next hvalue =>
    have hnone : v.toRat? = none := by
      unfold Binary64.toRat?
      split
      · next negative m exponent hfinite => exact absurd hfinite (hvalue negative m exponent)
      · rfl
    simp [hnone, eq_comm]

/-- A request is answered with an error exactly for one of these reasons. -/
theorem ofRequest_eq_error {name : String} {value : Option Binary64} {e : CommandError} :
    ofRequest name value = .error e ↔ Refused name value e := by
  constructor
  · intro h
    by_cases hname : name = "filter_reset"
    · simp [ofRequest, hname] at h
    cases hkind : kindOf? name with
    | none =>
      simp only [ofRequest, if_neg hname, hkind] at h
      cases h
      exact .unknown hname fun kind hmem => by simp [kindOf?_eq_some.mpr hmem] at hkind
    | some kind =>
      have hmem := kindOf?_eq_some.mp hkind
      cases value with
      | none =>
        simp only [ofRequest, if_neg hname, hkind] at h
        cases h
        exact .missing hmem
      | some v =>
        obtain ⟨rfl, hvalue | ⟨x, codes, hvalue, hcodes, hnone⟩⟩ := (ofRequest_number hmem).mp h
        · exact .notFinite hmem hvalue
        · exact .noMember hmem hvalue hcodes hnone
  · intro h
    cases h with
    | unknown hname hnone =>
      have hkind : kindOf? name = none :=
        Option.eq_none_iff_forall_ne_some.mpr fun kind hkind => hnone kind (kindOf?_eq_some.mp hkind)
      simp [ofRequest, hname, hkind]
    | missing hmem =>
      simp [ofRequest, ne_filterReset hmem, kindOf?_eq_some.mpr hmem]
    | notFinite hmem hvalue => exact (ofRequest_number hmem).mpr ⟨rfl, .inl hvalue⟩
    | noMember hmem hvalue hcodes hnone =>
      exact (ofRequest_number hmem).mpr ⟨rfl, .inr ⟨_, _, hvalue, hcodes, hnone⟩⟩

/-- The whole part of minus one half is no code, not even zero. -/
example : ofRequest "mode" (some ⟨0xbfe0000000000000⟩) =
    .error (.invalidValue "mode" ⟨0xbfe0000000000000⟩) := by decide

end Command

end ClimateBus
