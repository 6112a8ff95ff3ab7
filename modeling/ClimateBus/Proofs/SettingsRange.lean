import ClimateBus.Proofs.PartialSettings
import Mathlib

/-!
Which settings have a written form, in any faithful TOML library.

Only the numbers of 64 bits without a sign can be too large for a document (`Settings.wide`). A
document has no such number, so settings that were read from one can be written again.
-/
namespace ClimateBus

/-- What a tree gives for the parts of a record fits if the tree does. -/
theorem Settings.parts_fit {d : Dialect} {names : List String} {t : Tree}
    {given : List (String × Tree)} (ht : Toml.IntegersFit t)
    (h : Settings.parts d names t = some given) : ∀ e ∈ given, Toml.IntegersFit e.2 := by
  cases ht with
  | table hentries =>
    obtain rfl := Option.some.inj h
    exact hentries
  | list hitems =>
    unfold parts at h
    dsimp only at h
    split_ifs at h
    obtain rfl := Option.some.inj h
    exact fun e he => hitems e.2 (List.of_mem_zip he).2
  | moment =>
    obtain rfl := Option.some.inj h
    exact fun e he => absurd he List.not_mem_nil
  | _ => cases h

namespace Settings

/-- The numbers that have more places than an integer of a document. -/
def wide (s : Settings) : List UInt64 :=
  [s.master.timeoutMs, s.supervisor.statusIntervalS, s.supervisor.pollLockMs,
    s.supervisor.statusLockMs, s.supervisor.commandLockMs, s.supervisor.queryLockMs,
    s.supervisor.logCapacity]

/-- All numbers fit a document. -/
def InRange (s : Settings) : Prop := ∀ n ∈ s.wide, n.toNat < 2 ^ 63
  deriving Decidable

/-- Reading a setting from a tree whose integers fit leaves all numbers in range. -/
def Entry.KeepsRange (e : Entry) : Prop :=
  ∀ {d : Dialect} {t : Tree} {s s' : Settings}, Toml.IntegersFit t → s.InRange →
    e.read d t s = some s' → s'.InRange

section

variable {key : String}

theorem keepsRange_of_wide_eq {α : Type} [Spelled α] {get : Settings → α}
    {set : Settings → α → Settings} (h : ∀ s v, (set s v).wide = s.wide) :
    (entry key get set).KeepsRange := by
  intro d t s s' _ hs hread
  obtain ⟨v, -, rfl⟩ := Option.map_eq_some_iff.mp hread
  rwa [InRange, h]

theorem read_lt {d : Dialect} {t : Tree} {n : UInt64} (ht : Toml.IntegersFit t)
    (h : Spelled.read d t = some n) : n.toNat < 2 ^ 63 := by
  obtain ⟨m, hm, rfl⟩ := Option.map_eq_some_iff.mp h
  cases ht with
  | @whole i hi =>
    rw [Spelled.readNat] at hm
    split_ifs at hm with hbound
    obtain rfl := Option.some.inj hm
    simp only [Toml.fits, decide_eq_true_eq] at hi
    have hmax : i ≤ 2 ^ 63 - 1 := hi.2
    have hmod : (UInt64.ofNat i.toNat).toNat = i.toNat % 2 ^ 64 := UInt64.toNat_ofNat'
    omega
  | _ => cases hm

theorem keepsRange_of_wide_set {get : Settings → UInt64} {set : Settings → UInt64 → Settings}
    (place : Nat) (h : ∀ s v, (set s v).wide = s.wide.set place v) :
    (entry key get set).KeepsRange := by
  intro d t s s' ht hs hread
  obtain ⟨v, hv, rfl⟩ := Option.map_eq_some_iff.mp hread
  intro n hn
  rw [h] at hn
  rcases List.mem_or_eq_of_mem_set hn with hn | rfl
  · exact hs n hn
  · exact read_lt ht hv

end

theorem keepsRange {x : Section} (hx : x ∈ sections) : ∀ e ∈ x.entries, e.KeepsRange := by
  have hplain {α : Type} [Spelled α] {key : String} {get : Settings → α}
      {set : Settings → α → Settings} (h : ∀ s v, (set s v).wide = s.wide) :
      (entry key get set).KeepsRange := keepsRange_of_wide_eq h
  have hend : ∀ e ∈ ([] : List Entry), e.KeepsRange := fun _ he => absurd he List.not_mem_nil
  simp only [sections, List.mem_cons, List.not_mem_nil, or_false] at hx
  rcases hx with rfl | rfl | rfl | rfl | rfl
  · simp only [serialSection, List.forall_mem_cons]
    refine ⟨hplain ?_, hplain ?_, hplain ?_, hplain ?_, hplain ?_, hend⟩ <;> exact fun _ _ => rfl
  · simp only [masterSection, List.forall_mem_cons]
    refine ⟨hplain ?_, keepsRange_of_wide_set 0 ?_, hplain ?_, hplain ?_, hend⟩ <;>
      exact fun _ _ => rfl
  · simp only [gatewaySection, List.forall_mem_cons]
    refine ⟨hplain ?_, hplain ?_, hplain ?_, hplain ?_, hend⟩ <;> exact fun _ _ => rfl
  · simp only [supervisorSection, List.forall_mem_cons]
    refine ⟨keepsRange_of_wide_set 1 ?_, keepsRange_of_wide_set 2 ?_, keepsRange_of_wide_set 3 ?_,
      keepsRange_of_wide_set 4 ?_, keepsRange_of_wide_set 5 ?_, keepsRange_of_wide_set 6 ?_,
      hend⟩ <;> exact fun _ _ => rfl
  · simp only [loggingSection, List.forall_mem_cons]
    refine ⟨hplain ?_, hplain ?_, hplain ?_, hplain ?_, hplain ?_, hend⟩ <;> exact fun _ _ => rfl

/-- What every step of a fold keeps, the fold keeps. -/
theorem foldlM_keeps {α β : Type} {P : α → Prop} {f : α → β → Option α} {xs : List β}
    (hstep : ∀ x ∈ xs, ∀ {s s'}, P s → f s x = some s' → P s') {s s' : α} (hs : P s)
    (h : xs.foldlM f s = some s') : P s' := by
  induction xs generalizing s with
  | nil =>
    obtain rfl := Option.some.inj h
    exact hs
  | cons x xs ih =>
    rw [List.foldlM_cons] at h
    obtain ⟨s₁, hs₁, h⟩ := Option.bind_eq_some_iff.mp h
    exact ih (fun y hy => hstep y (List.mem_cons_of_mem _ hy)) (hstep x List.mem_cons_self hs hs₁) h

/-- What is found under a key is one of the entries. -/
theorem fit_of_lookup {given : List (String × Tree)} (hgiven : ∀ e ∈ given, Toml.IntegersFit e.2)
    {key : String} {t : Tree} (h : given.lookup key = some t) : Toml.IntegersFit t := by
  obtain ⟨before, after, rfl, -⟩ := List.lookup_eq_some_iff.mp h
  exact hgiven (key, t) (by simp)

/-- Settings that are read from a tree whose integers fit are in range. -/
theorem ofTree_inRange {d : Dialect} {t : Tree} {s : Settings} (ht : Toml.IntegersFit t)
    (h : ofTree d t = some s) : s.InRange := by
  obtain ⟨given, hparts, h⟩ := Option.bind_eq_some_iff.mp h
  have hgiven : ∀ e ∈ given, Toml.IntegersFit e.2 := parts_fit ht hparts
  have hdefault : InRange {} := by simp [InRange, wide]
  refine foldlM_keeps (fun x hx s s' hs happly => ?_) hdefault h
  rw [Section.apply] at happly
  split at happly
  next t hlookup =>
    obtain ⟨inner, hinner, happly⟩ := Option.bind_eq_some_iff.mp happly
    have hfits := parts_fit (fit_of_lookup hgiven hlookup) hinner
    refine foldlM_keeps (fun e he s s' hs happly => ?_) hs happly
    rw [Entry.apply] at happly
    split at happly
    next t hlookup => exact keepsRange hx e he (fit_of_lookup hfits hlookup) hs happly
    next =>
      obtain rfl := Option.some.inj happly
      exact hs
  next =>
    obtain rfl := Option.some.inj happly
    exact hs

end Settings

namespace Spelled

/-- The value, if it is not left out, has a written form. -/
def Writable {α : Type} [Spelled α] (v : α) : Prop :=
  ∀ t, Spelled.write v = some t → Toml.IntegersFit t

theorem writable_iff {α : Type} [Spelled α] {v : α} {t : Tree} (h : write v = some t) :
    Writable v ↔ Toml.IntegersFit t := by
  simp only [Writable, h, Option.some.injEq, forall_eq']

theorem integersFit_whole (n : Nat) : Toml.IntegersFit (.whole n) ↔ n < 2 ^ 63 := by
  have hmax : Int64.maxValue.toInt = 2 ^ 63 - 1 := rfl
  have hmin : Int64.minValue.toInt ≤ 0 := by decide
  have hfits : Toml.fits n = true ↔ n < 2 ^ 63 := by
    rw [Toml.fits, decide_eq_true_eq, hmax]
    omega
  exact ⟨fun h => by cases h with | whole h => exact hfits.mp h, fun h => .whole (hfits.mpr h)⟩

@[simp]
theorem writable_bool (b : Bool) : Writable b := (writable_iff rfl).mpr (.flag b)

@[simp]
theorem writable_string (s : String) : Writable s := (writable_iff rfl).mpr (.text s)

@[simp]
theorem writable_parity (p : Parity) : Writable p := (writable_iff rfl).mpr (.text p.name)

@[simp]
theorem writable_controlLine (l : ControlLine) : Writable l := (writable_iff rfl).mpr (.text l.name)

@[simp]
theorem writable_uint8 (n : UInt8) : Writable n :=
  (writable_iff rfl).mpr ((integersFit_whole _).mpr (n.toNat_lt.trans (by decide)))

@[simp]
theorem writable_uint32 (n : UInt32) : Writable n :=
  (writable_iff rfl).mpr ((integersFit_whole _).mpr (n.toNat_lt.trans (by decide)))

@[simp]
theorem writable_uint64 (n : UInt64) : Writable n ↔ n.toNat < 2 ^ 63 :=
  (writable_iff rfl).trans (integersFit_whole _)

@[simp]
theorem writable_option {α : Type} [Spelled α] (v : Option α) :
    Writable v ↔ ∀ a, v = some a → Writable a := by
  cases v <;> simp [Writable, write]

end Spelled

namespace Settings

variable [lib : Toml.Library] (hlib : lib.Faithful)
include hlib

theorem ofToml?_inRange {text : String} {s : Settings} (h : ofToml? text = some s) :
    s.InRange := by
  obtain ⟨t, ht, h⟩ := Option.bind_eq_some_iff.mp h
  exact ofTree_inRange (hlib.integersFit ht) h

variable (keep : String → String → Bool) (c : Settings)

theorem write_chosen_isSome_iff_writable : (lib.write (c.chosen keep)).isSome ↔
    ∀ x ∈ sections, ∀ e ∈ x.entries, keep x.name e.key = true →
      ∀ t, e.write c = some t → Toml.IntegersFit t := by
  rw [hlib.write_isSome (chosen_wellFormed keep c), chosen]
  simp only [written, List.forall_mem_map, List.forall_mem_filterMap, Option.ite_none_right_eq_some,
    Option.map_eq_some_iff, forall_exists_index, and_imp]
  constructor
  · exact fun h x hx e he hkeep t ht => h x hx e he _ hkeep t ht rfl
  · exact fun h x hx e he w hkeep t ht hw => hw ▸ h x hx e he hkeep t ht

/-- Some settings have a written form just if the numbers among them are in range. -/
theorem write_chosen_isSome : (lib.write (c.chosen keep)).isSome ↔ (c.partly keep).InRange := by
  have hentry {α : Type} [Spelled α] (name key : String) (get : Settings → α)
      (set : Settings → α → Settings) (hdefault : Spelled.Writable (get {})) :
      (keep name (entry key get set).key = true → ∀ t, (entry key get set).write c = some t →
        Toml.IntegersFit t) ↔
          Spelled.Writable (if keep name key then get c else get {}) := by
    cases hkeep : keep name key with
    | false => simp [entry, hkeep, hdefault]
    | true => simp [entry, hkeep, Spelled.Writable]
  rw [write_chosen_isSome_iff_writable hlib]
  simp [sections, serialSection, masterSection, gatewaySection, supervisorSection, loggingSection,
    hentry, InRange, wide, partly]

/-- Settings have a written form just if their numbers are in range. -/
theorem toToml?_isSome : (c.toToml?).isSome ↔ c.InRange := by
  rw [toToml?, ← chosen_all, write_chosen_isSome hlib, partly_all]

end Settings

end ClimateBus
