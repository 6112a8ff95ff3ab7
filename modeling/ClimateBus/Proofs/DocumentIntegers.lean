import ClimateBus.Toml.Document
import Mathlib

/-!
The integers of a document that is read.

An integer is taken from a text only if it has a place among those of 64 bits with a sign. Lists,
inline tables and the tables of a document are put together from values that were read, so the same
holds of every integer inside a document, however deep (`read_integersFit`).
-/
namespace ClimateBus.Toml

namespace Node

/-- All integers in a table under construction fit. -/
inductive Fits : Node → Prop
  | value {t : Tree} (h : IntegersFit t) : Fits (.value t)
  | table {origin : Origin} {entries : List (String × Node)} (h : ∀ e ∈ entries, Fits e.2) :
      Fits (.table origin entries)
  | tables {closed : List Tree} {entries : List (String × Node)}
      (hclosed : ∀ t ∈ closed, IntegersFit t) (h : ∀ e ∈ entries, Fits e.2) :
      Fits (.tables closed entries)

theorem toTrees_eq_map (es : Entries) : toTrees es = es.map fun e => (e.1, e.2.toTree) := by
  induction es with
  | nil => rfl
  | cons e es ih => rw [toTrees, ih]; rfl

theorem Fits.toTree {n : Node} (h : n.Fits) : IntegersFit n.toTree := by
  induction h with
  | value h => rwa [Node.toTree]
  | table _ ih =>
    rw [Node.toTree, toTrees_eq_map]
    refine .table fun e he => ?_
    obtain ⟨e', he', rfl⟩ := List.mem_map.mp he
    exact ih e' he'
  | tables hclosed _ ih =>
    rw [Node.toTree, toTrees_eq_map]
    refine .list fun t ht => ?_
    rcases List.mem_append.mp ht with ht | ht
    · exact hclosed t ht
    · rw [List.mem_singleton.mp ht]
      refine .table fun e he => ?_
      obtain ⟨e', he', rfl⟩ := List.mem_map.mp he
      exact ih e' he'

/-- Entries whose nodes fit. -/
def AllFit (es : Entries) : Prop := ∀ e ∈ es, e.2.Fits

theorem allFit_nil : AllFit [] := fun _ he => absurd he List.not_mem_nil

theorem allFit_toTrees {es : Entries} (h : AllFit es) : IntegersFit (.table (toTrees es)) := by
  rw [toTrees_eq_map]
  refine .table fun e he => ?_
  obtain ⟨e', he', rfl⟩ := List.mem_map.mp he
  exact (h e' he').toTree

variable {key : String} {es es' : Entries}

theorem AllFit.alter {f : Option Node → Option Node} (h : AllFit es)
    (hnew : ∀ n, f none = some n → n.Fits)
    (hold : ∀ n n', n.Fits → f (some n) = some n' → n'.Fits)
    (halter : Node.alter key f es = some es') : AllFit es' := by
  induction es generalizing es' with
  | nil =>
    obtain ⟨n, hn, rfl⟩ := Option.map_eq_some_iff.mp halter
    exact List.forall_mem_singleton.mpr (hnew n hn)
  | cons e es ih =>
    obtain ⟨he, hes⟩ := List.forall_mem_cons.mp h
    rw [Node.alter] at halter
    split_ifs at halter
    · obtain ⟨n, hn, rfl⟩ := Option.map_eq_some_iff.mp halter
      exact List.forall_mem_cons.mpr ⟨hold _ _ he hn, hes⟩
    · obtain ⟨rest, hrest, rfl⟩ := Option.map_eq_some_iff.mp halter
      exact List.forall_mem_cons.mpr ⟨he, ih hes hrest⟩

/-- An edit that keeps the entries it works on in order keeps those around them in order. -/
theorem AllFit.edit {by_ : Origin} {f : Origin → Entries → Option Entries}
    (hf : ∀ origin es es', AllFit es → f origin es = some es' → AllFit es') {path : List String}
    {origin : Origin} (h : AllFit es) (hedit : Node.edit by_ f path origin es = some es') :
    AllFit es' := by
  induction path generalizing origin es es' with
  | nil => exact hf origin es es' h hedit
  | cons key path ih =>
    refine h.alter ?_ ?_ hedit
    · intro n hn
      obtain ⟨inner, hinner, rfl⟩ := Option.map_eq_some_iff.mp hn
      exact .table (ih allFit_nil hinner)
    · intro n n' hn hn'
      cases hn with
      | value _ => cases hn'
      | table hentries =>
        dsimp only at hn'
        split_ifs at hn'
        obtain ⟨inner, hinner, rfl⟩ := Option.map_eq_some_iff.mp hn'
        exact .table (ih hentries hinner)
      | tables hclosed hentries =>
        obtain ⟨inner, hinner, rfl⟩ := Option.map_eq_some_iff.mp hn'
        exact .tables hclosed (ih hentries hinner)

theorem AllFit.addAt {path : List String} {t : Tree} {origin : Origin} (h : AllFit es)
    (ht : IntegersFit t) (hadd : Node.addAt path key t origin es = some es') : AllFit es' := by
  refine h.edit (fun origin es es' hes hadd => ?_) hadd
  rw [add] at hadd
  split_ifs at hadd
  refine hes.alter ?_ ?_ hadd
  · rintro _ ⟨⟩
    exact .value ht
  · rintro _ _ _ ⟨⟩

theorem AllFit.openTable {path : List String} (h : AllFit es)
    (hopen : Node.openTable path key es = some es') : AllFit es' := by
  refine h.edit (fun origin es es' hes hopen => ?_) hopen
  refine hes.alter ?_ ?_ hopen
  · rintro _ ⟨⟩
    exact .table allFit_nil
  · intro n n' hn hn'
    cases hn with
    | value _ => cases hn'
    | tables _ _ => cases hn'
    | @table origin inner hinner =>
      cases origin with
      | header => cases hn'
      | dotted => cases hn'
      | path =>
        obtain rfl := Option.some.inj hn'
        exact .table hinner

theorem AllFit.openNext {path : List String} (h : AllFit es)
    (hopen : Node.openNext path key es = some es') : AllFit es' := by
  refine h.edit (fun origin es es' hes hopen => ?_) hopen
  refine hes.alter ?_ ?_ hopen
  · rintro _ ⟨⟩
    exact .tables (fun _ ht => absurd ht List.not_mem_nil) allFit_nil
  · intro n n' hn hn'
    cases hn with
    | value _ => cases hn'
    | table _ => cases hn'
    | tables hclosed hinner =>
      obtain rfl := Option.some.inj hn'
      refine .tables (fun t ht => ?_) allFit_nil
      rcases List.mem_append.mp ht with ht | ht
      · exact hclosed t ht
      · rw [List.mem_singleton.mp ht]
        exact allFit_toTrees hinner

end Node

namespace Scan

variable {cs rest : List Char} {t : Tree}

/-- All that the scanner gives fits. -/
def Fits (item : Scan Tree) : Prop := ∀ cs t rest, item cs = some (t, rest) → IntegersFit t

theorem integersFit_of_whole? {i : Int} (h : whole? i = some t) : IntegersFit t := by
  unfold whole? at h
  split_ifs at h with hfits
  obtain rfl := Option.some.inj h
  exact .whole hfits

theorem based_fits (base : Nat) (p : Char → Bool) : (based base p).Fits := by
  intro cs t rest h
  obtain ⟨⟨ds, cs'⟩, -, h⟩ := Option.bind_eq_some_iff.mp h
  obtain ⟨values, -, h⟩ := Option.bind_eq_some_iff.mp h
  obtain ⟨t', ht', h⟩ := Option.bind_eq_some_iff.mp h
  obtain ⟨rfl, -⟩ := Prod.mk.inj (Option.some.inj h)
  exact integersFit_of_whole? ht'

theorem integer_fits : Fits integer := by
  intro cs t rest h
  unfold integer at h
  split at h
  · exact based_fits _ _ _ _ _ h
  · exact based_fits _ _ _ _ _ h
  · exact based_fits _ _ _ _ _ h
  · obtain ⟨⟨text, cs'⟩, -, h⟩ := Option.bind_eq_some_iff.mp h
    obtain ⟨i, -, h⟩ := Option.bind_eq_some_iff.mp h
    obtain ⟨t', ht', h⟩ := Option.bind_eq_some_iff.mp h
    obtain ⟨rfl, -⟩ := Prod.mk.inj (Option.some.inj h)
    exact integersFit_of_whole? ht'

theorem moment_fits : Fits moment := by
  intro cs t rest h
  unfold moment at h
  split at h
  · cases h
    exact .moment
  · obtain ⟨rest', -, h⟩ := Option.map_eq_some_iff.mp h
    cases h
    exact .moment

theorem real_fits : Fits real := by
  intro cs t rest h
  unfold real namedReal at h
  split at h
  · split at h
    · cases h
      exact .real
    · cases h
      exact .real
    · cases h
  · split at h
    · split_ifs at h
      cases h
      exact .real
    · cases h

theorem number_fits : Fits number := by
  intro cs t rest h
  have hnumber : number cs = (moment cs).or ((real cs).or (integer cs)) := by
    unfold number
    cases moment cs <;> cases real cs <;> rfl
  rw [hnumber] at h
  rcases Option.or_eq_some_iff.mp h with h | ⟨-, h⟩
  · exact moment_fits _ _ _ h
  · rcases Option.or_eq_some_iff.mp h with h | ⟨-, h⟩
    · exact real_fits _ _ _ h
    · exact integer_fits _ _ _ h

theorem scalar_fits : Fits scalar := by
  intro cs t rest h
  unfold scalar at h
  split at h
  · cases h
    exact .flag true
  · cases h
    exact .flag false
  · split at h
    · cases h
      exact .text _
    · exact number_fits _ _ _ h

theorem items_fits {item : Scan Tree} (hitem : item.Fits) {fuel : Nat} {ts : List Tree}
    (h : items item fuel cs = some (ts, rest)) : ∀ t ∈ ts, IntegersFit t := by
  induction fuel generalizing cs ts with
  | zero => cases h
  | succ fuel ih =>
    obtain ⟨cs₁, -, h⟩ := Option.bind_eq_some_iff.mp h
    split at h
    · cases h
      exact fun t ht => absurd ht List.not_mem_nil
    · obtain ⟨⟨first, cs₂⟩, hfirst, h⟩ := Option.bind_eq_some_iff.mp h
      obtain ⟨cs₃, -, h⟩ := Option.bind_eq_some_iff.mp h
      have hfits : IntegersFit first := hitem _ _ _ hfirst
      dsimp only at h
      split at h
      · obtain ⟨⟨more, cs₄⟩, hmore, h⟩ := Option.bind_eq_some_iff.mp h
        cases h
        exact List.forall_mem_cons.mpr ⟨hfits, ih hmore⟩
      · cases h
        exact List.forall_mem_singleton.mpr hfits
      · cases h

theorem member_fits {item : Scan Tree} (hitem : item.Fits) {name : List String × String}
    (h : member item cs = some ((name, t), rest)) : IntegersFit t := by
  obtain ⟨⟨name', cs₁⟩, -, h⟩ := Option.bind_eq_some_iff.mp h
  obtain ⟨cs₂, -, h⟩ := Option.bind_eq_some_iff.mp h
  obtain ⟨⟨t', cs₃⟩, ht', h⟩ := Option.bind_eq_some_iff.mp h
  cases h
  exact hitem _ _ _ ht'

theorem members_fits {item : Scan Tree} (hitem : item.Fits) {fuel : Nat} {es es' : Node.Entries}
    (hes : Node.AllFit es) (h : members item fuel es cs = some (es', rest)) : Node.AllFit es' := by
  induction fuel generalizing cs es with
  | zero => cases h
  | succ fuel ih =>
    obtain ⟨⟨⟨name, t⟩, cs₁⟩, hmember, h⟩ := Option.bind_eq_some_iff.mp h
    obtain ⟨es₁, hadd, h⟩ := Option.bind_eq_some_iff.mp h
    have hes₁ : Node.AllFit es₁ := hes.addAt (member_fits hitem hmember) hadd
    split at h
    · exact ih hes₁ h
    · cases h
      exact hes₁
    · cases h

theorem inlineTable_fits {item : Scan Tree} (hitem : item.Fits) {es : Node.Entries}
    (h : inlineTable item cs = some (es, rest)) : Node.AllFit es := by
  unfold inlineTable at h
  split at h
  · cases h
    exact Node.allFit_nil
  · exact members_fits hitem Node.allFit_nil h

theorem value_fits (depth : Nat) : (value depth).Fits := by
  induction depth with
  | zero => exact fun _ _ _ h => nomatch h
  | succ depth ih =>
    intro cs t rest h
    rw [value] at h
    dsimp only at h
    split at h
    · split_ifs at h
      obtain ⟨⟨ts, rest'⟩, hts, h⟩ := Option.map_eq_some_iff.mp h
      cases h
      exact .list (items_fits ih hts)
    · split_ifs at h
      obtain ⟨⟨es, rest'⟩, hes, h⟩ := Option.map_eq_some_iff.mp h
      cases h
      exact Node.allFit_toTrees (inlineTable_fits ih hes)
    · exact scalar_fits _ _ _ h

end Scan

theorem Draft.readLine_fits {d d' : Draft} {cs rest : List Char} (hd : Node.AllFit d.root)
    (h : d.readLine cs = some (d', rest)) : Node.AllFit d'.root := by
  unfold Draft.readLine at h
  split at h
  · obtain ⟨⟨⟨path, last⟩, rest'⟩, -, h⟩ := Option.bind_eq_some_iff.mp h
    obtain ⟨root, hroot, h⟩ := Option.bind_eq_some_iff.mp h
    cases h
    exact hd.openNext hroot
  · obtain ⟨⟨⟨path, last⟩, rest'⟩, -, h⟩ := Option.bind_eq_some_iff.mp h
    obtain ⟨root, hroot, h⟩ := Option.bind_eq_some_iff.mp h
    cases h
    exact hd.openTable hroot
  · obtain ⟨⟨⟨⟨path, last⟩, t⟩, rest'⟩, hmember, h⟩ := Option.bind_eq_some_iff.mp h
    obtain ⟨root, hroot, h⟩ := Option.bind_eq_some_iff.mp h
    obtain ⟨rest'', -, h⟩ := Option.bind_eq_some_iff.mp h
    cases h
    have ht : IntegersFit t := Scan.member_fits (Scan.value_fits _) hmember
    exact hd.edit (fun _ _ _ hes hadd => hes.addAt ht hadd) hroot

theorem Draft.readLines_fits {d d' : Draft} {cs : List Char} {fuel : Nat}
    (hd : Node.AllFit d.root) (h : Draft.readLines fuel d cs = some d') : Node.AllFit d'.root := by
  induction fuel generalizing d cs with
  | zero =>
    rw [Draft.readLines] at h
    split_ifs at h
    obtain rfl := Option.some.inj h
    exact hd
  | succ fuel ih =>
    rw [Draft.readLines] at h
    split at h
    · obtain rfl := Option.some.inj h
      exact hd
    · split_ifs at h
      · obtain ⟨cs', -, h⟩ := Option.bind_eq_some_iff.mp h
        exact ih hd h
      · obtain ⟨⟨d₁, cs'⟩, hline, h⟩ := Option.bind_eq_some_iff.mp h
        exact ih (Draft.readLine_fits hd hline) h

/-- No document gives an integer that cannot be written again. -/
theorem read_integersFit {text : String} {t : Tree} (h : read text = some t) : IntegersFit t := by
  obtain ⟨d, hd, rfl⟩ := Option.map_eq_some_iff.mp h
  exact Node.allFit_toTrees (Draft.readLines_fits Node.allFit_nil hd)

end ClimateBus.Toml
