import ClimateBus.Field.Label
import Mathlib

/-!
How the name of a field value may be spelled.

A text is read as a value if it spells the name of this value, perhaps between blanks: letter by
letter in either case, with hyphens and underscores anywhere (`Labelled.ofName_eq_ok_iff`). Blanks
are cut off first and separators are dropped then. So a separator may be put in or taken out
everywhere but outside the blanks at an end of the text, which it keeps from being cut off
(`Labelled.Shields`): such a text is refused.
-/
namespace ClimateBus

namespace Blank

variable {p : Char → Bool} {c : Char} {cs before after xs ys : List Char}

theorem stripBoth_eq (p : Char → Bool) (cs : List Char) :
    stripBoth p cs = (cs.dropWhile p).rdropWhile p := rfl

theorem dropWhile_append_of_not_all (h : ¬ ∀ c ∈ xs, p c) :
    (xs ++ ys).dropWhile p = xs.dropWhile p ++ ys := by
  rw [List.dropWhile_append, if_neg]
  rwa [List.isEmpty_iff, List.dropWhile_eq_nil_iff]

theorem rdropWhile_append_of_not_all (h : ¬ ∀ c ∈ ys, p c) :
    (xs ++ ys).rdropWhile p = xs ++ ys.rdropWhile p := by
  have hreverse : ¬ ∀ c ∈ ys.reverse, p c := fun hall =>
    h fun c hc => hall c (List.mem_reverse.mpr hc)
  rw [List.rdropWhile, List.reverse_append, dropWhile_append_of_not_all hreverse,
    List.reverse_append, List.reverse_reverse, List.rdropWhile]

theorem rdropWhile_append_of_pos (h : ∀ c ∈ ys, p c) :
    (xs ++ ys).rdropWhile p = xs.rdropWhile p := by
  rw [List.rdropWhile, List.reverse_append,
    List.dropWhile_append_of_pos fun c hc => h c (List.mem_reverse.mp hc), List.rdropWhile]

theorem dropWhile_append_cons (hc : ¬ p c) (xs ys : List Char) :
    (xs ++ c :: ys).dropWhile p = xs.dropWhile p ++ c :: ys := by
  rw [List.dropWhile_append, List.dropWhile_cons_of_neg hc]
  split_ifs with h
  · rw [List.isEmpty_iff.mp h, List.nil_append]
  · rfl

theorem rdropWhile_append_cons (hc : ¬ p c) (xs ys : List Char) :
    (xs ++ c :: ys).rdropWhile p = xs ++ c :: ys.rdropWhile p := by
  simp [List.rdropWhile, dropWhile_append_cons hc]

/-- Around a character that stays, each side is cut at its own end. -/
theorem stripBoth_append_cons (hc : ¬ p c) (xs ys : List Char) :
    stripBoth p (xs ++ c :: ys) = xs.dropWhile p ++ c :: ys.rdropWhile p := by
  rw [stripBoth_eq, dropWhile_append_cons hc, rdropWhile_append_cons hc]

theorem stripBoth_between (hbefore : ∀ c ∈ before, p c) (hcs : ∀ c ∈ cs, ¬ p c)
    (hafter : ∀ c ∈ after, p c) : stripBoth p (before ++ cs ++ after) = cs := by
  have hrdrop : cs.rdropWhile p = cs :=
    List.rdropWhile_eq_self_iff.mpr fun hl => hcs _ (List.getLast_mem hl)
  rw [stripBoth_eq, List.append_assoc, List.dropWhile_append_of_pos hbefore]
  cases cs with
  | nil => rw [List.nil_append, List.dropWhile_eq_nil_iff.mpr hafter, List.rdropWhile_nil]
  | cons c cs =>
    rw [List.cons_append, List.dropWhile_cons_of_neg (hcs c List.mem_cons_self),
      ← List.cons_append, rdropWhile_append_of_pos hafter, hrdrop]

theorem exists_between (p : Char → Bool) (cs : List Char) : ∃ before after,
    cs = before ++ stripBoth p cs ++ after ∧ (∀ c ∈ before, p c) ∧ ∀ c ∈ after, p c := by
  refine ⟨cs.takeWhile p, (cs.dropWhile p).rtakeWhile p, ?_, fun c => List.mem_takeWhile_imp,
    fun c => List.mem_rtakeWhile_imp⟩
  rw [stripBoth_eq, List.append_assoc, List.rdropWhile_append_rtakeWhile,
    List.takeWhile_append_dropWhile]

end Blank

namespace Letter

/-- What holds of the first 128 characters, one by one, holds of an ASCII character. -/
theorem of_ascii {P : Char → Prop} (h : ∀ n < 128, P (Char.ofNat n)) {c : Char}
    (hc : c.toNat < 128) : P c := c.ofNat_toNat ▸ h _ hc

theorem toLower_of_not_ascii {c : Char} (hc : 128 ≤ c.toNat) : c.toLower = c := by
  rw [Char.toLower, dif_neg]
  rintro ⟨-, hle⟩
  have hcapital : c.toNat ≤ 90 := UInt32.le_iff_toNat_le.mp hle
  omega

/-- A law of small letters need be checked for ASCII alone, if it holds of what is its own small
letter. -/
theorem of_ascii_of_fixed {P : Char → Prop} (h : ∀ n < 128, P (Char.ofNat n))
    (hfixed : ∀ c : Char, c.toLower = c → P c) (c : Char) : P c := by
  rcases lt_or_ge c.toNat 128 with hc | hc
  · exact of_ascii h hc
  · exact hfixed c (toLower_of_not_ascii hc)

theorem lowerChar_of_ascii {c : Char} (hc : c.toNat < 128) : lowerChar c = [c.toLower] :=
  of_ascii (P := fun c => lowerChar c = [c.toLower]) (by decide +kernel) hc

/-- The characters of a name: visible ASCII characters, no capital among them. The k is left out, as
the sign of the kelvin is lowered to it too. -/
def Plain (c : Char) : Prop := 0x20 < c.toNat ∧ c.toNat < 128 ∧ c.toLower = c ∧ c ≠ 'k'

instance (c : Char) : Decidable (Plain c) := inferInstanceAs (Decidable (_ ∧ _ ∧ _ ∧ _))

/-- Apart from the sign of the kelvin, a range of the lower-case mapping is one of capital ASCII
letters or leads out of ASCII. -/
theorem caseRanges_ascii : ∀ r ∈ caseRanges,
    r.last < 128 ∨ (r.first = 0x212a ∧ r.last = 0x212a ∧ r.offset = -8383) ∨
      128 ≤ (r.first : Int) + r.offset := by decide +kernel

/-- A character outside ASCII is not lowered to plain ones. -/
theorem exists_not_plain {c : Char} (hc : 128 ≤ c.toNat) : ∃ d ∈ lowerChar c, ¬ Plain d := by
  unfold lowerChar
  split_ifs
  · exact ⟨'\u0307', by decide, by decide⟩
  · split
    next r hfound =>
      refine ⟨_, List.mem_singleton_self _, ?_⟩
      have hcontains := List.find?_some hfound
      simp only [CaseRange.contains, Bool.and_eq_true, decide_eq_true_eq] at hcontains
      obtain ⟨⟨hfirst, hlast⟩, -⟩ := hcontains
      rintro ⟨hvisible, hascii, -, hk⟩
      rcases caseRanges_ascii r (List.mem_of_find?_eq_some hfound) with hr | ⟨hf, hl, ho⟩ | hr
      · omega
      · have hkelvin : c.toNat = 0x212a := by omega
        exact hk (by rw [hkelvin, ho]; rfl)
      · rw [Char.toNat_ofNat] at hvisible hascii
        split_ifs at hvisible hascii <;> omega
    next => exact ⟨c, List.mem_singleton_self c, fun h => absurd h.2.1 (Nat.not_lt.mpr hc)⟩

/-- Plain letters are the lower case of ASCII characters only, so the tables are not looked at. -/
theorem flatMap_lowerChar_eq_iff {cs ls : List Char} (hplain : ∀ l ∈ ls, Plain l) :
    cs.flatMap lowerChar = ls ↔ cs.map Char.toLower = ls := by
  induction cs generalizing ls with
  | nil => rfl
  | cons c cs ih =>
    rw [List.flatMap_cons, List.map_cons]
    rcases lt_or_ge c.toNat 128 with hc | hc
    · rw [lowerChar_of_ascii hc, List.singleton_append]
      cases ls with
      | nil => simp
      | cons l ls =>
        rw [List.cons.injEq, List.cons.injEq, ih fun d hd => hplain d (List.mem_cons_of_mem _ hd)]
    · obtain ⟨d, hd, hnot⟩ := exists_not_plain hc
      rw [toLower_of_not_ascii hc]
      constructor
      · rintro rfl
        exact absurd (hplain d (List.mem_append_left _ hd)) hnot
      · rintro rfl
        exact absurd (hplain c List.mem_cons_self).2.1 (Nat.not_lt.mpr hc)

theorem not_isBlank_of_plain {c : Char} (hc : Plain c) : ¬ Blank.isBlank c :=
  of_ascii (P := fun c => Plain c → ¬ Blank.isBlank c) (by decide +kernel) hc.2.1 hc

theorem isBlank_toLower (c : Char) : Blank.isBlank c.toLower = Blank.isBlank c :=
  of_ascii_of_fixed (P := fun c => Blank.isBlank c.toLower = Blank.isBlank c) (by decide +kernel)
    (fun c hc => by rw [hc]) c

theorem toLower_of_isBlank {c : Char} (hc : Blank.isBlank c) : c.toLower = c :=
  of_ascii_of_fixed (P := fun c => Blank.isBlank c → c.toLower = c) (by decide +kernel)
    (fun _ h _ => h) c hc

end Letter

namespace Labelled

/-- Characters that do not count in a name. -/
def IsSeparator (c : Char) : Prop := c = '-' ∨ c = '_'

instance (c : Char) : Decidable (IsSeparator c) := inferInstanceAs (Decidable (_ ∨ _))

/-- Character by character, in either case, with separators anywhere in the one or in the other. -/
inductive Spells : List Char → List Char → Prop where
  | nil : Spells [] []
  | separator {c : Char} {cs name : List Char} :
    IsSeparator c → Spells cs name → Spells (c :: cs) name
  | separated {c : Char} {cs name : List Char} :
    IsSeparator c → Spells cs name → Spells cs (c :: name)
  | letter {c d : Char} {cs name : List Char} :
    c.toLower = d.toLower → Spells cs name → Spells (c :: cs) (d :: name)

/-- A spelling of the name between blanks. -/
def Spelled (text name : List Char) : Prop :=
  ∃ before cs after, text = before ++ cs ++ after ∧ (∀ c ∈ before, Blank.isBlank c) ∧
    Spells cs name ∧ ∀ c ∈ after, Blank.isBlank c

/-- What counts of a spelling. -/
def letters (cs : List Char) : List Char :=
  (cs.filter fun c => c != '-' && c != '_').map Char.toLower

section Letters

variable {c d : Char} {cs name : List Char}

theorem letters_append (xs ys : List Char) : letters (xs ++ ys) = letters xs ++ letters ys := by
  rw [letters, List.filter_append, List.map_append, letters, letters]

theorem letters_cons (c : Char) (cs : List Char) :
    letters (c :: cs) = if IsSeparator c then letters cs else c.toLower :: letters cs := by
  by_cases h : IsSeparator c
  · rcases h with rfl | rfl <;> rfl
  · rw [if_neg h]
    rw [IsSeparator, not_or] at h
    simp [letters, h]

theorem toLower_mem_letters (hc : ¬ IsSeparator c) (hmem : c ∈ cs) : c.toLower ∈ letters cs := by
  rw [IsSeparator, not_or] at hc
  exact List.mem_map_of_mem (List.mem_filter.mpr ⟨hmem, by simp [hc]⟩)

theorem isSeparator_toLower_iff : IsSeparator c.toLower ↔ IsSeparator c :=
  Letter.of_ascii_of_fixed (P := fun c => IsSeparator c.toLower ↔ IsSeparator c)
    (by decide +kernel) (fun c hc => by rw [hc]) c

theorem spells_iff : Spells cs name ↔ letters cs = letters name := by
  constructor
  · intro h
    induction h with
    | nil => rfl
    | separator hc _ ih => rw [letters_cons, if_pos hc, ih]
    | separated hc _ ih => rw [letters_cons _ _, if_pos hc, ih]
    | @letter c d _ _ hcase _ ih =>
      have hsame : IsSeparator c ↔ IsSeparator d := by
        rw [← isSeparator_toLower_iff, hcase, isSeparator_toLower_iff]
      rw [letters_cons, letters_cons, ih, hcase]
      simp only [hsame]
  · intro h
    induction cs generalizing name with
    | nil =>
      induction name with
      | nil => exact .nil
      | cons d name ih =>
        rw [letters_cons] at h
        split_ifs at h with hd
        · exact .separated hd (ih h)
        · cases h
    | cons c cs ih =>
      rw [letters_cons] at h
      split_ifs at h with hc
      · exact .separator hc (ih h)
      · induction name with
        | nil => cases h
        | cons d name ihd =>
          rw [letters_cons d] at h
          split_ifs at h with hd
          · exact .separated hd (ihd h)
          · rw [List.cons.injEq] at h
            exact .letter h.1 (ih h.2)

end Letters

section Trimmed

variable {cs ls xs ys : List Char} {c : Char}

theorem not_isBlank_of_isSeparator (hc : IsSeparator c) : ¬ Blank.isBlank c := by
  rcases hc with rfl | rfl <;> decide

theorem spelling_eq_iff {text : String} (hplain : ∀ l ∈ ls, Letter.Plain l) :
    spelling text = ls ↔ letters (Blank.trim text.toList) = ls :=
  Letter.flatMap_lowerChar_eq_iff hplain

/-- A blank is a letter that no name has. -/
theorem not_isBlank_of_letters (hplain : ∀ l ∈ letters cs, Letter.Plain l) :
    ∀ c ∈ cs, ¬ Blank.isBlank c := by
  intro c hc hblank
  by_cases hseparator : IsSeparator c
  · exact not_isBlank_of_isSeparator hseparator hblank
  · have hletter := hplain _ (toLower_mem_letters hseparator hc)
    rw [Letter.toLower_of_isBlank hblank] at hletter
    exact Letter.not_isBlank_of_plain hletter hblank

theorem trim_eq_self (hplain : ∀ l ∈ letters cs, Letter.Plain l) : Blank.trim cs = cs := by
  have hbetween : Blank.stripBoth Blank.isBlank ([] ++ cs ++ []) = cs :=
    Blank.stripBoth_between (by simp) (not_isBlank_of_letters hplain) (by simp)
  rwa [List.nil_append, List.append_nil] at hbetween

theorem spelled_iff {name : List Char} (hplain : ∀ l ∈ letters name, Letter.Plain l) :
    Spelled cs name ↔ letters (Blank.trim cs) = letters name := by
  constructor
  · rintro ⟨before, core, after, rfl, hbefore, hspells, hafter⟩
    have hletters := spells_iff.mp hspells
    have hcore : ∀ c ∈ core, ¬ Blank.isBlank c := not_isBlank_of_letters (hletters ▸ hplain)
    rw [Blank.trim, Blank.stripBoth_between hbefore hcore hafter, hletters]
  · intro h
    obtain ⟨before, after, hcs, hbefore, hafter⟩ := Blank.exists_between Blank.isBlank cs
    exact ⟨before, _, after, hcs, hbefore, spells_iff.mpr h, hafter⟩

theorem trim_map_toLower (cs : List Char) :
    Blank.trim (cs.map Char.toLower) = (Blank.trim cs).map Char.toLower := by
  have hblank : Blank.isBlank ∘ Char.toLower = Blank.isBlank := funext Letter.isBlank_toLower
  simp only [Blank.trim, Blank.stripBoth, List.dropWhile_map, hblank, ← List.map_reverse]

/-- What counts of a text is the same in small letters. -/
theorem letters_trim_congr (h : xs.map Char.toLower = ys.map Char.toLower) :
    letters (Blank.trim xs) = letters (Blank.trim ys) := by
  have hfilter (cs : List Char) : letters cs =
      (cs.map Char.toLower).filter fun c => c != '-' && c != '_' := by
    rw [letters, List.filter_map]
    congr 1
    apply List.filter_congr
    intro c _
    have hsame := isSeparator_toLower_iff (c := c)
    simp only [IsSeparator] at hsame
    grind
  rw [hfilter, hfilter, ← trim_map_toLower, ← trim_map_toLower, h]

/-- A separator between the two parts of a text keeps blanks from being cut off: on its one side
there is nothing but blanks, if anything, and on its other side a blank is next to it. -/
def Shields (xs ys : List Char) : Prop :=
  ((∀ c ∈ xs, Blank.isBlank c) ∧ ∃ b rest, ys = b :: rest ∧ Blank.isBlank b) ∨
    (∀ c ∈ ys, Blank.isBlank c) ∧ ∃ rest b, xs = rest ++ [b] ∧ Blank.isBlank b

theorem trim_insert (hc : IsSeparator c) (xs ys : List Char) : Blank.trim (xs ++ c :: ys) =
    xs.dropWhile Blank.isBlank ++ c :: ys.rdropWhile Blank.isBlank :=
  Blank.stripBoth_append_cons (not_isBlank_of_isSeparator hc) xs ys

/-- A separator that shields nothing does not count. -/
theorem letters_trim_insert (hc : IsSeparator c) (hshields : ¬ Shields xs ys) :
    letters (Blank.trim (xs ++ c :: ys)) = letters (Blank.trim (xs ++ ys)) := by
  rw [trim_insert hc, letters_append, letters_cons, if_pos hc, ← letters_append, Blank.trim,
    Blank.stripBoth_eq]
  congr 1
  rw [Shields, not_or] at hshields
  obtain ⟨hleft, hright⟩ := hshields
  by_cases hxs : ∀ d ∈ xs, Blank.isBlank d
  · -- With the separator the second part is not cut at its beginning; there is no blank to cut off.
    have hys : ys.dropWhile Blank.isBlank = ys := by
      cases ys with
      | nil => rfl
      | cons b rest =>
        exact List.dropWhile_cons_of_neg fun hb => hleft ⟨hxs, b, rest, rfl, hb⟩
    rw [List.dropWhile_append_of_pos hxs, hys, List.dropWhile_eq_nil_iff.mpr hxs, List.nil_append]
  · rw [Blank.dropWhile_append_of_not_all hxs]
    by_cases hys : ∀ e ∈ ys, Blank.isBlank e
    · -- With the separator the first part is not cut at its end; there is no blank to cut off.
      have hlast : (xs.dropWhile Blank.isBlank).rdropWhile Blank.isBlank =
          xs.dropWhile Blank.isBlank := by
        rw [List.rdropWhile_eq_self_iff]
        intro hne hblank
        obtain ⟨before, hbefore⟩ := List.dropWhile_suffix (l := xs) Blank.isBlank
        refine hright ⟨hys, before ++ (xs.dropWhile Blank.isBlank).dropLast, _, ?_, hblank⟩
        rw [List.append_assoc, List.dropLast_append_getLast, hbefore]
      rw [Blank.rdropWhile_append_of_pos hys, hlast, List.rdropWhile_eq_nil_iff.mpr hys,
        List.append_nil]
    · rw [Blank.rdropWhile_append_of_not_all hys]

/-- What a separator shields is no part of a name, and without it there is nothing left. -/
theorem letters_trim_of_shields (hc : IsSeparator c) (hshields : Shields xs ys)
    (hplain : ∀ l ∈ ls, Letter.Plain l) (hls : ls ≠ []) :
    letters (Blank.trim (xs ++ c :: ys)) ≠ ls := by
  rintro rfl
  have hblank := not_isBlank_of_letters hplain
  rw [trim_insert hc] at hblank hls
  rcases hshields with ⟨hxs, b, rest, rfl, hb⟩ | ⟨hys, rest, b, rfl, hb⟩
  · by_cases hrest : ∀ d ∈ rest, Blank.isBlank d
    · rw [List.dropWhile_eq_nil_iff.mpr hxs,
        List.rdropWhile_eq_nil_iff.mpr (List.forall_mem_cons.mpr ⟨hb, hrest⟩), List.nil_append,
        letters_cons, if_pos hc] at hls
      exact hls rfl
    · rw [← List.singleton_append (x := b), Blank.rdropWhile_append_of_not_all hrest] at hblank
      exact hblank b (by simp) hb
  · by_cases hrest : ∀ d ∈ rest, Blank.isBlank d
    · rw [List.rdropWhile_eq_nil_iff.mpr hys, List.dropWhile_append_of_pos hrest,
        List.dropWhile_cons_of_pos hb, List.dropWhile_nil, List.nil_append, letters_cons,
        if_pos hc] at hls
      exact hls rfl
    · rw [Blank.dropWhile_append_of_not_all hrest] at hblank
      exact hblank b (by simp) hb

end Trimmed

/-- Names that are told apart however they are spelled. -/
class WellNamed (α : Type) [Labelled α] : Prop where
  listed : ∀ v : α, v ∈ (all : List α)
  plain : ∀ v : α, ∀ c ∈ (name v).toList, Letter.Plain c
  lettered : ∀ v : α, letters (name v).toList ≠ []
  distinct : ((all : List α).map fun v => letters (name v).toList).Nodup

instance : WellNamed Mode where
  listed v := by cases v <;> decide
  plain v := by rw [← List.all_iff_forall_prop]; cases v <;> decide +kernel
  lettered v := by cases v <;> decide +kernel
  distinct := by decide +kernel

instance : WellNamed FanSpeed where
  listed v := by cases v <;> decide
  plain v := by rw [← List.all_iff_forall_prop]; cases v <;> decide +kernel
  lettered v := by cases v <;> decide +kernel
  distinct := by decide +kernel

instance : WellNamed FanDirection where
  listed v := by cases v <;> decide
  plain v := by rw [← List.all_iff_forall_prop]; cases v <;> decide +kernel
  lettered v := by cases v <;> decide +kernel
  distinct := by decide +kernel

section Names

variable {α : Type} [Labelled α] [WellNamed α]

theorem letters_injective : Function.Injective fun v : α => letters (name v).toList :=
  fun v w => List.inj_on_of_nodup_map WellNamed.distinct (WellNamed.listed v) (WellNamed.listed w)

theorem plain_letters (v : α) : ∀ l ∈ letters (name v).toList, Letter.Plain l := by
  intro l hl
  obtain ⟨c, hc, rfl⟩ := List.mem_map.mp hl
  have hplain := WellNamed.plain v c (List.mem_of_mem_filter hc)
  rwa [hplain.2.2.1]

theorem spelling_name (v : α) : spelling (name v) = letters (name v).toList := by
  rw [spelling_eq_iff (plain_letters v), trim_eq_self (plain_letters v)]

/-- A text is read as a value just if its letters are those of the name. -/
theorem ofName_eq_ok_iff_letters {text : String} {v : α} :
    ofName text = .ok v ↔ letters (Blank.trim text.toList) = letters (name v).toList := by
  rw [← spelling_eq_iff (plain_letters v), ofName]
  split
  next w hfound =>
    have hw : letters (name w).toList = spelling text := by
      have hfirst := List.find?_some hfound
      rwa [beq_iff_eq, spelling_name] at hfirst
    rw [Except.ok.injEq, ← hw]
    exact ⟨fun h => h ▸ rfl, fun h => letters_injective h⟩
  next hnone =>
    refine ⟨nofun, fun h => ?_⟩
    have hv := List.find?_eq_none.mp hnone v (WellNamed.listed v)
    rw [spelling_name, h, beq_self_eq_true] at hv
    exact absurd rfl hv

theorem ofName_eq_ok_iff {text : String} {v : α} :
    ofName text = .ok v ↔ Spelled text.toList (name v).toList := by
  rw [ofName_eq_ok_iff_letters, spelled_iff (plain_letters v)]

theorem toOption_ofName_congr {text text' : String}
    (h : letters (Blank.trim text.toList) = letters (Blank.trim text'.toList)) :
    (ofName text : Except UnknownName α).toOption = (ofName text').toOption := by
  have hok (v : α) : ofName text = .ok v ↔ ofName text' = .ok v := by
    rw [ofName_eq_ok_iff_letters, ofName_eq_ok_iff_letters, h]
  cases htext : (ofName text : Except UnknownName α) with
  | ok v => rw [(hok v).mp htext]
  | error e =>
    cases htext' : (ofName text' : Except UnknownName α) with
    | ok v => rw [(hok v).mpr htext'] at htext; cases htext
    | error e' => rfl

end Names

/-- How a text is read: as the value whose name it spells between blanks, as no other one, and not at
all if it spells none. The case of its ASCII letters does not count, nor does a separator at any
place, but for one that shields blanks: with it the text is not read. -/
structure SpelledFreely (α : Type) [Labelled α] (text : String) : Prop where
  named : ∀ v : α, ofName text = .ok v ↔ Spelled text.toList (name v).toList
  case : ∀ text' : String, text.toList.map Char.toLower = text'.toList.map Char.toLower →
    (ofName text : Except UnknownName α).toOption = (ofName text').toOption
  separator : ∀ (xs ys : List Char) (c : Char), text.toList = xs ++ c :: ys → IsSeparator c →
    ¬ Shields xs ys → (ofName text : Except UnknownName α).toOption =
      (ofName (String.ofList (xs ++ ys))).toOption
  shielded : ∀ (xs ys : List Char) (c : Char), text.toList = xs ++ c :: ys → IsSeparator c →
    Shields xs ys → (ofName text : Except UnknownName α).toOption = none

theorem spelledFreely (α : Type) [Labelled α] [WellNamed α] (text : String) :
    SpelledFreely α text where
  named _ := ofName_eq_ok_iff
  case _ h := toOption_ofName_congr (letters_trim_congr h)
  separator xs ys c htext hc hshields := by
    apply toOption_ofName_congr
    rw [htext, String.toList_ofList, letters_trim_insert hc hshields]
  shielded xs ys c htext hc hshields := by
    cases hread : (ofName text : Except UnknownName α) with
    | ok v =>
      rw [ofName_eq_ok_iff_letters, htext] at hread
      exact absurd hread (letters_trim_of_shields hc hshields (plain_letters v)
        (WellNamed.lettered v))
    | error e => rfl

/-- Modes, fan speeds and louvre positions are read however their names are spelled. -/
theorem names_spelled_freely (text : String) :
    SpelledFreely Mode text ∧ SpelledFreely FanSpeed text ∧ SpelledFreely FanDirection text :=
  ⟨spelledFreely Mode text, spelledFreely FanSpeed text, spelledFreely FanDirection text⟩

/-- A hyphen between the letters does not count, one before a leading blank does. -/
example : (ofName " Co-Ol" : Except UnknownName Mode).toOption = some .cool ∧
    (ofName "- cool" : Except UnknownName Mode).toOption = none := by decide +kernel

end Labelled

end ClimateBus
