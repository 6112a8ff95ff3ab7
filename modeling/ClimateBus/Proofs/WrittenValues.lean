import ClimateBus.Proofs.QuotedStrings
import ClimateBus.Toml.Document
import Mathlib

/-!
Values without parts that are written and read again.

A value ends where its line does. A number is offered to the readers of moments and of numbers with
a point before it is read as an integer, so each of these has to refuse it (`moment_line`,
`real_line`).
-/
namespace ClimateBus.Toml

/-- A test tells two characters apart. -/
theorem ne_of_test {p : Char → Bool} {c d : Char} (hc : p c = true) (hd : p d = false) : c ≠ d := by
  rintro rfl
  rw [hd] at hc
  cases hc

theorem toDigits_ne_zero_cons {n : Nat} (hn : 0 < n) (t : List Char) :
    Nat.toDigits 10 n ≠ '0' :: t := by
  induction n using Nat.strong_induction_on generalizing t with
  | _ n ih =>
    by_cases hsmall : n < 10
    · rw [Nat.toDigits_of_lt_base hsmall]
      interval_cases n <;> simp [Nat.digitChar]
    · have hlarge : 10 ≤ n := not_lt.mp hsmall
      have hpos : 0 < n / 10 := Nat.div_pos hlarge (by decide)
      rw [Nat.toDigits_of_base_le (by decide) hlarge]
      have hne : Nat.toDigits 10 (n / 10) ≠ [] := Nat.toDigits_ne_nil
      obtain ⟨c, cs, hcs⟩ := List.exists_cons_of_ne_nil hne
      have hhead := ih (n / 10) (Nat.div_lt_self hn (by decide)) hpos cs
      rw [hcs] at hhead ⊢
      simp_all

/-- A sign, if there is one, and digits with no needless zero in front. -/
structure IntegerText (sg ds : List Char) : Prop where
  sign : sg = [] ∨ sg = ['-']
  digits : ∀ c ∈ ds, c.isDigit = true
  nonempty : ds ≠ []
  zero : ∀ t, ds = '0' :: t → t = []

theorem integerText_toDigits {sg : List Char} (hsign : sg = [] ∨ sg = ['-']) (n : Nat) :
    IntegerText sg (Nat.toDigits 10 n) where
  sign := hsign
  digits _ hc := Nat.isDigit_of_mem_toDigits (by decide) (by decide) hc
  nonempty := Nat.toDigits_ne_nil
  zero t ht := by
    rcases Nat.eq_zero_or_pos n with rfl | hn
    · exact (List.cons.inj ht).2.symm
    · exact absurd ht (toDigits_ne_zero_cons hn t)

theorem natOfDigits_toDigits (n : Nat) : Numeral.natOfDigits (Nat.toDigits 10 n) = n := by
  rw [Numeral.natOfDigits, ← Nat.ofDigitChars_eq_foldl]
  exact Nat.ofDigitChars_toDigits (by decide) (by decide)

namespace Scan

variable {sg ds : List Char} (h : IntegerText sg ds) (rest : List Char)

theorem moreDigits_line (hds : ∀ c ∈ ds, c.isDigit = true) :
    moreDigits Char.isDigit (ds ++ '\n' :: rest) = some (ds, '\n' :: rest) := by
  induction ds with
  | nil => rfl
  | cons c ds ih =>
    rw [List.forall_mem_cons] at hds
    have hunder : c ≠ '_' := ne_of_test hds.1 rfl
    rw [List.cons_append, moreDigits.eq_3 _ _ _ (by simp [hunder]), hds.1, if_pos rfl, ih hds.2]
    rfl

include h

theorem sign_line : sign (sg ++ ds ++ '\n' :: rest) = (sg, ds ++ '\n' :: rest) := by
  rcases h.sign with rfl | rfl
  · obtain ⟨c, ds, rfl⟩ := List.exists_cons_of_ne_nil h.nonempty
    have hc : c.isDigit = true := h.digits c List.mem_cons_self
    rw [List.nil_append, List.cons_append, sign.eq_3]
    all_goals
      rintro _ ⟨⟩
      cases hc
  · rfl

theorem decimalInteger_line :
    decimalInteger (sg ++ ds ++ '\n' :: rest) = some (sg ++ ds, '\n' :: rest) := by
  obtain ⟨c, ds, rfl⟩ := List.exists_cons_of_ne_nil h.nonempty
  have hds := h.digits
  rw [List.forall_mem_cons] at hds
  simp only [decimalInteger, sign_line h]
  by_cases hc : c = '0'
  · subst hc
    rw [h.zero ds rfl]
    rfl
  · have hdigits : digits Char.isDigit (c :: ds ++ '\n' :: rest) =
        some (c :: ds, '\n' :: rest) := by
      rw [List.cons_append, digits, hds.1, if_pos rfl, moreDigits_line rest hds.2]
      rfl
    rw [List.cons_append] at hdigits ⊢
    split
    next hzero => exact absurd (List.cons.inj hzero).1 hc
    next => rw [hdigits, Option.map_some]

theorem zero_line {t : List Char} (ht : sg ++ ds ++ '\n' :: rest = '0' :: t) :
    t = '\n' :: rest := by
  rcases h.sign with rfl | rfl
  · obtain ⟨c, ds, rfl⟩ := List.exists_cons_of_ne_nil h.nonempty
    obtain ⟨rfl, rfl⟩ := List.cons.inj ht
    rw [h.zero ds rfl]
    rfl
  · cases ht

omit h in
/-- What stands behind exactly so many digits. -/
theorem fixedDigits_eq_some {count n : Nat} {cs t : List Char}
    (ht : fixedDigits count cs = some (n, t)) :
    (∀ c ∈ cs.take count, c.isDigit = true) ∧ count ≤ cs.length ∧ t = cs.drop count := by
  obtain ⟨m, hm, hcount⟩ := Option.bind_eq_some_iff.mp ht
  split_ifs at hcount with hlength
  have hdigits : (cs.take count).all Char.isDigit = true := by
    unfold Numeral.nat? at hm
    split_ifs at hm with hall
    exact (Bool.and_eq_true_iff.mp hall).2
  rw [List.length_take] at hlength
  exact ⟨List.all_eq_true.mp hdigits, by omega, by cases hcount; rfl⟩

/-- Behind some digits comes the next one or the end of the line, but no sign between two parts. -/
theorem fixedDigits_line {count : Nat} (hcount : 0 < count) {c : Char} (hc : c.isDigit = false)
    (hline : c ≠ '\n') {n : Nat} {t : List Char}
    (ht : fixedDigits count (sg ++ ds ++ '\n' :: rest) = some (n, t)) : only c t = none := by
  obtain ⟨hall, hlength, rfl⟩ := fixedDigits_eq_some ht
  rcases h.sign with rfl | rfl
  · have hle : count ≤ ds.length := by
      by_contra hlt
      obtain ⟨k, hk⟩ : ∃ k, count - ds.length = k + 1 := ⟨count - ds.length - 1, by omega⟩
      have hmem : '\n' ∈ (ds ++ '\n' :: rest).take count := by
        rw [List.take_append, hk, List.take_succ_cons]
        exact List.mem_append_right _ List.mem_cons_self
      cases hall _ hmem
    rw [List.nil_append, List.drop_append_of_le_length hle]
    cases hdrop : ds.drop count with
    | nil => simp [only, Ne.symm hline]
    | cons d t =>
      have hd : d.isDigit = true := h.digits d (List.mem_of_mem_drop (hdrop ▸ List.mem_cons_self))
      have hne : d ≠ c := ne_of_test hd hc
      simp [only, hne]
  · obtain ⟨k, rfl⟩ := Nat.exists_eq_succ_of_ne_zero (Nat.pos_iff_ne_zero.mp hcount)
    cases hall '-' (by simp)

theorem moment_line : moment (sg ++ ds ++ '\n' :: rest) = none := by
  have hdate : date (sg ++ ds ++ '\n' :: rest) = none := by
    unfold date
    cases hyear : fixedDigits 4 (sg ++ ds ++ '\n' :: rest) with
    | none => rfl
    | some r =>
      have hdash := fixedDigits_line h rest (by decide) (c := '-') (by decide) (by decide) hyear
      simp [hdash]
  have htime : time (sg ++ ds ++ '\n' :: rest) = none := by
    unfold time hourMinute
    cases hhour : fixedDigits 2 (sg ++ ds ++ '\n' :: rest) with
    | none => rfl
    | some r =>
      have hcolon := fixedDigits_line h rest (by decide) (c := ':') (by decide) (by decide) hhour
      simp [hcolon]
  rw [moment, hdate, htime]
  rfl

theorem real_line : real (sg ++ ds ++ '\n' :: rest) = none := by
  have hnumeral : realNumeral (sg ++ ds ++ '\n' :: rest) = none := by
    rw [realNumeral, decimalInteger_line h]
    rfl
  have hnamed : namedReal (sg ++ ds ++ '\n' :: rest) = none := by
    obtain ⟨c, ds, rfl⟩ := List.exists_cons_of_ne_nil h.nonempty
    have hc : c.isDigit = true := h.digits c List.mem_cons_self
    rw [namedReal, sign_line h]
    split
    next hname =>
      obtain ⟨rfl, -⟩ := List.cons.inj hname
      cases hc
    next hname =>
      obtain ⟨rfl, -⟩ := List.cons.inj hname
      cases hc
    next => rfl
  rw [real, hnumeral, hnamed]

theorem integer_line {i : Int} (hi : Numeral.int? (sg ++ ds) = some i) (hfits : fits i = true) :
    integer (sg ++ ds ++ '\n' :: rest) = some (.whole i, '\n' :: rest) := by
  rw [integer.eq_4, decimalInteger_line h]
  · simp [hi, whole?, hfits]
  all_goals
    intro t ht
    cases zero_line h rest ht

theorem number_line {i : Int} (hi : Numeral.int? (sg ++ ds) = some i) (hfits : fits i = true) :
    number (sg ++ ds ++ '\n' :: rest) = some (.whole i, '\n' :: rest) := by
  rw [number, moment_line h, real_line h, integer_line h rest hi hfits]
  rfl

end Scan

/-- A number begins with a sign or a digit. -/
theorem IntegerText.head {sg ds : List Char} (h : IntegerText sg ds) :
    ∃ c cs, sg ++ ds = c :: cs ∧ (c = '-' ∨ c.isDigit = true) := by
  rcases h.sign with rfl | rfl
  · obtain ⟨c, cs, rfl⟩ := List.exists_cons_of_ne_nil h.nonempty
    exact ⟨c, cs, rfl, .inr (h.digits c List.mem_cons_self)⟩
  · exact ⟨'-', ds, rfl, .inl rfl⟩

theorem IntegerText.nat? {sg ds : List Char} (h : IntegerText sg ds) :
    Numeral.nat? ds = some (Numeral.natOfDigits ds) := by
  rw [Numeral.nat?, if_pos]
  rw [Bool.and_eq_true]
  exact ⟨by simp [h.nonempty], List.all_eq_true.mpr h.digits⟩

/-- An integer is written as such a text, which has its value. -/
theorem exists_integerText (i : Int) : ∃ sg ds, (toString i).toList = sg ++ ds ∧
    IntegerText sg ds ∧ Numeral.int? (sg ++ ds) = some i := by
  cases i with
  | ofNat n =>
    have h := integerText_toDigits (.inl rfl) n
    refine ⟨[], Nat.toDigits 10 n, Nat.toList_repr, h, ?_⟩
    obtain ⟨c, cs, hc⟩ := List.exists_cons_of_ne_nil h.nonempty
    have hdigit : c.isDigit = true := h.digits c (hc ▸ List.mem_cons_self)
    have hsplit : Numeral.splitSign (Nat.toDigits 10 n) = (false, Nat.toDigits 10 n) := by
      rw [hc, Numeral.splitSign.eq_3]
      all_goals
        rintro _ ⟨⟩
        cases hdigit
    rw [List.nil_append, Numeral.int?, hsplit]
    dsimp only
    rw [h.nat?, natOfDigits_toDigits]
    rfl
  | negSucc n =>
    have h := integerText_toDigits (.inr rfl) (n + 1)
    refine ⟨['-'], Nat.toDigits 10 (n + 1), ?_, h, ?_⟩
    · change ("-" ++ (n + 1).repr).toList = _
      rw [String.toList_append, Nat.toList_repr]
      rfl
    · simp only [List.singleton_append, Numeral.int?, Numeral.splitSign, h.nat?,
        natOfDigits_toDigits]
      rfl

/-- A string is written with a quote in front. -/
theorem Quoted.write_eq_cons (cs : List Char) :
    ∃ q t, Quoted.write cs = q :: t ∧ (q = '"' ∨ q = '\'') := by
  unfold Quoted.write Quoted.writeAs
  cases Quoted.formOf cs
  · exact ⟨_, _, rfl, .inl rfl⟩
  · exact ⟨_, _, rfl, .inr rfl⟩
  · exact ⟨_, _, rfl, .inl rfl⟩
  · exact ⟨_, _, rfl, .inr rfl⟩

/-- What is written for a value begins with neither a blank nor a bracket. -/
theorem writeScalar_head {t : Tree} {v : String} (h : writeScalar t = some v) :
    ∃ c cs, v.toList = c :: cs ∧ Scan.isBlank c = false ∧ c ≠ '[' ∧ c ≠ '\x7b' := by
  cases t with
  | flag b =>
    obtain rfl := Option.some.inj h
    cases b
    · exact ⟨'f', _, rfl, by decide⟩
    · exact ⟨'t', _, rfl, by decide⟩
  | whole i =>
    rw [writeScalar] at h
    split_ifs at h
    obtain rfl := Option.some.inj h
    obtain ⟨sg, ds, hchars, hinteger, -⟩ := exists_integerText i
    obtain ⟨c, cs, hc, hhead⟩ := hinteger.head
    refine ⟨c, cs, hchars.trans hc, ?_⟩
    rcases hhead with rfl | hdigit
    · decide
    · have hne {d : Char} (hd : d.isDigit = false) : c ≠ d := ne_of_test hdigit hd
      exact ⟨by simp [Scan.isBlank, hne], hne rfl, hne rfl⟩
  | text s =>
    obtain rfl := Option.some.inj h
    obtain ⟨q, cs, hq, hquote⟩ := Quoted.write_eq_cons s.toList
    rw [String.toList_ofList]
    refine ⟨q, cs, hq, ?_⟩
    rcases hquote with rfl | rfl <;> decide
  | absent | real | moment | list _ | table _ => cases h

/-- Up to the end of its line a value is read as it was written. -/
theorem scalar_writeScalar {t : Tree} {v : String} (h : writeScalar t = some v) (rest : List Char) :
    Scan.scalar (v.toList ++ '\n' :: rest) = some (t, '\n' :: rest) := by
  cases t with
  | flag b =>
    obtain rfl := Option.some.inj h
    cases b <;> rfl
  | whole i =>
    rw [writeScalar] at h
    split_ifs at h with hfits
    obtain rfl := Option.some.inj h
    obtain ⟨sg, ds, hchars, hinteger, hvalue⟩ := exists_integerText i
    obtain ⟨c, cs, hc, hhead⟩ := hinteger.head
    have hnumber := Scan.number_line hinteger rest hvalue hfits
    have hne {d : Char} (hsign : d ≠ '-') (hd : d.isDigit = false) : c ≠ d := by
      rcases hhead with rfl | hdigit
      · exact hsign.symm
      · exact ne_of_test hdigit hd
    rw [hchars]
    rw [hc, List.cons_append] at hnumber ⊢
    rw [Scan.scalar.eq_3, Quoted.scan.eq_3, Quoted.scanLine.eq_3]
    · exact hnumber
    all_goals
      intro t ht
      exact hne (by decide) (by decide) (List.cons.inj ht).1
  | text s =>
    obtain rfl := Option.some.inj h
    obtain ⟨q, cs, hq, hquote⟩ := Quoted.write_eq_cons s.toList
    have hscan := Quoted.scan_write s.toList ('\n' :: rest) (by simp) (by simp)
    rw [String.toList_ofList]
    rw [hq] at hscan ⊢
    rw [List.cons_append] at hscan ⊢
    rw [Scan.scalar.eq_3, hscan]
    · dsimp only
      rw [String.ofList_toList]
    all_goals
      intro t ht
      obtain ⟨rfl, -⟩ := List.cons.inj ht
      rcases hquote with h | h <;> cases h
  | absent | real | moment | list _ | table _ => cases h

end ClimateBus.Toml
