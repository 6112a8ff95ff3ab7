import ClimateBus.Toml.Quoted
import Mathlib

/-!
Strings that are written and read again.

All four forms of a string give back the text they were made of, whatever characters it has. What
makes the forms different is when their end is seen: a text between tripled quotes may hold up to
two quotes in a row, so both its scanners are told by the quotes that stand right before the part
still to be read (`scanBasicLines_body`, `scanLiteralLines_append`).
-/
namespace ClimateBus.Toml.Quoted

/-- A scanner of the inside of a basic string undoes the escapes. -/
structure Unescapes (lines : Bool) (scan : List Char → Option (List Char × List Char)) : Prop where
  code {a b c d x : Char} {t cs rest : List Char} (hx : charOfHex? [a, b, c, d] = some x)
    (ht : scan t = some (cs, rest)) :
    scan ('\\' :: 'u' :: a :: b :: c :: d :: t) = some (x :: cs, rest)
  letter {c x : Char} {t cs rest : List Char} (hx : escaped? c = some x)
    (ht : scan t = some (cs, rest)) : scan ('\\' :: c :: t) = some (x :: cs, rest)
  plain {c : Char} {t cs rest : List Char} (hplain : isPlain c = true) (hquote : c ≠ '"')
    (hslash : c ≠ '\\') (ht : scan t = some (cs, rest)) : scan (c :: t) = some (c :: cs, rest)
  line {t cs rest : List Char} (hlines : lines = true) (ht : scan t = some (cs, rest)) :
    scan ('\n' :: t) = some ('\n' :: cs, rest)

theorem isPlain_of_not_control {c : Char} (hcontrol : isControl c = false) (hline : c ≠ '\n') :
    isPlain c = true := by
  grind [isControl, isPlain]

theorem toNat_lt_of_isControl {c : Char} (h : isControl c = true) : c.toNat < 128 := by
  by_cases hdelete : c = '\x7f'
  · subst hdelete
    decide
  · grind [isControl]

/-- The four digits behind a backslash and a `u` are read as what they were made of. -/
theorem charOfHex?_digits {c : Char} (h : c.toNat < 128) :
    charOfHex? ((Hex.digits 4 c.toNat).map Char.toUpper) = some c := by
  have hall : ∀ n < 128, charOfHex? ((Hex.digits 4 n).map Char.toUpper) = some (Char.ofNat n) := by
    decide +kernel
  rw [hall _ h, Char.ofNat_toNat]

theorem Unescapes.escape {lines : Bool} {scan : List Char → Option (List Char × List Char)}
    (h : Unescapes lines scan) {c : Char} (hquote : c ≠ '"') {t cs rest : List Char}
    (ht : scan t = some (cs, rest)) :
    scan (Quoted.escape lines c ++ t) = some (c :: cs, rest) := by
  unfold Quoted.escape
  split_ifs with hslash hback htab hline hlines hfeed hreturn hcontrol
  · subst hslash
    exact h.letter rfl ht
  · subst hback
    exact h.letter rfl ht
  · subst htab
    exact h.letter rfl ht
  · subst hline
    exact h.line hlines ht
  · subst hline
    exact h.letter rfl ht
  · subst hfeed
    exact h.letter rfl ht
  · subst hreturn
    exact h.letter rfl ht
  · exact h.code (charOfHex?_digits (toNat_lt_of_isControl hcontrol)) ht
  · exact h.plain (isPlain_of_not_control (by simpa using hcontrol) hline) hquote hslash ht

theorem unescapes_scanBasic : Unescapes false scanBasic where
  code hx ht := by simp [scanBasic, hx, ht]
  letter {c x t cs rest} hx ht := by
    rw [scanBasic.eq_5, hx, ht]
    · rfl
    · rintro _ _ _ _ _ rfl -
      cases hx
    · rintro _ _ _ _ _ _ _ _ _ rfl -
      cases hx
  plain hplain hquote hslash ht := by
    rw [scanBasic.eq_6] <;> simp_all
  line h := nomatch h

theorem unescapes_scanBasicLines : Unescapes true (scanBasicLines .inside) where
  code hx ht := by simp [scanBasicLines, hx, ht]
  letter {c x t cs rest} hx ht := by
    rw [scanBasicLines.eq_9, hx]
    · simp [ht]
    · rintro _ _ _ _ _ rfl -
      cases hx
    · rintro _ _ _ _ _ _ _ _ _ rfl -
      cases hx
    · rintro ⟨⟩
  plain {c t cs rest} hplain hquote hslash ht := by
    have hreturn : c ≠ '\r' := by
      rintro rfl
      cases hplain
    rw [scanBasicLines.eq_11] <;> simp_all
  line _ ht := by
    rw [scanBasicLines.eq_11] <;> simp_all

theorem scanBasic_body (run : Nat) (cs rest : List Char) :
    scanBasic (body false run cs ++ '"' :: rest) = some (cs, rest) := by
  induction cs generalizing run with
  | nil => rfl
  | cons c cs ih =>
    unfold body
    split_ifs with hquote hstands
    · cases hstands
    · subst hquote
      exact unescapes_scanBasic.letter rfl (ih 0)
    · rw [List.append_assoc]
      exact unescapes_scanBasic.escape hquote (ih 0)

/-- A quote stands for itself unless two more follow it. -/
theorem scanBasicLines_quote {t cs rest : List Char} (hnext : ∀ t', t ≠ '"' :: '"' :: t')
    (ht : scanBasicLines .inside t = some (cs, rest)) :
    scanBasicLines .inside ('"' :: t) = some ('"' :: cs, rest) := by
  rw [scanBasicLines.eq_11]
  all_goals simp_all [isPlain]

/-- Before any other character up to two quotes are passed one by one. -/
theorem scanBasicLines_quotes {run : Nat} (hrun : run ≤ 2) {c : Char} (hquote : c ≠ '"')
    {t cs rest : List Char} (ht : scanBasicLines .inside (c :: t) = some (cs, rest)) :
    scanBasicLines .inside (List.replicate run '"' ++ c :: t) =
      some (List.replicate run '"' ++ cs, rest) := by
  interval_cases run
  · exact ht
  · exact scanBasicLines_quote (by simp [hquote]) ht
  · exact scanBasicLines_quote (by simp [hquote]) (scanBasicLines_quote (by simp [hquote]) ht)

/-- An escape does not begin with a quote, and with a line break only if it stands for one. -/
theorem escape_eq_cons (lines : Bool) {c : Char} (hquote : c ≠ '"') :
    ∃ d ds, escape lines c = d :: ds ∧ d ≠ '"' ∧ d ≠ '\r' ∧ (d = '\n' → c = '\n') := by
  unfold escape
  split_ifs with hslash hback htab hline hlines hfeed hreturn hcontrol
  all_goals exact ⟨_, _, rfl, by simp_all⟩

/-- The quotes in front are the last ones of the text that stand for themselves. -/
theorem scanBasicLines_body {run : Nat} (hrun : run ≤ 2) (cs : List Char) {rest : List Char}
    (hrest : ∀ t, rest ≠ '"' :: t) :
    scanBasicLines .inside
        (List.replicate run '"' ++ (body true run cs ++ '"' :: '"' :: '"' :: rest)) =
      some (List.replicate run '"' ++ cs, rest) := by
  induction cs generalizing run with
  | nil =>
    interval_cases run
    · exact scanBasicLines.eq_6 _ _ (by simp [hrest]) hrest nofun
    · exact scanBasicLines.eq_5 _ _ hrest nofun
    · exact scanBasicLines.eq_4 _ _ nofun
  | cons c cs ih =>
    have hinside := ih (Nat.zero_le 2)
    unfold body
    split_ifs with hquote hstands
    · subst hquote
      have hmore : run < 2 := by simpa using hstands
      have hnext := ih hmore
      rw [List.replicate_succ', List.append_assoc, List.append_assoc] at hnext
      exact hnext
    · subst hquote
      exact scanBasicLines_quotes hrun (by decide) (unescapes_scanBasicLines.letter rfl hinside)
    · obtain ⟨d, ds, hescape, hd, -⟩ := escape_eq_cons true hquote
      have hread := unescapes_scanBasicLines.escape hquote hinside
      rw [hescape] at hread ⊢
      rw [List.append_assoc, List.cons_append]
      exact scanBasicLines_quotes hrun hd hread

/-- A quote stands for itself unless two more follow it. -/
theorem scanLiteralLines_quote {t cs rest : List Char} (hnext : ∀ t', t ≠ '\'' :: '\'' :: t')
    (ht : scanLiteralLines t = some (cs, rest)) :
    scanLiteralLines ('\'' :: t) = some ('\'' :: cs, rest) := by
  rw [scanLiteralLines.eq_6]
  all_goals simp_all [isPlain]

theorem scanLiteralLines_plain {c : Char} (hplain : isPlain c = true ∨ c = '\n')
    (hquote : c ≠ '\'') {t cs rest : List Char} (ht : scanLiteralLines t = some (cs, rest)) :
    scanLiteralLines (c :: t) = some (c :: cs, rest) := by
  have hreturn : c ≠ '\r' := by
    rintro rfl
    rcases hplain with h | h <;> cases h
  rw [scanLiteralLines.eq_6]
  all_goals simp_all

/-- The quotes in front are the last ones of the text so far. -/
theorem scanLiteralLines_append {run : Nat} {cs : List Char}
    (hrun : longestRun '\'' run cs ≤ 2) (hcontrol : ∀ c ∈ cs, isControl c = false)
    {rest : List Char} (hrest : ∀ t, rest ≠ '\'' :: t) :
    scanLiteralLines (List.replicate run '\'' ++ (cs ++ '\'' :: '\'' :: '\'' :: rest)) =
      some (List.replicate run '\'' ++ cs, rest) := by
  induction cs generalizing run with
  | nil =>
    have hrun : run ≤ 2 := hrun
    interval_cases run
    · exact scanLiteralLines.eq_4 _ (by simp [hrest]) hrest
    · exact scanLiteralLines.eq_3 _ hrest
    · exact scanLiteralLines.eq_2 _
  | cons c cs ih =>
    rw [List.forall_mem_cons] at hcontrol
    obtain ⟨hc, hcontrol⟩ := hcontrol
    rw [longestRun] at hrun
    split_ifs at hrun with hquote
    · subst hquote
      have hnext := ih hrun hcontrol
      rw [List.replicate_succ', List.append_assoc, List.append_assoc] at hnext
      exact hnext
    · obtain ⟨hrun, hinside⟩ := max_le_iff.mp hrun
      have hplain : isPlain c = true ∨ c = '\n' := by
        by_cases hline : c = '\n'
        · exact .inr hline
        · exact .inl (isPlain_of_not_control hc hline)
      have ht := scanLiteralLines_plain hplain hquote (ih hinside hcontrol)
      interval_cases run
      · exact ht
      · exact scanLiteralLines_quote (by simp [hquote]) ht
      · exact scanLiteralLines_quote (by simp [hquote])
          (scanLiteralLines_quote (by simp [hquote]) ht)

theorem scanLiteral_append {cs : List Char} (hplain : ∀ c ∈ cs, isPlain c = true)
    (hquote : '\'' ∉ cs) (rest : List Char) :
    scanLiteral (cs ++ '\'' :: rest) = some (cs, rest) := by
  induction cs with
  | nil => rfl
  | cons c cs ih =>
    rw [List.forall_mem_cons] at hplain
    rw [List.mem_cons, not_or] at hquote
    have hrest := ih hplain.2 hquote.2
    rw [List.cons_append, scanLiteral.eq_3 _ _ (Ne.symm hquote.1), hplain.1, if_pos rfl, hrest]
    rfl

theorem le_longestRun (q : Char) (run : Nat) (cs : List Char) : run ≤ longestRun q run cs := by
  induction cs generalizing run with
  | nil => exact le_refl run
  | cons c cs ih =>
    rw [longestRun]
    split_ifs
    · exact (Nat.le_succ run).trans (ih (run + 1))
    · exact le_max_left _ _

theorem not_mem_of_longestRun {q : Char} {cs : List Char} (h : longestRun q 0 cs = 0) :
    q ∉ cs := by
  induction cs with
  | nil => exact List.not_mem_nil
  | cons c cs ih =>
    rw [longestRun] at h
    split_ifs at h with hc
    · have := le_longestRun q (0 + 1) cs
      omega
    · rw [Nat.max_eq_zero_iff] at h
      exact List.not_mem_cons_of_ne_of_not_mem (Ne.symm hc) (ih h.2)

/-- A text is written as a literal string on one line only if it has no quote and no line break. -/
theorem literal_of_formOf {cs : List Char} (h : formOf cs = .literal) :
    (∀ c ∈ cs, isPlain c = true) ∧ '\'' ∉ cs := by
  unfold formOf at h
  dsimp only at h
  split_ifs at h with hbasic hliteral
  simp only [Bool.and_eq_true, Bool.not_eq_true', List.any_eq_false, decide_eq_true_eq,
    Bool.not_eq_true, List.contains_eq_mem, decide_eq_false_iff_not] at hliteral
  obtain ⟨⟨hcontrol, hline⟩, hsingles⟩ := hliteral
  refine ⟨fun c hc => isPlain_of_not_control (hcontrol c hc) ?_, not_mem_of_longestRun hsingles⟩
  rintro rfl
  exact hline hc

/-- Over several lines a literal string has no character that needs an escape. -/
theorem literalLines_of_formOf {cs : List Char} (h : formOf cs = .literalLines) :
    (∀ c ∈ cs, isControl c = false) ∧ longestRun '\'' 0 cs ≤ 2 := by
  unfold formOf at h
  dsimp only at h
  split_ifs at h with hbasic hliteral hlines hliteralLines
  simpa only [Bool.and_eq_true, Bool.not_eq_true', List.any_eq_false, decide_eq_true_eq,
    Bool.not_eq_true] using hliteralLines

/-- A basic string begins with two quotes only if nothing is between them. -/
theorem body_ne_quotes {cs rest : List Char} (hrest : ∀ t, rest ≠ '"' :: t) (t : List Char) :
    body false 0 cs ++ '"' :: rest ≠ '"' :: '"' :: t := by
  cases cs with
  | nil => simp [body, hrest]
  | cons c cs =>
    by_cases hquote : c = '"'
    · simp [body, hquote]
    · obtain ⟨d, ds, hescape, hd, -⟩ := escape_eq_cons false hquote
      simp [body, hquote, hescape, hd]

/-- The line break behind the opening quotes is the one that was put there. -/
theorem dropOpening_opening {cs : List Char} {d : Char} {t : List Char} (hreturn : d ≠ '\r')
    (hline : d = '\n' → '\n' ∈ cs) : dropOpening (opening cs ++ d :: t) = d :: t := by
  unfold opening
  split_ifs with hmem
  · rfl
  · have hd : d ≠ '\n' := fun h => hmem (by simpa using hline h)
    rw [List.nil_append, dropOpening.eq_3 _ (by simp [hd]) (by simp [hreturn])]

theorem dropOpening_body (cs rest : List Char) :
    dropOpening (opening cs ++ (body true 0 cs ++ '"' :: rest)) =
      body true 0 cs ++ '"' :: rest := by
  cases cs with
  | nil => rfl
  | cons c cs =>
    rw [body]
    split_ifs with hquote
    · exact dropOpening_opening (by decide) (by simp)
    · exact dropOpening_opening (by decide) (by simp)
    · obtain ⟨d, ds, hescape, -, hreturn, hline⟩ := escape_eq_cons true hquote
      rw [hescape]
      exact dropOpening_opening hreturn fun h => by simp [hline h]

theorem dropOpening_plain {cs : List Char} (hcontrol : ∀ c ∈ cs, isControl c = false)
    (rest : List Char) :
    dropOpening (opening cs ++ (cs ++ '\'' :: rest)) = cs ++ '\'' :: rest := by
  cases cs with
  | nil => rfl
  | cons c cs =>
    refine dropOpening_opening ?_ fun h => by simp [h]
    rintro rfl
    cases hcontrol '\r' List.mem_cons_self

/-- Every text is read as it was written, and no more than was written. -/
theorem scan_write (cs rest : List Char) (hdouble : ∀ t, rest ≠ '"' :: t)
    (hsingle : ∀ t, rest ≠ '\'' :: t) : scan (write cs ++ rest) = some (cs, rest) := by
  cases hform : formOf cs with
  | basic =>
    have hwrite : write cs ++ rest = '"' :: (body false 0 cs ++ '"' :: rest) := by
      simp [write, hform, writeAs]
    rw [hwrite, scan.eq_3, scanLine, scanBasic_body]
    · intro t h
      exact body_ne_quotes hdouble t (List.cons.inj h).2
    · simp
  | literal =>
    obtain ⟨hplain, hquote⟩ := literal_of_formOf hform
    have hwrite : write cs ++ rest = '\'' :: (cs ++ '\'' :: rest) := by
      simp [write, hform, writeAs]
    rw [hwrite, scan.eq_3, scanLine, scanLiteral_append hplain hquote]
    · simp
    · rintro t h
      cases cs with
      | nil => simp_all
      | cons c cs => simp_all
  | basicLines =>
    have hwrite : write cs ++ rest = '"' :: '"' :: '"' ::
        (opening cs ++ (body true 0 cs ++ '"' :: '"' :: '"' :: rest)) := by
      simp [write, hform, writeAs]
    rw [hwrite, scan, dropOpening_body]
    exact scanBasicLines_body (Nat.zero_le 2) cs hdouble
  | literalLines =>
    obtain ⟨hcontrol, hsingles⟩ := literalLines_of_formOf hform
    have hwrite : write cs ++ rest = '\'' :: '\'' :: '\'' ::
        (opening cs ++ (cs ++ '\'' :: '\'' :: '\'' :: rest)) := by
      simp [write, hform, writeAs]
    rw [hwrite, scan, dropOpening_plain hcontrol]
    exact scanLiteralLines_append hsingles hcontrol hsingle

end ClimateBus.Toml.Quoted
