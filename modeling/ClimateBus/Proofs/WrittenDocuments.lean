import ClimateBus.Proofs.DocumentIntegers
import ClimateBus.Proofs.WrittenValues
import Mathlib

/-!
Documents that are written and read again.

A document of sections with bare names is read line by line. Each header opens a table behind the
ones that are there, and each entry goes behind the others of that table, so after every line the
draft holds just the lines so far (`Draft.Reads`). With the integers of a document that is only read
this makes the program's own library a faithful one (`builtIn_faithful`).
-/
namespace ClimateBus.Toml

/-- A bare name does not begin with any other character. -/
theorem Bare.ne_cons {name : String} (h : Bare name) {c : Char} (hc : isKeyChar c = false)
    {cs : List Char} (t : List Char) : name.toList ++ cs ≠ c :: t := by
  obtain ⟨d, ds, hd⟩ := List.exists_cons_of_ne_nil h.1
  have hd' : isKeyChar d = true := h.2 d (hd ▸ List.mem_cons_self)
  rw [hd]
  exact fun ht => ne_of_test hd' hc (List.cons.inj ht).1

namespace Scan

theorem skipBlanks_of_head {c : Char} (hc : isBlank c = false) (cs : List Char) :
    skipBlanks (c :: cs) = c :: cs := by
  rw [skipBlanks, List.dropWhile_cons, hc, if_neg Bool.false_ne_true]

theorem isBlank_of_isKeyChar {c : Char} (hc : isKeyChar c = true) : isBlank c = false := by
  rw [isBlank, Bool.or_eq_false_iff, beq_eq_false_iff_ne, beq_eq_false_iff_ne]
  exact ⟨ne_of_test hc rfl, ne_of_test hc rfl⟩

/-- A bare name ends where another character stands. -/
theorem key_bare {name : String} (hname : Bare name) {most : Nat} {c : Char} {cs t : List Char}
    (hc : isKeyChar c = false) (ht : skipBlanks (c :: cs) = t) (hdot : ∀ t', t ≠ '.' :: t') :
    key (most + 1) (name.toList ++ c :: cs) = some (([], name), t) := by
  obtain ⟨hne, hchars⟩ := hname
  have hskip : skipBlanks (name.toList ++ c :: cs) = name.toList ++ c :: cs := by
    obtain ⟨d, ds, hd⟩ := List.exists_cons_of_ne_nil hne
    rw [hd] at hchars ⊢
    exact skipBlanks_of_head (isBlank_of_isKeyChar (hchars d List.mem_cons_self)) _
  have hpart : keyPart (name.toList ++ c :: cs) = some (name, c :: cs) := by
    have htake : (name.toList ++ c :: cs).takeWhile isKeyChar = name.toList := by
      rw [List.takeWhile_append_of_pos hchars, List.takeWhile_cons, hc, if_neg Bool.false_ne_true,
        List.append_nil]
    have hdrop : (name.toList ++ c :: cs).dropWhile isKeyChar = c :: cs := by
      rw [List.dropWhile_append_of_pos hchars, List.dropWhile_cons, hc, if_neg Bool.false_ne_true]
    rw [keyPart, htake, hdrop, if_neg (by simpa using hne), String.ofList_toList]
  rw [key]
  dsimp only
  rw [hskip, hpart]
  simp only [Option.bind_eq_bind, Option.bind_some, ht]

theorem header_line {name : String} (hname : Bare name) (cs : List Char) :
    header [']'] (name.toList ++ ']' :: '\n' :: cs) = some (([], name), cs) := by
  have hkey : key (tooDeep - 1) (name.toList ++ ']' :: '\n' :: cs) =
      some (([], name), ']' :: '\n' :: cs) := key_bare hname rfl rfl (by simp)
  rw [header, hkey]
  rfl

theorem member_line {name : String} (hname : Bare name) {t : Tree} {v : String}
    (hv : writeScalar t = some v) (cs : List Char) :
    member (value tooDeep) (name.toList ++ ' ' :: '=' :: ' ' :: (v.toList ++ '\n' :: cs)) =
      some ((([], name), t), '\n' :: cs) := by
  have hkey : key (tooDeep - 1) (name.toList ++ ' ' :: '=' :: ' ' :: (v.toList ++ '\n' :: cs)) =
      some (([], name), '=' :: ' ' :: (v.toList ++ '\n' :: cs)) :=
    key_bare hname rfl rfl (by simp)
  have hvalue : value tooDeep (v.toList ++ '\n' :: cs) = some (t, '\n' :: cs) := by
    obtain ⟨c, ds, hc, -, hlist, htable⟩ := writeScalar_head hv
    have hscalar := scalar_writeScalar hv cs
    rw [hc, List.cons_append] at hscalar ⊢
    rw [tooDeep, value]
    generalize hcs : c :: (ds ++ '\n' :: cs) = xs at hscalar ⊢
    dsimp only
    split
    next h => exact absurd (List.cons.inj hcs).1 hlist
    next h => exact absurd (List.cons.inj hcs).1 htable
    next => exact hscalar
  have hskip : skipBlanks (' ' :: (v.toList ++ '\n' :: cs)) = v.toList ++ '\n' :: cs := by
    obtain ⟨c, t, hc, hblank, -⟩ := writeScalar_head hv
    rw [hc]
    exact skipBlanks_of_head hblank _
  rw [member, hkey]
  simp only [Option.bind_eq_bind, Option.bind_some, only, if_true, hskip, hvalue]

end Scan

namespace Node

variable {key : String} {es : Entries} {f : Option Node → Option Node}

theorem alter_new (hkey : key ∉ es.map Prod.fst) :
    alter key f es = (f none).map fun n => es ++ [(key, n)] := by
  induction es with
  | nil => rfl
  | cons e es ih =>
    rw [List.map_cons, List.mem_cons, not_or] at hkey
    rw [alter, if_neg (Ne.symm hkey.1), ih hkey.2, Option.map_map]
    rfl

theorem alter_last (hkey : key ∉ es.map Prod.fst) (n : Node) :
    alter key f (es ++ [(key, n)]) = (f (some n)).map fun n => es ++ [(key, n)] := by
  induction es with
  | nil =>
    rw [List.nil_append, alter, if_pos rfl]
    rfl
  | cons e es ih =>
    rw [List.map_cons, List.mem_cons, not_or] at hkey
    rw [List.cons_append, alter, if_neg (Ne.symm hkey.1), ih hkey.2, Option.map_map]
    rfl

/-- The table that a header opened last. -/
def ofSection (s : Section) : String × Node :=
  (s.1, .table .header (s.2.map fun e => (e.1, .value e.2)))

theorem toTrees_ofSections (sections : List Section) :
    toTrees (sections.map ofSection) = sections.map fun s => (s.1, .table s.2) := by
  have hentries (entries : List (String × Tree)) :
      toTrees (entries.map fun e => (e.1, .value e.2)) = entries := by
    induction entries with
    | nil => rfl
    | cons e entries ih => rw [List.map_cons, toTrees, ih, toTree]
  induction sections with
  | nil => rfl
  | cons s sections ih => rw [List.map_cons, ofSection, toTrees, ih, toTree, hentries]; rfl

/-- A header with a new name opens a table behind the others. -/
theorem openTable_new {root : Entries} (hkey : key ∉ root.map Prod.fst) :
    openTable [] key root = some (root ++ [ofSection (key, [])]) := by
  rw [openTable, edit, alter_new hkey]
  rfl

/-- A value with a new key goes behind the others of the table that was opened last. -/
theorem addAt_new {root : Entries} {name : String} {entries : List (String × Tree)} {t : Tree}
    (hname : name ∉ root.map Prod.fst) (hkey : key ∉ entries.map Prod.fst) :
    edit .path (addAt [] key t) [name] .header (root ++ [ofSection (name, entries)]) =
      some (root ++ [ofSection (name, entries ++ [(key, t)])]) := by
  have hadd : add false key t .header (entries.map fun e => (e.1, .value e.2)) =
      some ((entries ++ [(key, t)]).map fun e => (e.1, .value e.2)) := by
    rw [add, if_pos (by decide), alter_new (by simpa using hkey), List.map_append]
    rfl
  rw [ofSection, edit, alter_last hname]
  simp only [reduceCtorEq, false_and, if_false, edit, addAt, List.isEmpty_nil, Bool.not_true,
    hadd]
  rfl

end Node

/-- With fuel for every character the draft is completed by the rest of the document. -/
def Draft.Reads (d : Draft) (cs : List Char) (d' : Draft) : Prop :=
  ∀ fuel, cs.length ≤ fuel → Draft.readLines fuel d cs = some d'

namespace Draft.Reads

variable {d d' : Draft} {cs : List Char}

theorem done (d : Draft) : d.Reads [] d := by
  intro fuel _
  cases fuel <;> rfl

theorem blank (h : d.Reads cs d') : d.Reads ('\n' :: cs) d' := by
  rintro (_ | fuel) hfuel
  · cases hfuel
  · exact h fuel (Nat.le_of_succ_le_succ hfuel)

/-- A line that is neither blank nor a comment is read, and then the others. -/
theorem line {c : Char} {t : List Char} {next : Draft}
    (hc : Scan.isBlank c = false ∧ c ≠ '\n' ∧ c ≠ '\r' ∧ c ≠ '#')
    (hline : d.readLine (c :: t ++ cs) = some (next, cs)) (h : next.Reads cs d') :
    d.Reads (c :: t ++ cs) d' := by
  obtain ⟨hblank, hline', hreturn, hcomment⟩ := hc
  rintro (_ | fuel) hfuel
  · cases hfuel
  · have hrest : cs.length ≤ fuel := by
      simp only [List.cons_append, List.length_cons, List.length_append] at hfuel
      omega
    rw [List.cons_append] at hline ⊢
    rw [readLines, Scan.skipBlanks_of_head hblank]
    simp only [hline', hreturn, hcomment, decide_false, Bool.or_self, Bool.false_eq_true,
      if_false, hline, Option.bind_eq_bind, Option.bind_some]
    exact h fuel hrest

variable {name : String}

theorem headerLine (hname : Bare name) (hnew : name ∉ d.root.map Prod.fst)
    (h : Draft.Reads ⟨d.root ++ [Node.ofSection (name, [])], [name]⟩ cs d') :
    d.Reads ('[' :: (name.toList ++ [']', '\n']) ++ cs) d' := by
  refine line (by decide) ?_ h
  have hheader := Scan.header_line hname cs
  rw [List.cons_append, List.append_assoc]
  rw [readLine.eq_2 _ _ fun t => hname.ne_cons (by decide) t]
  change (Scan.header [']'] (name.toList ++ ']' :: '\n' :: cs)).bind _ = _
  rw [hheader]
  simp only [Option.bind_some, Node.openTable_new hnew, Option.bind_eq_bind, List.nil_append]

theorem entryLine {root : Node.Entries} {entries : List (String × Tree)} {key : String} {t : Tree}
    {w : String} (hw : writeEntry (key, t) = some w) (hname : name ∉ root.map Prod.fst)
    (hbare : Bare key) (hkey : key ∉ entries.map Prod.fst)
    (h : Draft.Reads ⟨root ++ [Node.ofSection (name, entries ++ [(key, t)])], [name]⟩ cs d') :
    Draft.Reads ⟨root ++ [Node.ofSection (name, entries)], [name]⟩ (w.toList ++ cs) d' := by
  obtain ⟨v, hv, rfl⟩ := Option.map_eq_some_iff.mp hw
  have hmember := Scan.member_line hbare hv cs
  have hchars : (key ++ " = " ++ v ++ "\n").toList ++ cs =
      key.toList ++ ' ' :: '=' :: ' ' :: (v.toList ++ '\n' :: cs) := by
    simp [String.toList_append]
  have hread : Draft.readLine ⟨root ++ [Node.ofSection (name, entries)], [name]⟩
      ((key ++ " = " ++ v ++ "\n").toList ++ cs) =
        some (⟨root ++ [Node.ofSection (name, entries ++ [(key, t)])], [name]⟩, cs) := by
    rw [hchars, readLine.eq_3 _ _ (fun _ => hbare.ne_cons (by decide) _)
      fun _ => hbare.ne_cons (by decide) _, hmember]
    simp only [Option.bind_eq_bind, Option.bind_some, Node.addAt_new hname hkey]
    rfl
  obtain ⟨c, ds, hc⟩ := List.exists_cons_of_ne_nil hbare.1
  have hsign : isKeyChar c = true := hbare.2 c (hc ▸ List.mem_cons_self)
  have hne {x : Char} (hx : isKeyChar x = false) : c ≠ x := ne_of_test hsign hx
  obtain ⟨t', ht'⟩ : ∃ t', (key ++ " = " ++ v ++ "\n").toList = c :: t' := by
    simp [String.toList_append, hc]
  rw [ht'] at hread ⊢
  exact line ⟨Scan.isBlank_of_isKeyChar hsign, hne (by decide), hne (by decide), hne (by decide)⟩
    hread h

theorem entryLines {root : Node.Entries} {before es : List (String × Tree)} {ws : List String}
    (hws : es.mapM writeEntry = some ws) (hname : name ∉ root.map Prod.fst)
    (hbare : ∀ e ∈ es, Bare e.1) (hkeys : ((before ++ es).map Prod.fst).Nodup)
    (h : Draft.Reads ⟨root ++ [Node.ofSection (name, before ++ es)], [name]⟩ cs d') :
    Draft.Reads ⟨root ++ [Node.ofSection (name, before)], [name]⟩
      ((String.join ws).toList ++ cs) d' := by
  induction es generalizing before ws with
  | nil =>
    obtain rfl : ws = [] := (Option.some.inj hws).symm
    rwa [List.append_nil] at h
  | cons e es ih =>
    rw [List.mapM_cons] at hws
    obtain ⟨w, hw, hws⟩ := Option.bind_eq_some_iff.mp hws
    obtain ⟨ws', hws', hws⟩ := Option.bind_eq_some_iff.mp hws
    obtain rfl : w :: ws' = ws := Option.some.inj hws
    have hnew : e.1 ∉ before.map Prod.fst := by
      rw [List.map_append, List.nodup_append] at hkeys
      exact fun hmem => hkeys.2.2 e.1 hmem e.1 (by simp) rfl
    rw [String.join_cons, String.toList_append, List.append_assoc]
    refine entryLine hw hname (hbare e List.mem_cons_self) hnew (ih hws' ?_ ?_ ?_)
    · exact fun e' he' => hbare e' (List.mem_cons_of_mem _ he')
    · rwa [List.append_assoc]
    · rwa [List.append_assoc]

theorem sectionLines {s : Section} {w : String} (hw : writeSection s = some w) (hname : Bare s.1)
    (hnew : s.1 ∉ d.root.map Prod.fst) (hbare : ∀ e ∈ s.2, Bare e.1)
    (hkeys : (s.2.map Prod.fst).Nodup)
    (h : Draft.Reads ⟨d.root ++ [Node.ofSection s], [s.1]⟩ cs d') :
    d.Reads (w.toList ++ cs) d' := by
  obtain ⟨ws, hws, rfl⟩ := Option.map_eq_some_iff.mp hw
  have hchars : ("[" ++ s.1 ++ "]\n" ++ String.join ws).toList ++ cs =
      '[' :: (s.1.toList ++ [']', '\n']) ++ ((String.join ws).toList ++ cs) := by
    simp [String.toList_append]
  have hentries : Draft.Reads ⟨d.root ++ [Node.ofSection (s.1, [])], [s.1]⟩
      ((String.join ws).toList ++ cs) d' := entryLines hws hnew hbare hkeys h
  rw [hchars]
  exact headerLine hname hnew hentries

end Draft.Reads

theorem WellFormed.tail {s : Section} {sections : List Section} (h : WellFormed (s :: sections)) :
    WellFormed sections where
  names := (List.nodup_cons.mp h.names).2
  bare s' hs' := h.bare s' (List.mem_cons_of_mem _ hs')
  keys s' hs' := h.keys s' (List.mem_cons_of_mem _ hs')
  bareKeys s' hs' := h.bareKeys s' (List.mem_cons_of_mem _ hs')
  values s' hs' := h.values s' (List.mem_cons_of_mem _ hs')

/-- Section after section goes behind what was read before. -/
theorem reads_sections {sections : List Section} (h : WellFormed sections) {d : Draft}
    (hnew : ∀ s ∈ sections, s.1 ∉ d.root.map Prod.fst) {ws : List String}
    (hws : sections.mapM writeSection = some ws) : ∃ here,
      d.Reads (String.intercalate "\n" ws).toList
        ⟨d.root ++ sections.map Node.ofSection, here⟩ := by
  induction sections generalizing d ws with
  | nil =>
    obtain rfl : [] = ws := Option.some.inj hws
    rw [List.map_nil, List.append_nil]
    exact ⟨d.here, .done d⟩
  | cons s sections ih =>
    rw [List.mapM_cons] at hws
    obtain ⟨w, hw, hws⟩ := Option.bind_eq_some_iff.mp hws
    obtain ⟨ws', hws', hws⟩ := Option.bind_eq_some_iff.mp hws
    obtain rfl : w :: ws' = ws := Option.some.inj hws
    have hnew' : ∀ s' ∈ sections, s'.1 ∉ (d.root ++ [Node.ofSection s]).map Prod.fst := by
      intro s' hs'
      rw [List.map_append, List.mem_append, not_or]
      refine ⟨hnew s' (List.mem_cons_of_mem _ hs'), fun hmem => ?_⟩
      have hsame : s'.1 = s.1 := List.mem_singleton.mp hmem
      exact (List.nodup_cons.mp h.names).1 (hsame ▸ List.mem_map_of_mem hs')
    obtain ⟨here, hrest⟩ := ih h.tail (d := ⟨d.root ++ [Node.ofSection s], [s.1]⟩) hnew' hws'
    have hlines {cs : List Char} (hcs : Draft.Reads ⟨d.root ++ [Node.ofSection s], [s.1]⟩ cs
        ⟨d.root ++ (s :: sections).map Node.ofSection, here⟩) :
        d.Reads (w.toList ++ cs) ⟨d.root ++ (s :: sections).map Node.ofSection, here⟩ :=
      .sectionLines hw (h.bare s List.mem_cons_self) (hnew s List.mem_cons_self)
        (h.bareKeys s List.mem_cons_self) (h.keys s List.mem_cons_self) hcs
    rw [List.append_assoc] at hrest
    refine ⟨here, ?_⟩
    cases ws' with
    | nil =>
      rw [String.intercalate_singleton, ← List.append_nil w.toList]
      exact hlines hrest
    | cons w' ws' =>
      rw [String.intercalate_cons_cons, String.toList_append, String.toList_append,
        List.append_assoc]
      exact hlines hrest.blank

/-- A document that was written is read as the sections it was made of. -/
theorem read_write {sections : List Section} (h : WellFormed sections) {text : String}
    (hwrite : write sections = some text) :
    read text = some (.table (sections.map fun s => (s.1, .table s.2))) := by
  obtain ⟨ws, hws, rfl⟩ := Option.map_eq_some_iff.mp hwrite
  obtain ⟨here, hreads⟩ := reads_sections h (d := ⟨[], []⟩) (by simp) hws
  -- The document begins with the bracket of its first header, so no mark is dropped.
  have hmark : ∀ t, (String.intercalate "\n" ws).toList ≠ '\ufeff' :: t := by
    cases sections with
    | nil =>
      obtain rfl : [] = ws := Option.some.inj hws
      exact fun t ht => nomatch ht
    | cons s sections =>
      rw [List.mapM_cons] at hws
      obtain ⟨w, hw, hws⟩ := Option.bind_eq_some_iff.mp hws
      obtain ⟨ws', -, hws⟩ := Option.bind_eq_some_iff.mp hws
      obtain rfl : w :: ws' = ws := Option.some.inj hws
      obtain ⟨entries, -, rfl⟩ := Option.map_eq_some_iff.mp hw
      cases ws' <;> simp [String.toList_append]
  have hread := hreads _ le_rfl
  rw [read]
  split
  next t ht => exact absurd ht (hmark t)
  next =>
    rw [hread, Option.map_some]
    exact congrArg (some ∘ Tree.table) (Node.toTrees_ofSections sections)

theorem mapM_isSome {α β : Type} {f : α → Option β} {xs : List α} :
    (xs.mapM f).isSome ↔ ∀ x ∈ xs, (f x).isSome := by
  induction xs with
  | nil => simp
  | cons x xs ih =>
    rw [List.forall_mem_cons, ← ih, List.mapM_cons]
    cases f x <;> cases xs.mapM f <;> simp

theorem writeScalar_isSome {t : Tree} (h : t.Elementary) :
    (writeScalar t).isSome ↔ IntegersFit t := by
  cases t with
  | flag b => exact iff_of_true rfl (.flag b)
  | text s => exact iff_of_true rfl (.text s)
  | whole i =>
    rw [writeScalar, Option.isSome_ite]
    exact ⟨.whole, fun hfits => by cases hfits with | whole h => exact h⟩
  | _ => exact h.elim

/-- A document can be written if each of its values can. -/
theorem write_isSome {sections : List Section} (h : WellFormed sections) :
    (write sections).isSome ↔ ∀ s ∈ sections, ∀ e ∈ s.2, IntegersFit e.2 := by
  simp only [write, writeSection, writeEntry, Option.isSome_map, mapM_isSome]
  exact forall₂_congr fun s hs => forall₂_congr fun e he => writeScalar_isSome (h.values s hs e he)

theorem builtIn_faithful : builtIn.Faithful where
  read_write h hwrite := read_write h hwrite
  write_isSome h := write_isSome h
  integersFit h := read_integersFit h

end ClimateBus.Toml
