import ClimateBus.Proofs.LineCut
import Mathlib

/-!
What a journal holds: the end of everything that was pushed into it, each line under its number.

A number is a place among all pushes, counted from one. So what comes after a number is found by
leaving out that many lines, and a page is a run of neighbours. A line is as much of its text as fits
into 159 bytes (`Journal.lines_longest_within`).
-/
namespace ClimateBus.Journal

/-- What is kept of a pushed text. -/
def kept (text : String) : String := String.ofList (cut maxLineBytes text.toList)

theorem shortened_eq_kept (text : String) : shortened maxLineBytes text = kept text :=
  shortened_eq_cut maxLineBytes text

/-- The line of each push, under its number. -/
def numbered (pushed : List (Stamp × String)) : List JournalLine :=
  pushed.mapIdx fun k p => ⟨k + 1, p.1, kept p.2⟩

@[simp] theorem length_numbered (pushed : List (Stamp × String)) :
    (numbered pushed).length = pushed.length := List.length_mapIdx

theorem numbered_append (pushed : List (Stamp × String)) (stamp : Stamp) (text : String) :
    numbered (pushed ++ [(stamp, text)]) =
      numbered pushed ++ [⟨pushed.length + 1, stamp, kept text⟩] := List.mapIdx_concat

theorem mem_numbered {pushed : List (Stamp × String)} {l : JournalLine} :
    l ∈ numbered pushed ↔ ∃ k stamp text, pushed[k]? = some (stamp, text) ∧
      l = ⟨k + 1, stamp, kept text⟩ := by
  rw [numbered, List.mem_mapIdx]
  constructor
  · rintro ⟨k, hk, rfl⟩
    exact ⟨k, pushed[k].1, pushed[k].2, List.getElem?_eq_getElem hk, rfl⟩
  · rintro ⟨k, stamp, text, hpush, rfl⟩
    obtain ⟨hk, heq⟩ := List.getElem?_eq_some_iff.mp hpush
    exact ⟨k, hk, by rw [heq]⟩

theorem seqs_numbered (pushed : List (Stamp × String)) :
    (numbered pushed).map JournalLine.seq = List.range' 1 pushed.length := by
  induction pushed using List.reverseRecOn with
  | nil => rfl
  | append_singleton pushed p ih =>
    rw [numbered_append, List.map_append, ih, List.length_append, List.length_singleton,
      List.range'_concat]
    simp [Nat.add_comm]

theorem texts_numbered (pushed : List (Stamp × String)) :
    (numbered pushed).map (fun l => (l.stamp, l.text)) = pushed.map fun p => (p.1, kept p.2) := by
  induction pushed using List.reverseRecOn with
  | nil => rfl
  | append_singleton pushed p ih =>
    rw [numbered_append, List.map_append, List.map_append, ih]
    rfl

theorem seqs_drop_numbered (pushed : List (Stamp × String)) (k : Nat) :
    ((numbered pushed).drop k).map JournalLine.seq =
      List.range' (k + 1) (pushed.length - k) := by
  rw [List.map_drop, seqs_numbered, List.drop_range', Nat.mul_one, Nat.add_comm]

/-- Among lines with consecutive numbers, those above a number are what is left when the others
are dropped from the front. -/
theorem filter_above {ls : List JournalLine} {first : Nat}
    (h : ls.map JournalLine.seq = List.range' first ls.length) (n : Nat) :
    (ls.filter fun l => n < l.seq) = ls.drop (n + 1 - first) := by
  induction ls generalizing first with
  | nil => simp
  | cons l rest ih =>
    rw [List.map_cons, List.length_cons, List.range'_succ, List.cons.injEq] at h
    obtain ⟨hfirst, hrest⟩ := h
    rw [List.filter_cons, ih hrest]
    by_cases hn : n < l.seq
    · have hnone : n + 1 - first = 0 := by omega
      have hnone' : n + 1 - (first + 1) = 0 := by omega
      rw [if_pos (decide_eq_true hn), hnone, hnone', List.drop_zero, List.drop_zero]
    · have hmore : n + 1 - first = n + 1 - (first + 1) + 1 := by omega
      rw [if_neg (by simpa using hn), hmore, List.drop_succ_cons]

/-- The journal holds the latest of these pushes, as many as it has room for. -/
structure Holds (pushed : List (Stamp × String)) (j : Journal) : Prop where
  room : 0 < j.capacity
  lastSeq : j.lastSeq = pushed.length
  lines : j.lines = (numbered pushed).drop (pushed.length - j.capacity)

theorem holds_empty (capacity : Nat) : (empty capacity).Holds [] where
  room := Nat.lt_of_lt_of_le Nat.zero_lt_one (Nat.le_max_right _ _)
  lastSeq := rfl
  lines := by simp [empty, numbered]

namespace Holds

variable {pushed : List (Stamp × String)} {j : Journal}

theorem length_lines (h : j.Holds pushed) : j.lines.length = min pushed.length j.capacity := by
  rw [h.lines, List.length_drop, length_numbered]
  omega

/-- A line more, and the oldest one goes if there is no room for both. -/
theorem push (h : j.Holds pushed) (stamp : Stamp) (text : String) :
    (j.push stamp text).Holds (pushed ++ [(stamp, text)]) where
  room := h.room
  lastSeq := by
    rw [List.length_append, List.length_singleton, ← h.lastSeq]
    rfl
  lines := by
    have hroom := h.room
    have hlength := h.length_lines
    change (if j.lines.length = j.capacity then j.lines.drop 1 else j.lines) ++
      [⟨j.lastSeq + 1, stamp, shortened maxLineBytes text⟩] =
        (numbered (pushed ++ [(stamp, text)])).drop ((pushed ++ [(stamp, text)]).length - j.capacity)
    rw [shortened_eq_kept, numbered_append, List.length_append, List.length_singleton,
      List.drop_append_of_le_length (by rw [length_numbered]; omega), h.lastSeq, h.lines]
    congr 1
    rw [h.lines] at hlength
    split_ifs with hfull
    · rw [List.drop_drop]
      congr 1
      omega
    · congr 1
      omega

/-- The numbers of what is retained go on without a gap up to the latest one. -/
theorem seqs (h : j.Holds pushed) : j.lines.map JournalLine.seq =
    List.range' (pushed.length - j.capacity + 1) (min pushed.length j.capacity) := by
  rw [h.lines, seqs_drop_numbered]
  congr 1
  omega

/-- A page starts behind the number that was stated, or at the oldest line if that comes later. -/
theorem since_eq (h : j.Holds pushed) (n most : Nat) :
    j.since n most = ((numbered pushed).drop (max n (pushed.length - j.capacity))).take most := by
  have hseqs : j.lines.map JournalLine.seq =
      List.range' (pushed.length - j.capacity + 1) j.lines.length := by
    rw [h.length_lines, h.seqs]
  rw [since, filter_above hseqs, h.lines, List.drop_drop]
  congr 2
  omega

theorem seqs_since (h : j.Holds pushed) (n most : Nat) :
    (j.since n most).map JournalLine.seq =
      List.range' (max n (pushed.length - j.capacity) + 1) (j.since n most).length := by
  apply List.ext_getElem
  · rw [List.length_map, List.length_range']
  · intro k _ _
    simp only [h.since_eq, numbered, List.getElem_map, List.getElem_take, List.getElem_drop,
      List.getElem_mapIdx, List.getElem_range']
    omega

/-- What is retained of a push is what was kept of its text. -/
theorem line_eq (h : j.Holds pushed) {l : JournalLine} (hl : l ∈ j.lines) :
    ∃ stamp text, pushed[l.seq - 1]? = some (stamp, text) ∧ l = ⟨l.seq, stamp, kept text⟩ := by
  rw [h.lines] at hl
  obtain ⟨k, stamp, text, hpush, rfl⟩ := mem_numbered.mp (List.mem_of_mem_drop hl)
  exact ⟨stamp, text, hpush, rfl⟩

end Holds

/-- Pushes one text after the other: the numbers that were told, and the journal in the end. -/
def pushAll (j : Journal) : List (Stamp × String) → List Nat × Journal
  | [] => ([], j)
  | p :: rest =>
    let (number, j') := j.pushNumbered p.1 p.2
    let (numbers, last) := j'.pushAll rest
    (number :: numbers, last)

theorem capacity_pushAll (j : Journal) (ps : List (Stamp × String)) :
    (j.pushAll ps).2.capacity = j.capacity := by
  induction ps generalizing j with
  | nil => rfl
  | cons p rest ih => exact ih (j.push p.1 p.2)

/-- A journal goes on holding the latest pushes, and numbers them on from those before. -/
theorem Holds.pushAll {before : List (Stamp × String)} {j : Journal} (h : j.Holds before)
    (ps : List (Stamp × String)) : (j.pushAll ps).2.Holds (before ++ ps) ∧
      (j.pushAll ps).1 = List.range' (before.length + 1) ps.length := by
  induction ps generalizing j before with
  | nil => exact ⟨by rwa [List.append_nil], rfl⟩
  | cons p rest ih =>
    have hpush := h.push p.1 p.2
    obtain ⟨hlast, hnumbers⟩ := ih hpush
    rw [List.append_assoc, List.singleton_append] at hlast
    rw [List.length_append, List.length_singleton] at hnumbers
    refine ⟨hlast, ?_⟩
    change (j.push p.1 p.2).lastSeq :: ((j.push p.1 p.2).pushAll rest).1 = _
    rw [hnumbers, hpush.lastSeq, List.length_append, List.length_singleton, List.length_cons,
      List.range'_succ]

/-- A number of 64 bits is enough for a line as long as there were fewer than `2 ^ 64` pushes. -/
theorem seq_lt_of_pushAll {capacity : Nat} {pushed : List (Stamp × String)}
    (h : pushed.length < 2 ^ 64) :
    ((empty capacity).pushAll pushed).2.lastSeq < 2 ^ 64 ∧
      ∀ line ∈ ((empty capacity).pushAll pushed).2.lines, line.seq < 2 ^ 64 := by
  obtain ⟨hholds, -⟩ := (holds_empty capacity).pushAll pushed
  refine ⟨hholds.lastSeq ▸ h, fun line hline => ?_⟩
  have hseq : line.seq ∈ ((empty capacity).pushAll pushed).2.lines.map JournalLine.seq :=
    List.mem_map_of_mem hline
  rw [hholds.seqs, List.mem_range'_1] at hseq
  rw [List.nil_append] at hseq
  omega

/-- After any pushes into a new journal each was told its place among them, and the journal holds
the latest ones, as many as it has room for, in their order and under their numbers. What a reader
gets after a number is a run of them without a gap: it begins behind that number or at the oldest
line, and ends with the latest line unless the reader asked for fewer. -/
theorem pushAll_holds_latest (capacity : Nat) (pushed : List (Stamp × String)) :
    let n := pushed.length
    let gone := n - max capacity 1
    let numbers := ((empty capacity).pushAll pushed).1
    let j := ((empty capacity).pushAll pushed).2
    numbers = List.range' 1 n ∧ j.lastSeq = n ∧
    j.lines.length = min n (max capacity 1) ∧
    j.lines.map (fun l => (l.stamp, l.text)) = (pushed.drop gone).map (fun p => (p.1, kept p.2)) ∧
    j.lines.map JournalLine.seq = List.range' (gone + 1) (n - gone) ∧
    ∀ since most,
      let first := max since gone
      j.since since most = ((numbered pushed).drop first).take most ∧
      (j.since since most).map JournalLine.seq =
        List.range' (first + 1) (min most (n - first)) := by
  intro n gone numbers j
  obtain ⟨hholds, hnumbers⟩ := (holds_empty capacity).pushAll pushed
  have hcapacity : j.capacity = max capacity 1 := capacity_pushAll _ pushed
  change j.Holds pushed at hholds
  have hlines : j.lines = (numbered pushed).drop gone := by rw [hholds.lines, hcapacity]
  refine ⟨hnumbers, hholds.lastSeq, ?_, ?_, ?_, ?_⟩
  · rw [hholds.length_lines, hcapacity]
  · rw [hlines, List.map_drop, texts_numbered, List.map_drop]
  · rw [hlines, seqs_drop_numbered]
  · intro since most first
    have hpage := hholds.since_eq since most
    have hseqs := hholds.seqs_since since most
    rw [hcapacity] at hpage hseqs
    have hlength : (j.since since most).length = min most (n - first) := by
      rw [hpage, List.length_take, List.length_drop, length_numbered]
    exact ⟨hpage, hlength ▸ hseqs⟩

/-- A third line finds room for two: the first one goes, and a reader who has seen it misses
nothing. -/
example : let (numbers, j) := (empty 2).pushAll [(default, "a"), (default, "b"), (default, "c")]
    numbers = [1, 2, 3] ∧ j.since 0 9 = j.since 1 9 ∧
      (j.since 1 9).map JournalLine.text = ["b", "c"] := by decide +kernel

/-- Whatever the text and the limit, the search from the back for the place of the cut finds one and
leaves the longest beginning in whole characters that keeps to the limit; a text that fits is left as
it is. So each line of a journal is the beginning of what was pushed under its number, of at most 159
bytes, and it is less than four bytes shorter than that only if the whole text was. -/
theorem lines_longest_within :
    (∀ (limit : Nat) (text : String), (lastBreak? text limit).isSome ∧
      LongestWithin limit text (shortened limit text) ∧
      (text.utf8ByteSize ≤ limit → shortened limit text = text)) ∧
    ∀ (capacity : Nat) (pushed : List (Stamp × String)),
      ∀ line ∈ ((empty capacity).pushAll pushed).2.lines,
        ∃ stamp text, pushed[line.seq - 1]? = some (stamp, text) ∧
          LongestWithin 159 text line.text ∧
          (text.utf8ByteSize ≤ 159 → line.text = text) ∧
          (159 < text.utf8ByteSize → 156 ≤ line.text.utf8ByteSize) := by
  have hfits (limit : Nat) (text : String) (h : text.utf8ByteSize ≤ limit) :
      shortened limit text = text := if_pos h
  refine ⟨fun limit text => ⟨isSome_lastBreak? text limit, longestWithin_shortened limit text,
    hfits limit text⟩, fun capacity pushed line hline => ?_⟩
  obtain ⟨hholds, -⟩ := (holds_empty capacity).pushAll pushed
  obtain ⟨stamp, text, hpush, hline'⟩ := hholds.line_eq hline
  have htext : line.text = shortened 159 text :=
    (congrArg JournalLine.text hline').trans (shortened_eq_kept text).symm
  have hlongest := longestWithin_shortened 159 text
  rw [htext]
  refine ⟨stamp, text, hpush, hlongest, hfits 159 text, fun hlong => ?_⟩
  have hnear := hlongest.lt_add_four hlong
  omega

/-- A letter of two bytes lies across the limit: the line ends before it, at 158 bytes. -/
theorem lines_longest_within_straddling :
    let text := String.ofList (List.replicate 158 'a' ++ ['é', 'b'])
    let j := ((empty 1).pushAll [(default, "first"), (default, text)]).2
    (lastBreak? text 159).isSome ∧ j.lines.map (·.text.utf8ByteSize) = [158] ∧
      ∀ line ∈ j.lines, LongestWithin 159 text line.text := by
  intro text j
  obtain ⟨hcut, hlines⟩ := lines_longest_within
  have hsizes : j.lines.map (·.text.utf8ByteSize) = [158] := by decide +kernel
  have hseqs : ∀ line ∈ j.lines, line.seq = 2 := by decide +kernel
  refine ⟨(hcut 159 text).1, hsizes, fun line hline => ?_⟩
  obtain ⟨stamp, text', hpush, hlongest, -⟩ := hlines 1 _ line hline
  rw [hseqs line hline] at hpush
  cases hpush
  exact hlongest

end ClimateBus.Journal
