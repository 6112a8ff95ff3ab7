import ClimateBus.Proofs.JournalContents
import Mathlib

/-!
A reader that comes back to a journal for what it has not seen, with pushes and reads in any order.

It states the number of the last line it received, so it never gets a line twice. It misses a line
only by coming too late: a read that passes over a number finds that line gone already.
-/
namespace ClimateBus

inductive JournalEvent where
  | push (stamp : Stamp) (text : String)
  /-- The reader asks for at most so many lines. -/
  | read (most : Nat)

/-- A journal, and all that its reader has received. -/
structure Reading where
  journal : Journal
  received : List JournalLine

namespace Reading

def numbers (r : Reading) : List Nat := r.received.map JournalLine.seq

/-- The number of the last line received, zero before the first one. -/
def position (r : Reading) : Nat := r.numbers.getLast?.getD 0

/-- How many lines were pushed and not received. -/
def unread (r : Reading) : Nat := r.journal.lastSeq - r.received.length

def step (r : Reading) : JournalEvent → Reading
  | .push stamp text => { r with journal := r.journal.push stamp text }
  | .read most => { r with received := r.received ++ r.journal.since r.position most }

/-- A new journal and a reader that has received nothing, after these events. -/
def run (capacity : Nat) (es : List JournalEvent) : Reading := es.foldl step ⟨.empty capacity, []⟩

/-- What was pushed, oldest first. -/
def pushed (es : List JournalEvent) : List (Stamp × String) :=
  es.filterMap fun
    | .push stamp text => some (stamp, text)
    | .read _ => none

/-- How many lines are gone after these events. -/
def evicted (capacity : Nat) (es : List JournalEvent) : Nat :=
  (pushed es).length - max capacity 1

variable (capacity : Nat) (es : List JournalEvent)

theorem run_append (e : JournalEvent) :
    run capacity (es ++ [e]) = (run capacity es).step e := by
  rw [run, List.foldl_append]
  rfl

theorem pushed_push (stamp : Stamp) (text : String) :
    pushed (es ++ [.push stamp text]) = pushed es ++ [(stamp, text)] := by
  simp [pushed, List.filterMap_append]

theorem pushed_read (most : Nat) : pushed (es ++ [.read most]) = pushed es := by
  simp [pushed, List.filterMap_append]

theorem holds_run : (run capacity es).journal.Holds (pushed es) := by
  induction es using List.reverseRecOn with
  | nil => exact Journal.holds_empty capacity
  | append_singleton es e ih =>
    rw [run_append]
    cases e with
    | push stamp text =>
      rw [pushed_push]
      exact ih.push stamp text
    | read most =>
      rw [pushed_read]
      exact ih

theorem capacity_run : (run capacity es).journal.capacity = max capacity 1 := by
  induction es using List.reverseRecOn with
  | nil => rfl
  | append_singleton es e ih =>
    rw [run_append, ← ih]
    cases e <;> rfl

/-- A line is gone if it was pushed and its number is no longer among the retained ones. -/
theorem le_evicted_iff {n : Nat} (hn : 0 < n) : n ≤ evicted capacity es ↔
    n ≤ (pushed es).length ∧ n ∉ (run capacity es).journal.lines.map JournalLine.seq := by
  rw [(holds_run capacity es).seqs, capacity_run, evicted, List.mem_range'_1]
  omega

/-- A page goes on behind the position, or behind the lines that are gone, and moves the position to
its last line. -/
theorem read_appends (most : Nat) :
    let r := run capacity es
    let r' := run capacity (es ++ [.read most])
    let start := max r.position (evicted capacity es)
    ∃ len, r'.numbers = r.numbers ++ List.range' (start + 1) len ∧
      r'.position = if len = 0 then r.position else start + len := by
  intro r r' start
  have hpage := (holds_run capacity es).seqs_since r.position most
  rw [capacity_run] at hpage
  have hnumbers : r'.numbers =
      r.numbers ++ List.range' (start + 1) (r.journal.since r.position most).length := by
    change (run capacity (es ++ [.read most])).numbers = _
    rw [run_append]
    exact List.map_append.trans (congrArg (r.numbers ++ ·) hpage)
  refine ⟨_, hnumbers, ?_⟩
  rw [position, hnumbers, List.getLast?_append, List.getLast?_range']
  split_ifs
  · rfl
  · rw [Option.some_or, Option.getD_some]
    omega

theorem le_position {n : Nat} (hn : n ∈ (run capacity es).numbers) :
    n ≤ (run capacity es).position := by
  induction es using List.reverseRecOn with
  | nil => exact absurd hn List.not_mem_nil
  | append_singleton es e ih =>
    cases e with
    | push stamp text =>
      rw [run_append] at hn ⊢
      exact ih hn
    | read most =>
      obtain ⟨len, hnumbers, hposition⟩ := read_appends capacity es most
      rw [hnumbers, List.mem_append, List.mem_range'_1] at hn
      rw [hposition]
      split_ifs with hlen
      · rcases hn with hn | hn
        · exact ih hn
        · omega
      · rcases hn with hn | hn
        · exact (ih hn).trans ((Nat.le_max_left _ _).trans (Nat.le_add_right _ _))
        · omega

theorem numbers_increasing : (run capacity es).numbers.Pairwise (· < ·) := by
  induction es using List.reverseRecOn with
  | nil => exact .nil
  | append_singleton es e ih =>
    cases e with
    | push stamp text =>
      rw [run_append]
      exact ih
    | read most =>
      obtain ⟨len, hnumbers, -⟩ := read_appends capacity es most
      rw [hnumbers, List.pairwise_append]
      refine ⟨ih, List.pairwise_lt_range', ?_⟩
      intro old hold new hnew
      have hle := le_position capacity es hold
      rw [List.mem_range'_1] at hnew
      omega

/-- Every line that was received is the line of one push, under its number. -/
theorem mem_numbered_of_received {l : JournalLine} (hl : l ∈ (run capacity es).received) :
    l ∈ Journal.numbered (pushed es) := by
  induction es using List.reverseRecOn with
  | nil => exact absurd hl List.not_mem_nil
  | append_singleton es e ih =>
    rw [run_append] at hl
    cases e with
    | push stamp text =>
      rw [pushed_push, Journal.numbered_append]
      exact List.mem_append_left _ (ih hl)
    | read most =>
      rw [pushed_read]
      rcases List.mem_append.mp hl with hl | hl
      · exact ih hl
      · rw [(holds_run capacity es).since_eq] at hl
        exact List.mem_of_mem_drop (List.mem_of_mem_take hl)

/-- A read passes over a number whose line had been pushed and was retained no longer. -/
structure Skips (before : List JournalEvent) (most n : Nat) : Prop where
  ahead : (run capacity before).position < n
  passed : n ≤ (run capacity (before ++ [.read most])).position
  pushed : n ≤ (pushed before).length
  evicted : n ∉ (run capacity before).journal.lines.map JournalLine.seq

/-- Up to the position, what a read does not bring was received before or is gone. -/
theorem exists_skips {n : Nat} (hn : 0 < n) (hpassed : n ≤ (run capacity es).position)
    (hmissed : n ∉ (run capacity es).numbers) :
    ∃ before most after, es = before ++ .read most :: after ∧ Skips capacity before most n := by
  induction es using List.reverseRecOn with
  | nil => exact absurd hpassed (Nat.not_le_of_lt hn)
  | append_singleton es e ih =>
    have hearlier (hpassed : n ≤ (run capacity es).position)
        (hmissed : n ∉ (run capacity es).numbers) : ∃ before most after,
          es ++ [e] = before ++ .read most :: after ∧ Skips capacity before most n := by
      obtain ⟨before, most, after, rfl, hskips⟩ := ih hpassed hmissed
      exact ⟨before, most, after ++ [e], by simp, hskips⟩
    cases e with
    | push stamp text =>
      rw [run_append] at hpassed hmissed
      exact hearlier hpassed hmissed
    | read most =>
      obtain ⟨len, hnumbers, hposition⟩ := read_appends capacity es most
      rw [hnumbers, List.mem_append, not_or, List.mem_range'_1] at hmissed
      obtain ⟨hbefore, hpage⟩ := hmissed
      by_cases hahead : n ≤ (run capacity es).position
      · exact hearlier hahead hbefore
      · -- This read passes over the number, and its page begins behind the lines that are gone.
        have hgone : n ≤ evicted capacity es := by
          rw [hposition] at hpassed
          split_ifs at hpassed <;> omega
        obtain ⟨hpushed, hevicted⟩ := (le_evicted_iff capacity es hn).mp hgone
        exact ⟨es, most, [], rfl, Nat.lt_of_not_le hahead, hpassed, hpushed, hevicted⟩

/-- A reader that never lets more lines wait than the journal has room for gets all of them. -/
theorem numbers_of_unread_le (hunread : ∀ before most after, es = before ++ .read most :: after →
      (run capacity before).unread ≤ max capacity 1) :
    (run capacity es).numbers = List.range' 1 (run capacity es).position := by
  induction es using List.reverseRecOn with
  | nil => rfl
  | append_singleton es e ih =>
    have hall := ih fun before most after hes =>
      hunread before most (after ++ [e]) (by rw [hes]; simp)
    cases e with
    | push stamp text =>
      rw [run_append]
      exact hall
    | read most =>
      have hwaiting := hunread es most [] rfl
      have hreceived : (run capacity es).received.length = (run capacity es).position := by
        have hlength := congrArg List.length hall
        rwa [numbers, List.length_map, List.length_range'] at hlength
      rw [unread, (holds_run capacity es).lastSeq, hreceived] at hwaiting
      have hstart : max (run capacity es).position (evicted capacity es) =
          (run capacity es).position := by
        rw [evicted]
        omega
      obtain ⟨len, hnumbers, hposition⟩ := read_appends capacity es most
      rw [hstart] at hnumbers hposition
      have hend : (run capacity (es ++ [.read most])).position =
          (run capacity es).position + len := by
        rw [hposition]
        split_ifs <;> omega
      rw [hnumbers, hall, hend, Nat.add_comm _ 1, List.range'_append_1]

/-- The numbers a reader receives increase, and what it receives under a number is the text that was
pushed under it, cut to size. A number up to its position that it never received is the number of a
line that was gone before the read that passed over it. If at each of its reads no more lines wait
than the journal has room for, it has received every line up to its position. -/
theorem reader_loses_only_evicted (capacity : Nat) (es : List JournalEvent) :
    (run capacity es).numbers.Pairwise (· < ·) ∧
    (∀ l ∈ (run capacity es).received, ∃ k stamp text,
      (pushed es)[k]? = some (stamp, text) ∧ l = ⟨k + 1, stamp, Journal.kept text⟩) ∧
    (∀ n, 0 < n → n ≤ (run capacity es).position → n ∉ (run capacity es).numbers →
      ∃ before most after, es = before ++ .read most :: after ∧ Skips capacity before most n) ∧
    ((∀ before most after, es = before ++ .read most :: after →
        (run capacity before).unread ≤ max capacity 1) →
      (run capacity es).numbers = List.range' 1 (run capacity es).position) := by
  refine ⟨numbers_increasing capacity es, ?_, ?_, numbers_of_unread_le capacity es⟩
  · intro l hl
    exact Journal.mem_numbered.mp (mem_numbered_of_received capacity es hl)
  · intro n hn hpassed hmissed
    exact exists_skips capacity es hn hpassed hmissed

/-- Three lines and a first read of one line, with room for two; a fourth line, and a read of all. -/
def demoEvents : List JournalEvent :=
  [.push default "one", .push default "two", .push default "three", .read 1,
    .push default "four", .read 9]

/-- The first line is gone at the first read. With room for three lines nothing is lost. -/
theorem reader_loses_only_evicted_demo :
    (run 2 demoEvents).numbers = [2, 3, 4] ∧
    (∃ before most after, demoEvents = before ++ .read most :: after ∧ Skips 2 before most 1) ∧
    (run 3 demoEvents).numbers = List.range' 1 4 := by
  have hlate : (run 2 demoEvents).numbers = [2, 3, 4] := by decide +kernel
  obtain ⟨-, -, hskips, -⟩ := reader_loses_only_evicted 2 demoEvents
  obtain ⟨-, -, -, hall⟩ := reader_loses_only_evicted 3 demoEvents
  have hend : (run 3 demoEvents).position = 4 := by decide +kernel
  refine ⟨hlate, hskips 1 Nat.one_pos (by decide +kernel) (by rw [hlate]; decide), ?_⟩
  rw [hall, hend]
  intro before most after h
  have hbefore : before = demoEvents.take before.length := by rw [h, List.take_left]
  have hread : demoEvents[before.length]? = some (.read most) := by simp [h]
  have hlt : before.length < 6 := (List.getElem?_eq_some_iff.mp hread).1
  have hwhen : before.length = 3 ∨ before.length = 5 := by
    generalize before.length = k at hread hlt
    interval_cases k <;> simp [demoEvents] at hread ⊢
  rcases hwhen with hwhen | hwhen <;> rw [hbefore, hwhen] <;> decide +kernel

end Reading

end ClimateBus
