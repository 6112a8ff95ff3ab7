import ClimateBus.Text.Basic

/-!
A journal of recent lines for readers that come back for more.

Lines are numbered from one as they are pushed, and only the latest are kept. A reader states the
last number it has seen and gets what came after it. Long lines are cut at a character. Numbers have
no bound here; 64 bits hold those of the first `2 ^ 64 - 1` lines (`Journal.seq_lt_of_pushAll`).
-/
namespace ClimateBus

structure Stamp where
  year : Nat
  month : Nat
  day : Nat
  hour : Nat
  minute : Nat
  second : Nat
  millisecond : Nat
  deriving DecidableEq, Repr, Inhabited

def Stamp.text (s : Stamp) : String :=
  let two := Blank.zeroPadded 2
  Blank.zeroPadded 4 s.year ++ "-" ++ two s.month ++ "-" ++ two s.day ++ " " ++ two s.hour ++ ":"
    ++ two s.minute ++ ":" ++ two s.second ++ "." ++ Blank.zeroPadded 3 s.millisecond

structure JournalLine where
  seq : Nat
  stamp : Stamp
  text : String
  deriving DecidableEq, Repr

def JournalLine.describe (l : JournalLine) (withStamp : Bool) : String :=
  if withStamp then "[" ++ l.stamp.text ++ "] " ++ l.text else l.text

/-- The retained lines, oldest first. -/
structure Journal where
  capacity : Nat
  lines : List JournalLine
  lastSeq : Nat
  deriving DecidableEq, Repr

namespace Journal

def defaultCapacity : Nat := 128

/-- Longest line kept, in bytes. -/
def maxLineBytes : Nat := 159

/-- The last place between two characters within so many bytes, looked for from the back. There
would be none if the search ran past the beginning. -/
def lastBreak? (text : String) : (bytes : Nat) → Option text.Pos
  | 0 => text.pos? ⟨0⟩
  | bytes + 1 => text.pos? ⟨bytes + 1⟩ <|> lastBreak? text bytes

theorem isSome_lastBreak? (text : String) (bytes : Nat) : (lastBreak? text bytes).isSome := by
  induction bytes with
  | zero => simp [lastBreak?, String.pos?, String.Slice.pos?]
  | succ bytes ih => simp [lastBreak?, ih]

/-- A text, or what is before its last break if it is too long. -/
def shortened (bytes : Nat) (text : String) : String :=
  if text.utf8ByteSize ≤ bytes then text
  else (text.sliceTo ((lastBreak? text bytes).get (isSome_lastBreak? text bytes))).copy

/-- An empty journal; a capacity of zero counts as one. -/
def empty (capacity : Nat) : Journal := ⟨max capacity 1, [], 0⟩

instance : Inhabited Journal := ⟨empty defaultCapacity⟩

def push (j : Journal) (stamp : Stamp) (text : String) : Journal :=
  let seq := j.lastSeq + 1
  let line : JournalLine := ⟨seq, stamp, shortened maxLineBytes text⟩
  let kept := if j.lines.length = j.capacity then j.lines.drop 1 else j.lines
  { j with lines := kept ++ [line], lastSeq := seq }

/-- A push as its caller sees it, who is told the number of the line. -/
def pushNumbered (j : Journal) (stamp : Stamp) (text : String) : Nat × Journal :=
  let j' := j.push stamp text
  (j'.lastSeq, j')

/-- At most `max` of the retained lines after number `since`, oldest first. -/
def since (j : Journal) (since max : Nat) : List JournalLine :=
  (j.lines.filter fun l => since < l.seq).take max

end Journal

end ClimateBus
