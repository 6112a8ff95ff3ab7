import ClimateBus.Journal
import Mathlib

/-!
How a long line is cut: what is left is as long as it can be.

A text has a break at each byte where a character begins, and at its end. A search from the back
finds the last break within a limit, because there is one at the beginning; what stands before it is
the longest beginning of the text, in whole characters, that keeps to the limit
(`Journal.longestWithin_shortened`). Counting the characters from the front leads to the same.
-/
namespace ClimateBus.Journal

/-- The longest beginning of a text, in whole characters, that takes so many bytes at most. -/
structure LongestWithin (bytes : Nat) (text start : String) : Prop where
  begins : ∃ rest, text = start ++ rest
  fits : start.utf8ByteSize ≤ bytes
  longest : ∀ other rest, text = other ++ rest → other.utf8ByteSize ≤ bytes →
    ∃ more, start = other ++ more

namespace LongestWithin

variable {bytes : Nat} {text start other : String}

theorem unique (h : LongestWithin bytes text start) (h' : LongestWithin bytes text other) :
    start = other := by
  obtain ⟨rest, hrest⟩ := h'.begins
  obtain ⟨more, hmore⟩ := h.longest other rest hrest h'.fits
  obtain ⟨rest', hrest'⟩ := h.begins
  obtain ⟨more', hmore'⟩ := h'.longest start rest' hrest' h.fits
  have hsize := congrArg String.utf8ByteSize hmore
  have hsize' := congrArg String.utf8ByteSize hmore'
  rw [String.utf8ByteSize_append] at hsize hsize'
  have hnone : more = "" := String.utf8ByteSize_eq_zero_iff.mp (by omega)
  rw [hmore, hnone, String.append_empty]

theorem of_fits (h : text.utf8ByteSize ≤ bytes) : LongestWithin bytes text text where
  begins := ⟨"", String.append_empty.symm⟩
  fits := h
  longest _ rest hrest _ := ⟨rest, hrest⟩

/-- The character that comes next was too long, and no character takes more than four bytes. -/
theorem lt_add_four (h : LongestWithin bytes text start) (hlong : bytes < text.utf8ByteSize) :
    bytes < start.utf8ByteSize + 4 := by
  obtain ⟨rest, hrest⟩ := h.begins
  obtain ⟨c, after, hafter⟩ : ∃ c after, rest.toList = c :: after := by
    refine List.exists_cons_of_ne_nil fun hnil => ?_
    have hnone : rest = "" := String.toList_eq_nil_iff.mp hnil
    rw [hrest, hnone, String.append_empty] at hlong
    exact absurd h.fits (Nat.not_le.mpr hlong)
  by_contra hfew
  have hsplit : text = (start ++ String.ofList [c]) ++ String.ofList after := by
    rw [hrest, String.append_assoc, ← String.ofList_append, List.singleton_append, ← hafter,
      String.ofList_toList]
  have hsize : (start ++ String.ofList [c]).utf8ByteSize = start.utf8ByteSize + c.utf8Size := by
    simp
  have hfour := c.utf8Size_le_four
  have hpos := c.utf8Size_pos
  obtain ⟨more, hmore⟩ := h.longest _ _ hsplit (by omega)
  have hmore := congrArg String.utf8ByteSize hmore
  rw [String.utf8ByteSize_append, hsize] at hmore
  omega

end LongestWithin

section Break

variable {text : String} {bytes : Nat}

theorem pos?_eq_some_iff {raw : String.Pos.Raw} {p : text.Pos} :
    text.pos? raw = some p ↔ p.offset = raw := by
  simp only [String.pos?, String.Slice.pos?]
  constructor
  · intro h
    split_ifs at h with hvalid
    · rw [Option.map_some, Option.some.injEq] at h
      rw [← h]
      rfl
    · cases h
  · rintro rfl
    have hvalid := p.isValid
    simp [hvalid, String.Pos.ext_iff]

/-- The search ends at a break within the limit, and no break within it lies further on. -/
theorem lastBreak?_greatest {p : text.Pos} (h : lastBreak? text bytes = some p) :
    p.offset.byteIdx ≤ bytes ∧ ∀ q : text.Pos, q.offset.byteIdx ≤ bytes → q ≤ p := by
  induction bytes with
  | zero =>
    have hp : p.offset = ⟨0⟩ := pos?_eq_some_iff.mp h
    refine ⟨by rw [hp], fun q hq => ?_⟩
    rw [String.Pos.le_iff, String.Pos.Raw.le_iff]
    omega
  | succ bytes ih =>
    rcases (Option.orElse_eq_some ..).mp h with hhere | ⟨hnone, hbefore⟩
    · have hp : p.offset = ⟨bytes + 1⟩ := pos?_eq_some_iff.mp hhere
      refine ⟨by rw [hp], fun q hq => ?_⟩
      rw [String.Pos.le_iff, String.Pos.Raw.le_iff, hp]
      exact hq
    · obtain ⟨hp, hlast⟩ := ih hbefore
      refine ⟨by omega, fun q hq => hlast q ?_⟩
      -- Nothing breaks at the place the search has just left.
      have hne : q.offset.byteIdx ≠ bytes + 1 := by
        intro heq
        have hq' : text.pos? ⟨bytes + 1⟩ = some q :=
          pos?_eq_some_iff.mpr (String.Pos.Raw.ext heq)
        rw [hnone] at hq'
        cases hq'
      omega

end Break

theorem longestWithin_shortened (bytes : Nat) (text : String) :
    LongestWithin bytes text (shortened bytes text) := by
  unfold shortened
  split_ifs with hfits
  · exact .of_fits hfits
  · generalize hp : (lastBreak? text bytes).get (isSome_lastBreak? text bytes) = p
    obtain ⟨hwithin, hlast⟩ :=
      lastBreak?_greatest (Option.eq_some_of_isSome (isSome_lastBreak? text bytes))
    rw [hp] at hwithin hlast
    have hsplits := p.splits
    refine ⟨⟨_, hsplits.eq_append⟩, ?_, fun other rest heq hother => ?_⟩
    · have hsize := congrArg String.Pos.Raw.byteIdx hsplits.offset_eq_rawEndPos
      rw [String.byteIdx_rawEndPos] at hsize
      omega
    · have hsplits' := String.Pos.splits_ofEqAppend heq
      have hle := hlast (.ofEqAppend heq) (by
        rw [hsplits'.offset_eq_rawEndPos]
        exact hother)
      obtain ⟨more, hmore, -⟩ := (hsplits'.le_iff_exists_eq_append hsplits).mp hle
      exact ⟨more, hmore⟩

/-- The longest run of whole characters from the start that fits into so many bytes. -/
def cut (bytes : Nat) : List Char → List Char
  | [] => []
  | c :: rest => if c.utf8Size ≤ bytes then c :: cut (bytes - c.utf8Size) rest else []

theorem cut_begins (bytes : Nat) (cs : List Char) : ∃ rest, cs = cut bytes cs ++ rest := by
  induction cs generalizing bytes with
  | nil => exact ⟨[], rfl⟩
  | cons c cs ih =>
    rw [cut]
    split_ifs
    · obtain ⟨rest, hrest⟩ := ih (bytes - c.utf8Size)
      exact ⟨rest, congrArg (c :: ·) hrest⟩
    · exact ⟨c :: cs, rfl⟩

theorem utf8Len_cut_le (bytes : Nat) (cs : List Char) : String.utf8Len (cut bytes cs) ≤ bytes := by
  induction cs generalizing bytes with
  | nil => exact Nat.zero_le _
  | cons c cs ih =>
    rw [cut]
    split_ifs with hfits
    · have hrest := ih (bytes - c.utf8Size)
      rw [String.utf8Len_cons]
      omega
    · exact Nat.zero_le _

theorem cut_longest {bytes : Nat} {ds : List Char} (rest : List Char)
    (h : String.utf8Len ds ≤ bytes) : ∃ more, cut bytes (ds ++ rest) = ds ++ more := by
  induction ds generalizing bytes with
  | nil => exact ⟨_, rfl⟩
  | cons d ds ih =>
    rw [String.utf8Len_cons] at h
    have hrest : String.utf8Len ds ≤ bytes - d.utf8Size := by omega
    obtain ⟨more, hmore⟩ := ih hrest
    refine ⟨more, ?_⟩
    rw [List.cons_append, cut, if_pos (by omega), hmore]
    rfl

theorem longestWithin_cut (bytes : Nat) (text : String) :
    LongestWithin bytes text (String.ofList (cut bytes text.toList)) where
  begins := by
    obtain ⟨rest, hrest⟩ := cut_begins bytes text.toList
    refine ⟨String.ofList rest, ?_⟩
    rw [← String.ofList_append, ← hrest, String.ofList_toList]
  fits := by
    rw [String.utf8ByteSize_ofList]
    exact utf8Len_cut_le bytes text.toList
  longest other rest heq hother := by
    have hlen : String.utf8Len other.toList ≤ bytes := by
      rwa [← String.utf8ByteSize_ofList, String.ofList_toList]
    obtain ⟨more, hmore⟩ := cut_longest rest.toList hlen
    refine ⟨String.ofList more, ?_⟩
    rw [heq, String.toList_append, hmore, String.ofList_append, String.ofList_toList]

/-- The search from the back stops where the count from the front does. -/
theorem shortened_eq_cut (bytes : Nat) (text : String) :
    shortened bytes text = String.ofList (cut bytes text.toList) :=
  (longestWithin_shortened bytes text).unique (longestWithin_cut bytes text)

end ClimateBus.Journal
