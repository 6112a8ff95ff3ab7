import ClimateBus.Settings.Files
import Mathlib

/-!
Files that are written and read again.

When the way to a file has been made and the file was written, the way leads through directories and
none is in the place of the file. So the file can be opened, and what was written is read from it.
-/
namespace ClimateBus.Files

variable {fs fs' : Files} {p : Path} {text s : String}

/-- A directory stands above the working directory, a listed directory, a file or a device. -/
theorem isDirectory_iff : fs.isDirectory p = true ↔ p <+: fs.here ∨
    (∃ q ∈ fs.directories, p <+: q) ∨ (∃ e ∈ fs.contents, p <+: e.1.dropLast) ∨
      ∃ q ∈ fs.full, p <+: q.dropLast := by
  simp only [isDirectory, List.map_append, List.map_map, List.any_append, List.any_cons,
    List.any_map, Bool.or_eq_true, List.any_eq_true, Function.comp_apply,
    List.isPrefixOf_iff_prefix, or_assoc]

theorem makeWay_eq_ok (h : fs.makeWay text = .ok fs') :
    fs' = { fs with directories := Path.onTheWay fs.here text ++ fs.directories } := by
  unfold makeWay at h
  dsimp only at h
  split_ifs at h
  exact (Except.ok.inj h).symm

/-- A file is written where no directory is. -/
theorem write_eq_ok (h : fs.write text s = .ok fs') :
    fs.isDirectory (Path.resolve fs.here text) = false ∧ Path.endsOpen text = false ∧
      fs' = { fs with
        contents := (Path.resolve fs.here text, .text s) ::
          fs.contents.filter fun (q, _) => q != Path.resolve fs.here text } := by
  unfold write at h
  dsimp only at h
  split_ifs at h with hfile hdirectory
  rw [Bool.or_eq_true, not_or, Bool.not_eq_true, Bool.not_eq_true] at hdirectory
  unfold put at h
  split_ifs at h
  exact ⟨hdirectory.1, hdirectory.2, (Except.ok.inj h).symm⟩

/-- A new file makes no directory of its own place. -/
theorem isDirectory_written (h : fs.isDirectory p = false) {contents : List (Path × Content)}
    (hcontents : contents ⊆ fs.contents) (c : Content) :
    isDirectory { fs with contents := (p, c) :: contents } p = false := by
  rw [← Bool.not_eq_true, isDirectory_iff] at h ⊢
  rintro (hp | hp | ⟨e, he, hp⟩ | hp)
  · exact h (.inl hp)
  · exact h (.inr (.inl hp))
  · rcases List.mem_cons.mp he with rfl | he
    · -- Only the root is above itself, and that is a directory.
      have hroot : p = [] := by
        have hlength : p.length ≤ p.dropLast.length := hp.length_le
        rw [List.length_dropLast] at hlength
        exact List.length_eq_zero_iff.mp (by omega)
      exact h (.inl (hroot ▸ List.nil_prefix))
    · exact h (.inr (.inr (.inl ⟨e, hcontents he, hp⟩)))
  · exact h (.inr (.inr (.inr hp)))

/-- A file is read if the way to it is made of directories and no directory is in its place. -/
theorem read_eq_ok (hway : ∀ q ∈ Path.onTheWay fs.here text, fs.isDirectory q = true)
    (hopen : Path.endsOpen text = false)
    (hplace : fs.isDirectory (Path.resolve fs.here text) = false)
    (hheld : fs.lookup (Path.resolve fs.here text) = some (.text s)) : fs.read text = .ok s := by
  have hfree : fs.obstacle? text = none := by
    have hahead : (Path.onTheWay fs.here text).findSome? (fun p =>
        if fs.isDirectory p then none else
          some (if fs.isFile p then FileError.notDirectory else .notFound)) = none := by
      rw [List.findSome?_eq_none_iff]
      intro q hq
      rw [hway q hq, if_pos rfl]
    unfold obstacle?
    dsimp only
    rw [hahead, hopen]
    rfl
  have hfile : fs.isFile (Path.resolve fs.here text) = true := by
    rw [isFile, hheld]
    rfl
  have hlocate : fs.locate text false = .ok (Path.resolve fs.here text) := by
    unfold locate
    dsimp only
    rw [hfree, hplace, hfile]
    rfl
  simp only [read, hlocate, bind, Except.bind, hheld]

/-- What was written to a file, the way to it being made, is read from it. -/
theorem read_of_write {made : Files} (hmade : fs.makeWay text = .ok made)
    (hwrite : made.write text s = .ok fs') : fs'.read text = .ok s := by
  obtain rfl := makeWay_eq_ok hmade
  obtain ⟨hplace, hopen, rfl⟩ := write_eq_ok hwrite
  refine read_eq_ok ?_ hopen (isDirectory_written hplace (List.filter_sublist.subset) _) ?_
  · intro q hq
    rw [isDirectory_iff]
    exact .inr (.inl ⟨q, List.mem_append_left _ hq, List.prefix_rfl⟩)
  · exact List.lookup_cons_self

end ClimateBus.Files
