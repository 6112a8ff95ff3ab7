import ClimateBus.Proofs.PartialSettings
import ClimateBus.Proofs.SettingsRange
import ClimateBus.Proofs.WrittenDocuments
import ClimateBus.Proofs.WrittenFiles
import ClimateBus.Settings.Store
import Mathlib

/-!
Settings that are kept in files, with any faithful TOML library.

The document that is written for settings, or for some of them, is read as a tree that gives just
these (`gives_chosen`), so loading it brings them back (`survive_save_load`).
-/
namespace ClimateBus.Settings

section

variable [lib : Toml.Library] {keep : String → String → Bool} {c : Settings} {text : String}

/-- A document of some settings is read as a tree that gives these. -/
theorem read_chosen (hlib : lib.Faithful) (h : lib.write (c.chosen keep) = some text) :
    ∃ t, lib.read text = some t ∧ Gives keep c t :=
  ⟨_, hlib.read_write (chosen_wellFormed keep c) h, gives_chosen keep c⟩

theorem ofToml?_of_gives {t : Tree} (hread : lib.read text = some t) (h : Gives keep c t) :
    ofToml? text = some (c.partly keep) := by
  rw [ofToml?, hread, Option.bind_some, ofTree_of_gives h]

/-- What is written for settings stands for them. -/
theorem ofToml?_toToml? (hlib : lib.Faithful) (h : c.toToml? = some text) :
    ofToml? text = some c := by
  rw [toToml?, ← chosen_all] at h
  obtain ⟨t, hread, hgives⟩ := read_chosen hlib h
  rw [ofToml?_of_gives hread hgives, partly_all]

theorem render_eq_ok : c.render = .ok text ↔ c.toToml? = some text := by
  rw [render]
  cases c.toToml? <;> simp

theorem loadFrom_eq_ok {fs : Files} {path : String} : loadFrom fs path = .ok c ↔
    ∃ text, fs.read path = .ok text ∧ ofToml? text = some c := by
  rw [loadFrom]
  cases fs.read path with
  | error e => simp
  | ok text => cases h : ofToml? text <;> simp [h]

theorem saveTo_eq_ok {fs fs' : Files} {path : String} (h : c.saveTo fs path = .ok fs') :
    ∃ made text, fs.makeWay path = .ok made ∧ c.toToml? = some text ∧
      made.write path text = .ok fs' := by
  rw [saveTo] at h
  dsimp only at h
  cases hmade : fs.makeWay path with
  | error e => rw [hmade] at h; cases h
  | ok made =>
    cases htext : c.render with
    | error e => rw [hmade, htext] at h; cases h
    | ok text =>
      rw [hmade, htext] at h
      change (made.write path text).mapError _ = _ at h
      cases hwrite : made.write path text with
      | error e => rw [hwrite] at h; cases h
      | ok written =>
        rw [hwrite] at h
        obtain rfl := Except.ok.inj h
        exact ⟨made, text, rfl, render_eq_ok.mp htext, hwrite⟩

theorem render_eq_error (hlib : lib.Faithful) :
    c.render = .error (.serialize rangeFailure) ↔ ∃ n ∈ c.wide, 2 ^ 63 ≤ n.toNat := by
  have hrange : c.toToml? = none ↔ ¬c.InRange := by
    rw [← Option.not_isSome_iff_eq_none, toToml?_isSome hlib]
  have herror : c.render = .error (.serialize rangeFailure) ↔ c.toToml? = none := by
    rw [render]
    cases c.toToml? <;> simp
  rw [herror, hrange, InRange]
  push Not
  rfl

end

/-- Settings survive a save and a load, also in part, with any TOML library that reads what it
writes and has integers of 64 bits with a sign. A file that gives some settings of a record, with
their values there, loads to the defaults with these replaced; the document of some settings is such
a file, and there is one unless a number among them is too large. What is rendered or saved loads to
the same settings, and whatever was loaded can be rendered again. -/
theorem survive_save_load [lib : Toml.Library] (hlib : lib.Faithful) (c : Settings) :
    (∀ keep fs path text t, fs.read path = .ok text → lib.read text = some t → Gives keep c t →
      loadFrom fs path = .ok (c.partly keep)) ∧
    (∀ keep text, lib.write (c.chosen keep) = some text →
      ∃ t, lib.read text = some t ∧ Gives keep c t) ∧
    (∀ keep, (lib.write (c.chosen keep)).isSome ↔ (c.partly keep).InRange) ∧
    (∀ fs path text, c.render = .ok text → fs.read path = .ok text →
      loadFrom fs path = .ok c) ∧
    (∀ fs fs' path, c.saveTo fs path = .ok fs' → loadFrom fs' path = .ok c) ∧
    (∀ fs path, loadFrom fs path = .ok c → ∃ text, c.render = .ok text) ∧
    (c.render = .error (.serialize rangeFailure) ↔ ∃ n ∈ c.wide, 2 ^ 63 ≤ n.toNat) := by
  refine ⟨?_, fun _ _ => read_chosen hlib, fun keep => write_chosen_isSome hlib keep c, ?_, ?_, ?_,
    render_eq_error hlib⟩
  · intro keep fs path text t hfile hread hgives
    exact loadFrom_eq_ok.mpr ⟨text, hfile, ofToml?_of_gives hread hgives⟩
  · intro fs path text hrender hfile
    exact loadFrom_eq_ok.mpr ⟨text, hfile, ofToml?_toToml? hlib (render_eq_ok.mp hrender)⟩
  · intro fs fs' path hsave
    obtain ⟨made, text, hmade, htext, hwrite⟩ := saveTo_eq_ok hsave
    exact loadFrom_eq_ok.mpr ⟨text, Files.read_of_write hmade hwrite, ofToml?_toToml? hlib htext⟩
  · intro fs path hload
    obtain ⟨text, -, htext⟩ := loadFrom_eq_ok.mp hload
    have hsome : (c.toToml?).isSome := (toToml?_isSome hlib c).mpr (ofToml?_inRange hlib htext)
    obtain ⟨text', htext'⟩ := Option.isSome_iff_exists.mp hsome
    exact ⟨text', render_eq_ok.mpr htext'⟩

/-- A record with a port that is not easily quoted, a time limit and a control line. -/
def sample : Settings where
  serial := { port := "COM \"7\"\t" }
  master := { timeoutMs := 5000, txEnable := some .rts }

/-- The port and the control line. -/
def ofSample : String → String → Bool
  | "serial", "port" => true
  | "rtu", "tx_enable" => true
  | _, _ => false

def sampleText : String :=
  "[serial]\nport = 'COM \"7\"\t'\n\n" ++ "[rtu]\ntx_enable = \"rts\"\n\n" ++
    "[gateway]\n\n[bridge]\n\n[logging]\n"

theorem survive_save_load_demo :
    Toml.builtIn.write (sample.chosen ofSample) = some sampleText ∧
    loadFrom { here := [], contents := [(["c"], .text sampleText)] } "c" =
      .ok { serial := { port := "COM \"7\"\t" }, master := { txEnable := some .rts } } ∧
    ∃ text, sample.render = .ok text ∧
      loadFrom { here := [], contents := [(["c"], .text text)] } "c" = .ok sample ∧
      ∃ fs, sample.saveTo { here := [], contents := [] } "d/c" = .ok fs ∧
        loadFrom fs "d/c" = .ok sample := by
  obtain ⟨hgiven, hchosen, hrange, hrendered, hsaved, hloaded, -⟩ :=
    survive_save_load Toml.builtIn_faithful sample
  have hread (text : String) :
      Files.read { here := [], contents := [(["c"], .text text)] } "c" = .ok text := by cbv
  have hpart : Toml.builtIn.write (sample.chosen ofSample) = some sampleText := by decide +kernel
  obtain ⟨t, ht, hgives⟩ := hchosen _ _ hpart
  have hall : (Toml.builtIn.write (sample.chosen fun _ _ => true)).isSome :=
    (hrange _).mpr (by simp [InRange, wide, sample, partly])
  obtain ⟨whole, hwhole⟩ := Option.isSome_iff_exists.mp hall
  have hload := hrendered _ _ _ (render_eq_ok.mpr hwhole) (hread whole)
  obtain ⟨text, hrender⟩ := hloaded _ _ hload
  have hsave : sample.saveTo { here := [], contents := [] } "d/c" =
      .ok { here := [], contents := [(["d", "c"], .text text)], directories := [[], ["d"]] } := by
    rw [saveTo, hrender]
    cbv
  exact ⟨hpart, hgiven _ _ _ _ _ (hread _) ht hgives, text, hrender,
    hrendered _ _ _ hrender (hread _), _, hsave, hsaved _ _ _ hsave⟩

end ClimateBus.Settings
