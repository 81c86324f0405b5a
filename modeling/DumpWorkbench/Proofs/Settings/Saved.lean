import DumpWorkbench.Proofs.Run.MapExtraction
import DumpWorkbench.Proofs.Settings.Text
import DumpWorkbench.Settings.Load

namespace DumpWorkbench.Settings

open Simulation

variable {s : Settings} {p : Path} {w w' : World} {text : String}

theorem outcome_write_error {e : IoFault} (h : w.tree.openFile w.directory p = .error e)
    (text : String) :
    outcome (write p text : Action Unit) w = (.error (.filesystem p e), w) := by
  unfold write
  rw [outcome_bind_lift, writeFile_of_error h]
  rfl

theorem outcome_write_ok {spot : Location} {old : Bytes} {executable : Bool}
    (h : w.tree.openFile w.directory p = .ok (spot, old, executable)) (text : String) :
    outcome (write p text : Action Unit) w =
      (.ok (), { w with tree := w.tree.put spot (.file (Utf8.encode text) executable) }) := by
  unfold write
  rw [outcome_bind_lift, writeFile_of_ok h]
  rfl

theorem readText_of_ok (hread : w.tree.readFile w.directory p = .ok (Utf8.encode text)) :
    (readText p : Simulation (Except IoFault String)) w = (.ok text, w) := by
  have hcall : (Files.readFile p : Simulation (Except IoFault Bytes)) w =
      (.ok (Utf8.encode text), w) := by
    show (w.tree.readFile w.directory p, w) = _
    rw [hread]
  unfold readText
  simp only [bind, StateT.bind, hcall, Utf8.decode?_encode]
  rfl

theorem outcome_loadFrom_text (hread : w.tree.readFile w.directory p = .ok (Utf8.encode text)) :
    outcome (loadFrom p : Action Settings) w = ((ofText text).mapError fun e =>
      Fault.configuration s!"Failed to parse config file {p.text}: {e.message}", w) := by
  have hpresent : (Files.isPresent p : Simulation Bool) w = (true, w) := by
    show (w.tree.isPresent w.directory p, w) = _
    rw [Tree.isPresent_of_readFile hread]
  unfold loadFrom
  rw [outcome_bind_lift, hpresent]
  dsimp only
  rw [if_neg (by decide), outcome_bind_lift, readText_of_ok hread]
  dsimp only
  cases ofText text <;> rfl

theorem outcome_loadFrom (hread : w.tree.readFile w.directory p = .ok (Utf8.encode text))
    (h : ofText text = .ok s) : outcome (loadFrom p : Action Settings) w = (.ok s, w) := by
  rw [outcome_loadFrom_text hread, h]
  rfl

theorem outcome_save (h : s.logFiles.toNat < Number.words63) :
    outcome (save s p : Action Unit) w = outcome (write p s.text) w := by
  unfold save
  rw [text?, if_pos h]

theorem outcome_save_unwritable (h : Number.words63 ≤ s.logFiles.toNat) :
    outcome (save s p : Action Unit) w =
      (.error (.configuration s!"Failed to serialize config: {unwritable}"), w) := by
  unfold save
  rw [text?, if_neg (Nat.not_lt.2 h)]
  rfl

theorem save_eq_ok_iff : (outcome (save s p : Action Unit) w).1 = .ok () ↔
    s.logFiles.toNat < Number.words63 ∧ ∃ target, w.tree.openFile w.directory p = .ok target := by
  rcases Nat.lt_or_ge s.logFiles.toNat Number.words63 with hlt | hge
  · rw [outcome_save hlt]
    cases hopen : w.tree.openFile w.directory p with
    | error e => simp [outcome_write_error hopen]
    | ok target =>
      obtain ⟨spot, old, executable⟩ := target
      simp [outcome_write_ok hopen, hlt]
  · simp [outcome_save_unwritable hge, Nat.not_lt.2 hge]

theorem loadFrom_saved (h : outcome (save s p : Action Unit) w = (.ok (), w')) :
    outcome (loadFrom p : Action Settings) w' = (.ok s, w') ∧
      ∃ spot, ∀ l, l ≠ spot → w'.tree.get? l = w.tree.get? l := by
  have hsaved : (outcome (save s p : Action Unit) w).1 = .ok () := by rw [h]
  obtain ⟨hlt, ⟨spot, old, executable⟩, hopen⟩ := save_eq_ok_iff.1 hsaved
  -- The text is in the file, so what is loaded is what the text is read as.
  obtain ⟨hread, -, hothers⟩ := Tree.readFile_put hopen (Utf8.encode s.text)
  rw [outcome_save hlt, outcome_write_ok hopen] at h
  obtain ⟨-, rfl⟩ := Prod.mk.inj h
  exact ⟨outcome_loadFrom hread (ofText_text hlt), spot, hothers⟩

/-- Saved settings are loaded from the same path as they were, whatever their texts are, and no
other file has changed. They are saved if their number of log files has 63 bits and a file can be
written at the path. Otherwise nothing has changed, and the number of log files is complained about
before the file is. -/
theorem load_save (s : Settings) (p : Path) (w : World) :
    (∀ w', outcome (save s p : Action Unit) w = (.ok (), w') →
      outcome (loadFrom p : Action Settings) w' = (.ok s, w') ∧
      ∃ spot, ∀ l, l ≠ spot → w'.tree.get? l = w.tree.get? l) ∧
    ((outcome (save s p : Action Unit) w).1 = .ok () ↔
      s.logFiles.toNat < Number.words63 ∧ ∃ target, w.tree.openFile w.directory p = .ok target) ∧
    (∀ e, s.logFiles.toNat < Number.words63 → w.tree.openFile w.directory p = .error e →
      outcome (save s p : Action Unit) w = (.error (.filesystem p e), w)) ∧
    (Number.words63 ≤ s.logFiles.toNat → outcome (save s p : Action Unit) w =
      (.error (.configuration "Failed to serialize config: out-of-range value for u64 type"),
        w)) := by
  refine ⟨fun w' h => loadFrom_saved h, save_eq_ok_iff, ?_, ?_⟩
  · intro e hlt hopen
    rw [outcome_save hlt, outcome_write_error hopen]
  · intro hge
    rw [outcome_save_unwritable hge]
    rfl

/-- Texts with quotes of both kinds, a backslash and line ends, and an empty base directory; a
directory in place of a file; and a number of log files of 64 bits. -/
theorem load_save_quotes :
    let s : Settings := {
      baseDirectory := some ⟨""⟩, extension := "''' \"\"\"\"", radare := ⟨"r'2\\\r"⟩,
      logName := "\n\t'''\x7F" }
    let saved := (outcome (save s ⟨"a"⟩ : Action Unit) World.bare).2
    outcome (loadFrom ⟨"a"⟩ : Action Settings) saved = (.ok s, saved) ∧
    outcome (save s ⟨"/"⟩ : Action Unit) World.bare =
      (.error (.filesystem ⟨"/"⟩ .isDirectory), World.bare) ∧
    outcome (save { s with logFiles := 9223372036854775808 } ⟨"a"⟩ : Action Unit) World.bare =
      (.error (.configuration "Failed to serialize config: out-of-range value for u64 type"),
        World.bare) := by
  intro s saved
  have hfiles : s.logFiles.toNat < Number.words63 := by decide
  have hopen : World.bare.tree.openFile World.bare.directory ⟨"a"⟩ = .ok (["a"], [], false) := rfl
  have hroot : World.bare.tree.openFile World.bare.directory ⟨"/"⟩ = .error .isDirectory := rfl
  have hsaved : outcome (save s ⟨"a"⟩ : Action Unit) World.bare = (.ok (), saved) :=
    Prod.ext ((load_save s ⟨"a"⟩ World.bare).2.1.2 ⟨hfiles, _, hopen⟩) rfl
  exact ⟨((load_save s ⟨"a"⟩ World.bare).1 saved hsaved).1,
    (load_save s ⟨"/"⟩ World.bare).2.2.1 _ hfiles hroot,
    (load_save { s with logFiles := 9223372036854775808 } ⟨"a"⟩ World.bare).2.2.2 (by decide)⟩

end DumpWorkbench.Settings
