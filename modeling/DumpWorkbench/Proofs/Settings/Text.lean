import DumpWorkbench.Proofs.Toml.Document
import DumpWorkbench.Proofs.Toml.Integer
import DumpWorkbench.Proofs.Toml.String
import DumpWorkbench.Settings.File

namespace DumpWorkbench.Settings

open Toml (Assignment Bare Chars Entries Lines State header sectionLines)

def textKey (name value : String) : Assignment :=
  ⟨name, Toml.stringForm value.toList, .string value⟩

def countKey (name : String) (n : Nat) : Assignment := ⟨name, Nat.toDigits 10 n, .integer n⟩

theorem textKey_valid {name : String} (h : Bare name) (value : String) :
    (textKey name value).Valid := by
  refine ⟨h, Toml.isBlank_stringForm value.toList, fun depth r => ?_⟩
  have hread := Toml.value_stringForm depth value.toList (r := '\n' :: r) (by simp) (by simp)
  rwa [String.ofList_toList] at hread

theorem countKey_valid {name : String} (h : Bare name) {n : Nat} (hn : n < Number.words63) :
    (countKey name n).Valid :=
  ⟨h, Toml.isBlank_digits n, fun depth r => Toml.value_digits depth hn r⟩

theorem textKey_chars (name value : String) :
    (textKey name value).chars = (line name (Toml.quote value)).toList := by
  simp [textKey, Assignment.chars, line, Toml.quote]

theorem countKey_chars (name : String) (n : Nat) :
    (countKey name n).chars = (line name (toString n)).toList := by
  simp [countKey, Assignment.chars, line]

variable (s : Settings)

def workspaceKeys : List Assignment :=
  (s.baseDirectory.map fun base => textKey "base_directory" base.text).toList ++
    [textKey "dump_extension" s.extension]

def toolKeys : List Assignment :=
  [textKey "radare_bin" s.radare.text, textKey "sifter_bin" s.sifter.text,
    countKey "num_threads" s.threads.toNat]

def loggingKeys : List Assignment :=
  [textKey "directory" s.logDirectory.text, textKey "file_prefix" s.logName,
    countKey "max_files" s.logFiles.toNat, textKey "level" s.logLevel]

def lines : List Chars :=
  sectionLines "workspace" s.workspaceKeys ++ ['\n'] :: sectionLines "tools" s.toolKeys ++
    ['\n'] :: sectionLines "logging" s.loggingKeys

theorem flatten_lines : s.lines.flatten = s.text.toList := by
  unfold lines text workspaceKeys toolKeys loggingKeys sectionLines
  cases s.baseDirectory with
  | none => simp [textKey_chars, countKey_chars, header]
  | some base => simp [textKey_chars, countKey_chars, header]

def entry (a : Assignment) : String × Toml.Value := (a.name, a.value)

def root : Entries :=
  [("workspace", .table .header (s.workspaceKeys.map entry)),
    ("tools", .table .header (s.toolKeys.map entry)),
    ("logging", .table .header (s.loggingKeys.map entry))]

variable {s}

theorem workspaceKeys_valid : ∀ a ∈ s.workspaceKeys, a.Valid := by
  have hextension : (textKey "dump_extension" s.extension).Valid := textKey_valid (by decide) _
  unfold workspaceKeys
  cases s.baseDirectory with
  | none => simpa using hextension
  | some base =>
    have hbase : (textKey "base_directory" base.text).Valid := textKey_valid (by decide) _
    simpa using ⟨hbase, hextension⟩

theorem toolKeys_valid : ∀ a ∈ s.toolKeys, a.Valid := by
  have hthreads : s.threads.toNat < Number.words63 := Nat.lt_trans s.threads.toNat_lt (by decide)
  simp only [toolKeys, List.forall_mem_cons]
  exact ⟨textKey_valid (by decide) _, textKey_valid (by decide) _,
    countKey_valid (by decide) hthreads, List.forall_mem_nil _⟩

theorem loggingKeys_valid (h : s.logFiles.toNat < Number.words63) :
    ∀ a ∈ s.loggingKeys, a.Valid := by
  simp only [loggingKeys, List.forall_mem_cons]
  exact ⟨textKey_valid (by decide) _, textKey_valid (by decide) _,
    countKey_valid (by decide) h, textKey_valid (by decide) _, List.forall_mem_nil _⟩

/-- The lines build the three tables, one after the other. -/
theorem lines_root (h : s.logFiles.toNat < Number.words63) :
    Lines ⟨[], []⟩ s.lines ⟨s.root, ["logging"]⟩ := by
  have hworkspaceKeys : (s.workspaceKeys.map (·.name)).Nodup := by
    unfold workspaceKeys
    cases s.baseDirectory with
    | none => simp
    | some base => simp [textKey]
  have htoolKeys : (s.toolKeys.map (·.name)).Nodup := by simp [toolKeys, textKey, countKey]
  have hloggingKeys : (s.loggingKeys.map (·.name)).Nodup := by
    simp [loggingKeys, textKey, countKey]
  have hworkspace : Lines ⟨[], []⟩ (sectionLines "workspace" s.workspaceKeys)
      ⟨[("workspace", .table .header (s.workspaceKeys.map entry))], ["workspace"]⟩ :=
    Toml.lines_section (by decide) workspaceKeys_valid List.not_mem_nil hworkspaceKeys []
  have htools : Lines ⟨[("workspace", .table .header (s.workspaceKeys.map entry))], ["workspace"]⟩
      (sectionLines "tools" s.toolKeys)
      ⟨[("workspace", .table .header (s.workspaceKeys.map entry)),
        ("tools", .table .header (s.toolKeys.map entry))], ["tools"]⟩ :=
    Toml.lines_section (by decide) toolKeys_valid (by simp) htoolKeys ["workspace"]
  have hlogging : Lines ⟨[("workspace", .table .header (s.workspaceKeys.map entry)),
        ("tools", .table .header (s.toolKeys.map entry))], ["tools"]⟩
      (sectionLines "logging" s.loggingKeys) ⟨s.root, ["logging"]⟩ :=
    Toml.lines_section (by decide) (loggingKeys_valid h) (by simp) hloggingKeys ["tools"]
  have hfirst := hworkspace.append (.cons (Toml.line_blank _) htools)
  exact hfirst.append (.cons (Toml.line_blank _) hlogging)

theorem read_text (h : s.logFiles.toNat < Number.words63) : Toml.read s.text = .ok s.root := by
  have hhead : s.lines.flatten.head? = some '[' := rfl
  rw [Toml.read, ← flatten_lines, (lines_root h).document_eq (by rw [hhead]; decide)]
  rfl

def pathValue (p : Path) : Toml.Value := .string p.text

def word32Value (n : UInt32) : Toml.Value := .integer n.toNat

def word64Value (n : UInt64) : Toml.Value := .integer n.toNat

theorem string?_eq_some_iff (v : Toml.Value) (t : String) : string? v = some t ↔ v = .string t := by
  cases v <;> simp [string?]

theorem path?_eq_some_iff (v : Toml.Value) (p : Path) : path? v = some p ↔ v = pathValue p := by
  obtain ⟨text⟩ := p
  simp [path?, pathValue, string?_eq_some_iff]

theorem word_eq_some_iff {α : Type} {read : Toml.Value → Option α} {v : Toml.Value} {a : α}
    {bound : Nat} {ofNat : Nat → α} {toNat : α → Nat}
    (hread : read v = match v with
      | .integer i => if 0 ≤ i ∧ i < bound then some (ofNat i.toNat) else none
      | _ => none)
    (hlt : toNat a < bound) (hof : ofNat (toNat a) = a)
    (hto : ∀ n < bound, toNat (ofNat n) = n) : read v = some a ↔ v = .integer (toNat a) := by
  rw [hread]
  constructor
  · intro h
    split at h
    · rename_i i
      split at h
      · rename_i hi
        have hn := hto i.toNat (by omega)
        obtain rfl := Option.some.inj h
        rw [hn, Int.toNat_of_nonneg hi.1]
      · cases h
    · cases h
  · rintro rfl
    dsimp only
    rw [if_pos (by omega), Int.toNat_natCast, hof]

theorem word32?_eq_some_iff (v : Toml.Value) (n : UInt32) :
    word32? v = some n ↔ v = word32Value n :=
  word_eq_some_iff (by cases v <;> rfl) n.toNat_lt UInt32.ofNat_toNat
    fun _ h => UInt32.toNat_ofNat_of_lt' h

theorem word64?_eq_some_iff (v : Toml.Value) (n : UInt64) :
    word64? v = some n ↔ v = word64Value n :=
  word_eq_some_iff (by cases v <;> rfl) n.toNat_lt UInt64.ofNat_toNat
    fun _ h => UInt64.toNat_ofNat_of_lt' h

theorem string?_string (t : String) : string? (.string t) = some t := rfl

theorem path?_string (t : String) : path? (.string t) = some ⟨t⟩ := rfl

theorem word32?_toNat (n : UInt32) : word32? (.integer n.toNat) = some n :=
  (word32?_eq_some_iff _ n).2 rfl

theorem word64?_toNat (n : UInt64) : word64? (.integer n.toNat) = some n :=
  (word64?_eq_some_iff _ n).2 rfl

section

variable {α : Type} {name key : String}

theorem field_missing (read : Toml.Value → Option α) (default : α) (name : String) :
    field read default [] name = some default := rfl

theorem field_self (read : Toml.Value → Option α) (default : α) (name : String) (v : Toml.Value)
    (es : Entries) : field read default ((name, v) :: es) name = read v := by
  simp [field, Entries.get?]

theorem field_other (read : Toml.Value → Option α) (default : α) (h : name ≠ key) (v : Toml.Value)
    (es : Entries) : field read default ((key, v) :: es) name = field read default es name := by
  have hkey : (name == key) = false := beq_false_of_ne h
  simp [field, Entries.get?, List.lookup_cons, hkey]

end

theorem workspaceKeys_fields (s : Settings) (default : String) :
    field (fun v => (path? v).map some) none (s.workspaceKeys.map entry) "base_directory" =
      some s.baseDirectory ∧
    field string? default (s.workspaceKeys.map entry) "dump_extension" = some s.extension := by
  unfold workspaceKeys
  cases s.baseDirectory with
  | none => simp [entry, textKey, field_missing, field_self, field_other, string?_string]
  | some base => simp [entry, textKey, field_self, field_other, path?_string, string?_string]

theorem toolKeys_fields (s : Settings) (radare sifter : Path) (threads : UInt32) :
    field path? radare (s.toolKeys.map entry) "radare_bin" = some s.radare ∧
    field path? sifter (s.toolKeys.map entry) "sifter_bin" = some s.sifter ∧
    field word32? threads (s.toolKeys.map entry) "num_threads" = some s.threads := by
  simp [toolKeys, entry, textKey, countKey, field_self, field_other, path?_string, word32?_toNat]

theorem loggingKeys_fields (s : Settings) (directory : Path) (name level : String)
    (files : UInt64) :
    field path? directory (s.loggingKeys.map entry) "directory" = some s.logDirectory ∧
    field string? name (s.loggingKeys.map entry) "file_prefix" = some s.logName ∧
    field word64? files (s.loggingKeys.map entry) "max_files" = some s.logFiles ∧
    field string? level (s.loggingKeys.map entry) "level" = some s.logLevel := by
  simp [loggingKeys, entry, textKey, countKey, field_self, field_other, path?_string,
    string?_string, word64?_toNat]

theorem bind_eq_some {α β : Type} {x : Option α} {f : α → Option β} {a : α} {b : β}
    (hx : x = some a) (hf : f a = some b) : (x >>= f) = some b := by
  rw [hx]
  exact hf

theorem ofDocument?_root (s : Settings) : ofDocument? s.root = some s := by
  have hworkspace : fieldsUnder? ["base_directory", "dump_extension"] s.root "workspace" =
      some (s.workspaceKeys.map entry) := by
    simp [fieldsUnder?, root, Entries.get?, fields?]
  have htools : fieldsUnder? ["radare_bin", "sifter_bin", "num_threads"] s.root "tools" =
      some (s.toolKeys.map entry) := by
    simp [fieldsUnder?, root, Entries.get?, fields?, List.lookup_cons]
  have hlogging : fieldsUnder? ["directory", "file_prefix", "max_files", "level"] s.root
      "logging" = some (s.loggingKeys.map entry) := by
    simp [fieldsUnder?, root, Entries.get?, fields?, List.lookup_cons]
  obtain ⟨hbase, hextension⟩ := s.workspaceKeys_fields ({} : Settings).extension
  obtain ⟨hradare, hsifter, hthreads⟩ := s.toolKeys_fields _ _ _
  obtain ⟨hdirectory, hname, hfiles, hlevel⟩ := s.loggingKeys_fields _ _ _ _
  apply bind_eq_some hworkspace
  apply bind_eq_some htools
  apply bind_eq_some hlogging
  apply bind_eq_some hbase
  apply bind_eq_some hextension
  apply bind_eq_some hradare
  apply bind_eq_some hsifter
  apply bind_eq_some hthreads
  apply bind_eq_some hdirectory
  apply bind_eq_some hname
  apply bind_eq_some hfiles
  apply bind_eq_some hlevel
  rfl

/-- Settings are read back from their text. -/
theorem ofText_text (h : s.logFiles.toNat < Number.words63) : ofText s.text = .ok s := by
  rw [ofText, read_text h]
  dsimp only
  rw [ofDocument?_root s]

end DumpWorkbench.Settings
