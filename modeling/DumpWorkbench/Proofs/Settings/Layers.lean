import DumpWorkbench.Proofs.Program.Start
import DumpWorkbench.Proofs.Settings.Saved
import DumpWorkbench.Proofs.Workspace.Containment

namespace DumpWorkbench.Settings

open Simulation
open Toml (Entries Value)

/-- The name of a section with its keys in order. -/
structure Heading where
  name : String
  keys : List String

/-- The values that may stand for a section. -/
inductive Sectional : Value → Prop
  | table (origin : Toml.Origin) (entries : Entries) : Sectional (.table origin entries)
  | array (items : List Value) : Sectional (.array items)
  | tables (items : List Value) : Sectional (.tables items)
  | moment (text : String) : Sectional (.moment text)

namespace Heading

def workspace : Heading := ⟨"workspace", ["base_directory", "dump_extension"]⟩

def tools : Heading := ⟨"tools", ["radare_bin", "sifter_bin", "num_threads"]⟩

def logging : Heading := ⟨"logging", ["directory", "file_prefix", "max_files", "level"]⟩

/-- What a document says for a key: a table says it under the key, an array at the position that
the key has. -/
def value? (heading : Heading) (document : Entries) (key : String) : Option Value :=
  match document.get? heading.name with
  | some (.table _ entries) => Entries.get? entries key
  | some (.array items) | some (.tables items) => items[heading.keys.idxOf key]?
  | _ => none

def entries? (heading : Heading) (document : Entries) : Option Entries :=
  fieldsUnder? heading.keys document heading.name

variable {heading : Heading} {document entries : Entries} {key : String}

theorem get?_zip {names : List String} (h : key ∈ names) (items : List Value) :
    Entries.get? (names.zip items) key = items[names.idxOf key]? := by
  unfold Entries.get?
  induction names generalizing items with
  | nil => cases h
  | cons name names ih =>
    cases items with
    | nil => rfl
    | cons v items =>
      rw [List.zip_cons_cons]
      rcases eq_or_ne key name with rfl | hne
      · rw [List.lookup_cons_self, List.idxOf_cons_self]
        rfl
      · have hrest : key ∈ names := (List.mem_cons.1 h).resolve_left hne
        rw [List.lookup_cons, beq_false_of_ne hne, List.idxOf_cons_ne _ hne.symm, ih hrest]
        rfl

theorem entries?_eq_some_iff : (∃ entries, heading.entries? document = some entries) ↔
    ∀ v, document.get? heading.name = some v → Sectional v := by
  unfold entries? fieldsUnder?
  cases document.get? heading.name with
  | none => simp
  | some v =>
    simp only [Option.some.injEq, forall_eq']
    constructor
    · rintro ⟨entries, h⟩
      cases v with
      | table | array | tables | moment => constructor
      | string | integer | float | boolean => cases h
    · rintro (_ | _ | _ | _) <;> exact ⟨_, rfl⟩

/-- The keys of the section have the values that the document says for them. -/
theorem get?_of_entries? (h : heading.entries? document = some entries)
    (hkey : key ∈ heading.keys) : entries.get? key = heading.value? document key := by
  unfold entries? fieldsUnder? at h
  unfold value?
  cases hv : document.get? heading.name with
  | none =>
    rw [hv] at h
    obtain rfl := Option.some.inj h
    rfl
  | some v =>
    rw [hv] at h
    cases v with
    | table origin members =>
      obtain rfl := Option.some.inj h
      rfl
    | array items | tables items =>
      obtain rfl := Option.some.inj h
      exact get?_zip hkey items
    | moment text =>
      obtain rfl := Option.some.inj h
      rfl
    | string | integer | float | boolean => cases h

end Heading

section

variable {α : Type} {read : Value → Option α} {write : α → Value} {a default : α} {given : Option α}
  {v? : Option Value} {entries : Entries} {name : String}

/-- A value, if there is one, is the one that something is written as. -/
def Written (write : α → Value) (v? : Option Value) : Prop := ∀ v ∈ v?, ∃ a, v = write a

/-- What is given counts, or else what the value was written for. -/
def Said (given : Option α) (v? : Option Value) (write : α → Value) (said : Option α) : Prop :=
  match given, v? with
  | some a, _ => said = some a
  | none, some v => ∃ a, said = some a ∧ v = write a
  | none, none => said = none

/-- If nothing counts there is the default. -/
def Layer (given : Option α) (v? : Option Value) (write : α → Value) (default a : α) : Prop :=
  ∃ said, Said given v? write said ∧ a = said.getD default

theorem said_bind (hread : ∀ v a, read v = some a ↔ v = write a) (h : Written write v?)
    (given : Option α) : Said given v? write (given <|> v?.bind read) := by
  cases given with
  | some a => rfl
  | none =>
    cases v? with
    | none => rfl
    | some v =>
      obtain ⟨a, rfl⟩ := h v rfl
      exact ⟨a, (hread _ a).2 rfl, rfl⟩

theorem Said.eq_bind {said : Option α} (h : Said given v? write said)
    (hread : ∀ v a, read v = some a ↔ v = write a) : said = (given <|> v?.bind read) := by
  cases given with
  | some a => exact h
  | none =>
    cases v? with
    | none => exact h
    | some v =>
      obtain ⟨a, rfl, rfl⟩ := h
      exact ((hread _ a).2 rfl).symm

theorem layer_bind (hread : ∀ v a, read v = some a ↔ v = write a) (h : Written write v?)
    (given : Option α) (default : α) :
    Layer given v? write default ((given <|> v?.bind read).getD default) :=
  ⟨_, said_bind hread h given, rfl⟩

theorem Layer.eq_bind (h : Layer given v? write default a)
    (hread : ∀ v a, read v = some a ↔ v = write a) :
    a = (given <|> v?.bind read).getD default := by
  obtain ⟨said, hsaid, rfl⟩ := h
  rw [hsaid.eq_bind hread]

theorem field_eq_some_iff (hread : ∀ v a, read v = some a ↔ v = write a) :
    field read default entries name = some a ↔
      Written write (entries.get? name) ∧ ((entries.get? name).bind read).getD default = a := by
  unfold field Written
  simp only [← hread]
  cases entries.get? name with
  | none => simp
  | some v => cases hv : read v <;> simp [hv]

theorem field_some_eq_some_iff {a? : Option α} (hread : ∀ v a, read v = some a ↔ v = write a) :
    field (fun v => (read v).map some) none entries name = some a? ↔
      Written write (entries.get? name) ∧ (entries.get? name).bind read = a? := by
  unfold field Written
  simp only [← hread]
  cases entries.get? name with
  | none => simp
  | some v => cases hv : read v <;> simp [hv]

end

open Heading (workspace tools logging) in
/-- Every section is one, and every key has a value of its type or none. Nothing is asked of other
keys and tables. -/
structure WellTyped (document : Entries) : Prop where
  sections : ∀ heading ∈ [workspace, tools, logging],
    ∀ v, document.get? heading.name = some v → Sectional v
  baseDirectory : Written pathValue (workspace.value? document "base_directory")
  extension : Written .string (workspace.value? document "dump_extension")
  radare : Written pathValue (tools.value? document "radare_bin")
  sifter : Written pathValue (tools.value? document "sifter_bin")
  threads : Written word32Value (tools.value? document "num_threads")
  logDirectory : Written pathValue (logging.value? document "directory")
  logName : Written .string (logging.value? document "file_prefix")
  logFiles : Written word64Value (logging.value? document "max_files")
  logLevel : Written .string (logging.value? document "level")

open Heading (workspace tools logging) in
/-- What the overrides say, or else what the document says, or else the default. -/
structure Effective (o : Overrides) (document : Entries) (s : Settings) : Prop where
  baseDirectory : Said o.baseDirectory (workspace.value? document "base_directory") pathValue
    s.baseDirectory
  extension : Layer (o.extension.map bareExtension) (workspace.value? document "dump_extension")
    .string "DMP" s.extension
  radare : Layer o.radare (tools.value? document "radare_bin") pathValue ⟨"r2"⟩ s.radare
  sifter : Layer o.sifter (tools.value? document "sifter_bin") pathValue
    ⟨"../luau-sifter/target/debug/luau-sifter"⟩ s.sifter
  threads : Layer o.threads (tools.value? document "num_threads") word32Value 3030 s.threads
  logDirectory : Layer o.logDirectory (logging.value? document "directory") pathValue ⟨"."⟩
    s.logDirectory
  logName : Layer none (logging.value? document "file_prefix") .string "analyze_dumps.log" s.logName
  logFiles : Layer none (logging.value? document "max_files") word64Value 7 s.logFiles
  logLevel : Layer none (logging.value? document "level") .string "info" s.logLevel

open Heading (workspace tools logging) in
/-- The effective settings of a document, as they are computed from its values. -/
def layered (o : Overrides) (document : Entries) : Settings where
  baseDirectory := o.baseDirectory <|> (workspace.value? document "base_directory").bind path?
  extension := (o.extension.map bareExtension <|>
    (workspace.value? document "dump_extension").bind string?).getD "DMP"
  radare := (o.radare <|> (tools.value? document "radare_bin").bind path?).getD ⟨"r2"⟩
  sifter := (o.sifter <|> (tools.value? document "sifter_bin").bind path?).getD
    ⟨"../luau-sifter/target/debug/luau-sifter"⟩
  threads := (o.threads <|> (tools.value? document "num_threads").bind word32?).getD 3030
  logDirectory := (o.logDirectory <|> (logging.value? document "directory").bind path?).getD ⟨"."⟩
  logName := ((logging.value? document "file_prefix").bind string?).getD "analyze_dumps.log"
  logFiles := ((logging.value? document "max_files").bind word64?).getD 7
  logLevel := ((logging.value? document "level").bind string?).getD "info"

theorem effective_layered {document : Entries} (h : WellTyped document) (o : Overrides) :
    Effective o document (layered o document) where
  baseDirectory := said_bind path?_eq_some_iff h.baseDirectory _
  extension := layer_bind string?_eq_some_iff h.extension _ _
  radare := layer_bind path?_eq_some_iff h.radare _ _
  sifter := layer_bind path?_eq_some_iff h.sifter _ _
  threads := layer_bind word32?_eq_some_iff h.threads _ _
  logDirectory := layer_bind path?_eq_some_iff h.logDirectory _ _
  logName := layer_bind string?_eq_some_iff h.logName none _
  logFiles := layer_bind word64?_eq_some_iff h.logFiles none _
  logLevel := layer_bind string?_eq_some_iff h.logLevel none _

theorem Effective.eq_layered {o : Overrides} {document : Entries} {s : Settings}
    (h : Effective o document s) : s = layered o document := by
  obtain ⟨base, ext, radare, sifter, threads, directory, name, files, level⟩ := s
  obtain rfl := h.baseDirectory.eq_bind path?_eq_some_iff
  obtain rfl := h.extension.eq_bind string?_eq_some_iff
  obtain rfl := h.radare.eq_bind path?_eq_some_iff
  obtain rfl := h.sifter.eq_bind path?_eq_some_iff
  obtain rfl := h.threads.eq_bind word32?_eq_some_iff
  obtain rfl := h.logDirectory.eq_bind path?_eq_some_iff
  obtain rfl := h.logName.eq_bind string?_eq_some_iff
  obtain rfl := h.logFiles.eq_bind word64?_eq_some_iff
  obtain rfl := h.logLevel.eq_bind string?_eq_some_iff
  rfl

variable {document workspace tools logging : Entries} {s : Settings}

/-- Once the sections are found, each key is read by itself. -/
theorem ofDocument?_of_entries (hworkspace : Heading.workspace.entries? document = some workspace)
    (htools : Heading.tools.entries? document = some tools)
    (hlogging : Heading.logging.entries? document = some logging) :
    ofDocument? document = some s ↔ WellTyped document ∧ layered {} document = s := by
  have hsections : ∀ heading ∈ [Heading.workspace, Heading.tools, Heading.logging],
      ∀ v, document.get? heading.name = some v → Sectional v := by
    simp only [List.forall_mem_cons, ← Heading.entries?_eq_some_iff]
    exact ⟨⟨_, hworkspace⟩, ⟨_, htools⟩, ⟨_, hlogging⟩, List.forall_mem_nil _⟩
  have hws {key : String} (hkey : key ∈ Heading.workspace.keys) :=
    Heading.get?_of_entries? hworkspace hkey
  have hts {key : String} (hkey : key ∈ Heading.tools.keys) :=
    Heading.get?_of_entries? htools hkey
  have hls {key : String} (hkey : key ∈ Heading.logging.keys) :=
    Heading.get?_of_entries? hlogging hkey
  -- What is left is a chain of nine fields, each with a value that can be read.
  dsimp only [Heading.entries?, Heading.workspace, Heading.tools, Heading.logging]
    at hworkspace htools hlogging
  simp only [ofDocument?, hworkspace, htools, hlogging, Option.bind_eq_bind, Option.bind_some,
    Option.bind_eq_some_iff, field_some_eq_some_iff path?_eq_some_iff,
    field_eq_some_iff path?_eq_some_iff, field_eq_some_iff string?_eq_some_iff,
    field_eq_some_iff word32?_eq_some_iff, field_eq_some_iff word64?_eq_some_iff, and_assoc,
    exists_and_left, exists_eq_left']
  simp (disch := decide) only [hws, hts, hls]
  constructor
  · rintro ⟨hbase, hextension, hradare, hsifter, hthreads, hdirectory, hname, hfiles, hlevel, hs⟩
    exact ⟨⟨hsections, hbase, hextension, hradare, hsifter, hthreads, hdirectory, hname, hfiles,
      hlevel⟩, Option.some.inj hs⟩
  · rintro ⟨h, rfl⟩
    exact ⟨h.baseDirectory, h.extension, h.radare, h.sifter, h.threads, h.logDirectory, h.logName,
      h.logFiles, h.logLevel, rfl⟩

/-- A document has settings if and only if it is well typed, and they are what it says over the
defaults. -/
theorem ofDocument?_eq_some_iff :
    ofDocument? document = some s ↔ WellTyped document ∧ layered {} document = s := by
  constructor
  · intro h
    have hfound := h
    unfold ofDocument? at hfound
    obtain ⟨workspace, hworkspace, hfound⟩ := Option.bind_eq_some_iff.1 hfound
    obtain ⟨tools, htools, hfound⟩ := Option.bind_eq_some_iff.1 hfound
    obtain ⟨logging, hlogging, -⟩ := Option.bind_eq_some_iff.1 hfound
    exact (ofDocument?_of_entries hworkspace htools hlogging).1 h
  · intro h
    have hsections := h.1.sections
    simp only [List.forall_mem_cons, ← Heading.entries?_eq_some_iff] at hsections
    obtain ⟨⟨workspace, hworkspace⟩, ⟨tools, htools⟩, ⟨logging, hlogging⟩, -⟩ := hsections
    exact (ofDocument?_of_entries hworkspace htools hlogging).2 h

theorem ofDocument?_eq_none (h : ¬ WellTyped document) : ofDocument? document = none := by
  cases hs : ofDocument? document with
  | none => rfl
  | some s => exact absurd (ofDocument?_eq_some_iff.1 hs).1 h

/-- Characters without the blanks at both ends. -/
structure Trimmed (cs trimmed : List Char) : Prop where
  blanks : ∃ before after, cs = before ++ (trimmed ++ after) ∧
    (∀ c ∈ before, Text.isBlank c = true) ∧ ∀ c ∈ after, Text.isBlank c = true
  first : ∀ c ∈ trimmed.head?, Text.isBlank c = false
  last : ∀ c ∈ trimmed.getLast?, Text.isBlank c = false

/-- A text without the blanks at both ends and without the dots that are then in front. -/
def Stripped (ext bare : String) : Prop :=
  ∃ dots, Trimmed ext.toList (dots ++ bare.toList) ∧ (∀ c ∈ dots, c = '.') ∧
    bare.toList.head? ≠ some '.'

theorem eq_false_of_head?_dropWhile {q : Char → Bool} {cs : List Char} {c : Char}
    (hc : (cs.dropWhile q).head? = some c) : q c = false := by
  have hhead := List.head?_dropWhile_not q cs
  rw [hc] at hhead
  exact hhead

theorem trimmed_trimChars (cs : List Char) : Trimmed cs (Text.trimChars cs) where
  blanks := DumpName.exists_blanks cs
  first := by
    intro c hc
    rw [← DumpName.trimStart_trimChars] at hc
    exact eq_false_of_head?_dropWhile hc
  last := by
    intro c hc
    rw [Text.trimChars, Text.trimEnd, List.getLast?_reverse] at hc
    exact eq_false_of_head?_dropWhile hc

theorem stripped_bareExtension (ext : String) : Stripped ext (bareExtension ext) := by
  have hbare : (bareExtension ext).toList = (Text.trimChars ext.toList).dropWhile (· = '.') :=
    String.toList_ofList
  refine ⟨(Text.trimChars ext.toList).takeWhile (· = '.'), ?_, fun c hc => ?_, fun hdot => ?_⟩
  · rw [hbare, List.takeWhile_append_dropWhile]
    exact trimmed_trimChars ext.toList
  · exact of_decide_eq_true (List.all_eq_true.1 List.all_takeWhile c hc)
  · rw [hbare] at hdot
    exact absurd (eq_false_of_head?_dropWhile hdot) (by decide)

/-- What the newer overrides say, or else what the older ones say. -/
def Overrides.orElse (newer older : Overrides) : Overrides where
  baseDirectory := newer.baseDirectory <|> older.baseDirectory
  extension := newer.extension <|> older.extension
  radare := newer.radare <|> older.radare
  sifter := newer.sifter <|> older.sifter
  threads := newer.threads <|> older.threads
  logDirectory := newer.logDirectory <|> older.logDirectory

theorem override_override (s : Settings) (older newer : Overrides) :
    (s.override older).override newer = s.override (newer.orElse older) := by
  simp [override, Overrides.orElse, Option.or_assoc, Option.getD_or, Option.map_or]

theorem Overrides.orElse_self (o : Overrides) : o.orElse o = o := by
  simp [orElse]

theorem override_layered (o : Overrides) (document : Entries) :
    (layered {} document).override o = layered o document := by
  simp [override, layered, Option.getD_or]

/-- The file that settings are read from: the named one, or else the first default one that
exists. -/
def chosenFile (named : Option Path) (w : World) : Option Path :=
  named <|> [⟨"dumpsift.toml"⟩, ⟨"dumpsift.config.toml"⟩, ⟨".dumpsift.toml"⟩].find?
    (w.tree.isPresent w.directory ·)

/-- The chosen file has the text of the document, or there is neither. -/
def Holds (w : World) (document : Entries) : Option Path → Prop
  | none => document = []
  | some p => ∃ text, w.tree.readFile w.directory p = .ok (Utf8.encode text) ∧
      Toml.read text = .ok document

variable {w : World} {named : Option Path}

theorem firstPresent_apply (ps : List Path) (w : World) :
    (firstPresent ps : Simulation (Option Path)) w =
      (ps.find? (w.tree.isPresent w.directory ·), w) := by
  induction ps with
  | nil => rfl
  | cons p ps ih =>
    have hpresent : (Files.isPresent p : Simulation Bool) w =
        (w.tree.isPresent w.directory p, w) := rfl
    unfold firstPresent
    rw [bind_apply, hpresent, List.find?_cons]
    cases w.tree.isPresent w.directory p with
    | true => rfl
    | false => exact ih

theorem outcome_load (named : Option Path) (w : World) :
    outcome (load named : Action Settings) w =
      match chosenFile named w with
      | some p => outcome (loadFrom p : Action Settings) w
      | none => (.ok {}, w) := by
  cases named with
  | some p => rfl
  | none =>
    have hchosen : chosenFile none w = defaultFiles.find? (w.tree.isPresent w.directory ·) := rfl
    unfold load
    dsimp only
    rw [outcome_bind_lift, firstPresent_apply, hchosen]
    cases defaultFiles.find? (w.tree.isPresent w.directory ·) <;> rfl

theorem outcome_load_of_holds (hfile : Holds w document (chosenFile named w)) :
    ∃ message, outcome (load named : Action Settings) w =
      (match ofDocument? document with
        | some s => .ok s
        | none => .error (.configuration message), w) := by
  rw [outcome_load]
  cases hchosen : chosenFile named w with
  | none =>
    -- Without a file the settings are those of the empty document.
    rw [hchosen] at hfile
    obtain rfl : document = [] := hfile
    exact ⟨"", rfl⟩
  | some p =>
    rw [hchosen] at hfile
    obtain ⟨text, hread, hdocument⟩ := hfile
    dsimp only
    rw [outcome_loadFrom_text hread, ofText, hdocument]
    dsimp only
    refine ⟨s!"Failed to parse config file {p.text}: {Unreadable.wrongType.message}", ?_⟩
    cases ofDocument? document <;> rfl

theorem outcome_settings {o : Options} {file : Settings}
    (h : outcome (load o.config : Action Settings) w = (.ok file, w)) :
    outcome (o.settings : Action Settings) w =
      (((file.override (o.overrides w.directory.path)).check.mapError
        (Fault.configuration ·.message)).map
          fun _ => file.override (o.overrides w.directory.path), w) := by
  have hdirectory : (Files.workingDirectory : Simulation Path) w = (w.directory.path, w) := rfl
  unfold Options.settings
  rw [outcome_bind_ok (congrArg Prod.fst h), h, outcome_bind_lift, hdirectory]
  dsimp only
  cases (file.override (o.overrides w.directory.path)).check <;> rfl

theorem isAbsolute_path (l : Location) : l.path.isAbsolute = true := by
  simp [Location.path, Path.isAbsolute, Path.separator]

theorem Effective.baseDirectory_of_given {o : Options} {p : Path} {l : Location}
    (h : Effective (o.overrides l.path) document s) (hp : o.baseDir = some p) :
    ∃ base, s.baseDirectory = some base ∧ base.isAbsolute = true ∧
      (p.isAbsolute = true → base = p) ∧
      (p.isAbsolute = false → base = l.path.join p.text) := by
  have hbase : s.baseDirectory = some (Options.anchored l.path p) := by
    rw [h.eq_layered]
    simp [layered, Options.overrides, hp]
  exact ⟨_, hbase, Options.isAbsolute_anchored (isAbsolute_path l) p,
    fun h => if_pos h, fun h => if_neg (by rw [h]; decide)⟩

theorem Effective.extension_of_given {o : Options} {directory : Path} {ext : String}
    (h : Effective (o.overrides directory) document s) (hext : o.extension = some ext) :
    Stripped ext s.extension := by
  have hlayered : s.extension = bareExtension ext := by
    rw [h.eq_layered]
    simp [layered, Options.overrides, hext]
  rw [hlayered]
  exact stripped_bareExtension ext

/-- Settings are what the command line says, or else what the file says, or else the defaults, and
only what comes out is checked. A document with a value of the wrong type is refused, whatever is
said in its place. Overrides that follow others count before them. -/
theorem settings_layered (o : Options) {w : World} {document : Entries}
    (hfile : Holds w document (chosenFile o.config w)) :
    (WellTyped document → ∃ s, Effective (o.overrides w.directory.path) document s) ∧
    (WellTyped document → ∀ s, Effective (o.overrides w.directory.path) document s →
      (∀ p, o.baseDir = some p → ∃ base, s.baseDirectory = some base ∧ base.isAbsolute = true ∧
        (p.isAbsolute = true → base = p) ∧
        (p.isAbsolute = false → base = w.directory.path.join p.text)) ∧
      (∀ ext, o.extension = some ext → Stripped ext s.extension) ∧
      Layer o.radareBin (Heading.tools.value? document "radare_bin") pathValue ⟨"r2"⟩ s.radare ∧
      Layer o.sifterBin (Heading.tools.value? document "sifter_bin") pathValue
        ⟨"../luau-sifter/target/debug/luau-sifter"⟩ s.sifter ∧
      Layer o.threads (Heading.tools.value? document "num_threads") word32Value 3030 s.threads ∧
      Layer o.logDir (Heading.logging.value? document "directory") pathValue ⟨"."⟩ s.logDirectory ∧
      (outcome (o.settings : Action Settings) w = (.ok s, w) ↔ s.check = .ok ()) ∧
      ∀ problem, s.check = .error problem →
        outcome (o.settings : Action Settings) w = (.error (.configuration problem.message), w)) ∧
    (¬ WellTyped document → ∃ message,
      outcome (o.settings : Action Settings) w = (.error (.configuration message), w)) ∧
    ∀ (s : Settings) (o₁ o₂ : Overrides),
      (s.override o₁).override o₁ = s.override o₁ ∧
      (s.override o₁).override o₂ = s.override (o₂.orElse o₁) := by
  obtain ⟨message, hload⟩ := outcome_load_of_holds hfile
  refine ⟨fun h => ⟨_, effective_layered h _⟩, fun h s hs => ?_, fun h => ⟨message, ?_⟩,
    fun s o₁ o₂ => ?_⟩
  · rw [ofDocument?_eq_some_iff.2 ⟨h, rfl⟩] at hload
    have hsettings := outcome_settings hload
    rw [override_layered, ← hs.eq_layered] at hsettings
    refine ⟨fun p hp => hs.baseDirectory_of_given hp, fun ext hext => hs.extension_of_given hext,
      hs.radare, hs.sifter, hs.threads, hs.logDirectory, ?_⟩
    rw [hsettings]
    cases hcheck : s.check with
    | ok _ =>
      refine ⟨iff_of_true rfl rfl, fun problem hproblem => ?_⟩
      cases hproblem
    | error refusal =>
      refine ⟨iff_of_false (fun hended => ?_) (fun hpassed => ?_), fun problem hproblem => ?_⟩
      · cases congrArg Prod.fst hended
      · cases hpassed
      · obtain rfl := Except.error.inj hproblem
        rfl
  · rw [ofDocument?_eq_none h] at hload
    unfold Options.settings
    rw [outcome_bind_error (congrArg Prod.fst hload), hload]
  · have hself := override_override s o₁ o₁
    rw [o₁.orElse_self] at hself
    exact ⟨hself, override_override s o₁ o₂⟩

/-- The first default file is missing, and the second one has a number of threads that is refused
unless it is replaced, a key too many and a section too many. -/
theorem settings_layered_replaced :
    let text := "[tools]\nnum_threads = 0\nradare_bin = \"/opt/r2\"\ncolour = \"red\"\n" ++
      "[other]\nlevel = \"off\"\n"
    let w : World := { World.bare with
      tree := World.bare.tree.put ["dumpsift.config.toml"] (.file (Utf8.encode text) false) }
    let o : Options := { baseDir := some ⟨"work"⟩, extension := some " ..dmp " }
    let replaced : Options := { o with threads := some 8 }
    outcome (o.settings : Action Settings) w =
      (.error (.configuration "Number of sifter threads must be greater than 0"), w) ∧
    outcome (replaced.settings : Action Settings) w =
      (.ok {
        baseDirectory := some ⟨"/work"⟩, extension := "dmp", radare := ⟨"/opt/r2"⟩,
        threads := 8 }, w) := by
  intro text w o replaced
  let toolKeys := [countKey "num_threads" 0, textKey "radare_bin" "/opt/r2", textKey "colour" "red"]
  let otherKeys := [textKey "level" "off"]
  let document : Entries :=
    [("tools", .table .header (toolKeys.map entry)),
      ("other", .table .header (otherKeys.map entry))]
  -- The text is cut into its lines, for the reader as a whole is too much to evaluate.
  have hread : Toml.read text = .ok document := by
    have htoolKeys : ∀ a ∈ toolKeys, a.Valid := by
      simp only [toolKeys, List.forall_mem_cons]
      exact ⟨countKey_valid (by decide) (by decide), textKey_valid (by decide) _,
        textKey_valid (by decide) _, List.forall_mem_nil _⟩
    have hotherKeys : ∀ a ∈ otherKeys, a.Valid := by
      simp only [otherKeys, List.forall_mem_singleton]
      exact textKey_valid (by decide) _
    have htools : Toml.Lines ⟨[], []⟩ (Toml.sectionLines "tools" toolKeys)
        ⟨[("tools", .table .header (toolKeys.map entry))], ["tools"]⟩ :=
      Toml.lines_section (by decide) htoolKeys List.not_mem_nil (by decide) []
    have hother : Toml.Lines ⟨[("tools", .table .header (toolKeys.map entry))], ["tools"]⟩
        (Toml.sectionLines "other" otherKeys) ⟨document, ["other"]⟩ :=
      Toml.lines_section (by decide) hotherKeys (by decide) (by decide) ["tools"]
    have htext : text.toList =
        (Toml.sectionLines "tools" toolKeys ++ Toml.sectionLines "other" otherKeys).flatten := by
      decide
    rw [Toml.read, htext, (htools.append hother).document_eq (by decide)]
    rfl
  have hfile : Holds w document (chosenFile none w) := ⟨text, rfl, hread⟩
  have hwell : WellTyped document := (ofDocument?_eq_some_iff (s := layered {} document)).1 rfl |>.1
  refine ⟨?_, ?_⟩
  · obtain ⟨-, -, -, -, -, -, -, hrefused⟩ :=
      (settings_layered o hfile).2.1 hwell _ (effective_layered hwell _)
    exact hrefused .noThreads (by decide)
  · obtain ⟨-, -, -, -, -, -, hpasses, -⟩ :=
      (settings_layered replaced hfile).2.1 hwell _ (effective_layered hwell _)
    have hlayered : layered (replaced.overrides w.directory.path) document = {
        baseDirectory := some ⟨"/work"⟩, extension := "dmp", radare := ⟨"/opt/r2"⟩,
        threads := 8 } := by
      decide
    rw [hlayered] at hpasses
    exact hpasses.2 (by decide)

end DumpWorkbench.Settings
