import DumpWorkbench.Number
import DumpWorkbench.Settings
import DumpWorkbench.Toml.Reader
import DumpWorkbench.Toml.Writer

namespace DumpWorkbench.Settings

def string? : Toml.Value → Option String
  | .string s => some s
  | _ => none

def path? (v : Toml.Value) : Option Path := (string? v).map Path.mk

def word32? : Toml.Value → Option UInt32
  | .integer i => if 0 ≤ i ∧ i < Number.words32 then some (UInt32.ofNat i.toNat) else none
  | _ => none

def word64? : Toml.Value → Option UInt64
  | .integer i => if 0 ≤ i ∧ i < Number.words64 then some (UInt64.ofNat i.toNat) else none
  | _ => none

/-- The fields of a section with their values: a table gives them by name, an array in order, and a
point in time is a table without any of them. -/
def fields? (names : List String) : Toml.Value → Option Toml.Entries
  | .table _ entries => some entries
  | .array items | .tables items => some (names.zip items)
  | .moment _ => some []
  | _ => none

def field (read : Toml.Value → Option α) (default : α) (entries : Toml.Entries) (name : String) :
    Option α :=
  match entries.get? name with
  | none => some default
  | some v => read v

def fieldsUnder? (names : List String) (document : Toml.Entries) (name : String) :
    Option Toml.Entries :=
  match document.get? name with
  | none => some []
  | some v => fields? names v

/-- The settings of a document, unless a value is of the wrong type. -/
def ofDocument? (document : Toml.Entries) : Option Settings := do
  let default : Settings := {}
  let workspace ← fieldsUnder? ["base_directory", "dump_extension"] document "workspace"
  let tools ← fieldsUnder? ["radare_bin", "sifter_bin", "num_threads"] document "tools"
  let logging ←
    fieldsUnder? ["directory", "file_prefix", "max_files", "level"] document "logging"
  return {
    baseDirectory :=
      ← field (fun v => (path? v).map some) default.baseDirectory workspace "base_directory"
    extension := ← field string? default.extension workspace "dump_extension"
    radare := ← field path? default.radare tools "radare_bin"
    sifter := ← field path? default.sifter tools "sifter_bin"
    threads := ← field word32? default.threads tools "num_threads"
    logDirectory := ← field path? default.logDirectory logging "directory"
    logName := ← field string? default.logName logging "file_prefix"
    logFiles := ← field word64? default.logFiles logging "max_files"
    logLevel := ← field string? default.logLevel logging "level" }

/-- Why a text holds no settings: it is no document, or a value is of the wrong type. -/
inductive Unreadable where
  | malformed (place : Toml.Place)
  | wrongType
deriving DecidableEq, Repr

def Unreadable.message : Unreadable → String
  | .malformed place => s!"TOML parse error at line {place.line}, column {place.column}"
  | .wrongType => "TOML parse error at a value of the wrong type"

def ofText (text : String) : Except Unreadable Settings :=
  match Toml.read text with
  | .error place => .error (.malformed place)
  | .ok document =>
    match ofDocument? document with
    | none => .error .wrongType
    | some s => .ok s

def line (name value : String) : String := name ++ " = " ++ value ++ "\n"

def text (s : Settings) : String :=
  "[workspace]\n" ++
  (match s.baseDirectory with
    | some base => line "base_directory" (Toml.quote base.text)
    | none => "") ++
  line "dump_extension" (Toml.quote s.extension) ++
  "\n[tools]\n" ++
  line "radare_bin" (Toml.quote s.radare.text) ++
  line "sifter_bin" (Toml.quote s.sifter.text) ++
  line "num_threads" (toString s.threads.toNat) ++
  "\n[logging]\n" ++
  line "directory" (Toml.quote s.logDirectory.text) ++
  line "file_prefix" (Toml.quote s.logName) ++
  line "max_files" (toString s.logFiles.toNat) ++
  line "level" (Toml.quote s.logLevel)

/-- The document of settings; integers in it are signed, so that a count of log files past
`2 ^ 63 - 1` has none. -/
def text? (s : Settings) : Option String :=
  if s.logFiles.toNat < Number.words63 then some s.text else none

def unwritable : String := "out-of-range value for u64 type"

def sample : String := text {}

end DumpWorkbench.Settings
