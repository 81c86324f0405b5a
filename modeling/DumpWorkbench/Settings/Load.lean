import DumpWorkbench.Fault
import DumpWorkbench.Host
import DumpWorkbench.Settings.File

namespace DumpWorkbench.Settings

variable {m : Type → Type} [Monad m] [Host m]

def readText (p : Path) : m (Except IoFault String) := do
  match ← Files.readFile p with
  | .error e => return .error e
  | .ok content =>
    match Utf8.decode? content with
    | some text => return .ok text
    | none => return .error .notText

def loadFrom (p : Path) : ExceptT Fault m Settings := do
  if !(← Files.isPresent (m := m) p) then
    throw (.configuration s!"Configuration file not found: {p.text}")
  match ← readText (m := m) p with
  | .error e => throw (.configuration s!"Failed to read config file {p.text}: {e.message}")
  | .ok text =>
    match ofText text with
    | .error e => throw (.configuration s!"Failed to parse config file {p.text}: {e.message}")
    | .ok s => return s

/-- The files that are looked for when none is named; the first that exists is taken. -/
def defaultFiles : List Path :=
  [⟨"dumpsift.toml"⟩, ⟨"dumpsift.config.toml"⟩, ⟨".dumpsift.toml"⟩]

def firstPresent : List Path → m (Option Path)
  | [] => return none
  | p :: r => do if ← Files.isPresent p then return some p else firstPresent r

/-- The settings of the named file, or of the first default file, or the default settings. -/
def load (named : Option Path) : ExceptT Fault m Settings := do
  match named with
  | some p => loadFrom p
  | none =>
    match ← firstPresent (m := m) defaultFiles with
    | some p => loadFrom p
    | none => return {}

def write (p : Path) (text : String) : ExceptT Fault m Unit := do
  match ← Files.writeFile (m := m) p (Utf8.encode text) with
  | .ok _ => return
  | .error e => throw (.filesystem p e)

def save (s : Settings) (p : Path) : ExceptT Fault m Unit := do
  match s.text? with
  | none => throw (.configuration s!"Failed to serialize config: {unwritable}")
  | some text => write p text

def saveSample (p : Path) : ExceptT Fault m Unit := write p sample

end DumpWorkbench.Settings
