import DumpWorkbench.Path
import DumpWorkbench.Severity
import DumpWorkbench.Text.Blank

namespace DumpWorkbench

structure Settings where
  baseDirectory : Option Path := none
  extension : String := "DMP"
  radare : Path := ⟨"r2"⟩
  sifter : Path := ⟨"../luau-sifter/target/debug/luau-sifter"⟩
  threads : UInt32 := 3030
  logDirectory : Path := ⟨"."⟩
  logName : String := "analyze_dumps.log"
  logFiles : UInt64 := 7
  logLevel : String := "info"
deriving DecidableEq, Repr

namespace Settings

/-- Why settings are refused. -/
inductive Problem where
  | emptyExtension
  | extensionNotBare (ext : String)
  | noThreads
  | noRadare
  | noSifter
  | noLogFiles
  | unknownLevel (level : String)
  | emptyBase
deriving DecidableEq, Repr

def Problem.message : Problem → String
  | .emptyExtension => "Dump extension must not be empty"
  | .extensionNotBare ext => s!"Dump extension must be a bare extension such as DMP, got: {ext}"
  | .noThreads => "Number of sifter threads must be greater than 0"
  | .noRadare => "radare2 executable path is empty"
  | .noSifter => "Sifter executable path is empty"
  | .noLogFiles => "At least one log file must be retained"
  | .unknownLevel level =>
    s!"Unknown log level '{level}' (expected trace, debug, info, warn, error or off)"
  | .emptyBase => "Base directory must not be empty"

def isBare (ext : String) : Bool := ext.toList.all fun c => c ≠ '.' && c ≠ '/' && c ≠ '\\'

/-- The first problem, in a fixed order. -/
def problem? (s : Settings) : Option Problem :=
  if s.extension = "" then some .emptyExtension
  else if !isBare s.extension then some (.extensionNotBare s.extension)
  else if s.threads = 0 then some .noThreads
  else if s.radare.text = "" then some .noRadare
  else if s.sifter.text = "" then some .noSifter
  else if s.logFiles = 0 then some .noLogFiles
  else if (Threshold.parse? s.logLevel).isNone then some (.unknownLevel s.logLevel)
  else if s.baseDirectory = some ⟨""⟩ then some .emptyBase
  else none

def check (s : Settings) : Except Problem Unit :=
  match s.problem? with
  | some p => .error p
  | none => .ok ()

/-- What the command line says in place of the settings. -/
structure Overrides where
  baseDirectory : Option Path := none
  extension : Option String := none
  radare : Option Path := none
  sifter : Option Path := none
  threads : Option UInt32 := none
  logDirectory : Option Path := none
deriving DecidableEq, Repr

/-- An extension without the space around it and without the dots in front. -/
def bareExtension (ext : String) : String :=
  String.ofList ((Text.trimChars ext.toList).dropWhile (· = '.'))

/-- The settings with the overrides put in. -/
def override (s : Settings) (o : Overrides) : Settings where
  baseDirectory := o.baseDirectory <|> s.baseDirectory
  extension := (o.extension.map bareExtension).getD s.extension
  radare := o.radare.getD s.radare
  sifter := o.sifter.getD s.sifter
  threads := o.threads.getD s.threads
  logDirectory := o.logDirectory.getD s.logDirectory
  logName := s.logName
  logFiles := s.logFiles
  logLevel := s.logLevel

end Settings
end DumpWorkbench
