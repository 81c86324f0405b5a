import DumpWorkbench.Log.File
import DumpWorkbench.Options.Reader
import DumpWorkbench.Run

namespace DumpWorkbench

variable {m : Type → Type} [Monad m] [Host m]

def Options.settings (o : Options) : ExceptT Fault m Settings := do
  let file ← Settings.load o.config
  let directory ← Files.workingDirectory (m := m)
  let s := file.override (o.overrides directory)
  (s.check).mapError fun p => Fault.configuration p.message
  return s

def Options.run (o : Options) : ExceptT Fault m Run := do
  let s ← o.settings
  let terminal ← Host.terminal (m := m)
  return ⟨s, o.console terminal⟩

namespace Program

def exitSuccess : Nat := 0

def exitLogging : Nat := 1

def exitPanic : Nat := 101

def say (channel : Channel) (text : String) : m Unit := Host.print channel (text ++ "\n")

def filterVariable : String := "RUST_LOG"

/-- The level of the settings, raised by verbosity. -/
def level (configured : String) (verbosity : Nat) : String :=
  if verbosity = 0 then configured else if verbosity = 1 then "debug" else "trace"

/-- The filter of the environment if it can be read, or else the one of the level. -/
def filter (chosen : Option String) (configured : String) (verbosity : Nat) : Log.Filter :=
  ((chosen.bind Log.Filter.parse?)).getD (Log.Filter.program (level configured verbosity))

def consoleThreshold (quiet : Bool) : Threshold := if quiet then .upTo .warn else .upTo .trace

def startLog (s : Settings) (c : Console) : ExceptT Log.Unopened m Unit := do
  let file ← Log.makeFile s
  let chosen ← Host.environment (m := m) filterVariable
  Host.openLog (m := m) ⟨file, filter chosen s.logLevel c.verbosity, consoleThreshold c.quiet⟩

def defaultFile : Path := ⟨"dumpsift.toml"⟩

/-- Writes a file with the default settings. -/
def writeSample (o : Options) : m Nat := do
  let file := o.config.getD defaultFile
  match ← (Settings.saveSample file).run with
  | .ok _ =>
    say .stdout s!"Generated sample configuration file: {file.text}"
    say .stdout "\nTo use this configuration:"
    say .stdout
      s!"  dumpsift --config {file.text} --base-dir <dir> --bin-name <dump> --radare"
    return exitSuccess
  | .error e =>
    say .stderr s!"Failed to generate configuration file: {e.headline}"
    say .stderr s!"Suggestion: {e.suggestion}"
    return e.exitCode

def fail (c : Console) (e : Fault) : m Nat := do
  Run.notify c (.failure e)
  return e.exitCode

/-- Shows what a run would do. -/
def preview (r : Run) (name : String) (operations : List Operation) : m Nat := do
  Run.notify r.console (.info "DRY RUN MODE - nothing will be created or executed")
  match r.plan name operations with
  | .error e => fail r.console e
  | .ok entries =>
    Run.notify r.console (.plan "Execution plan" entries)
    if operations.isEmpty then
      Run.notify r.console (.warning "No operations selected (use -c, --radare or --sifter)")
    return exitSuccess

/-- Carries out a run and shows its report. -/
def perform (r : Run) (name : String) (operations : List Operation) : m Nat := do
  match ← (r.execute name operations).run with
  | .ok report =>
    Run.notify r.console (.report report)
    return if r.console.panics (.report report) then exitPanic else exitSuccess
  | .error e =>
    Run.log .error s!"Run for {name} failed: {e.message}"
    fail r.console e

def logged (o : Options) (r : Run) : m Nat := do
  match o.binName with
  | none => fail r.console (.configuration "No dump name given (use --bin-name)")
  | some name => if o.dryRun then preview r name o.operations else perform r name o.operations

/-- How faults are shown before the options have a say in it. -/
def plainConsole : m Console := do return ⟨.human, 0, false, ← Host.terminal⟩

def follow (o : Options) : m Nat := do
  if o.generateConfig then writeSample o
  else match ← (o.run).run with
    | .error e => fail (← plainConsole) e
    | .ok r =>
      match ← (startLog r.settings r.console).run with
      | .error e =>
        say .stderr s!"Failed to initialize logging: {e.message}"
        return exitLogging
      | .ok _ =>
        let code ← logged o r
        Host.closeLog
        return code

def refuse (e : Options.Refusal) : m Nat := do
  Host.print (if e.isAnswer then .stdout else .stderr) e.printed
  return e.exitCode

def run (arguments : List String) : m Nat := do
  match Options.read arguments with
  | .error e => refuse e
  | .ok o => follow o

end Program
end DumpWorkbench
