import DumpWorkbench.Fault
import DumpWorkbench.Host
import DumpWorkbench.Text.Blank

namespace DumpWorkbench.Tool

variable {m : Type → Type} [Monad m] [Host m]

def logTarget : String := "dumpsift::invoker::command"

def Command.enter (c : Command) (s : State) : m Command := do
  Host.enter c.tool s
  if c.watched then Host.tell c.tool s
  return { c with state := s }

def exitWarning (tool : String) (code : Option Int) : String :=
  let status := Console.exitCodeText code
  s!"{tool} exited with status {status}; keeping its output"

def stderrNote (tool : String) (stderr : Bytes) : String :=
  let text := String.ofList (Text.trimEnd (Utf8.decodeLossy stderr).toList)
  s!"{tool} stderr: {text}"

def logEnd (tool : String) (o : Output) : m Unit := do
  if !o.success then Host.log ⟨.warn, logTarget, exitWarning tool o.exitCode⟩
  if !o.stderr.isEmpty then Host.log ⟨.debug, logTarget, stderrNote tool o.stderr⟩

/-- Runs the command once. An exit code other than zero is no fault. -/
def Command.run (c : Command) : m (Except Fault Output × Command) := do
  Host.log ⟨.info, logTarget, s!"Running {c.tool}: {c.rendered}"⟩
  let c ← c.enter .running
  let start ← Host.clock
  match ← Host.launch c.words with
  | .error e =>
    let c ← c.enter .failed
    return (.error (.launch c.tool c.program.text e), c)
  | .ok x =>
    let stop ← Host.clock
    let o : Output := ⟨x.stdout, x.stderr, x.code, ⟨stop.nanoseconds - start.nanoseconds⟩⟩
    let c ← c.enter .completed
    logEnd c.tool o
    return (.ok o, c)

end DumpWorkbench.Tool
