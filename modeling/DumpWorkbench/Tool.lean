import DumpWorkbench.Duration
import DumpWorkbench.Path
import DumpWorkbench.Shell.Quote
import DumpWorkbench.Text.Quoted
import DumpWorkbench.Text.Utf8

namespace DumpWorkbench.Tool

inductive State where
  | idle
  | running
  | completed
  | failed
deriving DecidableEq, Repr

def State.key : State → String
  | .idle => "idle"
  | .running => "running"
  | .completed => "completed"
  | .failed => "failed"

def State.title : State → String
  | .idle => "Idle"
  | .running => "Running"
  | .completed => "Completed"
  | .failed => "Failed"

/-- A command: the tool's name for messages, the program, its arguments, the state it is in, and
whether someone asked to be told of every state that it enters. -/
structure Command where
  tool : String
  program : Path
  arguments : List String
  state : State
  watched : Bool
deriving DecidableEq, Repr

namespace Command

def new (tool : String) (program : Path) : Command := ⟨tool, program, [], .idle, false⟩

def withProgress (c : Command) (watched : Bool) : Command := { c with watched := watched }

def arg (c : Command) (word : String) : Command := { c with arguments := c.arguments ++ [word] }

def args (c : Command) (words : List String) : Command :=
  { c with arguments := c.arguments ++ words }

def words (c : Command) : List String := c.program.text :: c.arguments

/-- The command as it can be pasted into a shell. -/
def rendered (c : Command) : String := Shell.commandLine c.words

def description (c : Command) : String :=
  let tool := Text.quoted c.tool
  let program := Text.quoted c.program.text
  let arguments := ", ".intercalate (c.arguments.map Text.quoted)
  "ToolCommand \x7b tool: " ++ tool ++ ", program: " ++ program ++ ", args: [" ++ arguments ++
    "], state: " ++ c.state.title ++ ", .. \x7d"

end Command

/-- What a finished run leaves: both streams, the exit code unless a signal ended the run, and the
time it took. -/
structure Output where
  stdout : Bytes
  stderr : Bytes
  exitCode : Option Int
  elapsed : Duration

def Output.success (o : Output) : Bool := o.exitCode == some 0

/-- The command that makes radare2 list the sections of a dump. -/
def sectionQuery (radare : Path) (dump : Path) : Command :=
  (Command.new "radare2" radare).args ["-qc", "iSj"] |>.arg dump.text

end DumpWorkbench.Tool
