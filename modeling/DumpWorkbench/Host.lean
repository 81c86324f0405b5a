import DumpWorkbench.Console
import DumpWorkbench.Log.Filter
import DumpWorkbench.IoFault

namespace DumpWorkbench

/-- Both streams of a program that ended, and its exit code unless a signal ended it. -/
structure Exit where
  stdout : Bytes
  stderr : Bytes
  code : Option Int
deriving DecidableEq, Repr

/-- The calls on files. -/
class Files (m : Type → Type) where
  makeDirectories : Path → m (Except IoFault Unit)
  writeFile : Path → Bytes → m (Except IoFault Unit)
  appendFile : Path → Bytes → m (Except IoFault Unit)
  readFile : Path → m (Except IoFault Bytes)
  isDirectory : Path → m Bool
  isPresent : Path → m Bool
  isExecutable : Path → m Bool
  remove : Path → m (Except IoFault Unit)
  rename : Path → Path → m (Except IoFault Unit)
  setExecutable : Path → Bool → m (Except IoFault Unit)
  /-- The names in a directory, the oldest first. -/
  list : Path → m (Except IoFault (List String))
  workingDirectory : m Path

/-- All calls of a run: files, programs, output, log lines, clocks and surroundings. -/
class Host (m : Type → Type) extends Files m where
  launch : List String → m (Except IoFault Exit)
  /-- A command has entered a state. -/
  enter : String → Tool.State → m Unit
  /-- Whoever asked for it is told of a state. -/
  tell : String → Tool.State → m Unit
  print : Channel → String → m Unit
  log : Log.Entry → m Unit
  openLog : Log.Sink → m Unit
  closeLog : m Unit
  now : m Timestamp
  clock : m Duration
  environment : String → m (Option String)
  terminal : m Bool

end DumpWorkbench
