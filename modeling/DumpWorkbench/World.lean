import DumpWorkbench.Tree.Calls

namespace DumpWorkbench

/-- What a program that is launched with an environment and from a directory does to a tree, and how
it ends. -/
abbrev Launcher :=
  List (String × String) → Location → List String → Tree → Except IoFault Exit × Tree

inductive Event where
  | launched (words : List String)
  | entered (tool : String) (state : Tool.State)
  | told (tool : String) (state : Tool.State)
  | printed (channel : Channel) (text : String)
  | logged (entry : Log.Entry)
deriving DecidableEq, Repr

structure World where
  tree : Tree
  directory : Location
  launcher : Launcher
  environment : List (String × String)
  terminal : Bool
  time : Timestamp
  sink : Option Log.Sink
  /-- The lines for the log file that are not yet written. -/
  pending : String
  /-- What happened, the earliest first. -/
  events : List Event

namespace World

def record (w : World) (e : Event) : World := { w with events := w.events ++ [e] }

def onTree (w : World) (calls : Tree.Calls α) : α × World :=
  let (result, tree) := calls w.directory w.tree
  (result, { w with tree := tree })

def log (w : World) (e : Log.Entry) : World :=
  let w := w.record (.logged e)
  match w.sink with
  | none => w
  | some sink =>
    if sink.filter.admits e then
      let line := e.line w.time
      let w := { w with pending := w.pending ++ line }
      if sink.console.passes e.severity then w.record (.printed .stderr line) else w
    else w

/-- Writes the pending lines to the log file. -/
def closeLog (w : World) : World :=
  match w.sink with
  | none => w
  | some sink =>
    let (_, w) := w.onTree (Files.appendFile sink.file (Utf8.encode w.pending))
    { w with sink := none, pending := "" }

def launch (w : World) (words : List String) : Except IoFault Exit × World :=
  let (result, tree) := w.launcher w.environment w.directory words w.tree
  (result, { w with tree := tree }.record (.launched words))

end World

abbrev Simulation := StateM World

namespace Simulation

def look (f : World → α) : Simulation α := fun w => (f w, w)

def act (f : World → World) : Simulation Unit := fun w => ((), f w)

instance : Files Simulation where
  makeDirectories p := (·.onTree (Files.makeDirectories p))
  writeFile p content := (·.onTree (Files.writeFile p content))
  appendFile p content := (·.onTree (Files.appendFile p content))
  readFile p := (·.onTree (Files.readFile p))
  isDirectory p := (·.onTree (Files.isDirectory p))
  isPresent p := (·.onTree (Files.isPresent p))
  isExecutable p := (·.onTree (Files.isExecutable p))
  remove p := (·.onTree (Files.remove p))
  rename p q := (·.onTree (Files.rename p q))
  setExecutable p executable := (·.onTree (Files.setExecutable p executable))
  list p := (·.onTree (Files.list p))
  workingDirectory := (·.onTree Files.workingDirectory)

instance : Host Simulation where
  launch words := (·.launch words)
  enter tool state := act (·.record (.entered tool state))
  tell tool state := act (·.record (.told tool state))
  print channel text := act (·.record (.printed channel text))
  log e := act (·.log e)
  openLog sink := act fun w => { w with sink := some sink, pending := "" }
  closeLog := act (·.closeLog)
  now := look (·.time)
  clock := look fun _ => Duration.zero
  environment name := look fun w => w.environment.lookup name
  terminal := look (·.terminal)

end Simulation
end DumpWorkbench
