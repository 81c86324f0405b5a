import DumpWorkbench.SectionMap.Store
import DumpWorkbench.Settings.Load
import DumpWorkbench.SiftPlan.Prepare
import DumpWorkbench.Tool.Run

namespace DumpWorkbench

structure Run where
  settings : Settings
  console : Console

namespace Run

variable {m : Type → Type} [Monad m] [Host m]

def logTarget : String := "dumpsift"

def log (severity : Severity) (message : String) : m Unit :=
  Host.log ⟨severity, logTarget, message⟩

def notify (c : Console) (n : Notice) : m Unit := do
  let now ← Host.now
  (c.render now n).forM fun (channel, text) => Host.print channel text

def noBase : Fault := .configuration "No base directory given (use --base-dir)"

def base (r : Run) : Except Fault Path :=
  match r.settings.baseDirectory with
  | some p => .ok p
  | none => .error noBase

def workspace (r : Run) : Except Fault Workspace := r.base.map Workspace.under

def checkName (name : String) : Except Fault Unit :=
  (DumpName.check name).mapError fun e => .configuration e.message

def logged (note : Fault → String) (action : ExceptT Fault m α) : ExceptT Fault m α :=
  tryCatch action fun e => do
    log (m := m) .error (note e)
    throw e

def createLayout (r : Run) : ExceptT Fault m Record := do
  let start ← Host.clock (m := m)
  let base ← r.base
  log (m := m) .info s!"Creating output structure under {base.text}"
  let w ← logged (fun e => s!"Failed creating output structure under {base.text}: {e.message}")
    (Workspace.ensure base)
  notify (m := m) r.console (.success s!"Output structure ready under {w.base.text}")
  let stop ← Host.clock (m := m)
  return .layout w.base ⟨stop.nanoseconds - start.nanoseconds⟩

def logMap (name : String) (map : SectionMap) : m Unit := do
  log .debug
    s!"radare2 reported {map.size} sections ({map.virtualSize} bytes mapped) for {name}"
  map.sections.forM fun s => log .debug ("  " ++ s.summary)

/-- Runs the extraction tool, and keeps the map that it reports. -/
def extractMap (r : Run) (w : Workspace) (name : String) : ExceptT Fault m Record := do
  let dump := w.dumpPath name r.settings.extension
  let query := (Tool.sectionQuery r.settings.radare dump).withProgress true
  let (result, _) ← query.run (m := m)
  let output ← result
  let map ← (SectionMap.decode output.stdout).mapError Fault.ofRefusal
  logMap (m := m) name map
  let path ← map.store w name
  notify (m := m) r.console (.success s!"Wrote {map.size} sections to {path.text}")
  return (Record.ofTool .mapExtraction output (some path)).withSections map.size

def mapExtraction (r : Run) (w : Workspace) (name : String) : ExceptT Fault m Record := do
  log (m := m) .info s!"Extracting memory sections from {name}"
  notify (m := m) r.console (.start s!"Extracting memory sections from {name}")
  let record ← logged
    (fun e => s!"Failed extracting memory sections from {name}: {e.message}")
    (r.extractMap w name)
  log (m := m) .info s!"Done extracting memory sections from {name}"
  return record

def runSifter (base sifter : Path) (name ext : String) (threads : Nat) :
    ExceptT Fault m Tool.Output := do
  let plan ← SiftPlan.prepare (.under base) sifter name ext threads
  let (result, _) ← (plan.command.withProgress true).run (m := m)
  result

/-- The lines of a text, without the line ends. A carriage return belongs to the line end that
follows it. -/
def linesOf : List Char → List (List Char)
  | [] => []
  | '\n' :: r => [] :: linesOf r
  | '\r' :: '\n' :: r => [] :: linesOf r
  | c :: r =>
    match r, linesOf r with
    | [], _ => [[c]]
    | _, [] => [[c]]
    | _, l :: ls => (c :: l) :: ls

def sift (r : Run) (name : String) : ExceptT Fault m Record := do
  log (m := m) .info s!"Sifting through {name} for pointers, lua_Page, and regex"
  notify (m := m) r.console (.start s!"Sifting through {name}")
  let base ← r.base
  let output ← logged (fun e => s!"Failed sifting through {name}: {e.message}")
    (runSifter base r.settings.sifter name r.settings.extension r.settings.threads.toNat)
  (linesOf (Utf8.decodeLossy output.stdout).toList).forM fun line =>
    log (m := m) .debug ("luau-sifter: " ++ String.ofList line)
  log (m := m) .info s!"Done sifting through {name} for pointers, lua_Page, and regex"
  let results := (Workspace.under base).announcedSearchPath name
  notify (m := m) r.console (.success s!"Sifter finished, results in {results.text}")
  return .ofTool .sift output (some results)

def perform (r : Run) (w : Workspace) (name : String) : Operation → ExceptT Fault m Record
  | .createLayout => r.createLayout
  | .mapExtraction => r.mapExtraction w name
  | .sift => r.sift name

def execute (r : Run) (name : String) (requested : List Operation) : ExceptT Fault m Report := do
  checkName name
  let w ← r.workspace
  let started ← Host.now (m := m)
  let records ← (Operation.ordered requested).mapM (r.perform w name)
  return ⟨name, w.base, started, records⟩

def layoutEntry (w : Workspace) : String × String :=
  ("create", s!"{w.bins.text}, {w.maps.text}, {w.searches.text}")

/-- The paths and command lines of a run, each with its label. -/
def plan (r : Run) (name : String) (requested : List Operation) :
    Except Fault (List (String × String)) := do
  checkName name
  let w ← r.workspace
  let ext := r.settings.extension
  let dump := w.dumpPath name ext
  let sifter := SiftPlan.announced w r.settings.sifter name ext r.settings.threads.toNat
  return [("base directory", w.base.text), ("dump", dump.text),
      ("memory map", (w.mapPath name).text)] ++
    (if requested.contains .createLayout then [layoutEntry w] else []) ++
    (if requested.contains .mapExtraction then
      [("radare2", (Tool.sectionQuery r.settings.radare dump).rendered)] else []) ++
    (if requested.contains .sift then [("luau-sifter", sifter.command.rendered)] else [])

end Run
end DumpWorkbench
