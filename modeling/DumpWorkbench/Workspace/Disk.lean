import DumpWorkbench.Fault
import DumpWorkbench.Host
import DumpWorkbench.Workspace

namespace DumpWorkbench.Workspace

variable {m : Type → Type} [Monad m] [Host m]

def makeDirectory (p : Path) : ExceptT Fault m Unit := do
  match ← Files.makeDirectories (m := m) p with
  | .ok _ => return
  | .error e => throw (.filesystem p e)

/-- Makes the three directories as far as they are missing. -/
def ensure (base : Path) : ExceptT Fault m Workspace := do
  let w := under base
  makeDirectory w.bins
  makeDirectory w.maps
  makeDirectory w.searches
  Host.log (m := m) ⟨.debug, "dumpsift::workspace::layout",
    s!"Workspace layout ready under {w.base.text}"⟩
  return w

def isReady (w : Workspace) : m Bool := do
  if !(← Files.isDirectory w.bins) then return false
  if !(← Files.isDirectory w.maps) then return false
  Files.isDirectory w.searches

def makeSearchPath (w : Workspace) (name : String) : ExceptT Fault m Path := do
  makeDirectory (w.searchPath name)
  return w.searchPath name

end DumpWorkbench.Workspace
