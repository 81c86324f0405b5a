import DumpWorkbench.Fault
import DumpWorkbench.Host
import DumpWorkbench.Workspace

namespace DumpWorkbench.SectionMap

variable {m : Type → Type} [Monad m] [Host m]

/-- Writes the canonical text of a map in place of an earlier one. -/
def store (map : SectionMap) (w : Workspace) (name : String) : ExceptT Fault m Path := do
  let path := w.mapPath name
  let content := Utf8.encode map.encode
  let size := content.length
  Host.log (m := m) ⟨.info, "dumpsift::invoker::map_extraction",
    s!"Writing radare results ({size}) to {path.text}"⟩
  match ← Files.writeFile (m := m) path content with
  | .ok _ => return path
  | .error e => throw (.filesystem path e)

end DumpWorkbench.SectionMap
