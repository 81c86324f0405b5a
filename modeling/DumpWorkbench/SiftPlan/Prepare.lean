import DumpWorkbench.SiftPlan
import DumpWorkbench.Workspace.Disk

namespace DumpWorkbench.SiftPlan

variable {m : Type → Type} [Monad m] [Host m]

/-- The plan, once the directory of results is made. -/
def prepare (w : Workspace) (sifter : Path) (name ext : String) (threads : Nat) :
    ExceptT Fault m SiftPlan := do
  let output ← w.makeSearchPath name
  return into output w sifter name ext threads

end DumpWorkbench.SiftPlan
