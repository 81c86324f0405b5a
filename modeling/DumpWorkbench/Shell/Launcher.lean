import DumpWorkbench.Shell.Launcher.Launch
import DumpWorkbench.World

namespace DumpWorkbench.Shell

def launcher : Launcher := fun environment directory words tree =>
  (launch environment words : Tree.Calls (Except IoFault Exit)) directory tree

end DumpWorkbench.Shell
