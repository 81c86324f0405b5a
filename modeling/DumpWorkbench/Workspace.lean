import DumpWorkbench.DumpName

namespace DumpWorkbench

structure Workspace where
  base : Path
  bins : Path
  maps : Path
  searches : Path
deriving DecidableEq, Repr

namespace Workspace

def under (base : Path) : Workspace :=
  let base := base.normalize
  ⟨base, base.join "bins", base.join "mem", base.join "searches"⟩

def directories (w : Workspace) : List Path := [w.bins, w.maps, w.searches]

def dumpPath (w : Workspace) (name ext : String) : Path :=
  (w.bins.join (DumpName.fileName name ext)).normalize

def mapPath (w : Workspace) (name : String) : Path := (w.maps.join s!"{name}.json").normalize

def searchPath (w : Workspace) (name : String) : Path := (w.searches.join name).normalize

/-- The directory of results as it is announced, with the name as it was given. -/
def announcedSearchPath (w : Workspace) (name : String) : Path := w.searches.join name

end Workspace
end DumpWorkbench
