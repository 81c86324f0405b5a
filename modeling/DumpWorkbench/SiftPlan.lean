import DumpWorkbench.Tool
import DumpWorkbench.Workspace

namespace DumpWorkbench

structure SiftPlan where
  sifter : Path
  threads : Nat
  output : Path
  map : Path
  dump : Path
deriving DecidableEq, Repr

namespace SiftPlan

def into (output : Path) (w : Workspace) (sifter : Path) (name ext : String) (threads : Nat) :
    SiftPlan :=
  ⟨sifter, threads, output, w.mapPath name, w.dumpPath name ext⟩

/-- The plan as it is announced, with the result directory not yet made. -/
def announced (w : Workspace) (sifter : Path) (name ext : String) (threads : Nat) : SiftPlan :=
  into (w.announcedSearchPath name) w sifter name ext threads

/-- Pointer, page and pattern searches are all asked for. -/
def command (p : SiftPlan) : Tool.Command :=
  (Tool.Command.new "luau-sifter" p.sifter).args
    ["-n", toString p.threads, "-plr", "-o", p.output.text, "--r2-sections", p.map.text,
      "--dmp", p.dump.text]

end SiftPlan
end DumpWorkbench
