import DumpWorkbench.Host
import DumpWorkbench.Tree

namespace DumpWorkbench

abbrev Tree.Calls := ReaderT Location (StateM Tree)

namespace Tree.Calls

def look (f : Tree → Location → α) : Tree.Calls α := fun d t => (f t d, t)

/-- A call that changes the tree, or not if it fails. -/
def change (f : Tree → Location → Except IoFault Tree) : Tree.Calls (Except IoFault Unit) :=
  fun d t =>
    match f t d with
    | .ok t => (.ok (), t)
    | .error e => (.error e, t)

instance : Files Tree.Calls where
  makeDirectories p := fun d t => t.makeDirectories d p
  writeFile p content := change fun t d => t.writeFile d p content
  appendFile p content := change fun t d => t.appendFile d p content
  readFile p := look fun t d => t.readFile d p
  isDirectory p := look fun t d => t.isDirectory d p
  isPresent p := look fun t d => t.isPresent d p
  isExecutable p := look fun t d => t.isExecutable d p
  remove p := change fun t d => t.removeAll d p
  rename p q := change fun t d => t.rename d p q
  setExecutable p executable := change fun t d => t.setExecutable d p executable
  list p := look fun t d => t.list d p
  workingDirectory := look fun _ d => d.path

end Tree.Calls
end DumpWorkbench
