import DumpWorkbench.IoFault
import DumpWorkbench.Path
import DumpWorkbench.SectionMap

namespace DumpWorkbench

inductive Fault where
  | configuration (message : String)
  | filesystem (path : Path) (cause : IoFault)
  | launch (tool program : String) (cause : IoFault)
  | unreadable (context : String) (cause : Json.ReadError)
  | malformed (context message : String)
deriving DecidableEq, Repr

namespace Fault

def message : Fault → String
  | .configuration message => s!"Configuration error: {message}"
  | .filesystem path cause => s!"Filesystem operation failed on {path.text}: {cause.message}"
  | .launch tool program cause => s!"Failed to launch {tool} ({program}): {cause.message}"
  | .unreadable context cause => s!"Failed to decode {context}: {cause.message}"
  | .malformed context message => s!"Malformed section map from {context}: {message}"

def headline : Fault → String
  | .configuration message => s!"Configuration error: {message}"
  | .filesystem path cause => s!"Cannot write to {path.text}: {cause.message}"
  | .launch tool program cause =>
    if cause.isNotFound then s!"{tool} executable not found: {program}"
    else s!"Could not start {tool} ({program})"
  | .unreadable context _ => s!"Output of {context} is not valid JSON"
  | .malformed context message => s!"Unexpected section map layout from {context}: {message}"

def suggestion : Fault → String
  | .configuration _ =>
    "Check the command line flags and your dumpsift.toml for missing or invalid values."
  | .filesystem _ _ =>
    "Ensure the base directory exists on a writable filesystem and you have permission to " ++
      "create directories in it."
  | .launch tool _ _ =>
    if tool = "radare2" then "Install radare2 or point --radare-bin at the r2 executable."
    else "Build luau-sifter or point --sifter-bin at the compiled executable."
  | .unreadable _ _ | .malformed _ _ =>
    "Run radare2 manually against the dump to inspect its diagnostics; the dump may be missing " ++
      "or corrupt."

def exitCode : Fault → Nat
  | .configuration _ => 2
  | .filesystem _ _ => 3
  | .launch _ _ _ => 4
  | .unreadable _ _ | .malformed _ _ => 5

def isDecode : Fault → Bool
  | .unreadable _ _ | .malformed _ _ => true
  | _ => false

def reportContext : String := "radare2 section report"

def ofRefusal : SectionMap.Refusal → Fault
  | .unreadable e => .unreadable reportContext e
  | .notArray v => .malformed reportContext s!"expected a JSON array, found {v.kind}"
  | .notObject i v => .malformed reportContext s!"section {i} is {v.kind}, not an object"

end Fault
end DumpWorkbench
