import DumpWorkbench.Duration
import DumpWorkbench.Tool

namespace DumpWorkbench

structure Spinner where
  enabled : Bool
  message : String := ""
  finished : Bool := false
deriving DecidableEq, Repr

namespace Spinner

def tabWidth : Nat := 8

def expandTabs (text : String) : String :=
  String.ofList (text.toList.flatMap fun c => if c = '\t' then List.replicate tabWidth ' ' else [c])

def say (s : Spinner) (text : String) : Spinner := { s with message := expandTabs text }

def sayLast (s : Spinner) (text : String) : Spinner := { s.say text with finished := true }

/-- The spinner with its last message, which says how long the work took. -/
def finish (s : Spinner) (message : String) (elapsed : Duration) : Spinner :=
  s.sayLast s!"{message} (completed in {elapsed.rough})"

def follow (s : Spinner) (message : String) (elapsed : Duration) : Tool.State → Spinner
  | .idle => s
  | .running => s.say message
  | .completed => s.finish message elapsed
  | .failed => s.sayLast s!"{message} failed"

end Spinner
end DumpWorkbench
