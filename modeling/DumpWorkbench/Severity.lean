namespace DumpWorkbench

inductive Severity where
  | error
  | warn
  | info
  | debug
  | trace
deriving DecidableEq, Repr

namespace Severity

def rank : Severity → Nat
  | .error => 1
  | .warn => 2
  | .info => 3
  | .debug => 4
  | .trace => 5

def label : Severity → String
  | .error => "ERROR"
  | .warn => "WARN"
  | .info => "INFO"
  | .debug => "DEBUG"
  | .trace => "TRACE"

end Severity

/-- Lets lines through down to a severity, or none at all. -/
inductive Threshold where
  | off
  | upTo (least : Severity)
deriving DecidableEq, Repr

namespace Threshold

def passes : Threshold → Severity → Bool
  | .off, _ => false
  | .upTo least, s => s.rank ≤ least.rank

def ofRank? : Nat → Option Threshold
  | 0 => some .off
  | 1 => some (.upTo .error)
  | 2 => some (.upTo .warn)
  | 3 => some (.upTo .info)
  | 4 => some (.upTo .debug)
  | 5 => some (.upTo .trace)
  | _ => none

def ofName? (name : String) : Option Threshold :=
  if name = "" ∨ name = "error" then some (.upTo .error)
  else if name = "warn" then some (.upTo .warn)
  else if name = "info" then some (.upTo .info)
  else if name = "debug" then some (.upTo .debug)
  else if name = "trace" then some (.upTo .trace)
  else if name = "off" then some .off
  else none

def number? (cs : List Char) : Option Nat :=
  let ds := match cs with
    | '+' :: r => r
    | _ => cs
  if ds.isEmpty ∨ !ds.all Char.isDigit then none
  else some (ds.foldl (fun n d => n * 10 + (d.toNat - 48)) 0)

/-- A threshold given by its rank or, in any case of letters, by its name. No text at all stands
for errors only. -/
def parse? (text : String) : Option Threshold :=
  match (number? text.toList).bind ofRank? with
  | some t => some t
  | none => ofName? (String.ofList (text.toList.map Char.toLower))

end Threshold
end DumpWorkbench
