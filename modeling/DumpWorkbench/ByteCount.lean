import DumpWorkbench.Decimal.Binary64
import DumpWorkbench.Number

namespace DumpWorkbench.ByteCount

/-- The double nearest to a count; counts below `2 ^ 53` are doubles themselves. -/
def nearestDouble (n : Nat) : Nat :=
  match Binary64.ofRatio false n 1 with
  | some x => x.ratio.1 / x.ratio.2
  | none => n

def units : List String := ["B", "KB", "MB", "GB"]

def divisions (num den : Nat) : Nat → Nat
  | 0 => 0
  | left + 1 => if den * 1024 ≤ num then divisions num (den * 1024) left + 1 else 0

def unitIndex (n : Nat) : Nat := divisions n 1 (units.length - 1)

def tenths (n index : Nat) : Nat := Binary64.roundQuotient (n * 10) (Number.power 1024 index)

def text (n : Nat) : String :=
  let x := nearestDouble n
  let index := unitIndex x
  let unit := units.getD index ""
  let t := tenths x index
  let whole := t / 10
  let tenth := t % 10
  if index = 0 then s!"{n} {unit}" else s!"{whole}.{tenth} {unit}"

end DumpWorkbench.ByteCount
