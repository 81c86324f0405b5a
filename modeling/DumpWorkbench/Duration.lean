import DumpWorkbench.Number

namespace DumpWorkbench

structure Duration where
  nanoseconds : Nat
deriving DecidableEq, Repr

namespace Duration

def zero : Duration := ⟨0⟩

def second : Nat := 1000000000

def of (seconds nanoseconds : Nat) : Duration := ⟨seconds * second + nanoseconds⟩

def seconds (d : Duration) : Nat := d.nanoseconds / second

def fraction (d : Duration) : Nat := d.nanoseconds % second

/-- A sum that is being made: seconds, and nanoseconds that may make up more of them. -/
structure Tally where
  seconds : Nat
  nanoseconds : Nat
deriving DecidableEq, Repr

/-- Adds a length of time, both parts in words of 64 bits. Nanoseconds are carried over only where
there is no room for more. -/
def Tally.add? (t : Tally) (d : Duration) : Option Tally := do
  let seconds ← Number.sum64? t.seconds d.seconds
  match Number.sum64? t.nanoseconds d.fraction with
  | some nanoseconds => return ⟨seconds, nanoseconds⟩
  | none =>
    let seconds ← Number.sum64? seconds (t.nanoseconds / second)
    return ⟨seconds, t.nanoseconds % second + d.fraction⟩

def Tally.total? (t : Tally) : Option Duration := do
  let seconds ← Number.sum64? t.seconds (t.nanoseconds / second)
  return .of seconds (t.nanoseconds % second)

/-- The sum of lengths of time, if the seconds that arise on the way fit into 64 bits. -/
def sum? (ds : List Duration) : Option Duration := do
  let t ← ds.foldlM Tally.add? ⟨0, 0⟩
  t.total?

/-- Minutes and seconds, seconds, or, below one second, milliseconds; the rest is dropped. -/
def rough (d : Duration) : String :=
  let s := d.seconds
  let minutes := s / 60
  let rest := s % 60
  let millis := d.nanoseconds / 1000000
  if 60 ≤ s then s!"{minutes}m {rest}s"
  else if 0 < s then s!"{s}s"
  else s!"{millis}ms"

def decimal (n places : Nat) : String :=
  let unit := Number.power 10 places
  let ds := Nat.toDigits 10 (n % unit)
  let padded := List.replicate (places - ds.length) '0' ++ ds
  let shown := (padded.reverse.dropWhile (· = '0')).reverse
  let whole := toString (n / unit)
  if shown.isEmpty then whole else whole ++ "." ++ String.ofList shown

/-- The exact length in the largest unit that is not above it. -/
def precise (d : Duration) : String :=
  let n := d.nanoseconds
  if second ≤ n then decimal n 9 ++ "s"
  else if 1000000 ≤ n then decimal n 6 ++ "ms"
  else if 1000 ≤ n then decimal n 3 ++ "µs"
  else s!"{n}ns"

end Duration
end DumpWorkbench
