namespace DumpWorkbench.Text

abbrev Ranges := Array (Nat × Nat)

/-- Whether a number lies in one of the ranges, which are ascending and apart, among those from
`low` up to before `high`. -/
def Ranges.search (rs : Ranges) (n : Nat) : Nat → Nat → Nat → Bool
  | 0, _, _ => false
  | fuel + 1, low, high =>
    if low < high then
      let mid := (low + high) / 2
      match rs[mid]? with
      | none => false
      | some (a, b) =>
        if n < a then rs.search n fuel low mid
        else if b < n then rs.search n fuel (mid + 1) high
        else true
    else false

def Ranges.contains (rs : Ranges) (n : Nat) : Bool := rs.search n (rs.size + 1) 0 rs.size

end DumpWorkbench.Text
