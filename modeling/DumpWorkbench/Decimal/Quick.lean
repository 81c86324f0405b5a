import DumpWorkbench.Decimal.Binary64

namespace DumpWorkbench.Binary64

def times (x y : Binary64) : Option Binary64 :=
  ofRatio (x.negative != y.negative) (x.ratio.1 * y.ratio.1) (x.ratio.2 * y.ratio.2)

def divided (x y : Binary64) : Option Binary64 :=
  ofRatio (x.negative != y.negative) (x.ratio.1 * y.ratio.2) (x.ratio.2 * y.ratio.1)

def tenTo (n : Nat) : Option Binary64 := ofRatio false (Number.power 10 n) 1

/-- The double times a power of ten. There is a table of the powers up to the 308th; a smaller
number than its least quotient is divided step by step. -/
def scaled (x : Binary64) (e : Int) : Option Binary64 :=
  if e.natAbs ≤ 308 then do
    let p ← tenTo e.natAbs
    if 0 ≤ e then x.times p else x.divided p
  else if x.significand = 0 then some x
  else if 0 ≤ e then none
  else do
    let p ← tenTo 308
    let y ← x.divided p
    y.scaled (e + 308)
termination_by e.natAbs
decreasing_by omega

/-- A double near to a decimal: the digits are rounded, and the product with the power of ten is
rounded again. It need not be the nearest one. -/
def quick (negative : Bool) (d : Decimal) : Option Binary64 := do
  let x ← ofRatio negative d.digits 1
  x.scaled d.exponent

end DumpWorkbench.Binary64
