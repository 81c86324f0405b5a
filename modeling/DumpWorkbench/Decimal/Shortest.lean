import DumpWorkbench.Decimal.Binary64
import DumpWorkbench.Number

namespace DumpWorkbench.Binary64

/-- The position of the leading digit: the number lies between `10 ^ leading` and
`10 ^ (leading + 1)`. No double is below `10 ^ (-400)`. -/
def leading (x : Binary64) : Int :=
  let (n, d) := x.ratio
  (Decimal.size (n * Number.power 10 400 / d) : Int) - 401

/-- The neighbours of the number among the decimals with `n` digits, the nearer first; an exact
tie puts the even one first. -/
def neighbours (x : Binary64) (n : Nat) : List Decimal :=
  let top := x.leading
  let step : Int := top - n + 1
  let (num, den) := x.ratio
  let num := num * Number.power 10 (-step).toNat
  let den := den * Number.power 10 step.toNat
  let q := num / den
  let low : Decimal := ⟨q, step⟩
  let high : Decimal := if q + 1 = Number.power 10 n then ⟨1, top + 1⟩ else ⟨q + 1, step⟩
  if roundQuotient num den = q then [low, high] else [high, low]

def readsBack (x : Binary64) (d : Decimal) : Bool := ofDecimal x.negative d == some x

/-- The number itself: a negative power of two is a decimal with as many places. -/
def exact (x : Binary64) : Decimal :=
  if 0 ≤ x.exponent then ⟨x.significand * Number.power 2 x.exponent.toNat, 0⟩
  else ⟨x.significand * Number.power 5 (-x.exponent).toNat, x.exponent⟩

def shortest (x : Binary64) : Decimal :=
  if x.significand = 0 then ⟨0, 0⟩
  else ((List.range 17).findSome? fun n => (x.neighbours (n + 1)).find? x.readsBack).getD x.exact

end DumpWorkbench.Binary64

namespace DumpWorkbench.Decimal

/-- Written positionally while the leading digit stands between the fifth decimal place and the
sixteenth integer place, and with an exponent otherwise. -/
def text (x : Decimal) : List Char :=
  let ds := Nat.toDigits 10 x.digits
  let top : Int := x.exponent + ds.length - 1
  if x.digits = 0 then ['0', '.', '0']
  else if 0 ≤ top ∧ top ≤ 15 then
    if 0 ≤ x.exponent then ds ++ List.replicate x.exponent.toNat '0' ++ ['.', '0']
    else ds.take (top.toNat + 1) ++ '.' :: ds.drop (top.toNat + 1)
  else if -5 ≤ top ∧ top < 0 then
    '0' :: '.' :: (List.replicate (-top - 1).toNat '0' ++ ds)
  else
    ds.take 1 ++ (if ds.length = 1 then [] else '.' :: ds.drop 1)
      ++ 'e' :: (if top < 0 then '-' else '+') :: Nat.toDigits 10 top.natAbs

end DumpWorkbench.Decimal

namespace DumpWorkbench.Binary64

def text (x : Binary64) : List Char :=
  (if x.negative then ['-'] else []) ++ x.shortest.text

end DumpWorkbench.Binary64
