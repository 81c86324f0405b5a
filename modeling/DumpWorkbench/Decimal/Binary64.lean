import DumpWorkbench.Number

namespace DumpWorkbench

/-- A decimal number, `digits * 10 ^ exponent`. -/
structure Decimal where
  digits : Nat
  exponent : Int
deriving DecidableEq, Repr

/-- The number `significand * 2 ^ exponent`, with its sign. In a number that rounding yields, the
significand has 53 bits unless the exponent is the least, -1074. -/
structure Binary64 where
  negative : Bool
  significand : Nat
  exponent : Int
deriving DecidableEq, Repr

namespace Decimal

def size (n : Nat) : Nat := (Nat.toDigits 10 n).length

def ratio (d : Decimal) : Nat × Nat :=
  (d.digits * Number.power 10 d.exponent.toNat, Number.power 10 (-d.exponent).toNat)

end Decimal

namespace Binary64

def zero (negative : Bool) : Binary64 := ⟨negative, 0, -1074⟩

/-- The quotient rounded to the nearest integer, a half to the even neighbour. -/
def roundQuotient (num den : Nat) : Nat :=
  let q := num / den
  let r := num % den
  if 2 * r < den then q
  else if den < 2 * r then q + 1
  else if q % 2 = 0 then q else q + 1

def scale (num den : Nat) (e : Int) : Nat × Nat :=
  (num * Number.power 2 (-e).toNat, den * Number.power 2 e.toNat)

/-- The exponent at which `num / den` has a 53 bit integer part, but no less than -1074. -/
def exponentOf (num den : Nat) : Int :=
  let e : Int := (Nat.log2 num : Int) - Nat.log2 den - 53
  let (n, d) := scale num den e
  max (-1074) (if n / d < Number.words53 then e else e + 1)

/-- The double nearest to `num / den`, or none if that is too large. -/
def ofRatio (negative : Bool) (num den : Nat) : Option Binary64 :=
  if num = 0 then some (zero negative)
  else
    let e := exponentOf num den
    let (n, d) := scale num den e
    let m := roundQuotient n d
    let (m, e) := if m < Number.words53 then (m, e) else (m / 2, e + 1)
    if e ≤ 971 then some ⟨negative, m, e⟩ else none

/-- The double nearest to a decimal. What lies far outside the range is decided by the position
of the leading digit alone. -/
def ofDecimal (negative : Bool) (x : Decimal) : Option Binary64 :=
  let top := (Decimal.size x.digits : Int) + x.exponent
  if x.digits = 0 then some (zero negative)
  else if 310 < top then none
  else if top < -330 then some (zero negative)
  else
    let (n, d) := x.ratio
    ofRatio negative n d

def ratio (x : Binary64) : Nat × Nat :=
  (x.significand * Number.power 2 x.exponent.toNat, Number.power 2 (-x.exponent).toNat)

end Binary64
end DumpWorkbench
