import EndpointCatalog.Decimal.Double

namespace EndpointCatalog.Decimal

structure Digits where
  digits : Nat
  count : Nat
  point : Int
  deriving DecidableEq, Repr

def digitCount (n : Nat) : Nat := if n = 0 then 0 else (Nat.toDigits 10 n).length

-- The exponent `k` for which `10 ^ k ≤ num / den < 10 ^ (k + 1)`.
def leadingExponent (num den : Nat) : Int :=
  if den ≤ num then (digitCount (num / den) : Int) - 1
  else -(digitCount ((den + num - 1) / num - 1) : Int)

-- The reals that round to one double: from `low` to `high` over a common denominator, with the ends
-- included when the significand is even, and the double itself as `value`.
structure Interval where
  low : Nat
  value : Nat
  high : Nat
  den : Nat
  closed : Bool

def Interval.holds (i : Interval) (num den : Nat) : Bool :=
  if i.closed then i.low * den ≤ num * i.den && num * i.den ≤ i.high * den
  else i.low * den < num * i.den && num * i.den < i.high * den

-- Below a power of two the gap to the neighbour is half as wide.
def intervalOf (x : Double) : Interval :=
  let m := x.significand
  let below := if m = Double.hiddenBit ∧ x.scale > -1074 then 1 else 2
  let scale := x.scale - 2
  let factor := if 0 ≤ scale then Nat.pow 2 scale.toNat else 1
  { low := (4 * m - below) * factor, value := 4 * m * factor, high := (4 * m + 2) * factor,
    den := if 0 ≤ scale then 1 else Nat.pow 2 (-scale).toNat, closed := m % 2 = 0 }

-- Of two grid points the nearer one, and of two equally near ones the even one.
def nearestOn (i : Interval) (grid : Int) : Option Nat :=
  let up := if 0 ≤ grid then Nat.pow 10 grid.toNat else 1
  let down := if 0 ≤ grid then 1 else Nat.pow 10 (-grid).toNat
  let num := i.value * down
  let den := i.den * up
  let floor := num / den
  let inside (d : Nat) := i.holds (d * up) down
  match inside floor, inside (floor + 1) with
  | false, false => none
  | true, false => some floor
  | false, true => some (floor + 1)
  | true, true =>
    let twice := 2 * (num % den)
    some (if twice < den ∨ (twice = den ∧ floor % 2 = 0) then floor else floor + 1)

def shortestFrom (i : Interval) (exponent : Int) (count : Nat) : Nat → Digits
  | 0 => ⟨i.value / i.den, count, exponent + 1⟩
  | more + 1 =>
    match nearestOn i (exponent + 1 - count) with
    | some d => if d = Nat.pow 10 count then ⟨1, 1, exponent + 2⟩ else ⟨d, count, exponent + 1⟩
    | none => shortestFrom i exponent (count + 1) more

-- Seventeen digits always suffice.
def shortest (x : Double) : Digits :=
  let i := intervalOf x
  shortestFrom i (leadingExponent i.value i.den) 1 17

end EndpointCatalog.Decimal
