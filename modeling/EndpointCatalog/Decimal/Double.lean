namespace EndpointCatalog.Decimal

structure Double where
  bits : UInt64
  deriving DecidableEq, Repr, Inhabited

namespace Double

def signBit : Nat := Nat.pow 2 63
def hiddenBit : Nat := Nat.pow 2 52

def isNegative (x : Double) : Bool := x.bits.toNat ≥ signBit

-- It is 2047 for infinities and for what is not a number.
def exponentField (x : Double) : Nat := x.bits.toNat / hiddenBit % 2048
def fractionField (x : Double) : Nat := x.bits.toNat % hiddenBit

def isNaN (x : Double) : Bool := x.exponentField = 2047 && x.fractionField ≠ 0
def isInfinite (x : Double) : Bool := x.exponentField = 2047 && x.fractionField = 0
def isZero (x : Double) : Bool := x.exponentField = 0 && x.fractionField = 0

def significand (x : Double) : Nat :=
  if x.exponentField = 0 then x.fractionField else hiddenBit + x.fractionField

def scale (x : Double) : Int :=
  if x.exponentField = 0 then -1074 else (x.exponentField : Int) - 1075

def make (negative : Bool) (exponent fraction : Nat) : Double :=
  ⟨UInt64.ofNat ((if negative then signBit else 0) + exponent * hiddenBit + fraction)⟩

def zero : Double := make false 0 0
def infinity (negative : Bool) : Double := make negative 2047 0
def nan : Double := make false 2047 (Nat.pow 2 51)

def neg (x : Double) : Double :=
  ⟨UInt64.ofNat (if x.isNegative then x.bits.toNat - signBit else x.bits.toNat + signBit)⟩

def addZero (x : Double) : Double := if x.isZero then zero else x

def magnitude (x : Double) : Nat × Nat :=
  if 0 ≤ x.scale then (x.significand * Nat.pow 2 x.scale.toNat, 1)
  else (x.significand, Nat.pow 2 (-x.scale).toNat)

def roundHalfEven (num den : Nat) : Nat :=
  let quotient := num / den
  let twice := 2 * (num % den)
  if twice > den ∨ (twice = den ∧ quotient % 2 = 1) then quotient + 1 else quotient

-- The scale at which the quotient `num / den` has a significand of at most 53 bits, and no fewer
-- unless it is below the smallest normal number.
def scaleOf (num den : Nat) : Int :=
  let guess := max ((num.log2 : Int) - den.log2 - 52) (-1074)
  -- The quotient of two numbers of a and b bits has a - b or a - b + 1 bits.
  if 0 ≤ guess then
    if num / (den * Nat.pow 2 guess.toNat) < hiddenBit ∧ -1074 < guess then guess - 1 else guess
  else if num * Nat.pow 2 (-guess).toNat / den < hiddenBit ∧ -1074 < guess then guess - 1
  else guess

-- A tie goes to the even significand. A quotient above the largest double by half a unit or more is
-- infinite.
def ofQuotient (negative : Bool) (num den : Nat) : Double :=
  if num = 0 then make negative 0 0
  else
    let scale := scaleOf num den
    let rounded :=
      if 0 ≤ scale then roundHalfEven num (den * Nat.pow 2 scale.toNat)
      else roundHalfEven (num * Nat.pow 2 (-scale).toNat) den
    let (significand, scale) :=
      if rounded = 2 * hiddenBit then (hiddenBit, scale + 1) else (rounded, scale)
    if significand < hiddenBit then make negative 0 significand
    else
      let exponent := (scale + 1075).toNat
      if exponent ≥ 2047 then infinity negative
      else make negative exponent (significand - hiddenBit)

def ofInt (n : Int) : Double := ofQuotient (n < 0) n.natAbs 1

-- Exponents far outside the range of doubles are decided without computing the power.
def ofScientific (negative : Bool) (digits : Nat) (exponent : Int) : Double :=
  if digits = 0 then make negative 0 0
  else
    let order := (digits.log2 : Int) * 3 / 10 + exponent
    if order > 400 then infinity negative
    else if order < -800 then make negative 0 0
    else if 0 ≤ exponent then ofQuotient negative (digits * Nat.pow 10 exponent.toNat) 1
    else ofQuotient negative digits (Nat.pow 10 (-exponent).toNat)

def compareInt (x : Double) (n : Int) : Option Ordering :=
  if x.isNaN then none
  else if x.isInfinite then some (if x.isNegative then .lt else .gt)
  else
    let (num, den) := x.magnitude
    let signed : Int := if x.isNegative then -(num : Int) else num
    some (Ord.compare signed (n * den))

def compare (x y : Double) : Option Ordering :=
  if x.isNaN || y.isNaN then none
  else if x.isInfinite || y.isInfinite then
    let rank (z : Double) : Int := if z.isInfinite then (if z.isNegative then -1 else 1) else 0
    some (Ord.compare (rank x) (rank y))
  else
    let signed (z : Double) : Int := if z.isNegative then -(z.magnitude.1 : Int) else z.magnitude.1
    some (Ord.compare (signed x * y.magnitude.2) (signed y * x.magnitude.2))

def isWhole (x : Double) : Bool :=
  !x.isNaN && !x.isInfinite && x.magnitude.1 % x.magnitude.2 = 0

end Double

end EndpointCatalog.Decimal
