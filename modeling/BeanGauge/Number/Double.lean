/-!
Doubles as exact numbers: a finite double is a sign and a magnitude `mant * 2 ^ exp`, and every
non-negative quotient of natural numbers has a nearest double.
-/

namespace BeanGauge.Number

inductive Parts where
  | nan
  | infinite (negative : Bool)
  | finite (negative : Bool) (mant : Nat) (exp : Int)
  deriving DecidableEq, Repr

/-- `base ^ exp`, and one when the exponent is negative. -/
def power (base : Nat) (exp : Int) : Nat := Nat.pow base exp.toNat

/-- The least `mant` of a normal double, two to the power 52. So many doubles lie between a power of
two and the next. -/
def leastNormal : Nat := 0x10000000000000

/-- The parts of a double, read off its 64 bits. -/
def parts (x : Float) : Parts :=
  let bits := x.toBits.toNat
  let negative := decide (0x8000000000000000 ≤ bits)
  let exponent : Nat := bits / leastNormal % 2048
  let fraction : Nat := bits % leastNormal
  if exponent = 2047 then
    if fraction = 0 then .infinite negative else .nan
  else if exponent = 0 then .finite negative fraction (-1074)
  else .finite negative (fraction + leastNormal) (exponent - 1075)

/-- The quotient of `num` and `den`, rounded to a natural number; a half goes to the even side. -/
def roundDiv (num den : Nat) : Nat :=
  let q := num / den
  let twice := 2 * (num % den)
  if twice < den then q else if den < twice then q + 1 else if q % 2 = 0 then q else q + 1

/-- The bits of the non-negative double nearest to `num / den`, a half to the even side, for a
positive `den`; what is too large becomes infinity. -/
def nearestBits (num den : Nat) : Nat :=
  if num = 0 then 0
  else
    let guess : Int := (num.log2 : Int) - den.log2 - 52
    let fits (q : Int) : Bool :=
      decide (leastNormal * den * power 2 q ≤ num * power 2 (-q))
    let exp := max (-1074) (if fits guess then guess else guess - 1)
    let mant := roundDiv (num * power 2 (-exp)) (den * power 2 exp)
    if exp = -1074 ∧ mant < leastNormal then mant
    else
      let bits := (exp + 1075).toNat * leastNormal + (mant - leastNormal)
      min bits (2047 * leastNormal)

/-- The double nearest to `num / den`. -/
def nearest (num den : Nat) : Float := Float.ofBits (nearestBits num den).toUInt64

def ofInt (n : Int) : Float :=
  if n < 0 then -(nearest n.natAbs 1) else nearest n.natAbs 1

/-- The double nearest to `mant * 10 ^ exp`. Exponents far outside the range of doubles are cut off
before any power is computed. -/
def ofDecimal (mant : Nat) (exp : Int) : Float :=
  if mant = 0 then nearest 0 1
  else
    let magnitude : Int := exp + (Nat.toDigits 10 mant).length
    if magnitude > 400 then Float.ofBits 0x7ff0000000000000
    else if magnitude < -400 then nearest 0 1
    else nearest (mant * power 10 exp) (power 10 (-exp))

/-- Whether a double is neither a NaN nor an infinity. -/
def isFinite (x : Float) : Bool :=
  match parts x with
  | .finite _ _ _ => true
  | _ => false

end BeanGauge.Number
