import BeanGauge.Number.Double
/-!
The shortest decimal that reads back as a given double.

All reals between the two midpoints around a double round to it. The grids of decimals with 1, 2, …
significant digits are tried in turn; on each only the two neighbours of the value can lie in that
interval. The first grid with a hit wins, and of two hits the nearer one.
-/

namespace BeanGauge.Number

/-- Where a value goes that lies half way between two candidates. -/
inductive Tie where
  | up
  | even
  deriving DecidableEq, Repr

/-- The decimal `digits * 10 ^ exp`. -/
structure Decimal where
  digits : Nat
  exp : Int
  deriving DecidableEq, Repr

/-- Drops trailing zeros of the digits; the fuel bounds how many. -/
def Decimal.stripZeros : Nat → Decimal → Decimal
  | 0, d => d
  | fuel + 1, d =>
    if d.digits ≠ 0 ∧ d.digits % 10 = 0 then stripZeros fuel ⟨d.digits / 10, d.exp + 1⟩ else d

/-- A positive double over the common denominator `den`: its value and the ends of the interval
that rounds to it. The ends belong to the interval iff `closed`. -/
structure Interval where
  low : Nat
  value : Nat
  high : Nat
  den : Nat
  closed : Bool

/-- The rounding interval of `mant * 2 ^ exp`. Below a power of two the next double is only half as
far away as above it. -/
def Interval.ofParts (mant : Nat) (exp : Int) : Interval :=
  let up := power 2 (exp - 2)
  let below := if mant = leastNormal ∧ exp ≠ -1074 then 1 else 2
  { low := (4 * mant - below) * up
    value := 4 * mant * up
    high := (4 * mant + 2) * up
    den := power 2 (2 - exp)
    closed := mant % 2 = 0 }

/-- Whether `point / den` lies in the interval whose ends and value are scaled by `scale`. -/
def Interval.admits (i : Interval) (scale point : Nat) : Bool :=
  if i.closed then decide (i.low * scale ≤ point) && decide (point ≤ i.high * scale)
  else decide (i.low * scale < point) && decide (point < i.high * scale)

/-- The point of the grid `10 ^ exp` that stands for the interval's value, if one lies inside. -/
def Interval.onGrid (i : Interval) (tie : Tie) (exp : Int) : Option Decimal :=
  let unit := i.den * power 10 exp
  let scale := power 10 (-exp)
  let value := i.value * scale
  let d := value / unit
  let lower := i.admits scale (d * unit)
  let upper := i.admits scale ((d + 1) * unit)
  let twice := 2 * (value - d * unit)
  let takeUpper :=
    decide (unit < twice) || (twice == unit && (tie == .up || d % 2 == 1))
  match lower, upper with
  | true, true => some ⟨if takeUpper then d + 1 else d, exp⟩
  | true, false => some ⟨d, exp⟩
  | false, true => some ⟨d + 1, exp⟩
  | false, false => none

/-- How many decimal digits the value has before the point; zero or less when the first digit that
counts stands that far behind it. -/
def Interval.intDigits (i : Interval) : Int :=
  if i.den ≤ i.value then (Nat.toDigits 10 (i.value / i.den)).length
  else
    let rec behind : Nat → Nat → Int
      | 0, _ => 0
      | fuel + 1, v => if i.den ≤ v then 1 else behind fuel (v * 10) - 1
    behind 400 i.value

/-- The first hit on the grids with `count`, `count + 1`, … digits. -/
def Interval.search (i : Interval) (tie : Tie) (places : Int) : Nat → Nat → Option Decimal
  | 0, _ => none
  | fuel + 1, count =>
    match i.onGrid tie (places - count) with
    | some d => some d
    | none => search i tie places fuel (count + 1)

/-- The shortest decimal that reads back as the positive double `mant * 2 ^ exp`; seventeen digits
always suffice. -/
def shortest (tie : Tie) (mant : Nat) (exp : Int) : Decimal :=
  let i := Interval.ofParts mant exp
  ((i.search tie i.intDigits 17 1).getD ⟨i.value / i.den, 0⟩).stripZeros 20

end BeanGauge.Number
