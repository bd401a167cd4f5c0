import BeanGauge.Number.Shortest
/-!
Texts of doubles. Each output of the program has its own format, a `Style`; all of them write the
digits of the shortest decimal that reads back.
-/

namespace BeanGauge.Number

structure Style where
  /-- Whether a number whose first digit stands for `10 ^ e` is written without an exponent. -/
  positional : Int → Bool
  /-- Whether a whole number without an exponent ends in `.0`. -/
  wholeMark : Bool
  /-- The mark before a non-negative exponent. -/
  plusMark : String
  tie : Tie
  nan : String
  infinity : String
  negativeInfinity : String

/-- `n` zeros. -/
def zeros (n : Nat) : List Char := List.replicate n '0'

/-- The decimal written without an exponent. -/
def Decimal.plain (d : Decimal) (wholeMark : Bool) : List Char :=
  let ds := Nat.toDigits 10 d.digits
  let mark := if wholeMark then ['.', '0'] else []
  if 0 ≤ d.exp then ds ++ zeros d.exp.toNat ++ mark
  else
    let places := (-d.exp).toNat
    if places < ds.length then
      ds.take (ds.length - places) ++ '.' :: ds.drop (ds.length - places)
    else '0' :: '.' :: zeros (places - ds.length) ++ ds

/-- The decimal exponent of the first digit. -/
def Decimal.leading (d : Decimal) : Int := d.exp + (Nat.toDigits 10 d.digits).length - 1

/-- The decimal written with one digit before the point and an exponent. -/
def Decimal.scientific (d : Decimal) (plusMark : String) : List Char :=
  let mantissa := match Nat.toDigits 10 d.digits with
    | [] => []
    | [c] => [c]
    | c :: cs => c :: '.' :: cs
  let e := d.leading
  let exponent := if e < 0 then '-' :: Nat.toDigits 10 e.natAbs
    else plusMark.toList ++ Nat.toDigits 10 e.natAbs
  mantissa ++ 'e' :: exponent

def Style.magnitude (s : Style) (mant : Nat) (exp : Int) : List Char :=
  let d := if mant = 0 then ⟨0, 0⟩ else shortest s.tie mant exp
  if s.positional d.leading then d.plain s.wholeMark else d.scientific s.plusMark

def Style.write (s : Style) (x : Float) : String :=
  match parts x with
  | .nan => s.nan
  | .infinite negative => if negative then s.negativeInfinity else s.infinity
  | .finite negative mant exp =>
    String.ofList ((if negative then ['-'] else []) ++ s.magnitude mant exp)

/-- Every digit written out, without an exponent. -/
def plainStyle : Style where
  positional _ := true
  wholeMark := false
  plusMark := ""
  tie := .up
  nan := "NaN"
  infinity := "inf"
  negativeInfinity := "-inf"

def scientificStyle : Style := { plainStyle with positional := fun _ => false }

end BeanGauge.Number
