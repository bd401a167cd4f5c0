import BeanGauge.Number.Decimal
/-!
What unquoted scalars of a YAML text spell: null, truth values, whole numbers in several bases, and
other numbers. Whatever spells none of these is a text.
-/

namespace BeanGauge.Yaml

/-- Whether an unquoted scalar spells null. -/
def spellsNull (s : String) : Bool :=
  s == "" || s == "~" || s == "null" || s == "Null" || s == "NULL"

/-- The truth value that an unquoted scalar spells. -/
def spelledBool? (s : String) : Option Bool :=
  if s == "true" || s == "True" || s == "TRUE" then some true
  else if s == "false" || s == "False" || s == "FALSE" then some false
  else none

/-- The digit of a character in the given base. -/
def digitIn (base : Nat) (c : Char) : Option Nat :=
  let value :=
    if '0' ≤ c && c ≤ '9' then some (c.toNat - 48)
    else if 'a' ≤ c && c ≤ 'z' then some (c.toNat - 87)
    else if 'A' ≤ c && c ≤ 'Z' then some (c.toNat - 55)
    else none
  value.filter (· < base)

/-- The number of some digits in the given base; there has to be at least one. -/
def natIn (base : Nat) (cs : List Char) : Option Nat :=
  if cs.isEmpty then none
  else (cs.mapM (digitIn base)).map fun ds => ds.foldl (fun n d => base * n + d) 0

/-- Whether digits after a leading zero make a scalar a text. -/
def zeroLed : List Char → Bool
  | '0' :: c :: cs => (c :: cs).all Number.isDigit
  | _ => false

/-- The number of unsigned digits, in the base that their start names. -/
def magnitude? (cs : List Char) : Option Nat :=
  let decimal := if zeroLed cs then none else natIn 10 cs
  match cs with
  | '0' :: 'x' :: ds => natIn 16 ds
  | '0' :: 'o' :: ds => natIn 8 ds
  | '0' :: 'b' :: ds => natIn 2 ds
  | _ => decimal

/-- The integer that an unquoted scalar spells. -/
def spelledInt? (s : String) : Option Int :=
  match s.toList with
  | '+' :: cs => (magnitude? cs).map Int.ofNat
  | '-' :: cs => (magnitude? cs).map fun n => -(n : Int)
  | cs => (magnitude? cs).map Int.ofNat

/-- The integer that an unquoted scalar without a minus spells. -/
def spelledNat? (s : String) : Option Nat :=
  match s.toList with
  | '+' :: cs => magnitude? cs
  | cs => magnitude? cs

/-- Whether an unquoted scalar spells a number with a point, an exponent or a special value. -/
def spellsFloat (s : String) : Bool :=
  let (_, unsigned) := Number.splitSign s.toList
  let special := String.ofList unsigned
  if special == ".inf" || special == ".Inf" || special == ".INF" then true
  else if s == ".nan" || s == ".NaN" || s == ".NAN" then true
  else !zeroLed unsigned && ((Number.readMagnitude unsigned).map Number.isFinite).getD false

/-- Whether an unquoted scalar is read as a text. -/
def spellsText (s : String) : Bool :=
  !(spellsNull s || (spelledBool? s).isSome || (spelledInt? s).isSome || spellsFloat s)

end BeanGauge.Yaml
