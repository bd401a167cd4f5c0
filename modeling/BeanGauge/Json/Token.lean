import BeanGauge.Number.Decimal
/-!
The words of JSON text: punctuation, literals, numbers and strings, with the blanks between them
dropped. Raw control characters, among them line ends, never stand inside a string.
-/

namespace BeanGauge.Json

open BeanGauge.Number (isDigit ofDigits)

inductive Token where
  | openBrace
  | closeBrace
  | openBracket
  | closeBracket
  | colon
  | comma
  | null
  | bool (b : Bool)
  | int (n : Int)
  | float (x : Float)
  | string (s : String)

def isSpace (c : Char) : Bool := c == ' ' || c == '\n' || c == '\t' || c == '\r'

/-- The largest significand that is kept; further digits only move the decimal point. -/
def maxSignificand : Nat := 0xffffffffffffffff

/-- Appends digits to a significand as long as it fits; the rest is left over. -/
def takeDigits (significand : Nat) : List Char → Nat × List Char
  | [] => (significand, [])
  | c :: cs =>
    let next := 10 * significand + ofDigits [c]
    if maxSignificand < next then (significand, c :: cs) else takeDigits next cs

/-- `x * 10 ^ exp`, scaled by at most 308 decades at a time, each step rounded; nothing when it
exceeds every double. Three steps bring any significand to zero. -/
def scale (x : Float) (exp : Int) : Nat → Option Float
  | 0 => some x
  | fuel + 1 =>
    if exp.natAbs ≤ 308 then
      if 0 ≤ exp then
        let y := x * Number.ofDecimal 1 exp
        if y.isInf then none else some y
      else some (x / Number.ofDecimal 1 (-exp))
    else if x == 0.0 then some x
    else if 0 ≤ exp then none
    else scale (x / Number.ofDecimal 1 308) (exp + 308) fuel

/-- The exponent part of a number, if there is one: its sign and its digits. -/
def splitExponent : List Char → Option (Option (Bool × List Char) × List Char)
  | [] => some (none, [])
  | c :: cs =>
    if c == 'e' || c == 'E' then
      let (negative, cs) := Number.splitSign cs
      let ds := cs.takeWhile isDigit
      if ds.isEmpty then none else some (some (negative, ds), cs.dropWhile isDigit)
    else some (none, c :: cs)

/-- The double of a significand, the decimal exponent its digits leave, and an exponent part. -/
def finish (negative : Bool) (significand : Nat) (exp : Int) (part : Option (Bool × List Char)) :
    Option Float :=
  let x := Number.nearest significand 1
  let magnitude := match part with
    | none => scale x exp 4
    | some (negativeExp, ds) =>
      let e := ofDigits ds
      if 0x80000000 ≤ e then
        if significand ≠ 0 ∧ !negativeExp then none else some 0.0
      else scale x (if negativeExp then exp - e else exp + e) 4
  magnitude.map fun y => if negative then -y else y

/-- The number of some digits without a fraction, with the exponent part behind them. It is an
integer if it has no exponent part and fits 64 bits, of which a negative one has a sign. -/
def wholeToken (negative : Bool) (digits : List Char) (part : Option (Bool × List Char)) :
    Option Token :=
  let (significand, extra) := takeDigits 0 digits
  if part.isNone && extra.isEmpty then
    if negative then
      if significand = 0 ∨ 0x8000000000000000 < significand then
        some (.float (-(Number.nearest significand 1)))
      else some (.int (-(significand : Int)))
    else some (.int significand)
  else (finish negative significand extra.length part).map .float

/-- The number of some digits with a fraction, with the exponent part behind them. -/
def fractionToken (negative : Bool) (digits fraction : List Char)
    (part : Option (Bool × List Char)) : Option Token :=
  let (significand, extra) := takeDigits 0 digits
  let (significand, left) := takeDigits significand fraction
  let shift : Int := extra.length - (fraction.length - left.length : Nat)
  (finish negative significand shift part).map .float

/-- Whether some digits are no whole part: there are none, or a zero stands before others. -/
def isNoWhole (digits : List Char) : Bool :=
  digits.isEmpty || (digits.length > 1 && digits.head? == some '0')

/-- A number without its sign: the token and the rest. -/
def lexMagnitude (negative : Bool) (cs : List Char) : Option (Token × List Char) :=
  let whole := cs.takeWhile isDigit
  if isNoWhole whole then none
  else
    match cs.dropWhile isDigit with
    | '.' :: r =>
      let fraction := r.takeWhile isDigit
      if fraction.isEmpty then none
      else (splitExponent (r.dropWhile isDigit)).bind fun e =>
        (fractionToken negative whole fraction e.1).map fun t => (t, e.2)
    | r => (splitExponent r).bind fun e =>
        (wholeToken negative whole e.1).map fun t => (t, e.2)

def lexNumber : List Char → Option (Token × List Char)
  | '-' :: cs => lexMagnitude true cs
  | cs => lexMagnitude false cs

def hexValue (c : Char) : Option Nat :=
  if isDigit c then some (c.toNat - 48)
  else if 'a' ≤ c && c ≤ 'f' then some (c.toNat - 87)
  else if 'A' ≤ c && c ≤ 'F' then some (c.toNat - 55)
  else none

/-- The number of four hexadecimal digits. -/
def hexFour (a b c d : Char) : Option Nat := do
  let a ← hexValue a
  let b ← hexValue b
  let c ← hexValue c
  let d ← hexValue d
  pure (((a * 16 + b) * 16 + c) * 16 + d)

/-- The character of an escape that is a single letter. -/
def escaped (c : Char) : Option Char :=
  match c with
  | '"' => some '"'
  | '\\' => some '\\'
  | '/' => some '/'
  | 'b' => some '\x08'
  | 'f' => some '\x0c'
  | 'n' => some '\n'
  | 'r' => some '\r'
  | 't' => some '\t'
  | _ => none

/-- Puts a character before what was read of the rest of a string. -/
def consRead (c : Char) (read : Option (List Char × List Char)) : Option (List Char × List Char) :=
  read.map fun r => (c :: r.1, r.2)

/-- The inside of a string up to its closing quote, and the rest. Escaped surrogates count only as a
pair. -/
def lexString : List Char → Option (List Char × List Char)
  | [] => none
  | '"' :: cs => some ([], cs)
  | '\\' :: 'u' :: a :: b :: c :: d :: cs =>
    match hexFour a b c d with
    | none => none
    | some n =>
      if 0xd800 ≤ n && n < 0xdc00 then
        match cs with
        | '\\' :: 'u' :: a :: b :: c :: d :: cs =>
          match hexFour a b c d with
          | none => none
          | some m =>
            if 0xdc00 ≤ m && m < 0xe000 then
              consRead (Char.ofNat (0x10000 + (n - 0xd800) * 0x400 + (m - 0xdc00))) (lexString cs)
            else none
        | _ => none
      else if 0xdc00 ≤ n && n < 0xe000 then none
      else consRead (Char.ofNat n) (lexString cs)
  | '\\' :: c :: cs =>
    match escaped c with
    | none => none
    | some c => consRead c (lexString cs)
  | c :: cs => if c.toNat < 0x20 || c == '\\' then none else consRead c (lexString cs)

/-- The word at the start of a text that does not start with a blank, and the rest. -/
def lexOne : List Char → Option (Token × List Char)
  | [] => none
  | '{' :: cs => some (.openBrace, cs)
  | '}' :: cs => some (.closeBrace, cs)
  | '[' :: cs => some (.openBracket, cs)
  | ']' :: cs => some (.closeBracket, cs)
  | ':' :: cs => some (.colon, cs)
  | ',' :: cs => some (.comma, cs)
  | '"' :: cs => (lexString cs).map fun r => (.string (String.ofList r.1), r.2)
  | 'n' :: 'u' :: 'l' :: 'l' :: cs => some (.null, cs)
  | 't' :: 'r' :: 'u' :: 'e' :: cs => some (.bool true, cs)
  | 'f' :: 'a' :: 'l' :: 's' :: 'e' :: cs => some (.bool false, cs)
  | cs => lexNumber cs

/-- All words of a text; the fuel bounds their number. -/
def lexWith : Nat → List Char → Option (List Token)
  | 0, _ => none
  | fuel + 1, cs =>
    match cs.dropWhile isSpace with
    | [] => some []
    | c :: cs => do
      let (t, rest) ← lexOne (c :: cs)
      let ts ← lexWith fuel rest
      pure (t :: ts)

def lex (cs : List Char) : Option (List Token) := lexWith (cs.length + 1) cs

end BeanGauge.Json
