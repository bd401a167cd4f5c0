import BeanGauge.Json.Basic
import BeanGauge.Number.Text
/-!
Writing JSON text, on one line or indented by two spaces a level.
-/

namespace BeanGauge.Json

/-- Numbers carry a point or an exponent; from `1e-5` up to below `1e16` they are written without an
exponent. NaN and infinities have no number text and become null. -/
def numberStyle : Number.Style where
  positional e := decide (-5 ≤ e) && decide (e ≤ 15)
  wholeMark := true
  plusMark := "+"
  tie := .even
  nan := "null"
  infinity := "null"
  negativeInfinity := "null"

def hexDigit (n : Nat) : Char := ("0123456789abcdef".toList).getD n '0'

def escapeChar (c : Char) : List Char :=
  if c == '"' then ['\\', '"']
  else if c == '\\' then ['\\', '\\']
  else if c == '\x08' then ['\\', 'b']
  else if c == '\x0c' then ['\\', 'f']
  else if c == '\n' then ['\\', 'n']
  else if c == '\r' then ['\\', 'r']
  else if c == '\t' then ['\\', 't']
  else if c.toNat < 0x20 then
    ['\\', 'u', '0', '0', hexDigit (c.toNat / 16), hexDigit (c.toNat % 16)]
  else [c]

def quote (s : String) : String := String.ofList ('"' :: s.toList.flatMap escapeChar ++ ['"'])

mutual

def compress : Json → String
  | .null => "null"
  | .bool b => if b then "true" else "false"
  | .int n => toString n
  | .float x => numberStyle.write x
  | .string s => quote s
  | .array items => "[" ++ ",".intercalate (compressItems items) ++ "]"
  | .object members => "\x7b" ++ ",".intercalate (compressMembers members) ++ "\x7d"

def compressItems : List Json → List String
  | [] => []
  | j :: js => compress j :: compressItems js

/-- The texts of the members of an object. -/
def compressMembers : List (String × Json) → List String
  | [] => []
  | (name, j) :: ms => (quote name ++ ":" ++ compress j) :: compressMembers ms

end

/-- The start of a line at the given level. -/
def lineStart (level : Nat) : String := String.ofList ('\n' :: List.replicate (2 * level) ' ')

mutual

/-- The text over several lines, for a value that stands at the given level. -/
def prettyAt (level : Nat) : Json → String
  | .array [] => "[]"
  | .array (j :: js) =>
    let start := lineStart (level + 1)
    "[" ++ start ++ ("," ++ start).intercalate (prettyItems (level + 1) (j :: js)) ++
      lineStart level ++ "]"
  | .object [] => "\x7b\x7d"
  | .object (m :: ms) =>
    let start := lineStart (level + 1)
    "\x7b" ++ start ++ ("," ++ start).intercalate (prettyMembers (level + 1) (m :: ms)) ++
      lineStart level ++ "\x7d"
  | .null => "null"
  | .bool b => if b then "true" else "false"
  | .int n => toString n
  | .float x => numberStyle.write x
  | .string s => quote s

def prettyItems (level : Nat) : List Json → List String
  | [] => []
  | j :: js => prettyAt level j :: prettyItems level js

/-- The texts of the members of an object. -/
def prettyMembers (level : Nat) : List (String × Json) → List String
  | [] => []
  | (name, j) :: ms => (quote name ++ ": " ++ prettyAt level j) :: prettyMembers level ms

end

def pretty (j : Json) : String := prettyAt 0 j

end BeanGauge.Json
