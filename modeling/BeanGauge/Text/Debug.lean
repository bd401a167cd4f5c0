import BeanGauge.Text.Case
import BeanGauge.Text.PrintTable
/-!
Diagnostic quoting: a text in double quotes in which everything invisible is escaped.
-/

namespace BeanGauge.Text

/-- The lower-case hexadecimal digits of `n` without leading zeros. -/
def hexDigits (n : Nat) : List Char := Nat.toDigits 16 n

/-- Whether `c` can be shown as it is. -/
def isVisible (c : Char) : Bool := c == ' ' || !inRanges invisibleRanges c

def debugChar (c : Char) : List Char :=
  if c == '\x00' then ['\\', '0']
  else if c == '\t' then ['\\', 't']
  else if c == '\r' then ['\\', 'r']
  else if c == '\n' then ['\\', 'n']
  else if c == '\\' then ['\\', '\\']
  else if c == '"' then ['\\', '"']
  else if inRanges extendingRanges c || !isVisible c then
    ['\\', 'u', '{'] ++ hexDigits c.toNat ++ ['}']
  else [c]

def debug (s : String) : String :=
  String.ofList ('"' :: s.toList.flatMap debugChar ++ ['"'])

end BeanGauge.Text
