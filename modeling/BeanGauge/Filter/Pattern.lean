import BeanGauge.Filter.Regex
import BeanGauge.Text.Split
/-!
Wildcard patterns: every `*` stands for any run of characters of one line, every other character for
itself, and a pattern matches whole texts only. A pattern is used as the expression that says so.
-/

namespace BeanGauge.Filter.Pattern

/-- The text of the expression for a pattern. -/
def expression (pattern : String) : String :=
  let parts := (Text.splitAll '*' pattern.toList).map Regex.escapeChars
  String.ofList ('^' :: ['.', '*'].intercalate parts ++ ['$'])

/-- The expression for a pattern, or what is wrong with it. -/
def compile [Regex.Builder] (pattern : String) : Except String Regex :=
  (Regex.build (expression pattern)).mapError fun reason => s!"'{pattern}': {reason}"

end BeanGauge.Filter.Pattern
