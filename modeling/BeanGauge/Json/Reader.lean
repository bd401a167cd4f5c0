import BeanGauge.Json.Basic
import BeanGauge.Json.Token
/-!
Reading JSON text: one value and nothing after it, nested at most `maxDepth` deep.
-/

namespace BeanGauge.Json

/-- How deep arrays and objects may be nested. -/
def maxDepth : Nat := 127

mutual

/-- The value at the start of the tokens, below `depth` more levels of nesting. -/
def readValue : Nat → Nat → List Token → Option (Json × List Token)
  | 0, _, _ => none
  | _ + 1, _, .null :: ts => some (.null, ts)
  | _ + 1, _, .bool b :: ts => some (.bool b, ts)
  | _ + 1, _, .int n :: ts => some (.int n, ts)
  | _ + 1, _, .float x :: ts => some (.float x, ts)
  | _ + 1, _, .string s :: ts => some (.string s, ts)
  | _ + 1, _ + 1, .openBracket :: .closeBracket :: ts => some (.array [], ts)
  | fuel + 1, depth + 1, .openBracket :: ts => do
    let (items, ts) ← readItems fuel depth ts
    pure (.array items, ts)
  | _ + 1, _ + 1, .openBrace :: .closeBrace :: ts => some (.object [], ts)
  | fuel + 1, depth + 1, .openBrace :: ts => do
    let (members, ts) ← readMembers fuel depth ts
    pure (ofMembers members, ts)
  | _ + 1, _, _ => none

/-- The items of an array up to its closing bracket. -/
def readItems : Nat → Nat → List Token → Option (List Json × List Token)
  | 0, _, _ => none
  | fuel + 1, depth, ts => do
    let (item, ts) ← readValue fuel depth ts
    match ts with
    | .comma :: ts =>
      let (items, ts) ← readItems fuel depth ts
      pure (item :: items, ts)
    | .closeBracket :: ts => pure ([item], ts)
    | _ => none

/-- The members of an object up to its closing brace. -/
def readMembers : Nat → Nat → List Token → Option (List (String × Json) × List Token)
  | 0, _, _ => none
  | fuel + 1, depth, .string name :: .colon :: ts => do
    let (value, ts) ← readValue fuel depth ts
    match ts with
    | .comma :: ts =>
      let (members, ts) ← readMembers fuel depth ts
      pure ((name, value) :: members, ts)
    | .closeBrace :: ts => pure ([(name, value)], ts)
    | _ => none
  | _ + 1, _, _ => none

end

/-- The value of some tokens, if they are one value and nothing else. -/
def ofTokens? (ts : List Token) : Option Json :=
  match readValue (2 * ts.length + 1) maxDepth ts with
  | some (j, []) => some j
  | _ => none

def parse (s : String) : Option Json := (lex s.toList).bind ofTokens?

end BeanGauge.Json
