import BeanGauge.Dict
import BeanGauge.Shell.Syntax
/-!
Expansion: the fields that words stand for, the values of arithmetic expressions, and patterns.
-/

namespace BeanGauge.Shell

structure Environment where
  vars : Dict String String
  /-- The name of the script. -/
  name : String
  params : List String
  /-- How the last command ended. -/
  status : Nat

namespace Environment

/-- The number of the script among the processes. Nobody but the script sees it. -/
def processNumber : String := "1"

/-- The value of a variable or parameter; what has no value is empty. -/
def value (e : Environment) (name : String) : String :=
  if name == "#" then toString e.params.length
  else if name == "?" then toString e.status
  else if name == "$" then processNumber
  else if name == "@" || name == "*" then " ".intercalate e.params
  else
    match name.toNat? with
    | some 0 => e.name
    | some (k + 1) => (e.params[k]?).getD ""
    | none => (e.vars.get? name).getD ""

def separators (e : Environment) : List Char :=
  match e.vars.get? "IFS" with
  | some s => s.toList
  | none => [' ', '\t', '\n']

end Environment

/-- Whole numbers with the operations on them, and brackets. -/
inductive ArithToken where
  | number (n : Int)
  | mark (c : Char)
  deriving DecidableEq

/-- The tokens of an expression; a name stands for its value. -/
def arithTokens (e : Environment) : Nat → List Char → List ArithToken
  | 0, _ => []
  | _ + 1, [] => []
  | fuel + 1, c :: cs =>
    if c.isDigit then
      let digits := c :: cs.takeWhile Char.isDigit
      .number ((String.ofList digits).toNat?.getD 0) ::
        arithTokens e fuel (cs.dropWhile Char.isDigit)
    else if isNameStart c then
      let name := String.ofList (c :: cs.takeWhile isNameChar)
      .number ((e.value name).toInt?.getD 0) :: arithTokens e fuel (cs.dropWhile isNameChar)
    else if c == ' ' || c == '\t' || c == '$' then arithTokens e fuel cs
    else .mark c :: arithTokens e fuel cs

mutual

def arithSum : Nat → List ArithToken → Int × List ArithToken
  | 0, ts => (0, ts)
  | fuel + 1, ts =>
    let (n, ts) := arithProduct fuel ts
    arithSumFrom fuel n ts

def arithSumFrom : Nat → Int → List ArithToken → Int × List ArithToken
  | 0, n, ts => (n, ts)
  | fuel + 1, n, .mark '+' :: ts =>
    let (m, ts) := arithProduct fuel ts
    arithSumFrom fuel (n + m) ts
  | fuel + 1, n, .mark '-' :: ts =>
    let (m, ts) := arithProduct fuel ts
    arithSumFrom fuel (n - m) ts
  | _ + 1, n, ts => (n, ts)

def arithProduct : Nat → List ArithToken → Int × List ArithToken
  | 0, ts => (0, ts)
  | fuel + 1, ts =>
    let (n, ts) := arithFactor fuel ts
    arithProductFrom fuel n ts

def arithProductFrom : Nat → Int → List ArithToken → Int × List ArithToken
  | 0, n, ts => (n, ts)
  | fuel + 1, n, .mark '*' :: ts =>
    let (m, ts) := arithFactor fuel ts
    arithProductFrom fuel (n * m) ts
  | fuel + 1, n, .mark '/' :: ts =>
    let (m, ts) := arithFactor fuel ts
    arithProductFrom fuel (n.tdiv m) ts
  | fuel + 1, n, .mark '%' :: ts =>
    let (m, ts) := arithFactor fuel ts
    arithProductFrom fuel (n.tmod m) ts
  | _ + 1, n, ts => (n, ts)

/-- A number, a signed factor or an expression in brackets. -/
def arithFactor : Nat → List ArithToken → Int × List ArithToken
  | 0, ts => (0, ts)
  | _ + 1, .number n :: ts => (n, ts)
  | fuel + 1, .mark '-' :: ts => let (n, ts) := arithFactor fuel ts; (-n, ts)
  | fuel + 1, .mark '+' :: ts => arithFactor fuel ts
  | fuel + 1, .mark '(' :: ts =>
    let (n, ts) := arithSum fuel ts
    (n, if ts.head? == some (.mark ')') then ts.tail else ts)
  | _ + 1, ts => (0, ts)

end

def arithValue (e : Environment) (expression : List Char) : Int :=
  let ts := arithTokens e (expression.length + 1) expression
  (arithSum (4 * ts.length + 4) ts).1

/-- A part of an expanded word. -/
inductive Fragment where
  /-- Text that stays in one field. -/
  | keep (cs : List Char)
  /-- Text that is cut at separators. -/
  | split (cs : List Char)
  /-- The end of a field. -/
  | cut

def Piece.fragments (e : Environment) : Piece → List Fragment
  | .text cs _ => [.keep cs]
  | .arith expression => [.split (toString (arithValue e expression)).toList]
  | .param name quoted =>
    if name == "@" && quoted then
      List.intersperse .cut (e.params.map fun p => .keep p.toList)
    else if quoted then [.keep (e.value name).toList]
    else [.split (e.value name).toList]

/-- The fields of fragments; `field` is the one that goes on, if there is one. -/
def fieldsFrom (separators : List Char) (field : Option (List Char)) :
    List Fragment → List String
  | [] => field.toList.map String.ofList
  | .keep cs :: rest => fieldsFrom separators (some (field.getD [] ++ cs)) rest
  | .cut :: rest => field.toList.map String.ofList ++ fieldsFrom separators none rest
  | .split cs :: rest =>
    let (done, field) := cs.foldl (fun (state : List String × Option (List Char)) c =>
      if separators.contains c then (state.1 ++ state.2.toList.map String.ofList, none)
      else (state.1, some (state.2.getD [] ++ [c]))) ([], field)
    done ++ fieldsFrom separators field rest

def fields (e : Environment) (w : Word) : List String :=
  fieldsFrom e.separators none (w.flatMap (·.fragments e))

/-- The characters that a fragment stands for where nothing is cut. -/
def Fragment.chars : Fragment → List Char
  | .keep cs => cs
  | .split cs => cs
  | .cut => [' ']

/-- The text of a word where it is not cut into fields. -/
def expandText (e : Environment) (w : Word) : String :=
  String.ofList ((w.flatMap (·.fragments e)).flatMap Fragment.chars)

inductive PatternItem where
  | anything
  | oneChar
  | char (c : Char)
  /-- A character of one of the ranges, or of none of them. -/
  | oneOf (negated : Bool) (ranges : List (Char × Char))
  deriving DecidableEq

/-- A character of a pattern, and whether it is quoted. -/
abbrev Marked := Char × Bool

/-- The characters of a piece in a pattern; quoted characters mean themselves. -/
def Piece.marked (e : Environment) (p : Piece) : List Marked :=
  let quoted := match p with
    | .text _ quoted => quoted
    | .param _ quoted => quoted
    | .arith _ => true
  ((p.fragments e).flatMap Fragment.chars).map fun c => (c, quoted)

def readRanges : List Char → List (Char × Char)
  | a :: '-' :: b :: cs => (a, b) :: readRanges cs
  | a :: cs => (a, a) :: readRanges cs
  | [] => []

/-- The choice behind an opening bracket, and the rest. A closing bracket at the start is one of
the characters to choose from. -/
def readChoice (cs : List Marked) : Option (PatternItem × List Marked) :=
  let (negated, cs) := match cs with
    | ('!', false) :: rest => (true, rest)
    | cs => (false, cs)
  match cs with
  | [] => none
  | first :: rest =>
    let members := rest.takeWhile (· != (']', false))
    match rest.drop members.length with
    | [] => none
    | _ :: rest => some (.oneOf negated (readRanges ((first :: members).map (·.1))), rest)

/-- The parts of a pattern; the fuel bounds their number. -/
def patternItems : Nat → List Marked → List PatternItem
  | 0, _ => []
  | _ + 1, [] => []
  | fuel + 1, (c, quoted) :: cs =>
    if quoted then .char c :: patternItems fuel cs
    else if c == '*' then .anything :: patternItems fuel cs
    else if c == '?' then .oneChar :: patternItems fuel cs
    else
      match if c == '[' then readChoice cs else none with
      | some (item, rest) => item :: patternItems fuel rest
      | none => .char c :: patternItems fuel cs

/-- Whether a character stands where a part of a pattern asks for one character. -/
def PatternItem.admits : PatternItem → Char → Bool
  | .anything, _ => false
  | .oneChar, _ => true
  | .char x, c => x == c
  | .oneOf negated ranges, c => (ranges.any fun r => r.1 ≤ c && c ≤ r.2) != negated

def matchesPattern : List PatternItem → List Char → Bool
  | [], cs => cs.isEmpty
  | .anything :: ps, [] => matchesPattern ps []
  | .anything :: ps, c :: cs => matchesPattern ps (c :: cs) || matchesPattern (.anything :: ps) cs
  | _ :: _, [] => false
  | p :: ps, c :: cs => p.admits c && matchesPattern ps cs
termination_by ps cs => ps.length + cs.length

/-- Whether a text matches the pattern of a word. -/
def wordMatches (e : Environment) (s : String) (w : Word) : Bool :=
  let pattern := w.flatMap (·.marked e)
  matchesPattern (patternItems (pattern.length + 1) pattern) s.toList

end BeanGauge.Shell
