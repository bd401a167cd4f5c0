import BeanGauge.Json.Writer
import BeanGauge.Text.Split
import BeanGauge.Yaml.Cursor
import BeanGauge.Yaml.Scalar
import BeanGauge.Yaml.Spelling
/-!
Writing values as YAML text, in blocks indented by two spaces.

A text is written without quotes where that reads back as the same text, a text over several lines
as a literal block, and everything else in quotes. A sequence stands as far left as its key.
-/

namespace BeanGauge.Yaml

/-- Numbers carry a point or an exponent, as in JSON; an exponent has no plus. -/
def numberStyle : Number.Style :=
  { Json.numberStyle with
    plusMark := "", nan := ".nan", infinity := ".inf", negativeInfinity := "-.inf" }

/-- Words that older readers take for truth values. -/
def formerBools : List String :=
  ["y", "Y", "yes", "Yes", "YES", "n", "N", "no", "No", "NO",
    "on", "On", "ON", "off", "Off", "OFF"]

/-- Whether a text could be taken for something else without quotes. -/
def needsQuotes (s : String) : Bool :=
  let unsigned := match s.toList with
    | '+' :: cs => cs
    | '-' :: cs => cs
    | cs => cs
  formerBools.contains s || !spellsText s || zeroLed unsigned

/-- Whether a character can be written as it is. -/
def isWritable (c : Char) : Bool :=
  let n := c.toNat
  n == 10 || (0x20 ≤ n && n ≤ 0x7e) || (0xa0 ≤ n && n ≤ 0xfffd && n != 0xfeff) || 0x10000 ≤ n

/-- Whether a text is fit for quotes without escapes. -/
def isQuotable (cs : List Char) : Bool :=
  cs.all isWritable &&
    (cs.zip cs.tail).all fun p => !(p.1 == ' ' && isBreak p.2) && !(isBreak p.1 && p.2 == ' ')

/-- Whether a text is fit for a literal block. -/
def isLiteral (cs : List Char) : Bool :=
  cs.all isWritable && cs.getLast? != some ' ' &&
    (cs.zip cs.tail).all fun p => !(p.1 == ' ' && isBreak p.2)

/-- Whether a character that is not the first, between its neighbours, ends an unquoted scalar. -/
def endsPlain (before c : Char) (after : Option Char) : Bool :=
  (c == ':' && after.all fun x => isBlank x || isBreak x)
    || (c == '#' && (isBlank before || isBreak before))

/-- Whether no character after `before` ends an unquoted scalar. -/
def staysPlain : Char → List Char → Bool
  | _, [] => true
  | before, c :: cs => !endsPlain before c cs.head? && staysPlain c cs

/-- Whether an unquoted scalar may start with `c`, with the given character behind it. -/
def mayLead (c : Char) (after : Option Char) : Bool :=
  let alone := after.all fun x => isBlank x || isBreak x
  !("#,[]\x7b\x7d&*!|>'\"%@".toList.contains c || c.toNat == 0x60)
    && !((c == '?' || c == ':' || c == '-') && alone)

/-- Whether a text can be written without quotes. -/
def isPlainText (cs : List Char) : Bool :=
  match cs with
  | [] => false
  | c :: rest =>
    cs.all (fun x => isWritable x && !isBreak x) && c != ' ' && cs.getLast? != some ' '
      && !(['-', '-', '-'].isPrefixOf cs || ['.', '.', '.'].isPrefixOf cs)
      && mayLead c rest.head? && staysPlain c rest

def singleQuoted (cs : List Char) : String :=
  String.ofList ('\'' :: cs.flatMap (fun c => if c == '\'' then ['\'', '\''] else [c]) ++ ['\''])

/-- The upper-case hexadecimal digits of `n`, at least `width` of them. -/
def hexPadded (width n : Nat) : List Char :=
  let ds := (Nat.toDigits 16 n).map Char.toUpper
  List.replicate (width - ds.length) '0' ++ ds

/-- The letter of a character's short escape. -/
def escapeLetter? (n : Nat) : Option Char :=
  ([(0, '0'), (7, 'a'), (8, 'b'), (9, 't'), (10, 'n'), (11, 'v'), (12, 'f'), (13, 'r'),
    (0x1b, 'e'), (0x22, '"'), (0x5c, '\\'), (0x85, 'N'), (0x2028, 'L'), (0x2029, 'P')].find?
      (·.1 == n)).map (·.2)

/-- One character of a text in double quotes. -/
def escaped (c : Char) : List Char :=
  let n := c.toNat
  match escapeLetter? n with
  | some letter => ['\\', letter]
  | none =>
    if isWritable c then [c]
    else if n ≤ 0xff then '\\' :: 'x' :: hexPadded 2 n
    else if n ≤ 0xffff then '\\' :: 'u' :: hexPadded 4 n
    else '\\' :: 'U' :: hexPadded 8 n

def doubleQuoted (cs : List Char) : String :=
  String.ofList ('"' :: cs.flatMap escaped ++ ['"'])

/-- A text in single quotes if that is possible, and in double quotes else. -/
def quoted (cs : List Char) : String :=
  if isQuotable cs then singleQuoted cs else doubleQuoted cs

/-- The lines of a text; the last of them may have an end or not. -/
def textLines (cs : List Char) : List (List Char) :=
  let parts := Text.splitAll '\n' cs
  if parts.getLast? == some [] then parts.dropLast else parts

/-- The mark of a literal block: whether its indentation is told, and what becomes of the line ends
behind the text. -/
def literalMark (cs : List Char) : String :=
  let indentation := match cs with
    | c :: _ => if c == ' ' || isBreak c then "2" else ""
    | [] => ""
  let ending := match cs.reverse with
    | c :: d :: _ => if !isBreak c then "-" else if isBreak d then "+" else ""
    | [c] => if isBreak c then "+" else "-"
    | [] => "-"
  "|" ++ indentation ++ ending

/-- The lines of a text. Those after the first have no indentation yet. -/
def stringLines (s : String) : List String :=
  let cs := s.toList
  if cs.contains '\n' then
    if isLiteral cs then literalMark cs :: (textLines cs).map String.ofList else [doubleQuoted cs]
  else if !needsQuotes s && isPlainText cs then [s]
  else [quoted cs]

/-- The text of a key, which stands on one line. -/
def keyText (s : String) : String :=
  let cs := s.toList
  if cs.contains '\n' then doubleQuoted cs
  else if !needsQuotes s && isPlainText cs then s
  else quoted cs

/-- Whether a key can stand before a colon without a mark of its own. -/
def isShortKey (s : String) : Bool := !s.toList.any isBreak && s.utf8ByteSize ≤ 128

/-- A line further to the right; an empty one stays empty. -/
def indentLine (l : String) : String := if l == "" then l else "  " ++ l

/-- Lines behind a mark of two characters. -/
def hang (mark : String) : List String → List String
  | [] => []
  | l :: ls => (mark ++ l) :: ls.map indentLine

def hangKey (key : String) : List String → List String
  | [] => []
  | l :: ls => (key ++ ": " ++ l) :: ls.map indentLine

/-- A row of a mapping, of its value and the lines of that. -/
def row (name : String) (value : Json) (ls : List String) : List String :=
  if isShortKey name then
    match value with
    | .array (_ :: _) => (keyText name ++ ":") :: ls
    | .object (_ :: _) => (keyText name ++ ":") :: ls.map indentLine
    | _ => hangKey (keyText name) ls
  else hang "? " (stringLines name) ++ hang ": " ls

mutual

def lines : Json → List String
  | .null => ["null"]
  | .bool b => [if b then "true" else "false"]
  | .int n => [toString n]
  | .float x => [numberStyle.write x]
  | .string s => stringLines s
  | .array [] => ["[]"]
  | .array (j :: js) => itemLines (j :: js)
  | .object [] => ["\x7b\x7d"]
  | .object (m :: ms) => rowLines (m :: ms)

/-- The lines of the items of a sequence. -/
def itemLines : List Json → List String
  | [] => []
  | j :: js => hang "- " (lines j) ++ itemLines js

def rowLines : List (String × Json) → List String
  | [] => []
  | (name, j) :: ms => row name j (lines j) ++ rowLines ms

end

def write (j : Json) : String :=
  let body := match j with
    | .string s => match stringLines s with
      | l :: ls => l :: ls.map indentLine
      | [] => []
    | j => lines j
  String.join (body.map (· ++ "\n"))

end BeanGauge.Yaml
