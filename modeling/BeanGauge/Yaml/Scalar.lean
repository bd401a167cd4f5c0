import BeanGauge.Json.Token
import BeanGauge.Yaml.Cursor
/-!
Scalars of YAML texts: plain ones, ones in single or double quotes, and block scalars.

Inside a scalar that runs over several lines, one end of line becomes a space and each further one
stays; the blanks around them are dropped.
-/

namespace BeanGauge.Yaml

/-- The blanks and line ends read since the last character of a scalar. The texts are reversed. -/
structure Gap where
  blanks : List Char := []
  /-- What the first line end stands for. -/
  lineEnd : List Char := []
  /-- What the further line ends stand for. -/
  more : List Char := []
  /-- Whether a line has ended. -/
  folded : Bool := false

namespace Gap

/-- Takes in a blank, which counts only before the first line end. -/
def addBlank (g : Gap) (c : Char) : Gap :=
  if g.folded then g else { g with blanks := c :: g.blanks }

def addBreak (g : Gap) (text : List Char) : Gap :=
  if g.folded then { g with more := text.reverse ++ g.more }
  else { g with blanks := [], lineEnd := text, folded := true }

/-- The reversed text that the gap stands for. -/
def text (g : Gap) : List Char :=
  if g.folded then
    if g.lineEnd == ['\n'] then (if g.more.isEmpty then [' '] else g.more)
    else g.more ++ g.lineEnd
  else g.blanks

end Gap

/-- The characters that nothing in a flow collection may start with. -/
def isFlowMark (c : Char) : Bool := c == ',' || c == '[' || c == ']' || c == '{' || c == '}'

/-- Reads the rest of a plain scalar whose reversed text so far is `out`. `atWord` at the start of a
word; `indent` is the least column that continues the scalar in block context. The result is the
text, the place behind it and whether that is on a later line. -/
def plainFrom (inFlow : Bool) (indent : Int) :
    Nat → Bool → Gap → List Char → Cursor → Option (List Char × Cursor × Bool)
  | 0, _, _, _, _ => none
  | fuel + 1, atWord, gap, out, c =>
    let done := some (out.reverse, c, gap.folded)
    match c.peek? with
    | none => done
    | some x =>
      if atWord && (c.atDocumentMark || x == '#') then done
      else if isBlank x then
        if gap.folded && (c.column : Int) < indent && x == '\t' then none
        else plainFrom inFlow indent fuel (!c.endAt 1) (gap.addBlank x) out c.skip
      else if isBreak x then
        let next := c.skipBreak
        plainFrom inFlow indent fuel (!next.endAt 0) (gap.addBreak c.breakText) out next
      else if atWord && !out.isEmpty && !inFlow && (c.column : Int) < indent then done
      else if inFlow && x == ':' && (c.peekAt? 1).any (fun y => isFlowMark y || y == '?') then none
      else if (x == ':' && c.endAt 1) || (inFlow && isFlowMark x) then done
      else plainFrom inFlow indent fuel false {} (x :: (gap.text ++ out)) c.skip

def plainScalar (inFlow : Bool) (indent : Int) (c : Cursor) :
    Option (List Char × Cursor × Bool) :=
  plainFrom inFlow indent (c.rest.length + 1) true {} [] c

/-- The character of an escape that is a single letter. -/
def escapeLetter (c : Char) : Option Char :=
  match c with
  | '0' => some '\x00'
  | 'a' => some '\x07'
  | 'b' => some '\x08'
  | 't' => some '\t'
  | '\t' => some '\t'
  | 'n' => some '\n'
  | 'v' => some '\x0b'
  | 'f' => some '\x0c'
  | 'r' => some '\r'
  | 'e' => some '\x1b'
  | ' ' => some ' '
  | '"' => some '"'
  | '/' => some '/'
  | '\\' => some '\\'
  | 'N' => some '\u0085'
  | '_' => some '\u00a0'
  | 'L' => some '\u2028'
  | 'P' => some '\u2029'
  | _ => none

/-- How many hexadecimal digits follow the letter of an escape. -/
def escapeDigits (c : Char) : Option Nat :=
  match c with
  | 'x' => some 2
  | 'u' => some 4
  | 'U' => some 8
  | _ => none

/-- The character of an escape and the number of characters it takes up after the backslash. -/
def escape (cs : List Char) : Option (Char × Nat) :=
  match cs with
  | [] => none
  | c :: cs =>
    match escapeDigits c with
    | none => (escapeLetter c).map fun x => (x, 1)
    | some n => do
      let ds := cs.take n
      let values ← ds.mapM Json.hexValue
      let code := values.foldl (fun v d => 16 * v + d) 0
      if values.length < n || (0xd800 ≤ code && code ≤ 0xdfff) || 0x10ffff < code then none
      else some (Char.ofNat code, n + 1)

/-- Reads the rest of a quoted scalar whose reversed text so far is `out`. `inGap` while blanks and
line ends are gathered. -/
def quotedFrom (single : Bool) :
    Nat → Bool → Gap → List Char → Cursor → Option (List Char × Cursor)
  | 0, _, _, _, _ => none
  | fuel + 1, inGap, gap, out, c =>
    match c.peek? with
    | none => none
    | some x =>
      if c.atDocumentMark then none
      else if isBlank x then quotedFrom single fuel true (gap.addBlank x) out c.skip
      else if isBreak x then
        quotedFrom single fuel true (gap.addBreak c.breakText) out c.skipBreak
      else
        let out := if inGap then gap.text ++ out else out
        if x == '\'' && single then
          if (c.peekAt? 1) == some '\'' then
            quotedFrom single fuel false {} ('\'' :: out) (c.skipMany 2)
          else some (out.reverse, c.skip)
        else if x == '"' && !single then some (out.reverse, c.skip)
        else if x == '\\' && !single then
          if c.breakAt 1 then
            quotedFrom single fuel true { folded := true } out c.skip.skipBreak
          else
            match escape c.rest.tail with
            | none => none
            | some (y, n) => quotedFrom single fuel false {} (y :: out) (c.skipMany (n + 1))
        else quotedFrom single fuel false {} (x :: out) c.skip

/-- Reads a quoted scalar from its opening quote on. -/
def quotedScalar (single : Bool) (c : Cursor) : Option (List Char × Cursor) :=
  quotedFrom single (c.rest.length + 1) false {} [] c.skip

/-- What becomes of the line ends at the end of a block scalar. -/
inductive Chomp where
  | strip
  | clip
  | keep
  deriving DecidableEq

/-- Reads the signs after the mark of a block scalar. -/
def blockHeader (c : Cursor) : Option (Chomp × Nat × Cursor) :=
  let chomp? (c : Cursor) : Option Chomp :=
    if c.isAt '+' then some .keep else if c.isAt '-' then some .strip else none
  let width? (c : Cursor) : Option Nat :=
    (c.peek?.filter Number.isDigit).map fun d => d.toNat - 48
  match chomp? c with
  | some chomp =>
    match width? c.skip with
    | some 0 => none
    | some n => some (chomp, n, c.skip.skip)
    | none => some (chomp, 0, c.skip)
  | none =>
    match width? c with
    | some 0 => none
    | some n =>
      match chomp? c.skip with
      | some chomp => some (chomp, n, c.skip.skip)
      | none => some (.clip, n, c.skip)
    | none => some (.clip, 0, c)

/-- Passes the indentation of the lines of a block scalar, and empty lines. `indent` is 0 until it
is known. The result is the largest column seen, the reversed text of the line ends, and the
place. -/
def blockBreaks (indent : Nat) : Nat → Nat → List Char → Cursor → Option (Nat × List Char × Cursor)
  | 0, _, _, _ => none
  | fuel + 1, widest, out, c =>
    if c.isAt ' ' && (indent == 0 || c.column < indent) then
      blockBreaks indent fuel widest out c.skip
    else
      let widest := max widest c.column
      if c.isAt '\t' && (indent == 0 || c.column < indent) then none
      else if c.breakAt 0 then
        blockBreaks indent fuel widest (c.breakText.reverse ++ out) c.skipBreak
      else some (widest, out, c)

/-- Reads the lines of a block scalar. `lineEnd` is what the last line end stands for, `more` the
reversed text of the empty lines after it, and `led` tells whether the last line started with a
blank. -/
def blockLines (literal : Bool) (indent : Nat) :
    Nat → List Char → List Char → Bool → List Char → Cursor →
      Option (List Char × List Char × List Char × Cursor)
  | 0, _, _, _, _, _ => none
  | fuel + 1, lineEnd, more, led, out, c =>
    if c.column != indent || c.rest.isEmpty then some (out, lineEnd, more, c)
    else
      let blank := c.blankAt 0
      let joint :=
        if !literal && lineEnd == ['\n'] && !led && !blank then
          if more.isEmpty then [' '] else more
        else more ++ lineEnd
      let line := c.rest.takeWhile (!isBreak ·)
      let c := c.skipLine
      match blockBreaks indent (c.rest.length + 1) 0 [] c.skipBreak with
      | none => none
      | some (_, more, next) =>
        blockLines literal indent fuel c.breakText more blank (line.reverse ++ (joint ++ out)) next

/-- Reads a block scalar from its mark on, in a block indented by `parent`. -/
def blockScalar (literal : Bool) (parent : Int) (c : Cursor) : Option (List Char × Cursor) := do
  let (chomp, width, c) ← blockHeader c.skip
  let c := c.skipBlanks
  let c := if c.isAt '#' then c.skipLine else c
  if !c.rest.isEmpty && !c.breakAt 0 then none
  else
    let c := c.skipBreak
    let given := if width = 0 then 0 else (max parent 0).toNat + width
    let (widest, more, c) ← blockBreaks given (c.rest.length + 1) 0 [] c
    let indent := if given = 0 then max (max widest (parent + 1).toNat) 1 else given
    let (out, lineEnd, more, c) ← blockLines literal indent (c.rest.length + 1) [] more false [] c
    let tail := match chomp with
      | .strip => []
      | .clip => lineEnd
      | .keep => more ++ lineEnd
    pure ((tail ++ out).reverse, c)

end BeanGauge.Yaml
