/-!
Regular expressions, as far as patterns need them: characters that stand for themselves, any
character of a line, repetitions of one character, and the two ends of a text.

Matching keeps, for every position of a text, whether the part of the expression read so far can end
there. It may start anywhere and end anywhere, so only an expression with both ends in it looks at
the whole text. How large the automaton of an expression gets is left to a `Builder`.
-/

namespace BeanGauge

namespace Regex

inductive CharSet where
  | exactly (c : Char)
  /-- Any character but a line end. -/
  | inLine
  deriving DecidableEq

def CharSet.contains : CharSet → Char → Bool
  | .exactly c, x => c == x
  | .inLine, x => x != '\n'

/-- One element of an expression. -/
inductive Element where
  | start
  | finish
  | one (set : CharSet)
  | many (set : CharSet)
  deriving DecidableEq

end Regex

structure Regex where
  elements : List Regex.Element
  deriving DecidableEq

namespace Regex

/-! ## The text of an expression -/

/-- The characters that stand for themselves behind a backslash only. -/
def metaChars : List Char :=
  ['\\', '.', '+', '*', '?', '(', ')', '|', '[', ']', '\x7b', '\x7d', '^', '$', '#', '&', '-', '~']

/-- The text of an expression that matches the given text. -/
def escapeChars (cs : List Char) : List Char :=
  cs.flatMap fun c => if metaChars.contains c then ['\\', c] else [c]

/-- An expression that is being read: its elements so far, the last one first, and whether a
backslash was read just before. -/
structure Reading where
  elements : List Element
  escaped : Bool

/-- Reads one more character. There are no groups, classes, alternatives or other repetitions. -/
def Reading.read (r : Reading) (c : Char) : Option Reading :=
  if r.escaped then
    if metaChars.contains c then some ⟨.one (.exactly c) :: r.elements, false⟩ else none
  else
    match c with
    | '\\' => some ⟨r.elements, true⟩
    | '^' => some ⟨.start :: r.elements, false⟩
    | '$' => some ⟨.finish :: r.elements, false⟩
    | '.' => some ⟨.one .inLine :: r.elements, false⟩
    | '*' =>
      match r.elements with
      | .one set :: elements => some ⟨.many set :: elements, false⟩
      | _ => none
    | '+' | '?' | '(' | ')' | '[' | '\x7b' | '|' => none
    | c => some ⟨.one (.exactly c) :: r.elements, false⟩

def parse? (s : String) : Option Regex :=
  (s.toList.foldlM Reading.read ⟨[], false⟩).bind fun r =>
    if r.escaped then none else some ⟨r.elements.reverse⟩

/-! ## Matching -/

/-- The positions in reach that are the start of the text. -/
def keepFirst : List Bool → List Bool
  | [] => []
  | b :: bs => b :: bs.map fun _ => false

/-- The positions in reach that are the end of the text. -/
def keepLast : List Bool → List Bool
  | [] => []
  | [b] => [b]
  | _ :: bs => false :: keepLast bs

/-- The positions in reach after one more character of a set, from the second one on. -/
def stepOne (set : CharSet) : List Bool → List Char → List Bool
  | b :: bs, x :: xs => (b && set.contains x) :: stepOne set bs xs
  | _, _ => []

/-- The positions in reach after any number of characters of a set. `inReach` tells whether these
can stretch as far as the first position. -/
def stepMany (set : CharSet) (inReach : Bool) : List Bool → List Char → List Bool
  | b :: bs, x :: xs => (inReach || b) :: stepMany set ((inReach || b) && set.contains x) bs xs
  | b :: _, [] => [inReach || b]
  | [], _ => []

/-- The positions of `text` that are in reach after one more element. -/
def Element.step (text : List Char) (reach : List Bool) : Element → List Bool
  | .start => keepFirst reach
  | .finish => keepLast reach
  | .one set => false :: stepOne set reach text
  | .many set => stepMany set false reach text

/-- Whether the expression matches some part of the text. -/
def matchesChars (r : Regex) (text : List Char) : Bool :=
  let anywhere := List.replicate (text.length + 1) true
  (r.elements.foldl (Element.step text) anywhere).any id

def isMatch (r : Regex) (text : String) : Bool := r.matchesChars text.toList

/-! ## Building -/

/-- What builds expressions. -/
class Builder where
  /-- The bytes that the automaton of an expression takes. -/
  size : Regex → Nat
  /-- What is said of a text that is no expression. -/
  fault : String → String

/-- The most bytes an automaton may take. -/
def sizeLimit : Nat := 10485760

def tooLarge : String := s!"Compiled regex exceeds size limit of {sizeLimit} bytes."

/-- The expression of a text, or why there is none. -/
def build [Builder] (s : String) : Except String Regex :=
  match parse? s with
  | none => .error (Builder.fault s)
  | some r =>
    if Builder.size r ≤ sizeLimit then .ok r
    else .error tooLarge

/-- The bytes that the automaton of an element takes, about. -/
def Element.weight : Element → Nat
  | .start | .finish => 0
  | .one (.exactly c) => 32 * c.utf8Size
  | .one .inLine | .many _ => 576

/-- A builder whose automata are measured by their elements. -/
abbrev weighing : Builder where
  size r := r.elements.foldl (fun total e => total + e.weight) 0
  fault _ := "regex parse error"

end Regex

end BeanGauge
