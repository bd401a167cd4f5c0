/-!
A place in a YAML text: what is still to be read, and the line and column that this is at.
-/

namespace BeanGauge.Yaml

/-- Whether `c` is a space or a tab. -/
def isBlank (c : Char) : Bool := c == ' ' || c == '\t'

/-- Whether `c` ends a line. -/
def isBreak (c : Char) : Bool :=
  c == '\n' || c == '\r' || c.toNat == 0x85 || c.toNat == 0x2028 || c.toNat == 0x2029

/-- Whether `c` may stand in a YAML text at all. -/
def isAllowed (c : Char) : Bool :=
  let n := c.toNat
  n == 9 || n == 10 || n == 13 || (0x20 ≤ n && n ≤ 0x7e) || n == 0x85 || (0xa0 ≤ n && n ≤ 0xfffd)
    || 0x10000 ≤ n

structure Cursor where
  rest : List Char
  index : Nat
  line : Nat
  column : Nat

namespace Cursor

def start (cs : List Char) : Cursor := ⟨cs, 0, 0, 0⟩

def peek? (c : Cursor) : Option Char := c.rest.head?

/-- The character after `n` more. -/
def peekAt? (c : Cursor) (n : Nat) : Option Char := c.rest[n]?

/-- Whether the next character is `x`. -/
def isAt (c : Cursor) (x : Char) : Bool := c.peek? == some x

/-- Whether the character after `n` more is a blank. -/
def blankAt (c : Cursor) (n : Nat) : Bool := (c.peekAt? n).any isBlank

/-- Whether a line ends after `n` more characters. -/
def breakAt (c : Cursor) (n : Nat) : Bool := (c.peekAt? n).any isBreak

/-- Whether a word ends after `n` more characters. -/
def endAt (c : Cursor) (n : Nat) : Bool := (c.peekAt? n).all fun x => isBlank x || isBreak x

/-- Passes one character that does not end a line. -/
def skip (c : Cursor) : Cursor :=
  ⟨c.rest.tail, c.index + 1, c.line, c.column + 1⟩

/-- Passes several characters that do not end a line. -/
def skipMany (c : Cursor) (n : Nat) : Cursor :=
  ⟨c.rest.drop n, c.index + n, c.line, c.column + n⟩

/-- Passes the end of a line, if the cursor is at one. -/
def skipBreak (c : Cursor) : Cursor :=
  match c.rest with
  | '\r' :: '\n' :: cs => ⟨cs, c.index + 2, c.line + 1, 0⟩
  | x :: cs => if isBreak x then ⟨cs, c.index + 1, c.line + 1, 0⟩ else c
  | [] => c

/-- The characters that the end of a line stands for. -/
def breakText (c : Cursor) : List Char :=
  match c.rest with
  | x :: _ =>
    if x == '\n' || x == '\r' || x.toNat == 0x85 then ['\n'] else if isBreak x then [x] else []
  | [] => []

/-- Passes the characters up to the next end of a line. -/
def skipLine (c : Cursor) : Cursor :=
  c.skipMany (c.rest.takeWhile (!isBreak ·)).length

def skipBlanks (c : Cursor) : Cursor := c.skipMany (c.rest.takeWhile isBlank).length

/-- Whether a line that separates documents starts here. -/
def atDocumentMark (c : Cursor) : Bool :=
  c.column == 0 && c.endAt 3 &&
    (['-', '-', '-'].isPrefixOf c.rest || ['.', '.', '.'].isPrefixOf c.rest)

end Cursor

end BeanGauge.Yaml
