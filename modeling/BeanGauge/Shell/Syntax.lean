/-!
The commands of a small command language: simple commands, sequences, conditions, loops and choices,
any of them with redirections.
-/

namespace BeanGauge.Shell

/-- A piece of a word. What is quoted is neither split into fields nor a pattern. -/
inductive Piece where
  | text (cs : List Char) (quoted : Bool)
  /-- The value of a variable or a parameter. -/
  | param (name : String) (quoted : Bool)
  /-- The value of an arithmetic expression. -/
  | arith (expression : List Char)
  deriving DecidableEq

abbrev Word := List Piece

structure Redirection where
  descriptor : Nat
  /-- Whether the descriptor is for reading. -/
  reads : Bool
  /-- Whether the target is another descriptor, with a dash for none, and not a path. -/
  duplicates : Bool
  target : Word
  deriving DecidableEq

inductive Command where
  /-- Assignments, and the words of a command that they are made for. -/
  | simple (assignments : List (String × Word)) (words : List Word)
  | sequence (commands : List Command)
  /-- The second command only if the first succeeds. -/
  | both (first second : Command)
  /-- The second command only if the first fails. -/
  | either (first second : Command)
  | negation (command : Command)
  /-- The body while the condition holds, or until it does. -/
  | loop (untilHolds : Bool) (condition body : Command)
  /-- The body for each word, or for each parameter. -/
  | each (variableName : String) (words : Option (List Word)) (body : Command)
  | branch (condition yes no : Command)
  /-- The first arm with a pattern that the word matches. -/
  | choose (subject : Word) (arms : List (List Word × Command))
  | redirected (command : Command) (redirections : List Redirection)

/-- The characters of a piece that is neither quoted nor expanded. -/
def Piece.bare? : Piece → Option (List Char)
  | .text cs false => some cs
  | _ => none

/-- The text of a word without quotes and expansions. -/
def plainText? (w : Word) : Option String :=
  (w.mapM Piece.bare?).map fun (parts : List (List Char)) => String.ofList parts.flatten

/-- Whether `c` may start a name. -/
def isNameStart (c : Char) : Bool := c.isAlpha || c == '_'

/-- Whether `c` may stand in a name. -/
def isNameChar (c : Char) : Bool := c.isAlphanum || c == '_'

end BeanGauge.Shell
