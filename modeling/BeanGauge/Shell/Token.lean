import BeanGauge.Shell.Syntax
import BeanGauge.Text.Split
/-!
The tokens of a script: words with their quotes taken apart, and operators.
-/

namespace BeanGauge.Shell

inductive Token where
  | word (w : Word)
  | newline
  | semicolon
  | doubleSemicolon
  | andAnd
  | orOr
  | bar
  | openParen
  | closeParen
  /-- The front of a redirection; a word has to follow. -/
  | redirect (descriptor : Nat) (reads duplicates : Bool)
  deriving DecidableEq

/-- Splits at the first `))`. -/
def untilDoubleParen : List Char → Option (List Char × List Char)
  | ')' :: ')' :: rest => some ([], rest)
  | c :: rest => (untilDoubleParen rest).map fun p => (c :: p.1, p.2)
  | [] => none

/-- Parameters whose name is a single mark. -/
def isMarkParam (c : Char) : Bool := "@*#?$".toList.contains c

/-- What follows a dollar sign; without a name it stands for itself. -/
def lexDollar (quoted : Bool) (cs : List Char) : Option (Piece × List Char) :=
  match cs with
  | '{' :: rest =>
    match Text.splitOnce '}' rest with
    | some (name, rest) =>
      if !name.isEmpty && (name.all isNameChar || (name.length == 1 && name.all isMarkParam)) then
        some (.param (String.ofList name) quoted, rest)
      else none
    | none => none
  | '(' :: '(' :: rest => (untilDoubleParen rest).map fun p => (.arith p.1, p.2)
  | '(' :: _ => none
  | c :: rest =>
    if isNameStart c then
      let name := c :: rest.takeWhile isNameChar
      some (.param (String.ofList name) quoted, rest.dropWhile isNameChar)
    else if c.isDigit || isMarkParam c then some (.param (String.ofList [c]) quoted, rest)
    else some (.text ['$'] quoted, cs)
  | [] => some (.text ['$'] quoted, [])

/-- The pieces up to the closing double quote. -/
def lexQuoted : Nat → List Char → Option (Word × List Char)
  | 0, _ => none
  | _ + 1, [] => none
  | _ + 1, '"' :: rest => some ([], rest)
  | fuel + 1, '\\' :: c :: rest => do
    let (w, after) ← lexQuoted fuel rest
    if c == '\n' then pure (w, after)
    else if c == '$' || c == '"' || c == '\\' || c.toNat == 0x60 then
      pure (.text [c] true :: w, after)
    else pure (.text ['\\', c] true :: w, after)
  | fuel + 1, '$' :: rest => do
    let (p, rest) ← lexDollar true rest
    let (w, after) ← lexQuoted fuel rest
    pure (p :: w, after)
  | fuel + 1, c :: rest =>
    if c.toNat == 0x60 then none
    else (lexQuoted fuel rest).map fun p => (.text [c] true :: p.1, p.2)

/-- Whether `c` ends a word. -/
def endsWord (c : Char) : Bool := " \t\n;&|()<>".toList.contains c

def lexWord : Nat → List Char → Option (Word × List Char)
  | 0, _ => none
  | _ + 1, [] => some ([], [])
  | fuel + 1, '\'' :: rest => do
    let (cs, rest) ← Text.splitOnce '\'' rest
    let (w, after) ← lexWord fuel rest
    pure (.text cs true :: w, after)
  | fuel + 1, '"' :: rest => do
    let (inner, rest) ← lexQuoted fuel rest
    let (w, after) ← lexWord fuel rest
    pure (.text [] true :: inner ++ w, after)
  | fuel + 1, '\\' :: c :: rest => do
    let (w, after) ← lexWord fuel rest
    pure (if c == '\n' then w else .text [c] true :: w, after)
  | fuel + 1, '$' :: rest => do
    let (p, rest) ← lexDollar false rest
    let (w, after) ← lexWord fuel rest
    pure (p :: w, after)
  | fuel + 1, c :: rest =>
    if endsWord c then some ([], c :: rest)
    else if c.toNat == 0x60 then none
    else (lexWord fuel rest).map fun p => (.text [c] false :: p.1, p.2)

/-- The front of a redirection, and the rest. -/
def lexRedirect (cs : List Char) : Option (Token × List Char) :=
  let digits := cs.takeWhile Char.isDigit
  let descriptor (standard : Nat) : Nat := (String.ofList digits).toNat?.getD standard
  match cs.drop digits.length with
  | '<' :: '<' :: _ => none
  | '<' :: '&' :: rest => some (.redirect (descriptor 0) true true, rest)
  | '<' :: rest => some (.redirect (descriptor 0) true false, rest)
  | '>' :: '&' :: rest => some (.redirect (descriptor 1) false true, rest)
  | '>' :: '>' :: rest => some (.redirect (descriptor 1) false false, rest)
  | '>' :: '|' :: rest => some (.redirect (descriptor 1) false false, rest)
  | '>' :: rest => some (.redirect (descriptor 1) false false, rest)
  | _ => none

/-- The tokens of a script. Pipes and background jobs are not known. -/
def lexFrom : Nat → List Char → Option (List Token)
  | 0, _ => none
  | _ + 1, [] => some []
  | fuel + 1, '\\' :: '\n' :: rest => lexFrom fuel rest
  | fuel + 1, '\n' :: rest => (lexFrom fuel rest).map (.newline :: ·)
  | fuel + 1, ';' :: ';' :: rest => (lexFrom fuel rest).map (.doubleSemicolon :: ·)
  | fuel + 1, ';' :: rest => (lexFrom fuel rest).map (.semicolon :: ·)
  | fuel + 1, '&' :: '&' :: rest => (lexFrom fuel rest).map (.andAnd :: ·)
  | fuel + 1, '|' :: '|' :: rest => (lexFrom fuel rest).map (.orOr :: ·)
  | fuel + 1, '|' :: rest => (lexFrom fuel rest).map (.bar :: ·)
  | fuel + 1, '(' :: rest => (lexFrom fuel rest).map (.openParen :: ·)
  | fuel + 1, ')' :: rest => (lexFrom fuel rest).map (.closeParen :: ·)
  | fuel + 1, c :: rest =>
    if c == ' ' || c == '\t' then lexFrom fuel rest
    else if c == '#' then lexFrom fuel (rest.dropWhile (· != '\n'))
    else
      match lexRedirect (c :: rest) with
      | some (t, rest) => (lexFrom fuel rest).map (t :: ·)
      | none =>
        if endsWord c then none
        else do
          let (w, rest) ← lexWord (rest.length + 2) (c :: rest)
          (lexFrom fuel rest).map (.word w :: ·)

def lex (script : String) : Option (List Token) :=
  lexFrom (script.toList.length + 1) script.toList

end BeanGauge.Shell
