import BeanGauge.Shell.Token
/-!
Reading scripts.
-/

namespace BeanGauge.Shell

def closingWords : List String := ["do", "done", "then", "elif", "else", "fi", "esac", "\x7d"]

/-- The text of a token that is a plain word. -/
def Token.keyword? : Token → Option String
  | .word w => plainText? w
  | _ => none

/-- Whether a list of commands ends at a token. -/
def Token.closes (t : Token) : Bool :=
  t == .doubleSemicolon || t == .closeParen || t.keyword?.any closingWords.contains

def Token.separates (t : Token) : Bool := t == .newline || t == .semicolon

def skipNewlines (ts : List Token) : List Token := ts.dropWhile (· == .newline)

def expect (word : String) : List Token → Option (List Token)
  | t :: ts => if t.keyword? == some word then some ts else none
  | [] => none

def assignment? (w : Word) : Option (String × Word) :=
  let leading := w.takeWhile (·.bare?.isSome)
  let cs := (leading.filterMap Piece.bare?).flatten
  match Text.splitOnce '=' cs with
  | some (c :: name, value) =>
    if isNameStart c && name.all isNameChar then
      some (String.ofList (c :: name), .text value false :: w.drop leading.length)
    else none
  | _ => none

def takeWords : List Token → List Word × List Token
  | .word w :: ts => let (ws, rest) := takeWords ts; (w :: ws, rest)
  | ts => ([], ts)

/-- The words and redirections up to the end of a simple command. -/
def takeParts : List Token → List Word × List Redirection × List Token
  | .word w :: ts => let (ws, rs, rest) := takeParts ts; (w :: ws, rs, rest)
  | .redirect descriptor reads duplicates :: .word target :: ts =>
    let (ws, rs, rest) := takeParts ts
    (ws, ⟨descriptor, reads, duplicates, target⟩ :: rs, rest)
  | ts => ([], [], ts)

/-- A command with redirections, itself when there are none. -/
def redirect (c : Command) (rs : List Redirection) : Command :=
  if rs.isEmpty then c else .redirected c rs

/-- A command with the redirections behind it. -/
def takeRedirections (c : Command) (ts : List Token) : Command × List Token :=
  match takeParts ts with
  | ([], rs, rest) => (redirect c rs, rest)
  | _ => (c, ts)

/-- The assignments at the front of some words. -/
def takeAssignments : List Word → List (String × Word) × List Word
  | w :: ws =>
    match assignment? w with
    | some a => let (as, rest) := takeAssignments ws; (a :: as, rest)
    | none => ([], w :: ws)
  | [] => ([], [])

/-- The patterns of an arm, up to the closing bracket. -/
def takePatterns : List Token → Option (List Word × List Token)
  | .word w :: .bar :: ts => (takePatterns ts).map fun p => (w :: p.1, p.2)
  | .word w :: .closeParen :: ts => some ([w], ts)
  | _ => none

mutual

/-- Commands up to the end or a word that closes them. -/
def readList : Nat → List Token → Option (Command × List Token)
  | 0, _ => none
  | fuel + 1, ts =>
    match ts.dropWhile Token.separates with
    | [] => some (.sequence [], [])
    | t :: ts =>
      if t.closes then some (.sequence [], t :: ts)
      else do
        let (first, ts) ← readAndOr fuel (t :: ts)
        match ← readList fuel ts with
        | (.sequence rest, ts) => pure (.sequence (first :: rest), ts)
        | _ => none

def readAndOr : Nat → List Token → Option (Command × List Token)
  | 0, _ => none
  | fuel + 1, ts => do
    let (first, ts) ← readCommand fuel ts
    readJoined fuel first ts

/-- What is joined to a command by conditions. -/
def readJoined : Nat → Command → List Token → Option (Command × List Token)
  | 0, _, _ => none
  | fuel + 1, first, .andAnd :: ts => do
    let (second, ts) ← readCommand fuel (skipNewlines ts)
    readJoined fuel (.both first second) ts
  | fuel + 1, first, .orOr :: ts => do
    let (second, ts) ← readCommand fuel (skipNewlines ts)
    readJoined fuel (.either first second) ts
  | _ + 1, first, ts => some (first, ts)

def readCommand : Nat → List Token → Option (Command × List Token)
  | 0, _ => none
  | _ + 1, [] => none
  | fuel + 1, t :: ts =>
    match t.keyword? with
    | some "!" => do
      let (c, ts) ← readCommand fuel ts
      pure (.negation c, ts)
    | some "while" => (readLoop fuel false ts).map fun p => takeRedirections p.1 p.2
    | some "until" => (readLoop fuel true ts).map fun p => takeRedirections p.1 p.2
    | some "if" => (readBranch fuel ts).map fun p => takeRedirections p.1 p.2
    | some "for" => (readEach fuel ts).map fun p => takeRedirections p.1 p.2
    | some "case" =>
      match ts with
      | .word subject :: ts => do
        let ts ← expect "in" (skipNewlines ts)
        let (arms, ts) ← readArms fuel ts
        pure (takeRedirections (.choose subject arms) ts)
      | _ => none
    | some "\x7b" => do
      let (body, ts) ← readList fuel ts
      pure (takeRedirections body (← expect "\x7d" ts))
    | _ =>
      let (words, redirections, rest) := takeParts (t :: ts)
      let (assignments, words) := takeAssignments words
      if assignments.isEmpty && words.isEmpty && redirections.isEmpty then none
      else some (redirect (.simple assignments words) redirections, rest)

/-- The condition and the body of a loop. -/
def readLoop : Nat → Bool → List Token → Option (Command × List Token)
  | 0, _, _ => none
  | fuel + 1, untilHolds, ts => do
    let (condition, ts) ← readList fuel ts
    let ts ← expect "do" ts
    let (body, ts) ← readList fuel ts
    pure (.loop untilHolds condition body, ← expect "done" ts)

/-- The condition and the cases of a branch. -/
def readBranch : Nat → List Token → Option (Command × List Token)
  | 0, _ => none
  | fuel + 1, ts => do
    let (condition, ts) ← readList fuel ts
    let ts ← expect "then" ts
    let (yes, ts) ← readList fuel ts
    match ts with
    | [] => none
    | t :: ts =>
      match t.keyword? with
      | some "fi" => pure (.branch condition yes (.sequence []), ts)
      | some "else" =>
        let (no, ts) ← readList fuel ts
        pure (.branch condition yes no, ← expect "fi" ts)
      | some "elif" =>
        let (no, ts) ← readBranch fuel ts
        pure (.branch condition yes no, ts)
      | _ => none

def readEach : Nat → List Token → Option (Command × List Token)
  | 0, _ => none
  | _ + 1, [] => none
  | fuel + 1, t :: ts => do
    let name ← t.keyword?
    let (words, ts) := match expect "in" ts with
      | some ts => let (ws, ts) := takeWords ts; (some ws, ts)
      | none => (none, ts)
    let ts ← expect "do" (ts.dropWhile Token.separates)
    let (body, ts) ← readList fuel ts
    pure (.each name words body, ← expect "done" ts)

def readArms : Nat → List Token → Option (List (List Word × Command) × List Token)
  | 0, _ => none
  | fuel + 1, ts =>
    match skipNewlines ts with
    | [] => none
    | t :: ts =>
      if t.keyword? == some "esac" then some ([], ts)
      else do
        let (patterns, ts) ← takePatterns (if t == .openParen then ts else t :: ts)
        let (body, ts) ← readList fuel ts
        match ts with
        | .doubleSemicolon :: ts =>
          let (arms, ts) ← readArms fuel ts
          pure ((patterns, body) :: arms, ts)
        | ts => pure ([(patterns, body)], ← expect "esac" ts)

end

def parse (script : String) : Option Command := do
  let ts ← lex script
  match ← readList (8 * ts.length + 8) ts with
  | (c, []) => pure c
  | _ => none

end BeanGauge.Shell
