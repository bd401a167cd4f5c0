import BeanGauge.Yaml.Scalar
/-!
The tokens of a YAML text.

Blocks are told by indentation, and a key is known only when the colon behind it is found: a word
that may be a key is remembered with the number of tokens before it, and the tokens that open the
mapping and mark the key are put there later.
-/

namespace BeanGauge.Yaml

inductive Token where
  | version (major minor : Nat)
  | handle (name start : String)
  | documentStart
  | documentEnd
  | sequenceStart
  | mappingStart
  | blockEnd
  | flowSequenceStart
  | flowSequenceEnd
  | flowMappingStart
  | flowMappingEnd
  | blockEntry
  | flowEntry
  | key
  | value
  | reference (name : String)
  | anchor (name : String)
  | tag (handle suffix : String)
  | scalar (text : String) (plain : Bool)
  deriving DecidableEq

structure KeyPlace where
  possible : Bool := false
  /-- Whether nothing but a key can stand there. -/
  required : Bool := false
  /-- The number of tokens before it. -/
  tokens : Nat := 0
  index : Nat := 0
  line : Nat := 0
  column : Nat := 0

structure Lexer where
  cursor : Cursor
  /-- How many flow collections are open. -/
  flow : Nat
  /-- The column of the innermost block, -1 outside all blocks. -/
  indent : Int
  indents : List Int
  /-- Whether a key may start at the cursor. -/
  keyAllowed : Bool
  /-- One place for every open flow collection, and one for the block around them. -/
  places : List KeyPlace
  /-- The tokens so far. -/
  tokens : Array Token

namespace Lexer

/-- A text of which nothing has been read. -/
def start (cs : List Char) : Lexer :=
  ⟨Cursor.start cs, 0, -1, [], true, [{}], #[]⟩

def emit (l : Lexer) (t : Token) : Lexer := { l with tokens := l.tokens.push t }

/-- Puts a token before those from number `n` on. -/
def emitAt (l : Lexer) (n : Nat) (t : Token) : Lexer :=
  { l with tokens := (l.tokens.toList.take n ++ t :: l.tokens.toList.drop n).toArray }

def place (l : Lexer) : KeyPlace := l.places.head?.getD {}

/-- Replaces the innermost place of a key. -/
def setPlace (l : Lexer) (p : KeyPlace) : Lexer := { l with places := p :: l.places.tail }

/-- Gives up a place that the cursor is too far from. A key stands on one line and is no longer than
1024 characters. -/
def KeyPlace.refresh (c : Cursor) (p : KeyPlace) : Option KeyPlace :=
  if p.possible && (p.line < c.line || p.index + 1024 < c.index) then
    if p.required then none else some { p with possible := false }
  else some p

/-- Gives up all places that the cursor is too far from. -/
def refreshPlaces (l : Lexer) : Option Lexer :=
  (l.places.mapM (KeyPlace.refresh l.cursor)).map fun ps => { l with places := ps }

def dropPlace (l : Lexer) : Option Lexer :=
  let p := l.place
  if p.possible && p.required then none else some (l.setPlace { p with possible := false })

def savePlace (l : Lexer) : Option Lexer :=
  if l.keyAllowed then
    l.dropPlace.map fun l => l.setPlace
      { possible := true
        required := l.flow == 0 && l.indent == l.cursor.column
        tokens := l.tokens.size
        index := l.cursor.index
        line := l.cursor.line
        column := l.cursor.column }
  else some l

/-- Closes the blocks that are indented further than `column`. -/
def unroll (column : Int) : List Int → Lexer → Lexer
  | [], l => l
  | i :: is, l =>
    if l.flow == 0 && column < l.indent then
      unroll column is { l.emit .blockEnd with indent := i, indents := is }
    else l

/-- Closes the blocks that are indented further than `column`. -/
def closeBlocks (l : Lexer) (column : Int) : Lexer := unroll column l.indents l

/-- Opens a block at `column` if none is open there; its token goes before token number `n`. -/
def openBlock (l : Lexer) (column : Nat) (n : Nat) (t : Token) : Lexer :=
  if l.flow == 0 && l.indent < column then
    { l.emitAt n t with indent := column, indents := l.indent :: l.indents }
  else l

/-- Passes blanks, comments and line ends up to the next token. -/
def skipSpace : Nat → Lexer → Lexer
  | 0, l => l
  | fuel + 1, l =>
    let c := l.cursor
    match c.peek? with
    | none => l
    | some x =>
      if x == ' ' || (x == '\t' && (0 < l.flow || !l.keyAllowed)) then
        skipSpace fuel { l with cursor := c.skip }
      else if x.toNat == 0xfeff && c.index == 0 then skipSpace fuel { l with cursor := c.skip }
      else if x == '#' then skipSpace fuel { l with cursor := c.skipLine }
      else if isBreak x then
        skipSpace fuel { l with cursor := c.skipBreak, keyAllowed := l.keyAllowed || l.flow == 0 }
      else l

/-- Passes `n` characters and adds a token. -/
def advance (l : Lexer) (n : Nat) (keyAllowed : Bool) (t : Token) : Lexer :=
  { l.emit t with cursor := l.cursor.skipMany n, keyAllowed }

/-- The characters of anchors, handles and directive names. -/
def isWordChar (c : Char) : Bool := c.isAlphanum || c == '_' || c == '-'

def lexAnchor (l : Lexer) (make : String → Token) : Option Lexer := do
  let l ← l.savePlace
  let word := l.cursor.skip.rest.takeWhile isWordChar
  let c := l.cursor.skipMany (word.length + 1)
  let ends := c.endAt 0 || (c.peek?.any fun x => "?:,]\x7d%@".toList.contains x || x.toNat == 0x60)
  if word.isEmpty || !ends then none
  else some { l.emit (make (String.ofList word)) with cursor := c, keyAllowed := false }

/-- The characters of tags; the marks of flow collections only within angle brackets. -/
def isTagChar (verbatim : Bool) (c : Char) : Bool :=
  isWordChar c || ";/?:@&=+$.!~*'()%".toList.contains c || (verbatim && ",[]".toList.contains c)

def lexTag (l : Lexer) : Option Lexer := do
  let l ← l.savePlace
  let c := l.cursor
  let (handle, suffix, c) ←
    if c.peekAt? 1 == some '<' then
      let body := (c.skipMany 2).rest.takeWhile (isTagChar true)
      let c := c.skipMany (2 + body.length)
      if body.isEmpty || !c.isAt '>' then none else some ([], body, c.skip)
    else
      let word := c.skip.rest.takeWhile isWordChar
      if c.peekAt? (1 + word.length) == some '!' then
        let c := c.skipMany (2 + word.length)
        let body := c.rest.takeWhile (isTagChar false)
        if body.isEmpty then none
        else some ('!' :: word ++ ['!'], body, c.skipMany body.length)
      else
        let body := c.skip.rest.takeWhile (isTagChar false)
        let c := c.skipMany (1 + body.length)
        if body.isEmpty then some ([], ['!'], c) else some (['!'], body, c)
  let ends := c.endAt 0 || (0 < l.flow && c.isAt ',')
  if !ends then none
  else some { l.emit (.tag (String.ofList handle) (String.ofList suffix)) with
    cursor := c, keyAllowed := false }

def lexDirective (l : Lexer) : Option Lexer := do
  let l ← (l.closeBlocks (-1)).dropPlace
  let line := l.cursor.skip.rest.takeWhile (!isBreak ·)
  let uncommented := line.takeWhile (· != '#')
  let words := (String.ofList uncommented).split (fun c => c == ' ' || c == '\t') |>.toList
  let words := (words.map fun w => w.toString).filter (· != "")
  let token ← match words with
    | ["YAML", version] =>
      match version.splitOn "." with
      | [major, minor] => do pure (Token.version (← major.toNat?) (← minor.toNat?))
      | _ => none
    | ["TAG", name, start] => some (.handle name start)
    | _ => none
  some { l.emit token with cursor := l.cursor.skipLine, keyAllowed := false }

def lexBlockEntry (l : Lexer) : Option Lexer :=
  if l.flow == 0 && !l.keyAllowed then none
  else
    let l := l.openBlock l.cursor.column l.tokens.size .sequenceStart
    l.dropPlace.map fun l => l.advance 1 true .blockEntry

def lexKey (l : Lexer) : Option Lexer :=
  if l.flow == 0 && !l.keyAllowed then none
  else
    let l := l.openBlock l.cursor.column l.tokens.size .mappingStart
    l.dropPlace.map fun l => l.advance 1 (l.flow == 0) .key

def lexValue (l : Lexer) : Option Lexer :=
  let p := l.place
  if p.possible then
    let l := (l.emitAt p.tokens .key).openBlock p.column p.tokens .mappingStart
    let l := l.setPlace { p with possible := false }
    some (l.advance 1 false .value)
  else if l.flow == 0 && !l.keyAllowed then none
  else
    let l := l.openBlock l.cursor.column l.tokens.size .mappingStart
    some (l.advance 1 (l.flow == 0) .value)

def lexFlowStart (l : Lexer) (t : Token) : Option Lexer :=
  l.savePlace.map fun l =>
    { l.advance 1 true t with flow := l.flow + 1, places := {} :: l.places }

def lexFlowEnd (l : Lexer) (t : Token) : Option Lexer :=
  l.dropPlace.map fun l =>
    let l := l.advance 1 false t
    if l.flow == 0 then l else { l with flow := l.flow - 1, places := l.places.tail }

def lexQuoted (l : Lexer) (single : Bool) : Option Lexer := do
  let l ← l.savePlace
  let (text, c) ← quotedScalar single l.cursor
  some { l.emit (.scalar (String.ofList text) false) with cursor := c, keyAllowed := false }

def lexBlockScalar (l : Lexer) (literal : Bool) : Option Lexer := do
  let l ← l.dropPlace
  let (text, c) ← blockScalar literal l.indent l.cursor
  some { l.emit (.scalar (String.ofList text) false) with cursor := c, keyAllowed := true }

def lexPlain (l : Lexer) : Option Lexer := do
  let l ← l.savePlace
  let (text, c, folded) ← plainScalar (0 < l.flow) (l.indent + 1) l.cursor
  some { l.emit (.scalar (String.ofList text) true) with cursor := c, keyAllowed := folded }

def lexDocumentMark (l : Lexer) (t : Token) : Option Lexer :=
  (l.closeBlocks (-1)).dropPlace.map fun l => l.advance 3 false t

/-- Whether a plain scalar may start at the cursor. -/
def startsPlain (l : Lexer) (x : Char) : Bool :=
  let marks := "-?:,[]\x7b\x7d#&*!|>'\"%@".toList
  !(isBlank x || marks.contains x || x.toNat == 0x60) || (x == '-' && !l.cursor.blankAt 1)
    || (l.flow == 0 && (x == '?' || x == ':') && !l.cursor.endAt 1)

/-- The next token, or nothing at the end of the text. -/
def next (l : Lexer) : Option (Lexer × Bool) := do
  let l := skipSpace (l.cursor.rest.length + 1) l
  let l ← l.refreshPlaces
  let l := l.closeBlocks l.cursor.column
  let c := l.cursor
  match c.peek? with
  | none =>
    let l ← (l.closeBlocks (-1)).dropPlace
    some (l, true)
  | some x =>
    let l ←
      if c.column == 0 && x == '%' then l.lexDirective
      else if c.atDocumentMark then
        l.lexDocumentMark (if x == '-' then .documentStart else .documentEnd)
      else if x == '[' then l.lexFlowStart .flowSequenceStart
      else if x == '{' then l.lexFlowStart .flowMappingStart
      else if x == ']' then l.lexFlowEnd .flowSequenceEnd
      else if x == '}' then l.lexFlowEnd .flowMappingEnd
      else if x == ',' then l.dropPlace.map fun l => l.advance 1 true .flowEntry
      else if x == '-' && c.endAt 1 then l.lexBlockEntry
      else if x == '?' && (0 < l.flow || c.endAt 1) then l.lexKey
      else if x == ':' && (0 < l.flow || c.endAt 1) then l.lexValue
      else if x == '*' then l.lexAnchor .reference
      else if x == '&' then l.lexAnchor .anchor
      else if x == '!' then l.lexTag
      else if x == '|' && l.flow == 0 then l.lexBlockScalar true
      else if x == '>' && l.flow == 0 then l.lexBlockScalar false
      else if x == '\'' then l.lexQuoted true
      else if x == '"' then l.lexQuoted false
      else if l.startsPlain x then l.lexPlain
      else none
    some (l, false)

/-- All tokens from here on; the fuel bounds their number. -/
def run : Nat → Lexer → Option (List Token)
  | 0, _ => none
  | fuel + 1, l =>
    match l.next with
    | none => none
    | some (l, true) => some l.tokens.toList
    | some (l, false) => run fuel l

end Lexer

def lex (cs : List Char) : Option (List Token) :=
  if cs.all isAllowed then (Lexer.start cs).run (cs.length + 1) else none

end BeanGauge.Yaml
