import BeanGauge.Yaml.Token
/-!
YAML documents: scalars, sequences and mappings.

A text holds at most one document; a text without one counts as an empty plain scalar. An alias
stands for the node that its anchor was put on before, and inside that node for one without end.
-/

namespace BeanGauge.Yaml

/-- The tag of a type that every document knows. -/
def standardTag (type : String) : String := "tag:yaml.org,2002:" ++ type

inductive Node where
  /-- A scalar, whether it is plain, and its tag. -/
  | scalar (text : String) (plain : Bool) (tag : Option String)
  | sequence (items : List Node)
  | mapping (rows : List (Node × Node))
  /-- What an alias inside the node of its own anchor stands for. -/
  | endless
  deriving Inhabited

namespace Node

/-- What an empty place in a document stands for. -/
def empty : Node := .scalar "" true none

/-- What is known while a document is read: the nodes of anchors and the starts that tag handles
stand for. -/
structure Context where
  anchors : List (String × Node)
  handles : List (String × String)

def standardHandles : List (String × String) := [("!", "!"), ("!!", standardTag "")]

/-- The tag that a handle and a suffix spell. -/
def Context.tag? (x : Context) (handle suffix : String) : Option String :=
  if handle = "" then some suffix
  else (x.handles.find? (·.1 == handle)).map fun h => h.2 ++ suffix

def properties (x : Context) (ts : List Token) :
    Option (Option String × Option String × List Token) :=
  match ts with
  | .anchor a :: .tag h s :: ts => (x.tag? h s).map fun t => (some a, some t, ts)
  | .tag h s :: .anchor a :: ts => (x.tag? h s).map fun t => (some a, some t, ts)
  | .anchor a :: ts => some (some a, none, ts)
  | .tag h s :: ts => (x.tag? h s).map fun t => (none, some t, ts)
  | ts => some (none, none, ts)

/-- Notes which node an anchor was put on. -/
def Context.note (x : Context) (anchor : Option String) (node : Node) : Context :=
  match anchor with
  | some a => { x with anchors := (a, node) :: x.anchors }
  | none => x

/-- Whether the first token is among `marks`, or there is none. -/
def stopsAt (marks : List Token) : List Token → Bool
  | [] => true
  | t :: _ => marks.contains t

mutual

/-- A node. In a block mapping, a sequence may stand as far left as its key. -/
def read (block indentless : Bool) :
    Nat → Context → List Token → Option (Node × Context × List Token)
  | 0, _, _ => none
  | _ + 1, x, .reference a :: ts => (x.anchors.find? (·.1 == a)).map fun e => (e.2, x, ts)
  | fuel + 1, x, ts => do
    let (anchor, tag, ts) ← properties x ts
    let x := x.note anchor .endless
    let (node, x, ts) ←
      match ts with
      | .blockEntry :: _ =>
        if indentless then readIndentless fuel x ts
        else if anchor.isSome || tag.isSome then some (.scalar "" true tag, x, ts) else none
      | .scalar text plain :: ts => some (.scalar text plain tag, x, ts)
      | .flowSequenceStart :: ts => readFlowSequence fuel true x ts
      | .flowMappingStart :: ts => readFlowMapping fuel true x ts
      | .sequenceStart :: rest =>
        if block then readSequence fuel x rest
        else if anchor.isSome || tag.isSome then some (.scalar "" true tag, x, ts) else none
      | .mappingStart :: rest =>
        if block then readMapping fuel x rest
        else if anchor.isSome || tag.isSome then some (.scalar "" true tag, x, ts) else none
      | ts =>
        if anchor.isSome || tag.isSome then some (.scalar "" true tag, x, ts) else none
    pure (node, x.note anchor node, ts)

/-- A node, or nothing before one of the marks. -/
def readUnless (marks : List Token) (block indentless : Bool) :
    Nat → Context → List Token → Option (Node × Context × List Token)
  | 0, _, _ => none
  | fuel + 1, x, ts =>
    if stopsAt marks ts then some (empty, x, ts) else read block indentless fuel x ts

def readSequence : Nat → Context → List Token → Option (Node × Context × List Token)
  | 0, _, _ => none
  | fuel + 1, x, ts =>
    match ts with
    | .blockEntry :: ts => do
      let (item, x, ts) ← readUnless [.blockEntry, .blockEnd] true false fuel x ts
      match ← readSequence fuel x ts with
      | (.sequence items, x, ts) => pure (.sequence (item :: items), x, ts)
      | _ => none
    | .blockEnd :: ts => some (.sequence [], x, ts)
    | _ => none

/-- The entries of a sequence that stands as far left as its key. -/
def readIndentless : Nat → Context → List Token → Option (Node × Context × List Token)
  | 0, _, _ => none
  | fuel + 1, x, ts =>
    match ts with
    | .blockEntry :: ts => do
      let (item, x, ts) ← readUnless [.blockEntry, .key, .value, .blockEnd] true false fuel x ts
      match ← readIndentless fuel x ts with
      | (.sequence items, x, ts) => pure (.sequence (item :: items), x, ts)
      | _ => none
    | ts => some (.sequence [], x, ts)

def readMapping : Nat → Context → List Token → Option (Node × Context × List Token)
  | 0, _, _ => none
  | fuel + 1, x, ts =>
    match ts with
    | .blockEnd :: ts => some (.mapping [], x, ts)
    | .value :: _ => do
      let (value, x, ts) ← readValue [.key, .value, .blockEnd] true fuel x ts
      match ← readMapping fuel x ts with
      | (.mapping rows, x, ts) => pure (.mapping ((empty, value) :: rows), x, ts)
      | _ => none
    | .key :: ts => do
      let (key, x, ts) ← readUnless [.key, .value, .blockEnd] true true fuel x ts
      let (value, x, ts) ← readValue [.key, .value, .blockEnd] true fuel x ts
      match ← readMapping fuel x ts with
      | (.mapping rows, x, ts) => pure (.mapping ((key, value) :: rows), x, ts)
      | _ => none
    | _ => none

/-- The value after a key, empty without a colon. -/
def readValue (marks : List Token) (block : Bool) :
    Nat → Context → List Token → Option (Node × Context × List Token)
  | 0, _, _ => none
  | fuel + 1, x, ts =>
    match ts with
    | .value :: ts => readUnless marks block block fuel x ts
    | ts => some (empty, x, ts)

/-- The entries of a flow sequence; a single row of a mapping may stand for a mapping. -/
def readFlowSequence :
    Nat → Bool → Context → List Token → Option (Node × Context × List Token)
  | 0, _, _, _ => none
  | fuel + 1, first, x, ts =>
    match ts with
    | .flowSequenceEnd :: ts => some (.sequence [], x, ts)
    | ts => do
      let ts ← if first then some ts else match ts with
        | .flowEntry :: ts => some ts
        | _ => none
      match ts with
      | .flowSequenceEnd :: ts => some (.sequence [], x, ts)
      | .key :: ts =>
        let (key, x, ts) ←
          readUnless [.value, .flowEntry, .flowSequenceEnd] false false fuel x ts
        let (value, x, ts) ← readValue [.flowEntry, .flowSequenceEnd] false fuel x ts
        match ← readFlowSequence fuel false x ts with
        | (.sequence items, x, ts) =>
          pure (.sequence (.mapping [(key, value)] :: items), x, ts)
        | _ => none
      | ts =>
        let (item, x, ts) ← read false false fuel x ts
        match ← readFlowSequence fuel false x ts with
        | (.sequence items, x, ts) => pure (.sequence (item :: items), x, ts)
        | _ => none

/-- The rows of a flow mapping; a row without a colon has an empty value. -/
def readFlowMapping :
    Nat → Bool → Context → List Token → Option (Node × Context × List Token)
  | 0, _, _, _ => none
  | fuel + 1, first, x, ts =>
    match ts with
    | .flowMappingEnd :: ts => some (.mapping [], x, ts)
    | ts => do
      let ts ← if first then some ts else match ts with
        | .flowEntry :: ts => some ts
        | _ => none
      match ts with
      | .flowMappingEnd :: ts => some (.mapping [], x, ts)
      | .key :: ts =>
        let (key, x, ts) ←
          readUnless [.value, .flowEntry, .flowMappingEnd] false false fuel x ts
        let (value, x, ts) ← readValue [.flowEntry, .flowMappingEnd] false fuel x ts
        match ← readFlowMapping fuel false x ts with
        | (.mapping rows, x, ts) => pure (.mapping ((key, value) :: rows), x, ts)
        | _ => none
      | ts =>
        let (key, x, ts) ← read false false fuel x ts
        match ← readFlowMapping fuel false x ts with
        | (.mapping rows, x, ts) => pure (.mapping ((key, empty) :: rows), x, ts)
        | _ => none

end

/-- The handles of the directives at the front, and the tokens behind them; each directive counts
once. -/
def directives : Bool → List (String × String) → List Token →
    Option (List (String × String) × List Token)
  | seen, handles, .version major minor :: ts =>
    if seen || major != 1 || (minor != 1 && minor != 2) then none else directives true handles ts
  | seen, handles, .handle name start :: ts =>
    if handles.any (·.1 == name) then none else directives seen ((name, start) :: handles) ts
  | _, handles, ts => some (handles, ts)

def dropEnds (ts : List Token) : List Token := ts.dropWhile (· == .documentEnd)

/-- Whether the content of a document is empty. -/
def endsDocument : List Token → Bool
  | [] => true
  | .documentStart :: _ => true
  | .documentEnd :: _ => true
  | .version _ _ :: _ => true
  | .handle _ _ :: _ => true
  | _ => false

def ofTokens? (ts : List Token) : Option Node := do
  let fuel := 4 * ts.length + 8
  let (handles, content) ← directives false [] ts
  let explicit := match content with
    | .documentStart :: _ => true
    | _ => false
  if content.isEmpty && handles.isEmpty && ts.isEmpty then some empty
  else if !explicit && endsDocument ts && dropEnds ts == [] then some empty
  else
    let content ← match content with
      | .documentStart :: rest => some rest
      | _ => if endsDocument ts then none else some ts
    if endsDocument content then
      if dropEnds content == [] then some empty else none
    else
      let (node, _, rest) ← read true false fuel ⟨[], handles ++ standardHandles⟩ content
      if dropEnds rest == [] then some node else none

def parse (s : String) : Option Node := (lex s.toList).bind ofTokens?

end Node

end BeanGauge.Yaml
