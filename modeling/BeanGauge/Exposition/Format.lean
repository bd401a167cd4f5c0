import BeanGauge.Exposition.Basic
/-!
The text of an exposition. Lines of one name stand together where the name first occurs, below one
line with the help of the first of them, if it has one, and one line with its kind.
-/

namespace BeanGauge.Exposition

/-- Whether a finite double has no fraction. -/
def isWhole (x : Float) : Bool :=
  match Number.parts x with
  | .finite _ mant exp => if 0 ≤ exp then true else mant % Number.power 2 (-exp) == 0
  | _ => false

def wholePart (x : Float) : Int :=
  match Number.parts x with
  | .finite negative mant exp =>
    let n : Int := (mant * Number.power 2 exp / Number.power 2 (-exp) : Nat)
    if negative then -n else n
  | _ => 0

/-- The text of a value. Whole numbers below `1e15` have neither point nor exponent, other numbers
have an exponent from `1e6` on and below `1e-3`. -/
def valueText (x : Float) : String :=
  match Number.parts x with
  | .nan => "NaN"
  | .infinite negative => if negative then "-Inf" else "+Inf"
  | .finite _ mant _ =>
    if isWhole x && x.abs < 1e15 then toString (wholePart x)
    else if x.abs ≥ 1e6 || (x.abs < 1e-3 && mant != 0) then Number.scientificStyle.write x
    else Number.plainStyle.write x

def escapeHelpChar (c : Char) : List Char :=
  if c == '\\' then ['\\', '\\'] else if c == '\n' then ['\\', 'n'] else [c]

def escapeLabelChar (c : Char) : List Char :=
  if c == '"' then ['\\', '"'] else escapeHelpChar c

def labelText (label : String × String) : String :=
  label.1 ++ "=\"" ++ String.ofList (label.2.toList.flatMap escapeLabelChar) ++ "\""

def labelsText (labels : Dict String String) : String :=
  if labels.isEmpty then "" else "\x7b" ++ ",".intercalate (labels.entries.map labelText) ++ "\x7d"

def lineText (e : Exposition) : String :=
  e.name ++ labelsText e.labels ++ " " ++ valueText e.value

/-- Lines by name: the names in the order in which they were met, and the lines of each of them. -/
structure Groups where
  names : List String
  members : Dict String (List Exposition)

namespace Groups

instance : EmptyCollection Groups := ⟨⟨[], ∅⟩⟩

/-- Puts a line behind those of its name. -/
def add (g : Groups) (e : Exposition) : Groups where
  names := if g.members.contains e.name then g.names else g.names ++ [e.name]
  members := g.members.insert e.name ((g.members.get? e.name).getD [] ++ [e])

/-- Takes out the lines of some names, one name after the other. -/
def takeOut : List String → Dict String (List Exposition) → List (List Exposition)
  | [], _ => []
  | name :: names, members =>
    match members.get? name with
    | some group => group :: takeOut names (members.erase name)
    | none => takeOut names members

/-- The lines of each name, in the order of the names. -/
def toLists (g : Groups) : List (List Exposition) := takeOut g.names g.members

def ofList (es : List Exposition) : Groups := es.foldl add ∅

end Groups

/-- The block of one name, led by the first line of that name. -/
def blockText (first : Exposition) (group : List Exposition) : String :=
  let help := match first.help with
    | some help =>
      "# HELP " ++ first.name ++ " " ++ String.ofList (help.toList.flatMap escapeHelpChar) ++ "\n"
    | none => ""
  help ++ "# TYPE " ++ first.name ++ " " ++ first.kind.text ++ "\n"
    ++ String.join (group.map fun e => lineText e ++ "\n")

def groupText : List Exposition → String
  | [] => ""
  | first :: rest => blockText first (first :: rest)

def format (es : List Exposition) : String :=
  String.join ((Groups.ofList es).toLists.map groupText)

/-- The text of everything emitted: samples before service checks. -/
def render (s : Sink) : String :=
  format (s.samples.map ofSample ++ s.serviceChecks.map ofServiceCheck)

end BeanGauge.Exposition
